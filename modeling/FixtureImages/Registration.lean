import FixtureImages.Blueprint
import FixtureImages.Yaml.Printer

/-!
# Registrations of services

The document that registers a service with its instance, and its form on one line for a label: each
line feed is written as a backslash and an `n`.
-/

namespace FixtureImages

set_option autoImplicit false

namespace ApplicationService

def registrationFields (service : ApplicationService) : List (String × Plain) :=
  [("id", .text service.id), ("hs_token", .text service.serverToken),
    ("as_token", .text service.serviceToken), ("url", .text service.url),
    ("sender_localpart", .text service.sender), ("rate_limited", .bool service.rateLimited),
    ("de.sorunome.msc2409.push_ephemeral", .bool service.sendEphemeral),
    ("push_ephemeral", .bool service.sendEphemeral),
    ("org.matrix.msc3202", .bool service.enableEncryption),
    ("namespaces", .map
      [("users", .list [.map [("exclusive", .bool false), ("regex", .text ".*")]]),
        ("rooms", .list []), ("aliases", .list [])])]

/-- The text of the registration, in ASCII. -/
def registration (service : ApplicationService) : String :=
  Yaml.write false service.registrationFields

end ApplicationService

/-- Write each line feed as a backslash and an `n`. -/
def inlineBreaks (text : String) : String :=
  String.ofList (text.toList.flatMap fun c => if c = '\n' then ['\\', 'n'] else [c])

/-- Read each backslash before an `n` as a line feed. -/
def restoreBreakChars : List Char → List Char
  | '\\' :: 'n' :: rest => '\n' :: restoreBreakChars rest
  | c :: rest => c :: restoreBreakChars rest
  | [] => []

def restoreBreaks (text : String) : String := String.ofList (restoreBreakChars text.toList)

end FixtureImages
