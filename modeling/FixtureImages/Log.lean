/-!
# Log records

A record has a level, the part of the library that wrote it, and a message.
-/

namespace FixtureImages

set_option autoImplicit false

inductive LogLevel
  | debug
  | info
  | warning
  | error
deriving DecidableEq, Repr

def LogLevel.text : LogLevel → String
  | .debug => "DEBUG"
  | .info => "INFO"
  | .warning => "WARNING"
  | .error => "ERROR"

/-- The numbers by which levels are compared. -/
def LogLevel.number : LogLevel → Nat
  | .debug => 10
  | .info => 20
  | .warning => 30
  | .error => 40

inductive LogSource
  | store
  | catalog
  | cleanup
  | commit
  | deployer
  | builder
  | construction
  | network
deriving DecidableEq, Repr

/-- The name under which a part of the library logs. -/
def LogSource.text : LogSource → String
  | .store => "blueprint_store"
  | .catalog => "catalog"
  | .cleanup => "cleanup"
  | .commit => "commit"
  | .deployer => "deployer"
  | .builder => "engine"
  | .construction => "instance"
  | .network => "network"

structure LogRecord where
  level : LogLevel
  source : LogSource
  message : String
deriving DecidableEq, Repr

end FixtureImages
