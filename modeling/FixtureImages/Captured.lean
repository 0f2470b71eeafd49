import FixtureImages.Registration

/-!
# Captured state

What was learned while an instance was set up is kept on its image as labels: credentials, device
identifiers and the registrations of services, each under a stem of its own.
-/

namespace FixtureImages

set_option autoImplicit false

def credentialStem : String := "credential_"

def deviceStem : String := "device_id_"

def serviceStem : String := "application_service_"

/-- The credentials that are kept: those of the listed identities, or all when none is listed. -/
def keptCredentials (credentials : Labels) (keepFor : List String) : Labels :=
  if keepFor.isEmpty then credentials else credentials.select keepFor

def credentialLabels (credentials : Labels) (keepFor : List String) : Labels :=
  (keptCredentials credentials keepFor).addStem credentialStem

def deviceLabels (devices : Labels) : Labels := devices.addStem deviceStem

/-- The registrations of an instance's services, each on one line. -/
def serviceLabels (services : List ApplicationService) : Labels :=
  .ofList <| services.map fun service =>
    (serviceStem ++ service.id, inlineBreaks service.registration)

def credentialsOf (labels : Labels) : Labels := labels.cutStem credentialStem

def devicesOf (labels : Labels) : Labels := labels.cutStem deviceStem

/-- The registrations on a resource, by service. -/
def servicesOf (labels : Labels) : Labels := (labels.cutStem serviceStem).mapValues restoreBreaks

end FixtureImages
