import FixtureImages.Proofs.Build.Turns

/-!
# Sequences of operations

Whoever uses the package calls its operations one after the other: builds and cleanings through
builders of any namespaces, and the provision and removal of networks and cleanings on their own. A
relation between hosts that every operation of a sequence keeps holds between its first host and its
last.
-/

namespace FixtureImages

set_option autoImplicit false

open Action

/-- What can be asked for on its own. -/
inductive Operation
  | order (builder : Builder) (wanted : Builder.Order)
  | ensureNetwork (scope blueprint : String)
  | removeNetworks (scope blueprint : String)
  | cleanUp (scope : String) (keep : List String)

namespace Operation

def action : Operation → HostAction BuildFailure Unit
  | .order builder wanted => wanted.action builder
  | .ensureNetwork scope blueprint => do
      let _ ← (Provision.ensureNetwork scope blueprint).mapFailure .single
      return ()
  | .removeNetworks scope blueprint => do
      let _ ← Provision.removeNetworks scope blueprint
      return ()
  | .cleanUp scope keep => do
      let _ ← Cleanup.run scope keep
      return ()

/-- The namespace that an operation cleans, and the blueprints that it keeps. -/
def cleaning : Operation → Option (String × List String)
  | .order builder .cleanUp => some (builder.scope, builder.config.keepBlueprints)
  | .cleanUp scope keep => some (scope, keep)
  | _ => none

/-- A law holds of the collaborators that an operation calls. -/
def Obeys (law : HostLaw) : Operation → Prop
  | .order builder (.construct _) | .order builder (.constructIfMissing _) =>
      builder.CollaboratorsObey law
  | _ => True

end Operation

/-- What operations are made of, but for cleanings. -/
structure HostLaw.AdmitsOperations (law : HostLaw) : Prop where
  provides : ∀ scope blueprint, law.holds (Provision.ensureNetwork scope blueprint)
  removes : ∀ scope blueprint, law.holds
    (Provision.removeNetworks scope blueprint : HostAction BuildFailure (List String))
  commits : law.AdmitsCommits
  reclaims : law.AdmitsReclaiming
  waits : law.AdmitsWaiting

theorem Operation.action_lawful {law : HostLaw} (admits : law.AdmitsOperations)
    {operation : Operation} (obeys : operation.Obeys law)
    (cleans : ∀ scope keep, operation.cleaning = some (scope, keep) →
      law.holds (Cleanup.run scope keep : HostAction BuildFailure Cleanup.Removed)) :
    law.holds operation.action := by
  have builds (builder : Builder) (blueprint : Blueprint) (obeys : builder.CollaboratorsObey law) :
      law.holds (builder.construct blueprint) :=
    Builder.construct_lawful
      (Builder.construct_all_lawful admits.provides admits.commits admits.reclaims obeys blueprint)
      admits.waits (admits.removes _ _)
  cases operation with
  | order builder wanted =>
      cases wanted with
      | construct blueprint => exact law.bind (builds builder blueprint obeys) fun _ => law.pure _
      | constructIfMissing blueprint =>
          exact law.bind
            (Builder.construct_if_missing_lawful (admits.waits.list _)
              (builds builder blueprint obeys)) fun _ => law.pure _
      | cleanUp => exact law.bind (cleans _ _ rfl) fun _ => law.pure _
  | ensureNetwork scope blueprint =>
      exact law.bind (law.mapFailure (admits.provides scope blueprint)) fun _ => law.pure _
  | removeNetworks scope blueprint =>
      exact law.bind (admits.removes scope blueprint) fun _ => law.pure _
  | cleanUp scope keep => exact law.bind (cleans _ _ rfl) fun _ => law.pure _

/-- One operation of a sequence: after a pause, with failures to come. -/
structure Move where
  operation : Operation
  faults : List FaultRule
  pause : Nat

namespace Move

def start (move : Move) (host : Host) : Host :=
  { host with faults := move.faults, clock := host.clock + move.pause }

def run (move : Move) (host : Host) : Outcome Host Event BuildFailure Unit :=
  move.operation.action (move.start host)

end Move

/-- The host after some operations. -/
def movedBy : List Move → Host → Host
  | [], host => host
  | move :: rest, host => movedBy rest (move.run host).state

theorem moved_by_keeps {frame : Frame Host} {moves : List Move}
    (starts : ∀ (move : Move) (host : Host), frame.holds host (move.start host))
    (keeps : ∀ move ∈ moves, (HostLaw.keeping frame).holds move.operation.action) (host : Host) :
    frame.holds host (movedBy moves host) := by
  induction moves generalizing host with
  | nil => exact frame.refl host
  | cons move rest ih =>
      have first : frame.holds host (move.run host).state :=
        frame.trans (starts move host) (keeps move List.mem_cons_self (move.start host))
      exact frame.trans first
        (ih (fun other member => keeps other (List.mem_cons_of_mem _ member)) _)

end FixtureImages
