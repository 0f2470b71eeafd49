import FixtureImages.Builder
import FixtureImages.Proofs.Daemon.Calls

/-!
# The stages of a build

A build constructs instances up to the first failure, settles what was constructed, releases the
containers in reverse order, concludes, removes the network and reports. The nested form in which
each instance is released behind those after it is regrouped here into these stages, so that every
later statement is about one stage and the host that it starts on.
-/

namespace FixtureImages.Builder

set_option autoImplicit false

open Action

variable {Problem : Type}

/-- Why no more instances are constructed: there is no network for them, one of them failed, or all
of them are there. -/
inductive Ending
  | refused (failure : Failure)
  | stopped (construction : Construction) (failure : Failure)
  | complete (runner : Runner)

/-- How far a build came: the instances that were constructed, in order. -/
structure Progress where
  built : List Construction
  ending : Ending

def constructUntilFailure (builder : Builder) (blueprint : Blueprint) (network : String)
    (runner : Runner) : List Instance → HostAction Problem Progress
  | [] => return ⟨[], .complete runner⟩
  | server :: rest => do
      let construction ← constructInstance server blueprint.name.text network builder.config
        builder.deployer runner
      match construction.failure with
      | some failure => return ⟨[], .stopped construction failure⟩
      | none => do
          let progress ← constructUntilFailure builder blueprint network runner rest
          return ⟨construction :: progress.built, progress.ending⟩

/-- Provide the network and the runner, and construct instances. -/
def advance (builder : Builder) (blueprint : Blueprint) : HostAction Failure Progress := do
  noteBuild .info ("Constructing blueprint '" ++ blueprint.name.text ++ "'")
  match ← attempt (Provision.ensureNetwork builder.scope blueprint.name.text) with
  | .error failure =>
      if failure.stage = some .provisioning then return ⟨[], .refused failure⟩ else fail failure
  | .ok network =>
      let runner ← builder.makeRunner blueprint
      constructUntilFailure builder blueprint network runner blueprint.instances

/-- Commit the instances when all are there, or discard the one that failed: the failures. -/
def settle (blueprint : Blueprint) (progress : Progress) : HostAction Problem (List Failure) :=
  match progress.ending with
  | .refused failure => return [failure]
  | .stopped construction failure => do
      discard construction
      return [failure]
  | .complete runner => do
      let (_, failures) ← commitAll blueprint runner progress.built
      return failures

/-- All that comes before the first release: what is to be released, and the failures. -/
def prepare (builder : Builder) (blueprint : Blueprint) :
    HostAction Failure (List Construction × List Failure) := do
  let progress ← advance builder blueprint
  let failures ← settle blueprint progress
  return (progress.built, failures)

def releaseAll : List Construction → HostAction Problem Unit
  | [] => return ()
  | construction :: rest => do
      release construction
      releaseAll rest

/-- What a build turns to after the last release: it fails, or waits for the images. -/
def conclude (builder : Builder) (blueprint : Blueprint) (settled : Except Failure (List Failure)) :
    HostAction BuildFailure (List Image) := do
  let failures ← ofExcept (settled.mapError .single)
  if !failures.isEmpty then
    noteFailures failures
    fail (.construction blueprint.name.text failures)
  (awaitImages builder blueprint).mapFailure .single

/-- The identifiers of the images that were waited for, if they are enough. -/
def report (blueprint : Blueprint) (concluded : Except BuildFailure (List Image)) :
    HostAction BuildFailure (List String) := do
  let images ← ofExcept concluded
  let expected := blueprint.instances.length
  if images.length < expected then
    fail (.single (.visibility blueprint.name.text expected images.length))
  noteBuild .info
    ("Constructed blueprint '" ++ blueprint.name.text ++ "': " ++
      ", ".intercalate (images.map imageText))
  return images.map Image.id

/-! ## Regrouping -/

theorem release_all_append (front back : List Construction) :
    (releaseAll (front ++ back) : HostAction Problem Unit) =
      (do releaseAll front; releaseAll back) := by
  induction front with
  | nil => simp [releaseAll]
  | cons construction front ih => simp [releaseAll, ih]

/-- The release that stands behind the construction of the later instances comes last among the
releases, and only after everything constructed was settled. -/
theorem construct_rest_eq (builder : Builder) (blueprint : Blueprint) (network : String)
    (runner : Runner) (earlier : List Construction) (servers : List Instance) :
    (constructRest builder blueprint network runner earlier servers :
        HostAction Problem (List Failure)) =
      (do
        let progress ← constructUntilFailure builder blueprint network runner servers
        let failures ← settle blueprint ⟨earlier ++ progress.built, progress.ending⟩
        releaseAll progress.built.reverse
        return failures) := by
  induction servers generalizing earlier with
  | nil => simp [constructRest, constructUntilFailure, settle, releaseAll]
  | cons server rest ih =>
      simp only [constructRest, constructUntilFailure, bind_assoc]
      congr 1
      funext construction
      cases construction.failure with
      | some failure => simp [settle, releaseAll]
      | none => simp [ih, release_all_append, releaseAll]

theorem construct_all_eq (builder : Builder) (blueprint : Blueprint) :
    constructAll builder blueprint =
      (do
        let (built, failures) ← prepare builder blueprint
        releaseAll built.reverse
        return failures) := by
  simp only [constructAll, prepare, advance, bind_assoc]
  congr 1
  funext _
  congr 1
  funext network
  cases network with
  | error failure =>
      dsimp only
      split
      · simp [settle, releaseAll]
      · rfl
  | ok network => simp [construct_rest_eq]

/-! ## Outcomes of the stages -/

variable (builder : Builder) (blueprint : Blueprint) (host : Host)

/-- The instances of a build that have to be released. -/
def builtOn : List Construction :=
  match (prepare builder blueprint host).result with
  | .ok (built, _) => built
  | .error _ => []

/-- The failures that a build has come to when its releases begin. -/
def settledOn : Except Failure (List Failure) :=
  (prepare builder blueprint host).result.map Prod.snd

def released : Outcome Host Event Failure Unit :=
  releaseAll (builtOn builder blueprint host).reverse (prepare builder blueprint host).state

def concluded : Outcome Host Event BuildFailure (List Image) :=
  conclude builder blueprint (settledOn builder blueprint host)
    (released builder blueprint host).state

def swept : Outcome Host Event BuildFailure (List String) :=
  Provision.removeNetworks builder.scope blueprint.name.text
    (concluded builder blueprint host).state

def reported : Outcome Host Event BuildFailure (List String) :=
  report blueprint (concluded builder blueprint host).result (swept builder blueprint host).state

/-! ## A build on a host -/

theorem succeeds_release (construction : Construction) :
    Succeeds (release construction : HostAction Problem Unit) :=
  succeeds_bind (Catalog.succeeds_kill_container _ _) fun _ =>
    succeeds_bind (Catalog.succeeds_remove_container _ _) fun _ => succeeds_pure _

theorem succeeds_release_all (built : List Construction) :
    Succeeds (releaseAll built : HostAction Problem Unit) := by
  induction built with
  | nil => exact succeeds_pure _
  | cons construction rest ih => exact succeeds_bind (succeeds_release construction) fun _ => ih

theorem succeeds_remove_networks (scope blueprint : String) :
    Succeeds (Provision.removeNetworks scope blueprint : HostAction Problem (List String)) := by
  refine succeeds_bind (succeeds_attempt _) fun listed => ?_
  cases listed with
  | error failure => exact succeeds_bind (succeeds_note _ _ _) fun _ => succeeds_pure _
  | ok networks =>
      exact Catalog.succeeds_remove_all (fun _ => Catalog.succeeds_remove_network _ _) networks

theorem construct_all_apply :
    constructAll builder blueprint host =
      ⟨settledOn builder blueprint host, (released builder blueprint host).state,
        (prepare builder blueprint host).trace ++ (released builder blueprint host).trace⟩ := by
  rw [construct_all_eq, settledOn, released, builtOn, bind_apply]
  cases (prepare builder blueprint host).result with
  | error failure => simp [Except.map, releaseAll, pure_apply]
  | ok prepared =>
      obtain ⟨built, failures⟩ := prepared
      have freed := @succeeds_release_all Failure built.reverse
        (prepare builder blueprint host).state
      obtain ⟨_, freed⟩ := freed
      simp [Except.map, bind_of_ok freed, pure_apply]

theorem build_apply :
    build builder blueprint host =
      ⟨(concluded builder blueprint host).result, (concluded builder blueprint host).state,
        (prepare builder blueprint host).trace ++ (released builder blueprint host).trace ++
          (concluded builder blueprint host).trace⟩ := by
  rw [build, bind_apply, concluded, conclude]
  simp only [mapFailure, construct_all_apply]
  cases settledOn builder blueprint host with
  | error failure => simp
  | ok failures => simp

/-- A build is its stages: what it returns or fails with is what it reports, and it does nothing
else. -/
theorem construct_apply :
    construct builder blueprint host =
      ⟨(reported builder blueprint host).result, (reported builder blueprint host).state,
        (prepare builder blueprint host).trace ++ (released builder blueprint host).trace ++
          (concluded builder blueprint host).trace ++ (swept builder blueprint host).trace ++
          (reported builder blueprint host).trace⟩ := by
  obtain ⟨_, removed⟩ := @succeeds_remove_networks BuildFailure builder.scope
    blueprint.name.text (concluded builder blueprint host).state
  rw [construct, attempt_bind_apply, build_apply, bind_of_ok removed]
  simp only [List.append_assoc]
  rfl

end FixtureImages.Builder
