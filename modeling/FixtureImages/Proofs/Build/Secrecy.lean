import FixtureImages.Proofs.Build.Cache
import FixtureImages.Proofs.Deployment.Recovery

/-!
# Secrets that are not kept

A build looks at captured credentials in one place, when it collects the labels of an image, and
where identities are listed it looks each of those up and nothing else. So two builds by runners that
differ in the credentials of unlisted identities, in which there are and in their secrets, make the
same calls, write the same records, come to the same and leave the same host, however they end.
-/

namespace FixtureImages

set_option autoImplicit false

open Action

variable {Problem α β : Type}

/-! ## Actions that differ in what they give -/

/-- Two results are the same failure, or values that are related. -/
inductive ResultsAlike (related : α → α → Prop) : Except Problem α → Except Problem α → Prop
  | error (failure : Problem) : ResultsAlike related (.error failure) (.error failure)
  | ok {left right : α} (values : related left right) :
      ResultsAlike related (.ok left) (.ok right)

/-- Two actions do the same and leave the same host, and what they give is related. -/
structure Alike (related : α → α → Prop) (left right : HostAction Problem α) : Prop where
  result : ∀ host, ResultsAlike related (left host).result (right host).result
  state : ∀ host, (left host).state = (right host).state
  trace : ∀ host, (left host).trace = (right host).trace

namespace Alike

variable {related : α → α → Prop}

theorem fail (failure : Problem) :
    Alike related (Action.fail failure : HostAction Problem α) (Action.fail failure) :=
  ⟨fun _ => .error failure, fun _ => rfl, fun _ => rfl⟩

theorem refl (action : HostAction Problem α) : Alike Eq action action where
  result host := by
    cases (action host).result with
    | error failure => exact .error failure
    | ok value => exact .ok rfl
  state _ := rfl
  trace _ := rfl

theorem pure {left right : α} (values : related left right) :
    Alike related (Pure.pure left : HostAction Problem α) (Pure.pure right) :=
  ⟨fun _ => .ok values, fun _ => rfl, fun _ => rfl⟩

theorem bind {given : β → β → Prop} {first other : HostAction Problem β}
    {next following : β → HostAction Problem α} (alike : Alike given first other)
    (later : ∀ left right, given left right → Alike related (next left) (following right)) :
    Alike related (first >>= next) (other >>= following) := by
  have each (host : Host) :
      ResultsAlike related ((first >>= next) host).result ((other >>= following) host).result ∧
      ((first >>= next) host).state = ((other >>= following) host).state ∧
      ((first >>= next) host).trace = ((other >>= following) host).trace := by
    -- either both end with one failure, or both go on from one host with related values
    have results := alike.result host
    simp only [bind_apply, alike.state host, alike.trace host]
    generalize (first host).result = mine at results
    generalize (other host).result = theirs at results
    cases results with
    | error failure => exact ⟨.error failure, rfl, rfl⟩
    | ok values =>
        have after := later _ _ values
        exact ⟨after.result _, after.state _, congrArg (_ ++ ·) (after.trace _)⟩
  exact ⟨fun host => (each host).1, fun host => (each host).2.1, fun host => (each host).2.2⟩

theorem eq {left right : HostAction Problem α} (alike : Alike Eq left right) : left = right := by
  ext host
  have results := alike.result host
  have states := alike.state host
  have traces := alike.trace host
  generalize left host = mine at results states traces
  generalize right host = theirs at results states traces
  obtain ⟨result, state, trace⟩ := mine
  obtain ⟨result', state', trace'⟩ := theirs
  obtain rfl : state = state' := states
  obtain rfl : trace = trace' := traces
  cases results with
  | error failure => rfl
  | ok values => rw [values]

/-- What follows in the same way, whichever of two alike actions it follows, hides how they differ.
-/
theorem bind_eq {first other : HostAction Problem β} {next following : β → HostAction Problem α}
    {given : β → β → Prop} (alike : Alike given first other)
    (hides : ∀ left right, given left right → next left = following right) :
    first >>= next = other >>= following :=
  (alike.bind fun left right values => hides left right values ▸ refl (next left)).eq

end Alike

/-! ## Collaborators that agree -/

/-- Labels agree on the listed identities, and may differ on all others. -/
def AgreeOn (listed : List String) (left right : Labels) : Prop :=
  ∀ identity ∈ listed, left.get? identity = right.get? identity

/-- Two runners behave the same, but for the identities that are not listed: which of those they have
captured, and with what secrets. -/
structure Runner.Agree (listed : List String) (left right : Runner) : Prop where
  run : ∀ server url, left.run server url = right.run server url
  credentials : ∀ server,
    Alike (AgreeOn listed) (left.credentials server) (right.credentials server)
  devices : ∀ server, left.devices server = right.devices server

/-- Two builders have one configuration and one deployer, and their runners agree on the identities
that a blueprint lists. -/
structure Builder.Agree (blueprint : Blueprint) (left right : Builder) : Prop where
  config : left.config = right.config
  deployer : left.deployer = right.deployer
  runners : Alike (Runner.Agree blueprint.keepCredentialsFor) (left.makeRunner blueprint)
    (right.makeRunner blueprint)

theorem kept_of_agree {listed : List String} (lists : listed ≠ []) {left right : Labels}
    (agree : AgreeOn listed left right) :
    keptCredentials left listed = keptCredentials right listed := by
  have filled : listed.isEmpty = false := List.isEmpty_eq_false_iff.mpr lists
  rw [keptCredentials, keptCredentials, filled, if_neg Bool.false_ne_true, if_neg Bool.false_ne_true]
  apply congrArg Table.ofList
  apply List.filterMap_congr
  intro identity member
  rw [agree identity member]

/-! ## Builds -/

section

variable {blueprint : Blueprint} (lists : blueprint.keepCredentialsFor ≠ [])
  {left right : Runner} (agree : left.Agree blueprint.keepCredentialsFor right)

include lists agree

/-- The labels of an image tell of listed identities only. -/
theorem image_labels_of_agree (construction : Construction) :
    imageLabels construction blueprint left = imageLabels construction blueprint right := by
  -- what the runners captured differs from here until the listed identities are selected
  refine (agree.credentials _).bind_eq fun credentials others same => ?_
  simp only [credentialLabels, kept_of_agree lists same, agree.devices]

theorem commit_all_of_agree (built : List Construction) :
    (commitAll blueprint left built : HostAction Problem (List String × List Failure)) =
      commitAll blueprint right built := by
  induction built with
  | nil => rfl
  | cons construction rest ih =>
      simp only [commitAll, labelAndCommit, image_labels_of_agree lists agree, ih]

end

theorem construct_instance_of_agree {listed : List String} {left right : Runner}
    (agree : left.Agree listed right) (server : Instance) (blueprint network : String)
    (config : Config) (deployer : Deployer) :
    (constructInstance server blueprint network config deployer left :
        HostAction Problem Construction) =
      constructInstance server blueprint network config deployer right := by
  simp only [constructInstance, setUpInstance, agree.run]

namespace Builder

section

variable {blueprint : Blueprint} (lists : blueprint.keepCredentialsFor ≠ [])
  {left right : Builder}

include lists

theorem construct_rest_of_agree (config : left.config = right.config)
    (deployer : left.deployer = right.deployer) {mine theirs : Runner}
    (agree : mine.Agree blueprint.keepCredentialsFor theirs) (network : String)
    (built : List Construction) (servers : List Instance) :
    (constructRest left blueprint network mine built servers : HostAction Problem (List Failure)) =
      constructRest right blueprint network theirs built servers := by
  induction servers generalizing built with
  | nil => simp only [constructRest, commit_all_of_agree lists agree]
  | cons server rest ih =>
      simp only [constructRest, config, deployer, construct_instance_of_agree agree, ih]

theorem construct_all_of_agree (agree : left.Agree blueprint right) :
    constructAll left blueprint = constructAll right blueprint := by
  have scope : left.scope = right.scope := by rw [Builder.scope, Builder.scope, agree.config]
  unfold constructAll
  rw [scope]
  congr 1
  funext _
  congr 1
  funext provided
  cases provided with
  | error failure => rfl
  | ok network =>
      exact agree.runners.bind_eq fun mine theirs same =>
        construct_rest_of_agree lists agree.config agree.deployer same network [] _

/-- Secrets of identities that a blueprint does not list do not show: builds by runners that differ
only in those are one and the same, in what they come to, in the host that they leave, and in all
calls and records. -/
theorem construct_of_agree (agree : left.Agree blueprint right) (host : Host) :
    construct left blueprint host = construct right blueprint host := by
  have scope : left.scope = right.scope := by rw [Builder.scope, Builder.scope, agree.config]
  simp only [construct, build, construct_all_of_agree lists agree, awaitImages, queryFor, scope]

end

end Builder

/-! ## Two scripts -/

/-- Scripts that differ in credentials of identities which are not listed make runners that agree. -/
theorem RunnerScript.make_agrees {listed : List String} (script : RunnerScript)
    {credentials : List (String × Labels)} (captured : ∀ server, AgreeOn listed
      ((script.credentials.lookup server).getD ∅) ((credentials.lookup server).getD ∅))
    (blueprint : Blueprint) :
    Alike (Runner.Agree listed) (script.make blueprint)
      ({ script with credentials }.make blueprint) := by
  refine (Alike.refl _).bind fun _ _ _ => ?_
  dsimp only
  cases script.factoryFailure with
  | some failure => exact Alike.fail failure
  | none =>
      refine Alike.pure ⟨fun _ _ => rfl, fun server => ?_, fun _ => rfl⟩
      exact (Alike.refl _).bind fun _ _ _ => Alike.pure (captured server)

/-- The two servers again, with one identity whose credentials are kept. -/
def Blueprint.pairKeepingOne : Blueprint :=
  { Blueprint.pair with keepCredentialsFor := ["credential_@a:hs1"] }

/-- Credentials by which one unlisted identity has another secret, and one more is there. -/
def otherSecrets : List (String × Labels) :=
  [("hs1", .ofList [("@d:hs1", "d"), ("@b:hs1", "other"), ("credential_@a:hs1", "\"p$a\\n")])]

namespace Builder

/-- Both builds succeed, and nothing of them tells which one it was. -/
theorem construct_of_agree_of_scripts :
    let config : Config := { Config.usual with baseImage := "img" }
    let left := deployingBuilder config capturingScript
    let right := deployingBuilder config { capturingScript with credentials := otherSecrets }
    capturingScript.credentials ≠ otherSecrets ∧
    Blueprint.pairKeepingOne.keepCredentialsFor ≠ [] ∧ left.Agree Blueprint.pairKeepingOne right ∧
    (construct left Blueprint.pairKeepingOne (Host.fresh ∅)).result =
      .ok ["sha256:0000000000041a6e", "sha256:0000000000051a6e"] ∧
    construct left Blueprint.pairKeepingOne (Host.fresh ∅) =
      construct right Blueprint.pairKeepingOne (Host.fresh ∅) := by
  intro config left right
  have lists : Blueprint.pairKeepingOne.keepCredentialsFor ≠ [] := by decide
  have captured (server : String) : AgreeOn Blueprint.pairKeepingOne.keepCredentialsFor
      ((capturingScript.credentials.lookup server).getD ∅)
      ((otherSecrets.lookup server).getD ∅) := by
    intro identity listed
    obtain rfl : identity = "credential_@a:hs1" := List.mem_singleton.mp listed
    simp only [capturingScript, otherSecrets, List.lookup_cons, List.lookup_nil]
    cases server == "hs1" <;> decide
  have agree : left.Agree Blueprint.pairKeepingOne right :=
    ⟨rfl, rfl, capturingScript.make_agrees captured Blueprint.pairKeepingOne⟩
  have succeeded : (construct left Blueprint.pairKeepingOne (Host.fresh ∅)).result =
      .ok ["sha256:0000000000041a6e", "sha256:0000000000051a6e"] := by decide +kernel
  exact ⟨by decide, lists, agree, succeeded, construct_of_agree lists agree (Host.fresh ∅)⟩

end Builder

end FixtureImages
