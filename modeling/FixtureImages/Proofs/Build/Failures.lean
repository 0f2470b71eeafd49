import FixtureImages.Proofs.Build.Networks

/-!
# Failures that leave a builder

A build collects the failures of its instances, and fails in words of its own: with what it
collected, or because images could not be listed or did not show up. The provision of the network is
the exception. A failure of the daemon is put into the words of that stage, but any other failure of
the two calls leaves the builder as it is. So a build fails in its own words if and only if those
calls do, or meet the daemon's failures only.
-/

namespace FixtureImages

set_option autoImplicit false

open Action

variable {Problem : Type}

/-- Whether a failure is in the words of a stage of a build, not of a call to the outside. -/
def Failure.isOwn : Failure → Bool
  | .outside .. => false
  | _ => true

def BuildFailure.isOwn : BuildFailure → Bool
  | .single failure => failure.isOwn
  | .construction .. => true

theorem Failure.own_of_stage {failure : Failure} {stage : Stage}
    (known : failure.stage = some stage) : failure.isOwn = true := by
  cases failure with
  | outside kind message container => cases known
  | _ => rfl

namespace Provision

variable {scope blueprint : String} {host : Host}

/-- One of the two calls for a network fails: the listing, or the creation when none was listed. -/
def FailsWith (scope blueprint : String) (host : Host) (cause : Failure) : Prop :=
  (listingOn scope blueprint host).result = .error cause ∨
    (listingOn scope blueprint host).result = .ok [] ∧
      (creationOn scope blueprint host).result = .error cause

/-- The daemon answers to the creation of a network without an identifier. -/
def AnswersWithoutId (scope blueprint : String) (host : Host) : Prop :=
  (listingOn scope blueprint host).result = .ok [] ∧
    ∃ reply, (creationOn scope blueprint host).result = .ok reply ∧ reply.id = ""

theorem worded_stage_iff {wrap : Failure → Failure} {cause : Failure}
    (wraps : (wrap cause).stage = some .provisioning) :
    (worded wrap cause).stage = some .provisioning ↔
      cause.isDaemon = true ∨ cause.stage = some .provisioning := by
  rw [worded]
  split
  · rename_i known
    simp [wraps, known]
  · rename_i unknown
    simp [unknown]

theorem worded_own_iff {wrap : Failure → Failure} {cause : Failure}
    (wraps : (wrap cause).isOwn = true) :
    (worded wrap cause).isOwn = true ↔ cause.isDaemon = true ∨ cause.isOwn = true := by
  rw [worded]
  split
  · rename_i known
    simp [wraps, known]
  · rename_i unknown
    simp [unknown]

/-- What a failed call becomes. -/
theorem provision_worded {cause : Failure} (fails : FailsWith scope blueprint host cause) :
    ∃ wrap, (wrap = Failure.networkList blueprint ∨ wrap = Failure.networkCreate blueprint) ∧
      (ensureNetwork scope blueprint host).result = .error (worded wrap cause) := by
  have ends := ensure_network_ends scope blueprint host
  rcases fails with unlisted | ⟨listed, refused⟩
  · cases ends with
    | unlisted failed ended _ =>
        obtain rfl := Except.error.inj (failed.symm.trans unlisted)
        exact ⟨_, .inl rfl, ended⟩
    | reused found _ _ => cases unlisted.symm.trans found
    | refused found _ _ _ => cases unlisted.symm.trans found
    | answered found _ _ _ => cases unlisted.symm.trans found
  · cases ends with
    | unlisted failed _ _ => cases listed.symm.trans failed
    | reused found _ _ => cases listed.symm.trans found
    | refused _ failed ended _ =>
        obtain rfl := Except.error.inj (failed.symm.trans refused)
        exact ⟨_, .inr rfl, ended⟩
    | answered _ replied _ _ => cases refused.symm.trans replied

theorem provision_fails_with {cause : Failure} (fails : FailsWith scope blueprint host cause) :
    ∃ failure, (ensureNetwork scope blueprint host).result = .error failure ∧
      (failure.isOwn = true ↔ cause.isDaemon = true ∨ cause.isOwn = true) ∧
      (failure.stage = some .provisioning ↔
        cause.isDaemon = true ∨ cause.stage = some .provisioning) := by
  obtain ⟨wrap, rfl | rfl, ended⟩ := provision_worded fails
  · exact ⟨_, ended, worded_own_iff rfl, worded_stage_iff rfl⟩
  · exact ⟨_, ended, worded_own_iff rfl, worded_stage_iff rfl⟩

theorem provision_answered_without_id (answers : AnswersWithoutId scope blueprint host) :
    ∃ failure, (ensureNetwork scope blueprint host).result = .error failure ∧
      failure.stage = some .provisioning := by
  obtain ⟨listed, reply, answered, nameless⟩ := answers
  cases ensure_network_ends scope blueprint host with
  | unlisted failed _ _ => cases listed.symm.trans failed
  | reused found _ _ => cases listed.symm.trans found
  | refused _ failed _ _ => cases answered.symm.trans failed
  | answered _ replied ended _ =>
      obtain rfl := Except.ok.inj (replied.symm.trans answered)
      rw [(accept_reply_apply scope blueprint _ _).2, if_pos nameless] at ended
      refine ⟨_, ended, ?_⟩
      split <;> rfl

/-- A provision fails because one of its calls does, or in its own words because of the answer. -/
theorem provision_fails {failure : Failure}
    (failed : (ensureNetwork scope blueprint host).result = .error failure) :
    (∃ cause, FailsWith scope blueprint host cause) ∨ failure.stage = some .provisioning := by
  cases ensure_network_ends scope blueprint host with
  | unlisted unlisted _ _ => exact .inl ⟨_, .inl unlisted⟩
  | reused _ ended _ => cases failed.symm.trans ended
  | refused listed refused _ _ => exact .inl ⟨_, .inr ⟨listed, refused⟩⟩
  | @answered reply _ _ ended _ =>
      rw [failed, (accept_reply_apply scope blueprint reply _).2] at ended
      split at ended
      · rw [Except.error.inj ended]
        refine .inr ?_
        split <;> rfl
      · cases ended

/-- A provision fails in words of its own if and only if its calls do, or meet the daemon's failures
only. -/
theorem provision_own_iff :
    (∀ failure, (ensureNetwork scope blueprint host).result = .error failure →
        failure.isOwn = true) ↔
      ∀ cause, FailsWith scope blueprint host cause →
        cause.isDaemon = true ∨ cause.isOwn = true := by
  constructor
  · intro own cause fails
    obtain ⟨failure, failed, same, -⟩ := provision_fails_with fails
    exact same.mp (own failure failed)
  · intro known failure failed
    rcases provision_fails failed with ⟨cause, fails⟩ | stage
    · obtain ⟨other, again, same, -⟩ := provision_fails_with fails
      obtain rfl := Except.error.inj (again.symm.trans failed)
      exact same.mpr (known cause fails)
    · exact Failure.own_of_stage stage

end Provision

namespace Builder

variable {builder : Builder} {blueprint : Blueprint} {host : Host}

theorem succeeds_construct_until_failure (builder : Builder) (blueprint : Blueprint)
    (network : String) (runner : Runner) (servers : List Instance) :
    Succeeds (constructUntilFailure builder blueprint network runner servers :
      HostAction Problem Progress) := by
  induction servers with
  | nil => exact succeeds_pure _
  | cons server rest ih =>
      have constructs : Succeeds (constructInstance server blueprint.name.text network
          builder.config builder.deployer runner : HostAction Problem Construction) := by
        intro host
        obtain ⟨construction, constructed, -⟩ := construct_instance_ends server
          blueprint.name.text network builder.config builder.deployer runner host
        exact ⟨construction, constructed⟩
      refine succeeds_bind constructs fun construction => ?_
      split
      · exact succeeds_pure _
      · exact succeeds_bind ih fun _ => succeeds_pure _

/-- A provision that fails decides what a build has come to when its releases begin. -/
theorem settled_of_unprovided {failure : Failure}
    (failed : (Provision.ensureNetwork builder.scope blueprint.name.text host).result =
      .error failure) :
    settledOn builder blueprint host =
      if failure.stage = some .provisioning then .ok [failure] else .error failure := by
  rw [settledOn, prepare, advance, noteBuild]
  simp only [bind_assoc, note_bind_apply, attempt_bind_apply, failed]
  split <;> rfl

/-- Once there is a network, a runner is made. -/
def MakesRunner (builder : Builder) (blueprint : Blueprint) (host : Host) : Prop :=
  let provided := Provision.ensureNetwork builder.scope blueprint.name.text host
  ∀ network, provided.result = .ok network →
    ∃ runner, (builder.makeRunner blueprint provided.state).result = .ok runner

theorem settled_of_provided {network : String} (makes : builder.MakesRunner blueprint host)
    (provided : (Provision.ensureNetwork builder.scope blueprint.name.text host).result =
      .ok network) :
    ∃ failures, settledOn builder blueprint host = .ok failures := by
  have advances : ∃ progress, (advance builder blueprint host).result = .ok progress := by
    obtain ⟨runner, made⟩ := makes network provided
    rw [advance, noteBuild, note_bind_apply, attempt_bind_apply, provided]
    simp only [bind_of_ok made]
    exact succeeds_construct_until_failure builder blueprint network runner _ _
  obtain ⟨progress, advanced⟩ := advances
  obtain ⟨failures, -, prepared⟩ := prepare_apply advanced
  exact ⟨failures, by simp [settledOn, prepared, Except.map]⟩

/-- A build without failures can still fail because of its images: they cannot be listed, or do not
show up. -/
theorem verdict_without_failures {start : Host} {failure : BuildFailure}
    (failed : verdict builder blueprint (.ok []) start = .error failure) :
    ∃ reason, failure = .single reason ∧ reason.isOwn = true := by
  rcases error_of_bind failed with waiting | ⟨images, -, short⟩
  · cases waited : (conclude builder blueprint (.ok []) start).result with
    | ok images =>
        rw [waited] at waiting
        cases waiting
    | error cause =>
        rw [waited] at waiting
        cases waiting
        obtain ⟨listing, awaited, rfl⟩ := error_of_map_failure waited
        obtain ⟨cause, -, rfl⟩ := error_of_map_failure awaited
        exact ⟨_, rfl, rfl⟩
  · dsimp only at short
    split at short
    · cases short
      exact ⟨_, rfl, rfl⟩
    · cases short

/-- After a build has settled, it fails with what it collected, or because of its images. -/
theorem verdict_own {failures : List Failure} {start : Host} {failure : BuildFailure}
    (failed : verdict builder blueprint (.ok failures) start = .error failure) :
    failure.isOwn = true := by
  by_cases none : failures = []
  · subst none
    obtain ⟨_, rfl, own⟩ := verdict_without_failures failed
    exact own
  · rw [verdict_of_failures none] at failed
    cases failed
    rfl

/-- A build fails in words of its own if and only if the calls for its network do, or meet the
daemon's failures only. -/
theorem construct_own_iff (makes : builder.MakesRunner blueprint host) :
    (∀ failure, (construct builder blueprint host).result = .error failure →
        failure.isOwn = true) ↔
      ∀ cause, Provision.FailsWith builder.scope blueprint.name.text host cause →
        cause.isDaemon = true ∨ cause.isOwn = true := by
  rw [← Provision.provision_own_iff, construct_result]
  constructor
  · intro own failure failed
    rw [settled_of_unprovided failed] at own
    split at own
    · exact Failure.own_of_stage ‹_›
    · exact own (.single failure) (verdict_of_error _ _)
  · intro own failure failed
    cases provided : (Provision.ensureNetwork builder.scope blueprint.name.text host).result with
    | ok network =>
        obtain ⟨failures, settled⟩ := settled_of_provided makes provided
        exact verdict_own (settled ▸ failed)
    | error cause =>
        rw [settled_of_unprovided provided] at failed
        split at failed
        · exact verdict_own failed
        · rw [verdict_of_error] at failed
          cases failed
          exact own cause provided

/-- An attempt whose images cannot be listed fails in words of its own, and one that finds images
does not fail. One that finds none fails as its build does. -/
theorem construct_if_missing_own_iff :
    (∀ failure, (constructIfMissing builder blueprint host).result = .error failure →
        failure.isOwn = true) ↔
      ((Catalog.listImages (builder.queryFor blueprint) host).result = .ok [] →
        ∀ failure, (construct builder blueprint
            (Catalog.listImages (builder.queryFor blueprint) host).state).result = .error failure →
          failure.isOwn = true) := by
  rw [constructIfMissing, bind_apply, mapFailure]
  cases listed : (Catalog.listImages (builder.queryFor blueprint) host).result with
  | error cause =>
      simp only [reduceCtorEq, false_implies, iff_true]
      intro failure failed
      cases failed
      rfl
  | ok images =>
      cases images with
      | cons image others =>
          simp only [Except.ok.injEq, reduceCtorEq, false_implies, iff_true]
          intro failure failed
          cases failed
      | nil =>
          simp only [map_error_ok, List.isEmpty_nil, Bool.not_true, Bool.false_eq_true, if_false,
            true_implies]
          refine ⟨fun own failure failed => own failure ?_, fun own failure failed => ?_⟩
          · rw [bind_of_error failed]
          · rcases error_of_bind failed with built | ⟨ids, -, none⟩
            · exact own failure built
            · cases none

/-- When a call for the network fails, or is answered without an identifier, the build fails with
one failure of that stage if and only if the call failed by the daemon or in words of that stage. -/
structure RefusesNetwork (builder : Builder) (blueprint : Blueprint) (host : Host) : Prop where
  failing : ∀ cause, Provision.FailsWith builder.scope blueprint.name.text host cause →
    ((∃ failure, failure.stage = some .provisioning ∧
        (construct builder blueprint host).result =
          .error (.construction blueprint.name.text [failure])) ↔
      cause.isDaemon = true ∨ cause.stage = some .provisioning)
  nameless : Provision.AnswersWithoutId builder.scope blueprint.name.text host →
    ∃ failure, failure.stage = some .provisioning ∧
      (construct builder blueprint host).result =
        .error (.construction blueprint.name.text [failure])

theorem construct_of_unprovided {failure : Failure}
    (failed : (Provision.ensureNetwork builder.scope blueprint.name.text host).result =
      .error failure) :
    (construct builder blueprint host).result =
      if failure.stage = some .provisioning then
        .error (.construction blueprint.name.text [failure])
      else .error (.single failure) := by
  rw [construct_result, settled_of_unprovided failed]
  split
  · rw [verdict_of_failures (List.cons_ne_nil _ _)]
  · rw [verdict_of_error]

theorem construct_refuses_network : RefusesNetwork builder blueprint host where
  failing cause fails := by
    obtain ⟨failure, failed, -, stage⟩ := Provision.provision_fails_with fails
    rw [construct_of_unprovided failed, ← stage]
    constructor
    · rintro ⟨other, known, same⟩
      split at same
      · assumption
      · cases same
    · intro known
      exact ⟨failure, known, if_pos known⟩
  nameless answers := by
    obtain ⟨failure, failed, known⟩ := Provision.provision_answered_without_id answers
    exact ⟨failure, known, by rw [construct_of_unprovided failed, if_pos known]⟩

/-- In which words a builder fails on a host, and what becomes of failures of its network. -/
structure FailureContract (builder : Builder) (blueprint : Blueprint) (host : Host) : Prop where
  /-- A build fails in words of its own if and only if the calls for its network do, or meet the
  daemon's failures only. -/
  construct : (∀ failure, (Builder.construct builder blueprint host).result = .error failure →
      failure.isOwn = true) ↔
    ∀ cause, Provision.FailsWith builder.scope blueprint.name.text host cause →
      cause.isDaemon = true ∨ cause.isOwn = true
  /-- So does an attempt that finds no images. Others always do. -/
  attempt : (∀ failure, (constructIfMissing builder blueprint host).result = .error failure →
      failure.isOwn = true) ↔
    ((Catalog.listImages (builder.queryFor blueprint) host).result = .ok [] →
      ∀ cause, Provision.FailsWith builder.scope blueprint.name.text
        (Catalog.listImages (builder.queryFor blueprint) host).state cause →
        cause.isDaemon = true ∨ cause.isOwn = true)
  /-- A failure of the network ends the build with that failure alone if and only if it is one of
  the daemon or in words of that stage. -/
  network : RefusesNetwork builder blueprint host

/-- All failures that leave a builder are in words of its own, but for those of the two calls for
its network that are not the daemon's. -/
theorem build_failures_own_iff (makes : builder.MakesRunner blueprint host)
    (makesLater : builder.MakesRunner blueprint
      (Catalog.listImages (builder.queryFor blueprint) host).state) :
    FailureContract builder blueprint host where
  construct := construct_own_iff makes
  attempt := by
    rw [construct_if_missing_own_iff]
    exact imp_congr_right fun _ => construct_own_iff makesLater
  network := construct_refuses_network

/-- A host on which networks cannot be listed. -/
def unlistedHost (cause : Failure) : Host :=
  { Host.fresh ∅ with faults := [⟨"networks.list", none, cause, 0, none⟩] }

/-- A builder whose runners are made without a call. -/
def readyBuilder : Builder :=
  { plainBuilder with makeRunner := fun _ => pure RunnerScript.quiet.runner }

theorem ready_builder_makes_runner (blueprint : Blueprint) (host : Host) :
    readyBuilder.MakesRunner blueprint host := fun _ _ => ⟨_, rfl⟩

/-- The daemon refuses to list networks: the build ends with that failure alone. -/
theorem build_failures_own_of_refusal :
    let cause : Failure := .outside .api "boom" none
    FailureContract readyBuilder Blueprint.pair (unlistedHost cause) ∧
      (construct readyBuilder Blueprint.pair (unlistedHost cause)).result =
        .error (.construction "bp" [.networkList "bp" cause]) :=
  ⟨build_failures_own_iff (ready_builder_makes_runner _ _) (ready_builder_makes_runner _ _),
    by decide +kernel⟩

/-- The connection to the daemon breaks when networks are listed: that failure leaves the builder as
it is. -/
theorem connection_failure_escapes :
    let cause : Failure := .outside .connection "boom" none
    (construct readyBuilder Blueprint.pair (unlistedHost cause)).result = .error (.single cause) ∧
      BuildFailure.isOwn (.single cause) = false := by
  constructor <;> decide +kernel

end Builder

end FixtureImages
