import FixtureImages.Proofs.Build.Release
import FixtureImages.Proofs.Daemon.Identifiers
import FixtureImages.Proofs.Deployment.Law
import FixtureImages.Proofs.Labels.Image

/-!
# The images of a build

Which images of a blueprint a build leaves. Only a commit that succeeds makes one, and it makes that
of its instance; nothing removes one. So the images that are new after a build are those of the
instances that were committed, and which these are can be told from how the build ended.
-/

namespace FixtureImages

set_option autoImplicit false

open Action

variable {Problem : Type}

/-- An image that a listing by a query may show. -/
def Listed (query : Query) (image : Image) : Prop :=
  image.always = true ∨ query.accepts image.labels = true

/-- Images that a query lists are neither made nor removed, and new images keep getting new
identifiers. -/
def keepsListed (query : Query) : Frame Host where
  holds before after := FreshImageIds before →
    FreshImageIds after ∧
      ∀ image, Listed query image → (image ∈ after.images ↔ image ∈ before.images)
  refl _ fresh := ⟨fresh, fun _ _ => Iff.rfl⟩
  trans earlier later fresh := by
    obtain ⟨between, first⟩ := earlier fresh
    obtain ⟨final, second⟩ := later between
    exact ⟨final, fun image listed => (second image listed).trans (first image listed)⟩

/-- The law that the images of a blueprint are left alone. -/
abbrev imageLaw (scope : String) (blueprint : Blueprint) : HostLaw :=
  .keeping (keepsListed (.ofBlueprint scope blueprint.name.text))

/-! ## Operations that leave images alone -/

/-- The frame minds nothing but the images, what new ones are called, the settings, and that time
does not run backwards. -/
structure Frame.MindsImages (frame : Frame Host) : Prop where
  same : ∀ {before after : Host}, after.images = before.images →
    after.settings = before.settings → before.nextId ≤ after.nextId → before.clock ≤ after.clock →
      frame.holds before after

namespace Frame.MindsImages

variable {frame : Frame Host} (minds : frame.MindsImages)

include minds

theorem meets (call : Call) : frame.Meets call :=
  fun _ => minds.same rfl rfl (Nat.le_refl _) (Nat.le_refl _)

theorem networks : (HostLaw.keeping frame).AdmitsNetworks where
  list _ := Daemon.list_networks_lawful (minds.meets _)
  create _ _ _ :=
    Daemon.create_network_lawful (minds.meets _) fun _ =>
      minds.same rfl rfl (Nat.le_succ _) (Nat.le_refl _)
  remove _ _ :=
    Daemon.remove_network_lawful (minds.meets _) fun _ =>
      minds.same rfl rfl (Nat.le_refl _) (Nat.le_refl _)

theorem stopping (id : String) : (HostLaw.keeping frame).AdmitsStopping id where
  get := Daemon.get_container_lawful (minds.meets _)
  stop _ _ :=
    Daemon.stop_lawful (minds.meets _) fun _ => minds.same rfl rfl (Nat.le_refl _) (Nat.le_refl _)

theorem reclaiming : (HostLaw.keeping frame).AdmitsReclaiming where
  get _ := Daemon.get_container_lawful (minds.meets _)
  kill _ :=
    Daemon.kill_lawful (minds.meets _) fun _ => minds.same rfl rfl (Nat.le_refl _) (Nat.le_refl _)
  readLog _ := Daemon.read_log_lawful (minds.meets _)
  remove _ :=
    Daemon.remove_container_lawful (minds.meets _) fun _ =>
      minds.same rfl rfl (Nat.le_refl _) (Nat.le_refl _)

theorem waiting : (HostLaw.keeping frame).AdmitsWaiting where
  list _ := Daemon.list_images_lawful (minds.meets _)
  sleep _ :=
    Daemon.sleep_lawful (Frame.refl _) fun _ =>
      minds.same rfl rfl (Nat.le_refl _) (Nat.le_add_right _ _)

theorem deploying : (HostLaw.keeping frame).AdmitsDeploying where
  create _ :=
    Daemon.create_container_lawful (minds.meets _) fun _ =>
      minds.same rfl rfl (Nat.le_succ _) (Nat.le_refl _)
  copy _ _ _ := minds.meets _
  start _ := by
    refine Daemon.start_lawful (minds.meets _) (HostLaw.keeping_change fun host => ?_)
    rw [Host.startContainer]
    split <;> exact minds.same rfl rfl (Nat.le_refl _) (Nat.le_refl _)
  inspect _ :=
    Daemon.inspect_lawful (minds.meets _) fun _ =>
      minds.same rfl rfl (Nat.le_refl _) (Nat.le_refl _)
  request _ _ := by
    refine Daemon.request_lawful (Frame.refl _) (HostLaw.keeping_take fun host => ?_)
      fun _ _ => minds.same rfl rfl (Nat.le_refl _) (Nat.le_add_right _ _)
    rw [Host.nextAnswer]
    split <;> exact minds.same rfl rfl (Nat.le_refl _) (Nat.le_refl _)
  list _ _ := Daemon.list_containers_lawful (minds.meets _)
  sleep _ :=
    Daemon.sleep_lawful (Frame.refl _) fun _ =>
      minds.same rfl rfl (Nat.le_refl _) (Nat.le_add_right _ _)

end Frame.MindsImages

theorem FreshImageIds.of_same {before after : Host} (fresh : FreshImageIds before)
    (images : after.images = before.images) (settings : after.settings = before.settings)
    (nextId : before.nextId ≤ after.nextId) : FreshImageIds after := by
  refine ⟨settings ▸ fresh.counted, fun image member number later => ?_⟩
  exact fresh.unused image (images ▸ member) number (Nat.le_trans nextId later)

theorem keeps_listed_minds_images (query : Query) : (keepsListed query).MindsImages := by
  constructor
  intro before after images settings nextId _ fresh
  refine ⟨fresh.of_same images settings nextId, fun image _ => ?_⟩
  rw [images]

/-! ## Images that were made -/

/-- The images of a blueprint on a later host are those from before and those of the instances that
were committed since. -/
structure Grown (scope : String) (blueprint : Blueprint) (committed : List Construction)
    (before after : Host) : Prop where
  fresh : FreshImageIds after
  kept : ∀ image ∈ before.images, Listed (.ofBlueprint scope blueprint.name.text) image →
    image ∈ after.images
  origin : ∀ image ∈ after.images, Listed (.ofBlueprint scope blueprint.name.text) image →
    image ∈ before.images ∨ ∃ construction ∈ committed,
      (Query.ofInstance scope blueprint.name.text construction.server.name.text).accepts
        image.labels = true
  found : ∀ construction ∈ committed, ∃ image ∈ after.images,
    (Query.ofInstance scope blueprint.name.text construction.server.name.text).accepts
      image.labels = true

namespace Grown

variable {scope : String} {blueprint : Blueprint} {committed later : List Construction}
  {before between after : Host}

theorem of_kept (fresh : FreshImageIds before)
    (kept : (keepsListed (.ofBlueprint scope blueprint.name.text)).holds before after) :
    Grown scope blueprint [] before after := by
  obtain ⟨final, same⟩ := kept fresh
  exact ⟨final, fun image member listed => (same image listed).mpr member,
    fun image member listed => .inl ((same image listed).mp member), by simp⟩

theorem trans (first : Grown scope blueprint committed before between)
    (second : Grown scope blueprint later between after) :
    Grown scope blueprint (committed ++ later) before after where
  fresh := second.fresh
  kept image member listed := second.kept image (first.kept image member listed) listed
  origin image member listed := by
    rcases second.origin image member listed with there | ⟨construction, known, accepted⟩
    · rcases first.origin image there listed with old | ⟨construction, known, accepted⟩
      · exact .inl old
      · exact .inr ⟨construction, List.mem_append_left _ known, accepted⟩
    · exact .inr ⟨construction, List.mem_append_right _ known, accepted⟩
  found construction known := by
    rcases List.mem_append.mp known with early | late
    · obtain ⟨image, member, accepted⟩ := first.found construction early
      have listed : Listed (.ofBlueprint scope blueprint.name.text) image :=
        .inr (Query.accepts_blueprint_of_instance accepted)
      exact ⟨image, second.kept image member listed, accepted⟩
    · exact second.found construction late

end Grown

/-! ## Commits -/

/-- How one instance fares when it is committed: its image is made, or the commit fails and none is.
-/
def Fares {α : Type} (scope : String) (blueprint : Blueprint) (construction : Construction)
    (before : Host) (outcome : Outcome Host Event Failure α) : Prop :=
  (∃ failure, outcome.result = .error failure ∧
      Grown scope blueprint [] before outcome.state) ∨
    ∃ value, outcome.result = .ok value ∧
      Grown scope blueprint [construction] before outcome.state

section

variable {α β : Type} {scope : String} {blueprint : Blueprint} {construction : Construction}

/-- What comes before a commit makes no image. -/
theorem Fares.after {known : α → Prop} {first : HostAction Failure α}
    {next : α → HostAction Failure β} {host : Host}
    (kept : (imageLaw scope blueprint).holds first)
    (gives : Gives known first)
    (fares : ∀ value, known value → ∀ between, FreshImageIds between →
      Fares scope blueprint construction between (next value between))
    (fresh : FreshImageIds host) :
    Fares scope blueprint construction host ((first >>= next) host) := by
  have grown : Grown scope blueprint [] host (first host).state := .of_kept fresh (kept host)
  cases outcome : (first host).result with
  | error failure =>
      rw [bind_of_error outcome]
      exact .inl ⟨failure, rfl, grown⟩
  | ok value =>
      rw [bind_of_ok outcome]
      rcases fares value (gives host value outcome) _ grown.fresh with
        ⟨failure, failed, more⟩ | ⟨final, succeeded, more⟩
      · exact .inl ⟨failure, failed, grown.trans more⟩
      · exact .inr ⟨final, succeeded, grown.trans more⟩

theorem commit_container_fares {container : Container} {request : CommitRequest} {host : Host}
    (accepted : (Query.ofInstance scope blueprint.name.text construction.server.name.text).accepts
      (some (Host.committedLabels container.labels request.changes)) = true)
    (fresh : FreshImageIds host) :
    Fares scope blueprint construction host (Daemon.commit container request host) := by
  let query := Query.ofBlueprint scope blueprint.name.text
  rw [Daemon.commit, bind_apply]
  have performed : (keepsListed query).holds host
      (perform (.commit container.name request) host).state := (keeps_listed_minds_images query).meets _ host
  generalize perform (.commit container.name request) host = outcome at performed
  cases outcome.result with
  | error failure => exact .inl ⟨failure, rfl, .of_kept fresh performed⟩
  | ok _ =>
      have between := (performed fresh).1
      refine .inr ⟨_, rfl, (Grown.of_kept fresh performed : Grown scope blueprint [] _ _).trans ?_⟩
      have whole := commit_container_fresh between container request
      refine ⟨between.commit container request, fun image member _ => ?_,
        fun image member _ => ?_, ?_⟩
      · simp only [take, whole]
        exact List.mem_append_left _ member
      · simp only [take, whole] at member
        rcases List.mem_append.mp member with old | new
        · exact .inl old
        · rw [List.mem_singleton.mp new]
          exact .inr ⟨construction, by simp, accepted⟩
      · intro other known
        rw [List.mem_singleton.mp known]
        refine ⟨outcome.state.committedImage container request, ?_, accepted⟩
        simp [take, whole]

/-- What comes after a commit and neither fails nor changes the host does not matter. -/
theorem Fares.before {first : HostAction Failure α} {next : α → HostAction Failure β} {host : Host}
    (convert : Failure → Failure)
    (fares : Fares scope blueprint construction host (first host))
    (harmless : ∀ value between, ∃ final, (next value between).result = .ok final ∧
      (next value between).state = between) :
    Fares scope blueprint construction host ((mapFailure convert first >>= next) host) := by
  rcases fares with ⟨failure, failed, grown⟩ | ⟨value, succeeded, grown⟩
  · have converted : (mapFailure convert first host).result = .error (convert failure) := by
      simp [mapFailure, failed]
    rw [bind_of_error converted]
    exact .inl ⟨_, rfl, grown⟩
  · have converted : (mapFailure convert first host).result = .ok value := by
      simp [mapFailure, succeeded]
    obtain ⟨final, given, unchanged⟩ := harmless value (mapFailure convert first host).state
    rw [bind_of_ok converted]
    refine .inr ⟨final, given, ?_⟩
    rw [unchanged]
    exact grown

theorem label_and_commit_fares {runner : Runner} (obeys : runner.Obeys (imageLaw scope blueprint))
    (owned : construction.scope = scope) {host : Host} (fresh : FreshImageIds host) :
    Fares scope blueprint construction host
      (labelAndCommit blueprint runner construction host) := by
  have collects : (imageLaw scope blueprint).holds (imageLabels construction blueprint runner) :=
    image_labels_lawful obeys construction blueprint
  have stops : (imageLaw scope blueprint).holds
      ((stopInstance construction).mapFailure (Failure.stop construction.context)) :=
    Law.mapFailure _ <| stop_instance_lawful ((keeps_listed_minds_images _).stopping _)
  refine Fares.after collects (image_labels_same_owner construction blueprint runner)
    (fun labels same between later => ?_) fresh
  refine Fares.after stops (fun _ _ _ => trivial : Gives (fun _ => True) _)
    (fun container _ stopped final => ?_) later
  have accepted := committed_labels_accepted container.labels (owned ▸ same)
  exact Fares.before _ (commit_container_fares accepted final) fun image between => ⟨_, rfl, rfl⟩

theorem commit_failure_stage (context : String) (failure : Failure) :
    (commitFailure context failure).stage = some .commit := by
  rw [commitFailure]
  split
  · assumption
  · rfl

/-- When all instances are committed, those that fail are reported, and the others have images. -/
theorem commit_all_grows {runner : Runner} (obeys : runner.Obeys (imageLaw scope blueprint))
    (built : List Construction)
    (known : ∀ construction ∈ built, construction.failure = none ∧ construction.scope = scope)
    {host : Host} (fresh : FreshImageIds host) :
    ∃ committed images failures,
      (commitAll blueprint runner built host :
        Outcome Host Event Problem (List String × List Failure)).result = .ok (images, failures) ∧
      Grown scope blueprint committed host (commitAll blueprint runner built host :
        Outcome Host Event Problem (List String × List Failure)).state ∧
      committed.Sublist built ∧ failures.length + committed.length = built.length ∧
      ∀ failure ∈ failures, failure.stage = some .commit := by
  induction built generalizing host with
  | nil => exact ⟨[], [], [], rfl, .of_kept fresh (Frame.refl _ _), .slnil, rfl, by simp⟩
  | cons construction rest ih =>
      obtain ⟨succeeded, owned⟩ := known construction List.mem_cons_self
      have others := fun other member => known other (List.mem_cons_of_mem _ member)
      rw [commitAll, if_neg (by simp [succeeded]), attempt_bind_apply]
      have fares := label_and_commit_fares obeys owned fresh
      generalize labelAndCommit blueprint runner construction host = outcome at fares
      rcases fares with ⟨failure, failed, grown⟩ | ⟨id, made, grown⟩
      · obtain ⟨committed, images, failures, later, more, sub, count, stages⟩ :=
          ih others grown.fresh
        refine ⟨committed, images, commitFailure construction.context failure :: failures,
          ?_, ?_, sub.cons _, ?_, ?_⟩
        · simp only [failed, note_bind_apply, bind_of_ok later, pure_apply]
        · simp only [failed, note_bind_apply, bind_of_ok later, pure_apply]
          exact grown.trans more
        · simp only [List.length_cons]
          omega
        · intro reported member
          rcases List.mem_cons.mp member with rfl | later
          · exact commit_failure_stage construction.context failure
          · exact stages reported later
      · obtain ⟨committed, images, failures, later, more, sub, count, stages⟩ :=
          ih others grown.fresh
        refine ⟨construction :: committed, id :: images, failures, ?_, ?_, sub.cons_cons _, ?_,
          stages⟩
        · simp only [made, bind_of_ok later, pure_apply]
        · simp only [made, bind_of_ok later, pure_apply]
          exact grown.trans more
        · simp only [List.length_cons]
          omega

end

/-! ## Builds -/

namespace Builder

/-- The end of a build of which some instances were committed and others not: all that failed is
reported, and nothing but commits failed. -/
def PartlyCommitted {α : Type} (blueprint : Blueprint) (result : Except BuildFailure α) : Prop :=
  ∃ failures, result = .error (.construction blueprint.name.text failures) ∧ failures ≠ [] ∧
    failures.length < blueprint.instances.length ∧
    ∀ failure ∈ failures, failure.stage = some .commit

variable {builder : Builder} {blueprint : Blueprint} {host : Host}

theorem succeeds_note_failures (failures : List Failure) :
    Succeeds (noteFailures failures : HostAction Problem Unit) := by
  induction failures with
  | nil => exact succeeds_pure _
  | cons failure rest ih => exact succeeds_bind (succeeds_note _ _ _) fun _ => ih

theorem verdict_of_error (failure : Failure) (start : Host) :
    verdict builder blueprint (.error failure) start = .error (.single failure) := rfl

theorem verdict_of_failures {failures : List Failure} (several : failures ≠ []) (start : Host) :
    verdict builder blueprint (.ok failures) start =
      .error (.construction blueprint.name.text failures) := by
  obtain ⟨_, noted⟩ := @succeeds_note_failures BuildFailure failures start
  have stopped : (conclude builder blueprint (.ok failures) start).result =
      .error (.construction blueprint.name.text failures) := by
    have listed : (!failures.isEmpty) = true := by simpa using several
    simp only [conclude, map_error_ok, of_except_ok, pure_bind, listed, if_true,
      bind_of_ok noted, fail_bind, fail_apply]
  rw [verdict, stopped]
  rfl

/-- What was committed when the releases begin: nothing, or all but those that failed. -/
theorem prepare_grows
    (obeys : builder.CollaboratorsObey (imageLaw builder.scope blueprint))
    (fresh : FreshImageIds host) :
    ∃ committed, Grown builder.scope blueprint committed host
        (prepare builder blueprint host).state ∧
      ((committed = [] ∧ settledOn builder blueprint host ≠ .ok []) ∨
        ∃ failures, settledOn builder blueprint host = .ok failures ∧
          (committed.map Construction.server).Sublist blueprint.instances ∧
          failures.length + committed.length = blueprint.instances.length ∧
          ∀ failure ∈ failures, failure.stage = some .commit) := by
  have advances := advance_lawful
    (keeps_listed_minds_images _).networks.provides obeys blueprint host
  have first : Grown builder.scope blueprint [] host (advance builder blueprint host).state :=
    .of_kept fresh advances
  cases advanced : (advance builder blueprint host).result with
  | error failure =>
      have stopped : prepare builder blueprint host =
          ⟨.error failure, (advance builder blueprint host).state,
            (advance builder blueprint host).trace⟩ := by
        rw [prepare, bind_of_error advanced]
      refine ⟨[], ?_, .inl ⟨rfl, by simp [settledOn, stopped, Except.map]⟩⟩
      rw [stopped]
      exact first
  | ok progress =>
      obtain ⟨failures, settled, prepared⟩ := prepare_apply advanced
      have final : settledOn builder blueprint host = .ok failures := by
        simp [settledOn, prepared, Except.map]
      obtain ⟨covers, known⟩ := advance_gives builder blueprint host progress advanced
      rw [prepared, final]
      cases ending : progress.ending with
      | refused failure =>
          simp only [settle, ending, pure_apply, Except.ok.injEq] at settled ⊢
          exact ⟨[], first, .inl ⟨rfl, by simp [← settled]⟩⟩
      | stopped construction failure =>
          obtain ⟨_, discarded⟩ := @succeeds_discard Failure construction
            (advance builder blueprint host).state
          simp only [settle, ending, bind_of_ok discarded, pure_apply, Except.ok.injEq]
            at settled ⊢
          have discards : (imageLaw builder.scope blueprint).holds
              (discard construction : HostAction Failure Unit) :=
            discard_lawful fun _ => (keeps_listed_minds_images _).reclaiming.of _
          exact ⟨[], first.trans (.of_kept first.fresh (discards _)),
            .inl ⟨rfl, by simp [← settled]⟩⟩
      | complete runner =>
          have runnerObeys := advance_runner_obeys obeys.toRunnersObey blueprint host progress
            advanced runner ending
          obtain ⟨committed, images, reported, made, second, sub, count, stages⟩ :=
            @commit_all_grows Failure _ blueprint runner runnerObeys progress.built known _
              first.fresh
          simp only [settle, ending, bind_of_ok made, pure_apply, Except.ok.injEq] at settled ⊢
          subst settled
          simp only [Progress.Covers, ending] at covers
          refine ⟨committed, first.trans second, .inr ⟨reported, rfl, ?_, ?_, stages⟩⟩
          · rw [covers]
            exact sub.map _
          · rw [covers, List.length_map]
            exact count

/-- What releases, waiting and the removal of networks keep is kept from the first release on. -/
theorem kept_after_prepare {frame : Frame Host}
    (networks : (HostLaw.keeping frame).AdmitsNetworks)
    (reclaims : (HostLaw.keeping frame).AdmitsReclaiming)
    (waits : (HostLaw.keeping frame).AdmitsWaiting) :
    frame.holds (prepare builder blueprint host).state (construct builder blueprint host).state := by
  have frees : (HostLaw.keeping frame).holds
      (releaseAll (builtOn builder blueprint host).reverse : HostAction Failure Unit) :=
    release_all_lawful fun _ _ => reclaims.of _
  have concludes : (HostLaw.keeping frame).holds
      (conclude builder blueprint (settledOn builder blueprint host)) :=
    conclude_lawful waits builder blueprint _
  have sweeps : (HostLaw.keeping frame).holds
      (Provision.removeNetworks builder.scope blueprint.name.text :
        HostAction BuildFailure (List String)) :=
    remove_networks_lawful networks.removal _ _
  have reports : (HostLaw.keeping frame).holds
      (report blueprint (concluded builder blueprint host).result) := report_lawful blueprint _
  rw [construct_apply]
  have freed := frees (prepare builder blueprint host).state
  have waited := concludes (released builder blueprint host).state
  have cleared := sweeps (concluded builder blueprint host).state
  have told := reports (swept builder blueprint host).state
  exact Frame.trans _ (Frame.trans _ (Frame.trans _ freed waited) cleared) told

/-- A build that succeeds has collected no failures. -/
theorem settled_of_success {ids : List String}
    (succeeded : (construct builder blueprint host).result = .ok ids) :
    settledOn builder blueprint host = .ok [] := by
  rw [construct_result] at succeeded
  cases settled : settledOn builder blueprint host with
  | error failure =>
      rw [settled, verdict_of_error] at succeeded
      cases succeeded
  | ok failures =>
      by_cases none : failures = []
      · rw [none]
      · rw [settled, verdict_of_failures none] at succeeded
        cases succeeded

/-- What a build leaves of images, and what its end tells about it: when it succeeds every instance
was committed, and when it fails none was, or all, or the failures are those of the others. -/
theorem construct_grows
    (obeys : builder.CollaboratorsObey (imageLaw builder.scope blueprint))
    (fresh : FreshImageIds host) :
    ∃ committed, Grown builder.scope blueprint committed host
        (construct builder blueprint host).state ∧
      (committed.map Construction.server).Sublist blueprint.instances ∧
      (committed = [] ∨ committed.map Construction.server = blueprint.instances ∨
        PartlyCommitted blueprint (construct builder blueprint host).result) ∧
      ∀ ids, (construct builder blueprint host).result = .ok ids →
        committed.map Construction.server = blueprint.instances := by
  obtain ⟨committed, first, ending⟩ := prepare_grows obeys fresh
  have minds := keeps_listed_minds_images (.ofBlueprint builder.scope blueprint.name.text)
  have later := @kept_after_prepare builder blueprint host _ minds.networks minds.reclaiming
    minds.waiting
  have grown : Grown builder.scope blueprint committed host
      (construct builder blueprint host).state := by
    have whole := first.trans (.of_kept first.fresh later)
    rwa [List.append_nil] at whole
  refine ⟨committed, grown, ?_⟩
  rcases ending with ⟨none, unsettled⟩ | ⟨failures, settled, sub, count, stages⟩
  · subst none
    exact ⟨by simp, .inl rfl, fun ids succeeded =>
      absurd (settled_of_success succeeded) unsettled⟩
  · rw [construct_result, settled]
    by_cases none : failures = []
    · subst none
      have all : committed.map Construction.server = blueprint.instances :=
        sub.eq_of_length (by simpa using count)
      exact ⟨sub, .inr (.inl all), fun _ _ => all⟩
    · rw [verdict_of_failures none]
      refine ⟨sub, ?_, fun ids succeeded => nomatch succeeded⟩
      by_cases empty : committed = []
      · exact .inl empty
      · refine .inr (.inr ⟨failures, rfl, none, ?_, stages⟩)
        have := List.length_pos_iff.mpr empty
        omega

end Builder

end FixtureImages
