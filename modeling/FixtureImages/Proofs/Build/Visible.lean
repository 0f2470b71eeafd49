import FixtureImages.Proofs.Build.Success
import Mathlib.Data.List.Nodup

/-!
# What a build returns

A build that succeeds returns the images of its blueprint that can be listed when it ends, and there
are as many as instances. They may be images of an earlier build: a committed image is among them
only if it is visible by then, and as many may be missing as images from before are listed.
-/

namespace FixtureImages

set_option autoImplicit false

open Action

/-- The images that a query lists on a host at its present time. -/
def listedNow (query : Query) (host : Host) : List Image :=
  (shownBy query host).filter fun image => image.visibleAt ≤ host.clock

theorem list_images_reveals (query : Query) :
    Reveals (listedNow query) (Catalog.listImages query) := by
  refine reveals_bind fun _ => ?_
  intro host images given
  cases given
  simp only [look, listedNow, shownBy, List.filter_filter, Query.meets_filters_eq_accepts]

namespace Builder

variable {builder : Builder} {blueprint : Blueprint} {host : Host}

theorem conclude_reveals (builder : Builder) (blueprint : Blueprint)
    (settled : Except Failure (List Failure)) :
    Reveals (listedNow (builder.queryFor blueprint)) (conclude builder blueprint settled) := by
  have awaits : Reveals (listedNow (builder.queryFor blueprint))
      ((awaitImages builder blueprint).mapFailure BuildFailure.single) :=
    reveals_map_failure <| reveals_map_failure <|
      wait_for_reveals (list_images_reveals _) (fun _ => rfl) _ _ _
  refine reveals_bind fun failures => ?_
  split
  · exact reveals_bind fun _ => reveals_bind fun _ => awaits
  · exact awaits

/-- What listings show: the images and the time. -/
def shownView (host : Host) : List Image × Nat := (host.images, host.clock)

theorem networks_keep_shown_view : (HostLaw.keeping (Frame.ofView shownView)).AdmitsNetworks where
  list _ := Daemon.list_networks_lawful fun _ => rfl
  create _ _ _ := Daemon.create_network_lawful (fun _ => rfl) fun _ => rfl
  remove _ _ := Daemon.remove_network_lawful (fun _ => rfl) fun _ => rfl

theorem report_gives {images : List Image} {ids : List String} {start : Host}
    (told : (report blueprint (.ok images) start).result = .ok ids) :
    ids = images.map Image.id ∧ blueprint.instances.length ≤ images.length := by
  rw [report, of_except_ok, pure_bind] at told
  dsimp only at told
  split at told
  · cases told
  · rename_i enough
    rw [noteBuild, note_bind_apply] at told
    cases told
    exact ⟨rfl, Nat.le_of_not_lt enough⟩

/-- A build that succeeds returns what can be listed for its blueprint when it ends. -/
theorem construct_returns_listed {ids : List String}
    (succeeded : (construct builder blueprint host).result = .ok ids) :
    ids = (listedNow (builder.queryFor blueprint) (construct builder blueprint host).state).map
        Image.id ∧
      blueprint.instances.length ≤ ids.length := by
  rw [construct_apply] at succeeded ⊢
  have told : (reported builder blueprint host).result = .ok ids := succeeded
  rw [reported] at told
  cases waited : (concluded builder blueprint host).result with
  | error failure =>
      rw [waited] at told
      cases told
  | ok images =>
      rw [waited] at told
      obtain ⟨rfl, enough⟩ := report_gives told
      have seen : images = listedNow _ (concluded builder blueprint host).state :=
        conclude_reveals builder blueprint _ _ images waited
      have swept_view : shownView (swept builder blueprint host).state =
          shownView (concluded builder blueprint host).state :=
        remove_networks_lawful networks_keep_shown_view.removal _ _ _
      have reported_view : shownView (reported builder blueprint host).state =
          shownView (swept builder blueprint host).state :=
        @report_lawful (HostLaw.keeping (Frame.ofView shownView)) blueprint _ _
      have view := reported_view.trans swept_view
      simp only [shownView, Prod.mk.injEq] at view
      have same : listedNow (builder.queryFor blueprint) (reported builder blueprint host).state =
          images := by
        rw [seen, listedNow, shownBy, view.1, view.2]
        rfl
      rw [same, List.length_map]
      exact ⟨rfl, enough⟩

/-! ## Committed images among the listed ones -/

section

variable {query : Query} {commits : List Commitment} {before after : Host}

/-- The image of a commit is listed if and only if it is visible. -/
theorem committed_listed_iff (adds : Adds query (commits.map Commitment.image) before after)
    {commitment : Commitment} (member : commitment ∈ commits) :
    commitment.image.id ∈ (listedNow query after).map Image.id ↔
      commitment.image.visibleAt ≤ after.clock := by
  have own : commitment.image ∈ commits.map Commitment.image := List.mem_map_of_mem member
  constructor
  · intro listed
    obtain ⟨image, shown, same⟩ := List.mem_map.mp listed
    obtain ⟨there, visible⟩ := List.mem_filter.mp shown
    rw [adds.shown] at there
    rcases List.mem_append.mp there with old | made
    · exact absurd same.symm (adds.new _ own image old)
    · have one : image = commitment.image :=
        List.inj_on_of_nodup_map adds.distinct made own same
      simpa [one] using visible
  · intro visible
    apply List.mem_map_of_mem
    rw [listedNow, adds.shown, List.mem_filter]
    exact ⟨List.mem_append_right _ own, by simpa using visible⟩

/-- Images from before stand in for committed ones that are not listed. -/
theorem missing_le_stale {ids : List String}
    (adds : Adds query (commits.map Commitment.image) before after)
    (listed : ids = (listedNow query after).map Image.id) (enough : commits.length ≤ ids.length) :
    (commits.filter (·.image.id ∉ ids)).length ≤
      ((shownBy query before).filter (·.id ∈ ids)).length := by
  have stale : ((shownBy query before).filter (·.visibleAt ≤ after.clock)).length ≤
      ((shownBy query before).filter (·.id ∈ ids)).length := by
    rw [← List.countP_eq_length_filter, ← List.countP_eq_length_filter]
    apply List.countP_mono_left
    intro image member visible
    rw [decide_eq_true_eq, listed]
    apply List.mem_map_of_mem
    rw [listedNow, adds.shown, List.mem_filter]
    exact ⟨List.mem_append_left _ member, visible⟩
  have missing : commits.filter (·.image.id ∉ ids) =
      commits.filter fun commitment => !decide (commitment.image.visibleAt ≤ after.clock) := by
    apply List.filter_congr
    intro commitment member
    rw [decide_not, listed]
    congr 1
    rw [decide_eq_decide]
    exact committed_listed_iff adds member
  have parts := List.length_eq_length_filter_add
    (fun commitment : Commitment => decide (commitment.image.visibleAt ≤ after.clock)) (l := commits)
  rw [listed, List.length_map, listedNow, adds.shown, List.filter_append, List.length_append,
    List.filter_map, List.length_map] at enough
  simp only [Function.comp_def] at enough
  rw [missing]
  omega

end

/-- What the identifiers that a build returns tell about the images that it committed. -/
structure Returns (builder : Builder) (blueprint : Blueprint) (host : Host) (ids : List String) :
    Prop where
  /-- They are those of the images that can be listed for the blueprint when the build ends. -/
  listed : ids = (listedNow (builder.queryFor blueprint) (construct builder blueprint host).state).map
    Image.id
  /-- Every instance was committed. -/
  committed : (commitsOn builder blueprint host).map Commitment.server = blueprint.instances
  /-- A committed image is among them if and only if it is visible by then. -/
  visible : ∀ commitment ∈ commitsOn builder blueprint host,
    commitment.image.id ∈ ids ↔
      commitment.image.visibleAt ≤ (construct builder blueprint host).state.clock
  /-- No more committed images are missing than images from before are listed in their place. -/
  missing : ((commitsOn builder blueprint host).filter (·.image.id ∉ ids)).length ≤
    ((shownBy (builder.queryFor blueprint) host).filter (·.id ∈ ids)).length
  /-- None is missing if the blueprint had no images before. -/
  fresh : shownBy (builder.queryFor blueprint) host = [] →
    ∀ commitment ∈ commitsOn builder blueprint host, commitment.image.id ∈ ids

/-- A build that succeeds returns the images it committed as far as they are visible, and waits for
the others only if there are too few images from before. -/
theorem construct_returns_visible {ids : List String}
    (obeys : builder.CollaboratorsObey (shownLaw builder.scope blueprint))
    (unused : FreshImageIds host)
    (succeeded : (construct builder blueprint host).result = .ok ids) :
    Returns builder blueprint host ids := by
  obtain ⟨listed, enough⟩ := construct_returns_listed succeeded
  have instances := success_commits_instances succeeded
  have adds := success_adds succeeded obeys unused
  have count : (commitsOn builder blueprint host).length ≤ ids.length := by
    rw [← instances, List.length_map] at enough
    exact enough
  have missing := missing_le_stale adds listed count
  refine ⟨listed, instances, ?_, missing, ?_⟩
  · intro commitment member
    rw [listed]
    exact committed_listed_iff adds member
  · intro none commitment member
    rw [none, List.filter_nil, List.length_nil, Nat.le_zero, List.length_eq_zero_iff,
      List.filter_eq_nil_iff] at missing
    simpa using missing commitment member

/-- The two servers are committed and returned. -/
theorem construct_returns_visible_of_pair :
    plainBuilder.CollaboratorsObey (shownLaw plainBuilder.scope Blueprint.pair) ∧
      FreshImageIds (Host.fresh ∅) ∧
      (construct plainBuilder Blueprint.pair (Host.fresh ∅)).result =
        .ok ["sha256:0000000000041a6e", "sha256:0000000000051a6e"] ∧
      Returns plainBuilder Blueprint.pair (Host.fresh ∅)
        ["sha256:0000000000041a6e", "sha256:0000000000051a6e"] := by
  have obeys := plain_builder_keeps_shown plainBuilder.scope Blueprint.pair
  have unused : FreshImageIds (Host.fresh ∅) :=
    ⟨rfl, fun image member => absurd member List.not_mem_nil⟩
  have succeeded : (construct plainBuilder Blueprint.pair (Host.fresh ∅)).result =
      .ok ["sha256:0000000000041a6e", "sha256:0000000000051a6e"] := by decide +kernel
  exact ⟨obeys, unused, succeeded, construct_returns_visible obeys unused succeeded⟩

/-- A host with images of an earlier build, on which new images show up after a while. -/
def rebuildHost : Host :=
  let earlier (number : Nat) (server : String) : Image :=
    ⟨imageId number, some [imageName "default" "bp" server],
      some (resourceLabels "default" (some "bp") (some server)), 0, false⟩
  { Host.fresh ∅ with
    images := [earlier 1 "hs1", earlier 2 "hs2"]
    nextId := 3
    settings := { Host.usualSettings with visibilityDelay := 150000 } }

/-- On that host a build returns the images of the earlier one, and none that it committed. -/
theorem construct_returns_stale :
    (construct plainBuilder Blueprint.pair rebuildHost).result =
        .ok ["sha256:0000000000011a6e", "sha256:0000000000021a6e"] ∧
      (commitsOn plainBuilder Blueprint.pair rebuildHost).map (·.image.id) =
        ["sha256:0000000000061a6e", "sha256:0000000000071a6e"] := by
  constructor <;> decide +kernel

end Builder

end FixtureImages
