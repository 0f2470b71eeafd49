import FixtureImages.Proofs.Cleanup.Effect

/-!
# Local and foreign tags

The name of a repository ends where a tag, a digest or a path below it begins. Whether an image is
local is told by the first characters of its tags alone, so a repository whose name merely begins as
that of the local one is taken for it: images of such a repository are removed by a cleaning like
local ones. An image with any other foreign tag stays, whatever fails.
-/

namespace FixtureImages

set_option autoImplicit false

open Action

/-! ## Tags -/

/-- What can follow the name of a repository: a tag, a digest or a path below it. -/
def repositoryMarks : List Char := [':', '@', '/']

/-- A tag lies in the local repository: it is its name, or goes on behind the whole of it. -/
def InLocalRepository (tag : String) : Prop :=
  tag = localRepository ∨
    ∃ mark ∈ repositoryMarks, ∃ rest, tag.toList = localRepository.toList ++ mark :: rest

/-- A tag lies in a repository with a longer name, which begins as that of the local one. -/
def IsLookalike (tag : String) : Prop :=
  ∃ c rest, tag.toList = localRepository.toList ++ c :: rest ∧ c ∉ repositoryMarks

theorem is_local_tag_iff (tag : String) :
    isLocalTag tag = true ↔ InLocalRepository tag ∨ IsLookalike tag := by
  rw [isLocalTag, List.isPrefixOf_iff_prefix]
  constructor
  · rintro ⟨rest, whole⟩
    cases rest with
    | nil =>
        rw [List.append_nil, String.toList_inj] at whole
        exact .inl (.inl whole.symm)
    | cons c rest =>
        by_cases mark : c ∈ repositoryMarks
        · exact .inl (.inr ⟨c, mark, rest, whole.symm⟩)
        · exact .inr ⟨c, rest, whole.symm, mark⟩
  · rintro ((rfl | ⟨mark, -, rest, whole⟩) | ⟨c, rest, whole, -⟩)
    · exact List.prefix_refl _
    · exact ⟨_, whole.symm⟩
    · exact ⟨_, whole.symm⟩

/-- What a lookalike goes on with is no mark, and there is only one way to go on. -/
theorem IsLookalike.foreign {tag : String} (lookalike : IsLookalike tag) :
    ¬InLocalRepository tag := by
  obtain ⟨c, rest, whole, other⟩ := lookalike
  rintro (rfl | ⟨mark, member, behind, same⟩)
  · exact absurd (List.self_eq_append_right.mp whole) (List.cons_ne_nil _ _)
  · rw [whole, List.append_cancel_left_eq] at same
    exact other ((List.cons.inj same).1 ▸ member)

theorem is_local_image_iff (tags : Option (List String)) :
    isLocalImage tags = true ↔ ∀ tag ∈ tags.getD [], InLocalRepository tag ∨ IsLookalike tag := by
  simp only [isLocalImage, List.all_eq_true, is_local_tag_iff]

/-- Images are told apart by repositories as long as no lookalike makes the difference. -/
theorem is_local_image_by_repository_iff (tags : Option (List String)) :
    (isLocalImage tags = true ↔ ∀ tag ∈ tags.getD [], InLocalRepository tag) ↔
      (isLocalImage tags = true → ∀ tag ∈ tags.getD [], ¬IsLookalike tag) := by
  constructor
  · intro told accepted tag member lookalike
    exact lookalike.foreign (told.mp accepted tag member)
  · intro unmistaken
    constructor
    · intro accepted tag member
      have begins := (is_local_image_iff tags).mp accepted tag member
      exact begins.resolve_right (unmistaken accepted tag member)
    · intro within
      rw [is_local_image_iff]
      intro tag member
      exact .inl (within tag member)

/-! ## Cleanings -/

namespace Cleanup

variable {Problem : Type} {scope : String} {keep : List String} {host : Host}

/-- All that a cleaning takes away was taken for local, unless two images share an identifier. -/
theorem run_removes_local (distinct : (host.images.map Image.id).Nodup) {image : Image}
    (stored : image ∈ host.images)
    (gone : image ∉ (run scope keep host : Outcome Host Event Problem Removed).state.images) :
    isLocalImage image.tags = true := by
  obtain ⟨removed, -, effect⟩ := @run_exact Problem scope keep host
  have listed := effect.images.gone.trans effect.images.listed
  rw [effect.images.disappeared, List.mem_filter] at gone
  have reported : image.id ∈
      ((imageSweep scope keep).gone (afterNetworks scope host)).map Image.id := by
    by_contra unreported
    refine gone ⟨stored, ?_⟩
    rw [Bool.not_eq_true', List.contains_eq_mem, decide_eq_false_iff_not]
    exact unreported
  obtain ⟨other, taken, same⟩ := List.mem_map.mp reported
  obtain rfl : other = image :=
    List.inj_on_of_nodup_map distinct (listed.subset taken) stored same
  have tried := (List.mem_filter.mp ((Sweep.gone_sublist_tried _).subset taken)).2
  exact (Bool.and_eq_true_iff.mp tried).1

/-- An image is taken for local exactly if all its tags begin as the local repository. That means
that they lie in it, unless one of them is a lookalike. No cleaning removes an image with any other
tag, whatever fails. -/
theorem run_spares_foreign (distinct : (host.images.map Image.id).Nodup) :
    (∀ tags, isLocalImage tags = true ↔
      ∀ tag ∈ tags.getD [], InLocalRepository tag ∨ IsLookalike tag) ∧
    (∀ tags, (isLocalImage tags = true ↔ ∀ tag ∈ tags.getD [], InLocalRepository tag) ↔
      (isLocalImage tags = true → ∀ tag ∈ tags.getD [], ¬IsLookalike tag)) ∧
    ∀ image ∈ host.images,
      image ∉ (run scope keep host : Outcome Host Event Problem Removed).state.images →
        ∀ tag ∈ image.tags.getD [], InLocalRepository tag ∨ IsLookalike tag := by
  refine ⟨is_local_image_iff, is_local_image_by_repository_iff, ?_⟩
  intro image stored gone
  exact (is_local_image_iff image.tags).mp (run_removes_local distinct stored gone)

/-- An image of a namespace with one tag of choice. -/
def taggedImage (count : Nat) (tag : String) : Image :=
  ⟨imageId count, some [tag], some (resourceLabels "pkg" (some "bp") (some "hs1")), 0, false⟩

/-- A host with an image of the local repository, one of a lookalike and one of another registry. -/
def mirroredHost : Host :=
  { Host.fresh ∅ with
    images := [taggedImage 1 "localhost/commander:pkg.bp.hs1",
      taggedImage 2 "localhost/commander-mirror:1", taggedImage 3 "registry/commander:1"]
    nextId := 4 }

theorem mirror_lookalike : IsLookalike "localhost/commander-mirror:1" :=
  ⟨'-', "mirror:1".toList, by decide, by decide⟩

/-- There a cleaning takes the mirror away as well. -/
theorem mirrored_left :
    (run "pkg" [] mirroredHost : Outcome Host Event Failure Removed).state.images =
      [taggedImage 3 "registry/commander:1"] := by
  decide +kernel

/-- So images are not told apart by repositories, and cleanings do remove images that are tagged in
another one. -/
theorem lookalike_taken_for_local :
    (¬∀ tags, isLocalImage tags = true ↔ ∀ tag ∈ tags.getD [], InLocalRepository tag) ∧
    ¬∀ (scope : String) (keep : List String) (host : Host), ∀ image ∈ host.images,
      image ∉ (run scope keep host : Outcome Host Event Failure Removed).state.images →
        ∀ tag ∈ image.tags.getD [], InLocalRepository tag := by
  constructor
  · intro told
    have within := (told (some ["localhost/commander-mirror:1"])).mp (by decide)
    exact mirror_lookalike.foreign (within _ (List.mem_singleton_self _))
  · intro claimed
    have gone : taggedImage 2 "localhost/commander-mirror:1" ∉
        (run "pkg" [] mirroredHost : Outcome Host Event Failure Removed).state.images := by
      rw [mirrored_left]
      decide
    have within := claimed "pkg" [] mirroredHost _ (by decide) gone
    exact mirror_lookalike.foreign (within _ (List.mem_singleton_self _))

/-- The image of the other registry stays. -/
theorem run_spares_foreign_of_mirrored :
    (mirroredHost.images.map Image.id).Nodup ∧
      (∀ image ∈ mirroredHost.images,
        image ∉ (run "pkg" [] mirroredHost : Outcome Host Event Failure Removed).state.images →
          ∀ tag ∈ image.tags.getD [], InLocalRepository tag ∨ IsLookalike tag) ∧
      (run "pkg" [] mirroredHost : Outcome Host Event Failure Removed).state.images =
        [taggedImage 3 "registry/commander:1"] := by
  have distinct : (mirroredHost.images.map Image.id).Nodup := by decide +kernel
  obtain ⟨-, -, spared⟩ := @run_spares_foreign Failure "pkg" [] mirroredHost distinct
  exact ⟨distinct, spared, mirrored_left⟩

end Cleanup

end FixtureImages
