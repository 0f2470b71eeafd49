import FixtureImages.Config.Environment
import FixtureImages.Construction
import FixtureImages.Proofs.Labels.Table

/-!
# Base images from the environment

Instances are given base images by variables that carry their names. Names are compared in lower
case, so that several variables may name an image for one instance, and the last one in the
environment counts. A variable that is empty counts as unset. Main statement: which image an instance
is based on, as a choice among its own image and the variables of the environment.
-/

namespace FixtureImages

set_option autoImplicit false

variable {environment : Labels} {config : Config} {server : Instance}

/-- A variable names a base image for an instance: it is not empty, and behind the stem stands the
name of the instance, but for case. -/
def NamesImage (server : Instance) (entry : String × String) : Prop :=
  entry.2 ≠ "" ∧ ∃ name, entry.1 = baseImageStem ++ name ∧
    Text.lower name = Text.lower server.name.text

/-- An instance has no base image of its own: it is unset or empty. -/
def Instance.Bare (server : Instance) : Prop := ∀ image, server.baseImage = some image → image = ""

/-- The image that an instance is based on in an environment. -/
inductive BasedOn (environment : Labels) (server : Instance) : String → Prop
  /-- Its own goes first. -/
  | own {image : String} (set : server.baseImage = some image) (filled : image ≠ "") :
      BasedOn environment server image
  /-- Else it is the value of the last variable that names one for it. -/
  | named {key image : String} {before after : List (String × String)} (bare : server.Bare)
      (entries : environment.entries = before ++ (key, image) :: after)
      (names : NamesImage server (key, image)) (last : ∀ entry ∈ after, ¬ NamesImage server entry) :
      BasedOn environment server image
  /-- Else it is the usual one, which is empty when it is unset. -/
  | usual (bare : server.Bare) (none : ∀ entry ∈ environment.entries, ¬ NamesImage server entry) :
      BasedOn environment server (environment.getD "COMMANDER_BASE_IMAGE" "")

/-! ## Variables by instance -/

/-- The base image that a variable sets, with the name in lower case that it is for. -/
def imageSetBy (entry : String × String) : Option (String × String) :=
  if entry.2.isEmpty then none
  else (baseImageStem.toList.isPrefixOf? entry.1.toList).map fun name =>
    (Text.lower (String.ofList name), entry.2)

theorem image_set_by_eq_some_iff {entry pair : String × String} :
    imageSetBy entry = some pair ↔ entry.2 ≠ "" ∧ pair.2 = entry.2 ∧
      ∃ name, entry.1 = baseImageStem ++ name ∧ pair.1 = Text.lower name := by
  by_cases empty : entry.2 = ""
  · simp [imageSetBy, empty]
  · rw [imageSetBy, if_neg (by simpa using empty), Option.map_eq_some_iff]
    constructor
    · rintro ⟨rest, found, rfl⟩
      exact ⟨empty, rfl, _, Table.cut_eq_some_iff.mp found, rfl⟩
    · rintro ⟨-, value, name, key, lowered⟩
      refine ⟨name.toList, Table.cut_eq_some_iff.mpr (by simpa using key), ?_⟩
      rw [String.ofList_toList, ← lowered, ← value]

theorem names_image_iff {entry : String × String} :
    ((imageSetBy entry).any fun pair => pair.1 == Text.lower server.name.text) = true ↔
      NamesImage server entry := by
  rw [Option.any_eq_true]
  constructor
  · rintro ⟨pair, set, same⟩
    obtain ⟨filled, -, name, key, lowered⟩ := image_set_by_eq_some_iff.mp set
    exact ⟨filled, name, key, lowered ▸ beq_iff_eq.mp same⟩
  · rintro ⟨filled, name, key, same⟩
    exact ⟨(Text.lower name, entry.2),
      image_set_by_eq_some_iff.mpr ⟨filled, rfl, name, key, rfl⟩, beq_iff_eq.mpr same⟩

instance (server : Instance) : DecidablePred (NamesImage server) := fun _ =>
  decidable_of_iff _ names_image_iff

/-- The variables that name a base image for an instance, in the order of the environment. -/
def imageVariables (environment : Labels) (server : Instance) : List (String × String) :=
  environment.entries.filter (NamesImage server ·)

/-- Of the variables for one instance, the last one counts. -/
theorem base_images_get (environment : Labels) (server : Instance) :
    (baseImagesOf environment).get? (Text.lower server.name.text) =
      (imageVariables environment server).getLast?.map Prod.snd := by
  have pairs : baseImagesOf environment = .ofList (environment.entries.filterMap imageSetBy) := rfl
  have named : (fun entry : String × String =>
      (imageSetBy entry).any fun pair => pair.1 == Text.lower server.name.text) =
        fun entry => decide (NamesImage server entry) := by
    funext entry
    rw [Bool.eq_iff_iff, names_image_iff, decide_eq_true_iff]
  rw [pairs, Table.get?_ofList, ← List.filterMap_reverse, List.find?_filterMap, named,
    imageVariables, List.getLast?_eq_head?_reverse, ← List.filter_reverse, List.head?_filter]
  cases found : environment.entries.reverse.find? fun entry => decide (NamesImage server entry) with
  | none => rfl
  | some entry =>
      have names : NamesImage server entry := by simpa using List.find?_some found
      obtain ⟨filled, name, key, same⟩ := names
      have set : imageSetBy entry = some (Text.lower name, entry.2) :=
        image_set_by_eq_some_iff.mpr ⟨filled, rfl, name, key, rfl⟩
      simp [set]

/-! ## The choice -/

theorem of_environment_images (read : Config.ofEnvironment environment = .ok config) :
    config.baseImages = baseImagesOf environment ∧
      config.baseImage = environment.getD "COMMANDER_BASE_IMAGE" "" := by
  simp only [Config.ofEnvironment, bind, Except.bind] at read
  split at read
  · cases read
  split at read
  · cases read
  split at read
  · cases read
  split at read
  · cases read
  cases read
  exact ⟨rfl, rfl⟩

/-- The base image of an instance depends on the variables that name one for it, and on the one that
sets the usual image. -/
theorem base_image_eq (read : Config.ofEnvironment environment = .ok config) (server : Instance) :
    baseImageOf server config =
      if server.baseImage.getD "" = "" then
        ((imageVariables environment server).getLast?.map Prod.snd).getD
          (environment.getD "COMMANDER_BASE_IMAGE" "")
      else server.baseImage.getD "" := by
  obtain ⟨images, usual⟩ := of_environment_images read
  rw [baseImageOf, Table.getD, images, usual, base_images_get]
  simp only [String.isEmpty_iff]

theorem bare_iff : server.baseImage.getD "" = "" ↔ server.Bare := by
  rw [Instance.Bare]
  cases server.baseImage <;> simp

theorem image_variables_eq_nil_iff :
    imageVariables environment server = [] ↔
      ∀ entry ∈ environment.entries, ¬ NamesImage server entry := by
  simp [imageVariables, List.filter_eq_nil_iff]

theorem last_image_variable_iff {entry : String × String} :
    (imageVariables environment server).getLast? = some entry ↔
      NamesImage server entry ∧ ∃ before after, environment.entries = before ++ entry :: after ∧
        ∀ other ∈ after, ¬ NamesImage server other := by
  rw [imageVariables, List.getLast?_eq_head?_reverse, ← List.filter_reverse, List.head?_filter,
    List.find?_eq_some_iff_append, decide_eq_true_iff]
  refine and_congr_right fun _ => ?_
  constructor
  · rintro ⟨after, before, reversed, others⟩
    refine ⟨before.reverse, after.reverse, ?_, fun other member => ?_⟩
    · simpa using congrArg List.reverse reversed
    · simpa using others other (List.mem_reverse.mp member)
  · rintro ⟨before, after, entries, others⟩
    refine ⟨after.reverse, before.reverse, by simp [entries], fun other member => ?_⟩
    simpa using others other (List.mem_reverse.mp member)

/-- An environment bases an instance on one image. -/
theorem based_on_base_image (read : Config.ofEnvironment environment = .ok config)
    (server : Instance) : BasedOn environment server (baseImageOf server config) := by
  rw [base_image_eq read]
  by_cases bare : server.baseImage.getD "" = ""
  · have known : server.Bare := bare_iff.mp bare
    rw [if_pos bare]
    cases last : (imageVariables environment server).getLast? with
    | none =>
        have none := image_variables_eq_nil_iff.mp (List.getLast?_eq_none_iff.mp last)
        exact .usual known none
    | some entry =>
        obtain ⟨names, before, after, entries, others⟩ := last_image_variable_iff.mp last
        exact .named known entries names others
  · rw [if_neg bare]
    cases set : server.baseImage with
    | none => simp [set] at bare
    | some image => exact .own set (by simpa [set] using bare)

theorem BasedOn.eq {image : String} (read : Config.ofEnvironment environment = .ok config)
    (based : BasedOn environment server image) : baseImageOf server config = image := by
  rw [base_image_eq read]
  cases based with
  | own set filled => simp [set, filled]
  | named bare entries names last =>
      rw [if_pos (bare_iff.mpr bare),
        last_image_variable_iff.mpr ⟨names, _, _, entries, last⟩]
      rfl
  | usual bare none =>
      rw [if_pos (bare_iff.mpr bare), image_variables_eq_nil_iff.mpr none]
      rfl

/-- An instance is based on its own image, on that of the last variable that names one for it, or on
the usual one. Environments that agree on these variables base it on the same image. -/
theorem base_image_from_environment (read : Config.ofEnvironment environment = .ok config)
    (server : Instance) :
    (∀ image, baseImageOf server config = image ↔ BasedOn environment server image) ∧
      ∀ other config', Config.ofEnvironment other = .ok config' →
        other.entries.filter (NamesImage server ·) =
          environment.entries.filter (NamesImage server ·) →
        other.get? "COMMANDER_BASE_IMAGE" = environment.get? "COMMANDER_BASE_IMAGE" →
        baseImageOf server config' = baseImageOf server config := by
  refine ⟨fun image => ⟨fun same => ?_, fun based => based.eq read⟩, ?_⟩
  · exact same ▸ based_on_base_image read server
  · intro other config' readOther same usual
    rw [base_image_eq readOther, base_image_eq read]
    simp only [imageVariables, same, Table.getD, usual]

/-- Three variables name an image for `hs1`, the last of them in capitals, and an empty one does not
count. -/
def imagedEnvironment : Labels :=
  .ofList
    [("COMMANDER_BASE_IMAGE", "usual"), ("COMMANDER_BASE_IMAGE_hs1", "first"),
      ("COMMANDER_BASE_IMAGE_HS1", "last"), ("COMMANDER_BASE_IMAGE_HS2", "other"),
      ("COMMANDER_BASE_IMAGE_Hs1", "")]

def imagedConfig : Config :=
  { Config.usual with
    baseImage := "usual"
    baseImages := .ofList [("hs1", "last"), ("hs2", "other")] }

/-- An instance whose own image is empty. -/
def imagedServer : Instance := ⟨⟨"hS1", by decide⟩, some "", [], []⟩

theorem base_image_from_variables :
    Config.ofEnvironment imagedEnvironment = .ok imagedConfig ∧
      ((∀ image, baseImageOf imagedServer imagedConfig = image ↔
          BasedOn imagedEnvironment imagedServer image) ∧
        ∀ other config', Config.ofEnvironment other = .ok config' →
          other.entries.filter (NamesImage imagedServer ·) =
            imagedEnvironment.entries.filter (NamesImage imagedServer ·) →
          other.get? "COMMANDER_BASE_IMAGE" = imagedEnvironment.get? "COMMANDER_BASE_IMAGE" →
          baseImageOf imagedServer config' = baseImageOf imagedServer imagedConfig) ∧
      baseImageOf imagedServer imagedConfig = "last" := by
  have read : Config.ofEnvironment imagedEnvironment = .ok imagedConfig := by decide +kernel
  exact ⟨read, base_image_from_environment read imagedServer, by decide +kernel⟩

end FixtureImages
