import FixtureImages.Blueprint.Folder
import FixtureImages.Proofs.Blueprint.Plain
import FixtureImages.Proofs.Labels.Table
import Mathlib.Data.List.Forall2
import Mathlib.Data.List.Induction
import Mathlib.Data.String.Basic

/-!
# Folders that are loaded

Of a folder the files count whose names have one of the two endings, in an order that their names
settle. Loading ends in a table of all blueprints or in the fault of the first file that cannot be
loaded or repeats a name; nothing else in the folder matters, nor how it is listed.
-/

namespace FixtureImages

set_option autoImplicit false

open List (Forall₂)

namespace FileTree

/-- At a path stands a folder with these entries, each of a name of its own. -/
structure Lists (tree : FileTree) (folder : List String) (entries : List (String × FileTree)) :
    Prop where
  here : tree.find "" folder = .ok (.folder entries)
  distinct : (entries.map Prod.fst).Nodup

variable {tree inner : FileTree} {folder : List String} {entries : List (String × FileTree)}

theorem names_of_lists (listed : tree.Lists folder entries) :
    tree.names folder = entries.map Prod.fst := by
  simp only [names, listed.here]

/-- What stands below a path is found from there, with faults of whatever path is shown. -/
theorem find_below {shown other : String} (found : tree.find shown folder = .ok inner)
    (rest : List String) : tree.find other (folder ++ rest) = inner.find other rest := by
  induction folder generalizing tree with
  | nil =>
      cases found
      rfl
  | cons part parts ih =>
      cases tree with
      | file bytes => cases found
      | folder entries =>
          rw [find] at found
          rw [List.cons_append, find]
          cases held : entries.lookup part with
          | none =>
              rw [held] at found
              cases found
          | some next =>
              rw [held] at found
              exact ih found

theorem lookup_iff_mem {entries : List (String × FileTree)}
    (distinct : (entries.map Prod.fst).Nodup) (name : String) (content : FileTree) :
    entries.lookup name = some content ↔ (name, content) ∈ entries := by
  rw [List.lookup_eq_some_iff]
  constructor
  · rintro ⟨before, after, rfl, -⟩
    exact List.mem_append_right _ List.mem_cons_self
  · intro member
    obtain ⟨before, after, rfl⟩ := List.append_of_mem member
    refine ⟨before, after, rfl, fun entry earlier => ?_⟩
    rw [List.map_append, List.nodup_append] at distinct
    rw [bne_iff_ne]
    exact (distinct.2.2 entry.1 (List.mem_map_of_mem earlier) name List.mem_cons_self).symm

/-- What is read of a file depends on what its folder lists under its name. -/
theorem read_text_of_lists {other : FileTree} {others : List (String × FileTree)}
    (listed : tree.Lists folder entries) (elsewhere : other.Lists folder others) {name : String}
    (same : ∀ content, (name, content) ∈ entries ↔ (name, content) ∈ others) (root : String) :
    tree.readText root (folder ++ [name]) = other.readText root (folder ++ [name]) := by
  have held : entries.lookup name = others.lookup name := by
    refine Option.ext fun content => ?_
    rw [lookup_iff_mem listed.distinct, lookup_iff_mem elsewhere.distinct, same]
  simp only [readText, find_below listed.here, find_below elsewhere.here, find, held]

end FileTree

namespace Blueprint

theorem ends_with_iff {ending name : String} :
    endsWith ending name = true ↔ ∃ stem, name = stem ++ ending := by
  rw [endsWith, List.isPrefixOf_iff_prefix, List.reverse_prefix]
  constructor
  · rintro ⟨front, whole⟩
    refine ⟨String.ofList front, ?_⟩
    rw [← String.toList_inj, String.toList_append, String.toList_ofList, whole]
  · rintro ⟨stem, rfl⟩
    exact ⟨stem.toList, String.toList_append.symm⟩

theorem place_name_perm (name : String) (names : List String) :
    (placeName name names).Perm (name :: names) := by
  induction names with
  | nil => exact .refl _
  | cons other rest ih =>
      rw [placeName]
      split
      · exact .refl _
      · exact (ih.cons other).trans (.swap name other rest)

theorem sort_names_perm (names : List String) : (sortNames names).Perm names := by
  induction names with
  | nil => exact .refl _
  | cons name rest ih => exact (place_name_perm name (sortNames rest)).trans (ih.cons name)

theorem place_name_ascending {name : String} {names : List String}
    (ascending : names.Pairwise (· < ·)) (new : name ∉ names) :
    (placeName name names).Pairwise (· < ·) := by
  induction names with
  | nil => exact List.pairwise_singleton _ _
  | cons other rest ih =>
      obtain ⟨least, later⟩ := List.pairwise_cons.mp ascending
      rw [List.mem_cons, not_or] at new
      rw [placeName]
      split
      next first =>
        refine List.pairwise_cons.mpr ⟨fun third member => ?_, ascending⟩
        rcases List.mem_cons.mp member with rfl | behind
        · exact first
        · exact lt_trans first (least third behind)
      next last =>
        have above : other < name := lt_of_le_of_ne (not_lt.mp last) (Ne.symm new.1)
        refine List.pairwise_cons.mpr ⟨fun third member => ?_, ih later new.2⟩
        rcases List.mem_cons.mp ((place_name_perm name rest).mem_iff.mp member) with rfl | behind
        · exact above
        · exact least third behind

theorem sort_names_ascending {names : List String} (distinct : names.Nodup) :
    (sortNames names).Pairwise (· < ·) := by
  induction names with
  | nil => exact .nil
  | cons name rest ih =>
      obtain ⟨new, distinct⟩ := List.nodup_cons.mp distinct
      exact place_name_ascending (ih distinct) fun member =>
        new ((sort_names_perm rest).mem_iff.mp member)

/-- The names that end in a certain way, in order. -/
structure NamesInOrder (ending : String) (names files : List String) : Prop where
  members : ∀ file, file ∈ files ↔ file ∈ names ∧ ∃ stem, file = stem ++ ending
  ascending : files.Pairwise (· < ·)

/-- The files that are loaded of a folder with these names, in turn: first those with the long
ending and then those with the short one. -/
def LoadingOrder (names files : List String) : Prop :=
  ∃ long short, NamesInOrder ".yaml" names long ∧ NamesInOrder ".yml" names short ∧
    files = long ++ short

theorem names_in_order_unique {ending : String} {names files others : List String}
    (one : NamesInOrder ending names files) (two : NamesInOrder ending names others) :
    files = others := by
  have members : ∀ file, file ∈ files ↔ file ∈ others := fun file => by
    rw [one.members, two.members]
  have perm := (List.perm_ext_iff_of_nodup one.ascending.nodup two.ascending.nodup).mpr members
  exact perm.eq_of_pairwise (fun _ _ _ _ up down => absurd up (lt_asymm down))
    one.ascending two.ascending

theorem sort_names_in_order (ending : String) {names : List String} (distinct : names.Nodup) :
    NamesInOrder ending names (sortNames (names.filter (endsWith ending))) where
  members file := by
    rw [(sort_names_perm _).mem_iff, List.mem_filter, ends_with_iff]
  ascending := sort_names_ascending (distinct.filter _)

theorem loading_order_iff {names : List String} (distinct : names.Nodup) (files : List String) :
    LoadingOrder names files ↔ files = fileOrder names := by
  constructor
  · rintro ⟨long, short, first, second, rfl⟩
    rw [names_in_order_unique first (sort_names_in_order _ distinct),
      names_in_order_unique second (sort_names_in_order _ distinct)]
    rfl
  · rintro rfl
    exact ⟨_, _, sort_names_in_order _ distinct, sort_names_in_order _ distinct, rfl⟩

def blueprintNames (blueprints : List Blueprint) : List String :=
  blueprints.map fun blueprint => blueprint.name.text

def tableEntry (blueprint : Blueprint) : String × Blueprint := (blueprint.name.text, blueprint)

theorem table_entry_names (blueprints : List Blueprint) :
    (blueprints.map tableEntry).map Prod.fst = blueprintNames blueprints :=
  List.map_map

section

variable (root : String) (folder : List String) (tree : FileTree)

/-- Files of a folder hold blueprints, each its own. -/
def Hold (files : List String) (blueprints : List Blueprint) : Prop :=
  Forall₂ (fun file blueprint => load root (folder ++ [file]) tree = .ok blueprint) files blueprints

/-- Why a file is refused after blueprints that were loaded before it. -/
inductive Refused (earlier : List Blueprint) (file : String) : LoadFault → Prop
  | unloadable {fault : LoadFault} (failed : load root (folder ++ [file]) tree = .error fault) :
      Refused earlier file fault
  | repeated {blueprint : Blueprint} (held : load root (folder ++ [file]) tree = .ok blueprint)
      (known : blueprint.name.text ∈ blueprintNames earlier) :
      Refused earlier file (.duplicate blueprint.name.text (joinPath root (folder ++ [file])))

/-- The fault of the first file that is refused: those before it hold blueprints of distinct
names. -/
def FirstRefused (files : List String) (fault : LoadFault) : Prop :=
  ∃ before file after earlier, files = before ++ file :: after ∧
    Hold root folder tree before earlier ∧ (blueprintNames earlier).Nodup ∧
    Refused root folder tree earlier file fault

end

section

variable {root : String} {folder : List String} {tree : FileTree} {loaded table : Table Blueprint}
  {blueprint : Blueprint} {blueprints earlier : List Blueprint} {file : String}
  {files : List String}

theorem contains_iff {name : String} : loaded.contains name = true ↔ name ∈ loaded.keys :=
  Table.get?_isSome_iff

theorem load_of_text {parts : List String} {text : String}
    (read : tree.readText root parts = .ok text) (made : ofYaml text = .ok blueprint) :
    load root parts tree = .ok blueprint := by
  simp only [load, read, made]
  rfl

theorem load_files_new (held : load root (folder ++ [file]) tree = .ok blueprint)
    (new : blueprint.name.text ∉ loaded.keys) (rest : List String) :
    (loadFiles root folder tree loaded (file :: rest)).2 =
      (loadFiles root folder tree (loaded.insert blueprint.name.text blueprint) rest).2 := by
  simp only [loadFiles, held]
  rw [if_neg (mt contains_iff.mp new)]

/-- A file that is refused ends the loading with its fault. -/
theorem load_files_refused {fault : LoadFault}
    (refused : Refused root folder tree earlier file fault)
    (entries : loaded.entries = earlier.map tableEntry) (rest : List String) :
    (loadFiles root folder tree loaded (file :: rest)).2 = .error fault := by
  cases refused with
  | unloadable failed => simp only [loadFiles, failed]
  | @repeated blueprint held known =>
      have present : blueprint.name.text ∈ loaded.keys := by
        rw [Table.keys, entries, table_entry_names]
        exact known
      simp only [loadFiles, held]
      rw [if_pos (contains_iff.mpr present)]

/-- Files that hold blueprints of new names are loaded, and what follows is loaded after them. -/
theorem load_files_append (held : Hold root folder tree files blueprints)
    (grown : table.entries = loaded.entries ++ blueprints.map tableEntry) (rest : List String) :
    (loadFiles root folder tree loaded (files ++ rest)).2 =
      (loadFiles root folder tree table rest).2 := by
  induction held generalizing loaded with
  | nil =>
      rw [List.map_nil, List.append_nil] at grown
      have same : table = loaded := by
        cases table
        cases loaded
        cases grown
        rfl
      rw [same]
      rfl
  | @cons file blueprint files blueprints own _ ih =>
      -- The table in the end has distinct keys, so that no name along the way is there already.
      have new : blueprint.name.text ∉ loaded.keys := by
        have distinct := table.distinct
        rw [grown, List.map_append, List.nodup_append] at distinct
        exact fun member => distinct.2.2 _ member _ List.mem_cons_self rfl
      have entries : (loaded.insert blueprint.name.text blueprint).entries =
          loaded.entries ++ [tableEntry blueprint] := Plain.insert_entry_new new
      rw [List.cons_append, load_files_new own new]
      refine ih ?_
      rw [entries, grown, List.append_assoc]
      rfl

/-- The table of blueprints of distinct names. -/
def tableOf (blueprints : List Blueprint) (distinct : (blueprintNames blueprints).Nodup) :
    Table Blueprint :=
  ⟨blueprints.map tableEntry, by rwa [table_entry_names]⟩

theorem load_files_all (held : Hold root folder tree files blueprints)
    (distinct : (blueprintNames blueprints).Nodup) :
    (loadFiles root folder tree ∅ files).2 = .ok (tableOf blueprints distinct) := by
  have whole := @load_files_append root folder tree ∅ (tableOf blueprints distinct) _ _ held rfl []
  rw [List.append_nil] at whole
  exact whole

theorem load_files_first_refused {fault : LoadFault}
    (first : FirstRefused root folder tree files fault) :
    (loadFiles root folder tree ∅ files).2 = .error fault := by
  obtain ⟨before, file, after, earlier, rfl, held, distinct, refused⟩ := first
  have front := @load_files_append root folder tree ∅ (tableOf earlier distinct) _ _ held rfl
    (file :: after)
  rw [front]
  exact load_files_refused refused rfl after

/-- Either all files hold blueprints of distinct names, or one of them is the first to be
refused. -/
theorem all_hold_or_first_refused (root : String) (folder : List String) (tree : FileTree)
    (files : List String) :
    (∃ blueprints, Hold root folder tree files blueprints ∧ (blueprintNames blueprints).Nodup) ∨
      ∃ fault, FirstRefused root folder tree files fault := by
  -- From the back: what decides about a file is how all files in front of it went.
  induction files using List.reverseRecOn with
  | nil => exact .inl ⟨[], .nil, .nil⟩
  | append_singleton files file ih =>
      rcases ih with
        ⟨blueprints, held, distinct⟩ | ⟨fault, before, other, after, earlier, rfl, rest⟩
      · cases read : load root (folder ++ [file]) tree with
        | error fault =>
            exact .inr ⟨fault, files, file, [], blueprints, rfl, held, distinct, .unloadable read⟩
        | ok blueprint =>
            by_cases known : blueprint.name.text ∈ blueprintNames blueprints
            · exact .inr ⟨_, files, file, [], blueprints, rfl, held, distinct, .repeated read known⟩
            · refine .inl ⟨blueprints ++ [blueprint], List.rel_append held (.cons read .nil), ?_⟩
              rw [blueprintNames, List.map_append]
              exact distinct.append (List.nodup_singleton _)
                (List.disjoint_singleton.mpr known)
      · exact .inr ⟨fault, before, other, after ++ [file], earlier, by simp, rest⟩

theorem load_files_ok_iff :
    (loadFiles root folder tree ∅ files).2 = .ok table ↔
      ∃ blueprints, Hold root folder tree files blueprints ∧ (blueprintNames blueprints).Nodup ∧
        table.entries = blueprints.map tableEntry := by
  constructor
  · intro ended
    rcases all_hold_or_first_refused root folder tree files with
      ⟨blueprints, held, distinct⟩ | ⟨fault, first⟩
    · rw [load_files_all held distinct] at ended
      cases ended
      exact ⟨blueprints, held, distinct, rfl⟩
    · rw [load_files_first_refused first] at ended
      cases ended
  · rintro ⟨blueprints, held, distinct, entries⟩
    rw [load_files_all held distinct]
    cases table
    cases entries
    rfl

theorem load_files_error_iff {fault : LoadFault} :
    (loadFiles root folder tree ∅ files).2 = .error fault ↔
      FirstRefused root folder tree files fault := by
  refine ⟨fun ended => ?_, load_files_first_refused⟩
  rcases all_hold_or_first_refused root folder tree files with
    ⟨blueprints, held, distinct⟩ | ⟨other, first⟩
  · rw [load_files_all held distinct] at ended
    cases ended
  · rw [load_files_first_refused first] at ended
    cases ended
    exact first

/-- Loading goes the same way wherever the files read the same. -/
theorem load_files_congr {other : FileTree}
    (same : ∀ file ∈ files,
      tree.readText root (folder ++ [file]) = other.readText root (folder ++ [file])) :
    loadFiles root folder tree loaded files = loadFiles root folder other loaded files := by
  induction files generalizing loaded with
  | nil => rfl
  | cons file rest ih =>
      obtain ⟨own, others⟩ := List.forall_mem_cons.mp same
      have reads : load root (folder ++ [file]) tree = load root (folder ++ [file]) other := by
        rw [load, load, own]
      simp only [loadFiles, reads, ih others]

end

/-- Two listings agree on the files of blueprints, whatever else they list and in whatever order. -/
def SameFiles (entries others : List (String × FileTree)) : Prop :=
  ∀ stem, ∀ ending ∈ [".yaml", ".yml"], ∀ content,
    (stem ++ ending, content) ∈ entries ↔ (stem ++ ending, content) ∈ others

section

variable {tree other : FileTree} {folder : List String} {entries others : List (String × FileTree)}

theorem names_in_order_of_same {ending : String} {files : List String}
    (same : SameFiles entries others) (known : ending ∈ [".yaml", ".yml"])
    (sorted : NamesInOrder ending (entries.map Prod.fst) files) :
    NamesInOrder ending (others.map Prod.fst) files where
  members file := by
    rw [sorted.members]
    refine and_congr_left fun ⟨stem, ends⟩ => ?_
    subst ends
    simp only [List.mem_map, Prod.exists, exists_and_right, exists_eq_right,
      same stem ending known]
  ascending := sorted.ascending

theorem file_order_of_same (listed : tree.Lists folder entries)
    (elsewhere : other.Lists folder others) (same : SameFiles entries others) :
    fileOrder (tree.names folder) = fileOrder (other.names folder) := by
  rw [FileTree.names_of_lists listed, FileTree.names_of_lists elsewhere,
    ← loading_order_iff elsewhere.distinct]
  obtain ⟨long, short, first, second, split⟩ := (loading_order_iff listed.distinct _).mpr rfl
  exact ⟨long, short, names_in_order_of_same same (by simp) first,
    names_in_order_of_same same (by simp) second, split⟩

theorem file_order_ending {names : List String} (distinct : names.Nodup) {file : String}
    (member : file ∈ fileOrder names) :
    ∃ stem, ∃ ending ∈ [".yaml", ".yml"], file = stem ++ ending := by
  obtain ⟨long, short, first, second, split⟩ := (loading_order_iff distinct _).mpr rfl
  rw [split] at member
  rcases List.mem_append.mp member with front | back
  · obtain ⟨-, stem, ends⟩ := (first.members file).mp front
    exact ⟨stem, _, List.mem_cons_self, ends⟩
  · obtain ⟨-, stem, ends⟩ := (second.members file).mp back
    exact ⟨stem, _, List.mem_cons_of_mem _ List.mem_cons_self, ends⟩

theorem load_folder_of_same (root : String) (listed : tree.Lists folder entries)
    (elsewhere : other.Lists folder others) (same : SameFiles entries others) :
    loadFolder root folder tree = loadFolder root folder other := by
  rw [loadFolder, loadFolder, ← file_order_of_same listed elsewhere same]
  refine load_files_congr fun file member => ?_
  rw [FileTree.names_of_lists listed] at member
  obtain ⟨stem, ending, known, rfl⟩ := file_order_ending listed.distinct member
  exact FileTree.read_text_of_lists listed elsewhere (same stem ending known) root

end

/-- How the blueprints of a folder with these entries are loaded, file by file. -/
structure LoadsInOrder (root : String) (folder : List String) (tree : FileTree)
    (entries : List (String × FileTree)) (files : List String) : Prop where
  order : ∀ list, LoadingOrder (entries.map Prod.fst) list ↔ list = files
  loaded : ∀ table, (loadFolder root folder tree).2 = .ok table ↔
    ∃ blueprints, Hold root folder tree files blueprints ∧ (blueprintNames blueprints).Nodup ∧
      table.entries = blueprints.map tableEntry
  refused : ∀ fault, (loadFolder root folder tree).2 = .error fault ↔
    FirstRefused root folder tree files fault
  elsewhere : ∀ other others, FileTree.Lists other folder others → SameFiles entries others →
    loadFolder root folder tree = loadFolder root folder other

/-- A folder is loaded in the order of its files, up to the first that is refused, and regardless of
what else it lists and in which order. -/
theorem folder_loads_in_order (root : String) {folder : List String} {tree : FileTree}
    {entries : List (String × FileTree)} (listed : tree.Lists folder entries) :
    ∃ files, LoadsInOrder root folder tree entries files := by
  refine ⟨fileOrder (tree.names folder), ?_, fun _ => load_files_ok_iff,
    fun _ => load_files_error_iff, fun _ _ => load_folder_of_same root listed⟩
  rw [FileTree.names_of_lists listed]
  exact loading_order_iff listed.distinct

/-- A document with a blueprint of one server. -/
def plainText : String := "name: bp\ninstances: [{name: hs1}]\n"

def plainFile : FileTree := .file (Text.utf8 plainText)

def plainBlueprint : Blueprint where
  name := ⟨"bp", bp_named⟩
  instances := [⟨⟨"hs1", hs1_named⟩, none, [], []⟩]
  keepCredentialsFor := []
  nonempty := by simp
  distinct := by decide

/-- Two files with one blueprint, whose endings put them in the other order than their names. -/
def twofold : List (String × FileTree) :=
  [("a.yml", plainFile), ("notes.txt", .file []), ("b.yaml", plainFile)]

def twofoldElsewhere : List (String × FileTree) :=
  [("b.yaml", plainFile), ("b.yaml.old", .folder []), ("a.yml", plainFile)]

theorem twofold_same_files : SameFiles twofold twofoldElsewhere := by
  intro stem ending known content
  have other {name : String} (apart : endsWith ending name = false) : stem ++ ending ≠ name :=
    fun same => Bool.false_ne_true (apart.symm.trans (ends_with_iff.mpr ⟨stem, same.symm⟩))
  have notes : stem ++ ending ≠ "notes.txt" := other (by clear other; revert ending; decide)
  have old : stem ++ ending ≠ "b.yaml.old" := other (by clear other notes; revert ending; decide)
  simp only [twofold, twofoldElsewhere, List.mem_cons, Prod.mk.injEq, notes, old, false_and,
    List.not_mem_nil, or_false, false_or]
  exact or_comm

theorem second_of_twofold_refused :
    (FileTree.folder twofold).Lists [] twofold ∧
      (loadFolder "shelf" [] (.folder twofold)).2 = .error (.duplicate "bp" "shelf/a.yml") ∧
      loadFolder "shelf" [] (.folder twofold) =
        loadFolder "shelf" [] (.folder twofoldElsewhere) := by
  have listed : (FileTree.folder twofold).Lists [] twofold := ⟨rfl, by decide⟩
  have elsewhere : (FileTree.folder twofoldElsewhere).Lists [] twofoldElsewhere :=
    ⟨rfl, by decide⟩
  obtain ⟨files, loads⟩ := folder_loads_in_order "shelf" listed
  have order : fileOrder (twofold.map Prod.fst) = ["b.yaml", "a.yml"] := by decide +kernel
  have turns : ["b.yaml", "a.yml"] = files :=
    (loads.order _).mp ((loading_order_iff listed.distinct _).mpr order.symm)
  have made : ofYaml plainText = .ok plainBlueprint := by decide +kernel
  have one : FileTree.readText "shelf" ["b.yaml"] (.folder twofold) = .ok plainText := by
    decide +kernel
  have two : FileTree.readText "shelf" ["a.yml"] (.folder twofold) = .ok plainText := by
    decide +kernel
  have first : load "shelf" ["b.yaml"] (.folder twofold) = .ok plainBlueprint :=
    load_of_text one made
  have second : load "shelf" ["a.yml"] (.folder twofold) = .ok plainBlueprint :=
    load_of_text two made
  have refused := @Refused.repeated "shelf" [] (.folder twofold) [plainBlueprint] "a.yml" _ second
    (List.mem_singleton_self _)
  have path : joinPath "shelf" ([] ++ ["a.yml"]) = "shelf/a.yml" := by decide +kernel
  rw [path] at refused
  refine ⟨listed, (loads.refused _).mpr ?_, loads.elsewhere _ _ elsewhere twofold_same_files⟩
  exact ⟨["b.yaml"], "a.yml", [], [plainBlueprint], turns.symm, .cons first .nil,
    List.nodup_singleton _, refused⟩

end Blueprint

end FixtureImages
