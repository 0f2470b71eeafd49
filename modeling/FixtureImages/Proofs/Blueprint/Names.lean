import FixtureImages.Config.Environment
import FixtureImages.Config.Validation
import FixtureImages.Proofs.Blueprint.Validation
import FixtureImages.Proofs.Labels.Table

/-!
# The grammar of names

A name is made of ASCII letters, digits, underscores and hyphens, and does not begin with a hyphen.
What is let pass for a name is that, or that and one line feed behind it, and never a missing text.
These are exactly the names that instances, blueprints and namespaces can have, whatever data or
variables they are made of.
-/

namespace FixtureImages

set_option autoImplicit false

/-! ## The grammar -/

def IsNameCharacter (c : Char) : Prop :=
  ('A' ≤ c ∧ c ≤ 'Z') ∨ ('a' ≤ c ∧ c ≤ 'z') ∨ ('0' ≤ c ∧ c ≤ '9') ∨ c = '_' ∨ c = '-'

structure WellNamed (text : String) : Prop where
  filled : text ≠ ""
  characters : ∀ c ∈ text.toList, IsNameCharacter c
  start : text.toList.head? ≠ some '-'

/-- A name with a line feed behind it. -/
def EndsLine (text : String) : Prop := ∃ front, WellNamed front ∧ text = front ++ "\n"

/-- What is let pass for a name. -/
def PassesForName (text : String) : Prop := WellNamed text ∨ EndsLine text

theorem line_feed_no_name_character : ¬IsNameCharacter '\n' := by
  rintro (upper | lower | digit | underscore | hyphen)
  · exact absurd upper (by decide)
  · exact absurd lower (by decide)
  · exact absurd digit (by decide)
  · exact absurd underscore (by decide)
  · exact absurd hyphen (by decide)

theorem EndsLine.not_well_named {text : String} (ends : EndsLine text) : ¬WellNamed text := by
  obtain ⟨front, -, rfl⟩ := ends
  intro named
  refine line_feed_no_name_character (named.characters '\n' ?_)
  rw [String.toList_append]
  exact List.mem_append_right _ (by decide)

/-- Nothing but characters of names and a line feed passes. -/
theorem PassesForName.character {text : String} (passes : PassesForName text) {c : Char}
    (member : c ∈ text.toList) : IsNameCharacter c ∨ c = '\n' := by
  rcases passes with named | ⟨front, named, rfl⟩
  · exact .inl (named.characters c member)
  · rw [String.toList_append, List.mem_append] at member
    exact member.imp (named.characters c) List.mem_singleton.mp

/-- The line feed is all that stands between what passes for a name and the grammar. -/
theorem passes_for_name_well_iff (text : String) :
    (PassesForName text ↔ WellNamed text) ↔ ¬EndsLine text := by
  constructor
  · intro same ends
    exact ends.not_well_named (same.mp (.inr ends))
  · intro unbroken
    exact ⟨fun passes => passes.resolve_right unbroken, .inl⟩

/-! ## The check of a name -/

theorem is_upper_iff (c : Char) : c.isUpper = true ↔ 'A' ≤ c ∧ c ≤ 'Z' :=
  decide_eq_true_iff

theorem is_lower_iff (c : Char) : c.isLower = true ↔ 'a' ≤ c ∧ c ≤ 'z' :=
  Bool.and_eq_true_iff.trans (and_congr decide_eq_true_iff decide_eq_true_iff)

theorem is_digit_iff (c : Char) : c.isDigit = true ↔ '0' ≤ c ∧ c ≤ '9' :=
  Bool.and_eq_true_iff.trans (and_congr decide_eq_true_iff decide_eq_true_iff)

theorem is_name_char_iff (c : Char) : isNameChar c = true ↔ IsNameCharacter c := by
  have alphanumeric : c.isAlphanum = (c.isUpper || c.isLower || c.isDigit) := rfl
  simp only [isNameChar, isNameStart, alphanumeric, Bool.or_eq_true, beq_iff_eq, is_upper_iff,
    is_lower_iff, is_digit_iff, or_assoc]
  exact Iff.rfl

theorem is_name_start_iff (c : Char) : isNameStart c = true ↔ IsNameCharacter c ∧ c ≠ '-' := by
  rw [← is_name_char_iff, isNameChar, Bool.or_eq_true, beq_iff_eq]
  constructor
  · intro start
    refine ⟨.inl start, ?_⟩
    rintro rfl
    exact absurd start (by decide)
  · rintro ⟨own, other⟩
    exact own.resolve_right other

/-- Behind its first character, a name goes on to the end or to a line feed at the end. -/
theorem is_name_rest_iff (rest : List Char) : isNameRest rest = true ↔
    ∃ front, (rest = front ∨ rest = front ++ ['\n']) ∧ ∀ c ∈ front, IsNameCharacter c := by
  fun_induction isNameRest rest with
  | case1 => exact iff_of_true rfl ⟨[], .inl rfl, by simp⟩
  | case2 => exact iff_of_true rfl ⟨[], .inr rfl, by simp⟩
  | case3 c rest last ih =>
      rw [Bool.and_eq_true, is_name_char_iff, ih]
      constructor
      · rintro ⟨own, front, form, others⟩
        refine ⟨c :: front, ?_, List.forall_mem_cons.mpr ⟨own, others⟩⟩
        exact form.imp (congrArg (c :: ·)) (congrArg (c :: ·))
      · rintro ⟨front, form, all⟩
        cases front with
        | nil =>
            rcases form with empty | single
            · cases empty
            · obtain ⟨rfl, rfl⟩ := List.cons.inj single
              exact absurd rfl (last rfl)
        | cons own front =>
            obtain ⟨first, others⟩ := List.forall_mem_cons.mp all
            rcases form with same | same
            · obtain ⟨rfl, rfl⟩ := List.cons.inj same
              exact ⟨first, _, .inl rfl, others⟩
            · obtain ⟨rfl, rfl⟩ := List.cons.inj same
              exact ⟨first, front, .inr rfl, others⟩

theorem well_named_cons_iff (c : Char) (rest : List Char) :
    WellNamed (String.ofList (c :: rest)) ↔
      isNameStart c = true ∧ ∀ other ∈ rest, IsNameCharacter other := by
  rw [is_name_start_iff]
  constructor
  · rintro ⟨-, characters, start⟩
    rw [String.toList_ofList] at characters start
    obtain ⟨own, others⟩ := List.forall_mem_cons.mp characters
    exact ⟨⟨own, fun same => start (congrArg some same)⟩, others⟩
  · rintro ⟨⟨own, other⟩, others⟩
    constructor
    · intro empty
      exact absurd (congrArg String.toList empty) (by simp)
    · rw [String.toList_ofList]
      exact List.forall_mem_cons.mpr ⟨own, others⟩
    · rw [String.toList_ofList]
      exact fun same => other (Option.some.inj same)

theorem is_name_iff (text : String) : isName text.toList = true ↔ PassesForName text := by
  obtain ⟨chars, rfl⟩ : ∃ chars, text = String.ofList chars := ⟨_, String.ofList_toList.symm⟩
  rw [String.toList_ofList]
  cases chars with
  | nil =>
      refine iff_of_false (by decide) ?_
      rintro (named | ⟨front, -, same⟩)
      · exact named.filled rfl
      · exact absurd (congrArg String.toList same) (by simp)
  | cons c rest =>
      rw [isName, Bool.and_eq_true, is_name_rest_iff]
      constructor
      · rintro ⟨start, front, rfl | rfl, all⟩
        · exact .inl ((well_named_cons_iff c rest).mpr ⟨start, all⟩)
        · refine .inr ⟨String.ofList (c :: front), (well_named_cons_iff c front).mpr ⟨start, all⟩, ?_⟩
          rw [← String.toList_inj]
          simp
      · rintro (named | ⟨front, named, same⟩)
        · obtain ⟨start, all⟩ := (well_named_cons_iff c rest).mp named
          exact ⟨start, rest, .inl rfl, all⟩
        · obtain ⟨chars, rfl⟩ : ∃ chars, front = String.ofList chars :=
            ⟨_, String.ofList_toList.symm⟩
          have whole : c :: rest = chars ++ ['\n'] := by
            simpa using congrArg String.toList same
          cases chars with
          | nil => exact absurd rfl named.filled
          | cons first front =>
              obtain ⟨rfl, rfl⟩ := List.cons.inj whole
              obtain ⟨start, all⟩ := (well_named_cons_iff c front).mp named
              exact ⟨start, front, .inr rfl, all⟩

theorem Name.passes (name : Name) : PassesForName name.text := (is_name_iff name.text).mp name.valid

/-- A text is accepted as it is if it passes for a name. -/
theorem name_of_text_iff (what : String) (given : Option String) (text : String) :
    (Name.of what given).toOption.map Name.text = some text ↔
      given = some text ∧ PassesForName text := by
  cases given with
  | none => exact iff_of_false (fun given => by cases given) fun given => by cases given.1
  | some own =>
      rw [← is_name_iff]
      by_cases named : isName own.toList = true
      · have made : Name.of what (some own) = .ok ⟨own, named⟩ := dif_pos named
        rw [made]
        constructor
        · intro same
          cases same
          exact ⟨rfl, named⟩
        · rintro ⟨same, -⟩
          cases same
          rfl
      · have refused : Name.of what (some own) = .error ⟨what, some own⟩ := dif_neg named
        rw [refused]
        refine iff_of_false (fun same => by cases same) ?_
        rintro ⟨same, passes⟩
        cases same
        exact named passes

/-! ## Names in what is made of data -/

/-- A text can be a name in what some input makes. -/
def Admits {Input Fault Made : Type} (make : Input → Except Fault Made)
    (names : Made → List Name) (text : String) : Prop :=
  ∃ input made, make input = .ok made ∧ ∃ name ∈ names made, name.text = text

/-- Where each name can be given, what can be a name is what passes for one. -/
theorem admits_iff {Input Fault Made : Type} {make : Input → Except Fault Made}
    {names : Made → List Name}
    (given : ∀ name, ∃ input made, make input = .ok made ∧ name ∈ names made) (text : String) :
    Admits make names text ↔ PassesForName text := by
  constructor
  · rintro ⟨_, _, -, name, -, rfl⟩
    exact name.passes
  · intro passes
    obtain ⟨input, made, succeeded, member⟩ := given ⟨text, (is_name_iff text).mpr passes⟩
    exact ⟨input, made, succeeded, _, member, rfl⟩

/-- Data that give a name and nothing else. -/
def namedData (key : String) (name : Name) : Value := .map [(.text key, .text name.text)]

theorem instance_of_named_data (name : Name) :
    Instance.ofValue (namedData "name" name) = .ok ⟨name, none, [], []⟩ := by
  refine Instance.of_value_ok_iff.mpr ⟨_, rfl, ?_, rfl, rfl, rfl⟩
  exact Checked.required_ok_iff.mpr ⟨_, rfl, name_valid "instance" name⟩

/-- Data of a blueprint and its only instance, both of one name. -/
def namedBlueprintData (name : Name) : Value :=
  .map [(.text "name", .text name.text), (.text "instances", .list [namedData "name" name])]

theorem blueprint_of_named_data (name : Name) : ∃ blueprint,
    Blueprint.ofValue (namedBlueprintData name) = .ok blueprint ∧ blueprint.name = name ∧
      blueprint.instances = [⟨name, none, [], []⟩] := by
  refine ⟨⟨name, [⟨name, none, [], []⟩], [], List.cons_ne_nil _ _, List.nodup_singleton _⟩, ?_, rfl,
    rfl⟩
  refine Blueprint.of_value_ok_iff.mpr ⟨_, rfl, ?_, ?_, rfl⟩
  · exact Checked.required_ok_iff.mpr ⟨_, rfl, name_valid "blueprint" name⟩
  · refine Checked.required_ok_iff.mpr ⟨_, rfl, Checked.tuple_ok_iff.mpr ?_⟩
    exact .cons (instance_of_named_data name) .nil

theorem config_of_named_data (name : Name) :
    Config.ofValue (namedData "namespace" name) = .ok { Config.usual with scope := name } := by
  have scope : Checked.optional [(.text "namespace", .text name.text)] "namespace"
      Config.usual.scope (Checked.name "namespace") = .ok name :=
    Checked.inside_ok_iff.mpr (name_valid "namespace" name)
  simp only [Config.ofValue, namedData, Checked.model, bind, Except.bind, scope]
  rfl

/-! ### Variables -/

/-- Variables that give a namespace and nothing else. -/
def namedEnvironment (name : Name) : Labels := .ofList [("COMMANDER_NAMESPACE", name.text)]

theorem named_environment_unset (name : Name) {key : String} (other : key ≠ "COMMANDER_NAMESPACE")
    (fallback : String) : (namedEnvironment name).getD key fallback = fallback := by
  have absent : key ∉ (namedEnvironment name).keys := by
    intro member
    exact other (List.mem_singleton.mp member)
  rw [Table.getD, Table.get?_eq_none absent, Option.getD_none]

theorem named_environment_images (name : Name) : baseImagesOf (namedEnvironment name) = ∅ := by
  have other : baseImageStem.toList.isPrefixOf? "COMMANDER_NAMESPACE".toList = none := by decide
  have entries : (namedEnvironment name).entries = [("COMMANDER_NAMESPACE", name.text)] := rfl
  rw [baseImagesOf, entries, List.filterMap_cons, other]
  cases name.text.isEmpty <;> rfl

theorem config_of_named_environment (name : Name) :
    Config.ofEnvironment (namedEnvironment name) = .ok { Config.usual with scope := name } := by
  have own : (namedEnvironment name).getD "COMMANDER_NAMESPACE" "default" = name.text := rfl
  have scope : Checked.inside (.name "namespace") (Checked.name "namespace" (.text name.text)) =
      .ok name := Checked.inside_ok_iff.mpr (name_valid "namespace" name)
  -- all other settings are read from the texts that stand for unset variables
  have timeout : readDecimal "30" = some Config.usual.spawnTimeout := by decide +kernel
  have client : readPort "8008" = .ok Config.usual.clientPort := by decide +kernel
  have federation : readPort "8448" = .ok Config.usual.federationPort := by decide +kernel
  have kept : Text.words "" = [] := by decide +kernel
  have quiet : isYes "false" = false := by decide +kernel
  simp (disch := decide) only [Config.ofEnvironment, named_environment_unset,
    named_environment_images, own, scope, timeout, client, federation, kept, quiet]
  rfl

/-! ## What passes -/

/-- Where a text is accepted as a name: by itself, and in whatever has a name. -/
structure NamesPass (text : String) : Prop where
  /-- It is what is accepted exactly if it is given and passes for a name. -/
  accepted : ∀ what given, (Name.of what given).toOption.map Name.text = some text ↔
    given = some text ∧ PassesForName text
  /-- To pass for a name is to keep to the grammar, save for a name with a line feed behind it. -/
  grammar : (PassesForName text ↔ WellNamed text) ↔ ¬EndsLine text
  instances : Admits Instance.ofValue (fun server => [server.name]) text ↔ PassesForName text
  blueprints : Admits Blueprint.ofValue (fun blueprint => [blueprint.name]) text ↔
    PassesForName text
  members : Admits Blueprint.ofValue (fun blueprint => blueprint.instances.map Instance.name) text ↔
    PassesForName text
  scopes : Admits Config.ofValue (fun config => [config.scope]) text ↔ PassesForName text
  environments : Admits Config.ofEnvironment (fun config => [config.scope]) text ↔
    PassesForName text

theorem names_pass (text : String) : NamesPass text where
  accepted what given := name_of_text_iff what given text
  grammar := passes_for_name_well_iff text
  instances := by
    apply admits_iff
    intro name
    exact ⟨_, _, instance_of_named_data name, List.mem_singleton_self _⟩
  blueprints := by
    apply admits_iff
    intro name
    obtain ⟨blueprint, made, named, -⟩ := blueprint_of_named_data name
    exact ⟨_, _, made, named ▸ List.mem_singleton_self _⟩
  members := by
    apply admits_iff
    intro name
    obtain ⟨blueprint, made, -, only⟩ := blueprint_of_named_data name
    exact ⟨_, _, made, only ▸ List.mem_singleton_self _⟩
  scopes := by
    apply admits_iff
    intro name
    exact ⟨_, _, config_of_named_data name, List.mem_singleton_self _⟩
  environments := by
    apply admits_iff
    intro name
    exact ⟨_, _, config_of_named_environment name, List.mem_singleton_self _⟩

private theorem broken_named : isName "bp\n".toList = true := by decide

/-- A name with a line feed behind it. -/
def brokenName : Name := ⟨"bp\n", broken_named⟩

/-- It is accepted, by itself and for an instance, a blueprint and a namespace. So the grammar does
not tell what is a name. -/
theorem broken_name_passes :
    (¬∀ what given text, (Name.of what given).toOption.map Name.text = some text ↔
      given = some text ∧ WellNamed text) ∧
    (¬∀ text, Admits Instance.ofValue (fun server => [server.name]) text → WellNamed text) ∧
    (¬∀ text, Admits Blueprint.ofValue (fun blueprint => [blueprint.name]) text → WellNamed text) ∧
    ¬∀ text, Admits Config.ofValue (fun config => [config.scope]) text → WellNamed text := by
  have broken : ¬WellNamed brokenName.text := by
    intro named
    exact line_feed_no_name_character (named.characters '\n' (by decide))
  refine ⟨?_, ?_, ?_, ?_⟩
  · intro claimed
    have accepted : (Name.of "blueprint" (some "bp\n")).toOption.map Name.text = some "bp\n" := by
      decide
    exact broken ((claimed _ _ _).mp accepted).2
  · intro claimed
    exact broken (claimed _ ⟨_, _, instance_of_named_data brokenName, _,
      List.mem_singleton_self _, rfl⟩)
  · intro claimed
    obtain ⟨blueprint, made, named, -⟩ := blueprint_of_named_data brokenName
    exact broken (claimed _ ⟨_, _, made, _, List.mem_singleton_self _, congrArg Name.text named⟩)
  · intro claimed
    exact broken (claimed _ ⟨_, _, config_of_named_data brokenName, _,
      List.mem_singleton_self _, rfl⟩)

end FixtureImages
