import FixtureImages.Proofs.Labels.Captured

/-!
# Directives as lines

The daemon joins the directives of a commit by line breaks and then reads the whole line by line.
Escaping leaves line breaks as they are, so a directive is one line exactly when neither its key nor
its value has a break. Registrations of services have none; of the other labels of an image, each
keeps to one line if and only if the texts that it is made of do.
-/

namespace FixtureImages

set_option autoImplicit false

def linesOf (text : String) : List String := (text.toList.splitOn '\n').map String.ofList

def OneLine (text : String) : Prop := '\n' ∉ text.toList

instance (text : String) : Decidable (OneLine text) := inferInstanceAs (Decidable ('\n' ∉ _))

theorem one_line_append {front back : String} :
    OneLine (front ++ back) ↔ OneLine front ∧ OneLine back := by
  simp [OneLine]

theorem lines_of_one_line {text : String} (single : OneLine text) : linesOf text = [text] := by
  rw [linesOf, List.splitOn_eq_singleton single, List.map_singleton, String.ofList_toList]

theorem lines_of_append (front back : String) :
    linesOf (front ++ "\n" ++ back) = linesOf front ++ linesOf back := by
  have split : (front ++ "\n" ++ back).toList = front.toList ++ '\n' :: back.toList := by simp
  rw [linesOf, split, List.splitOn_append_cons_self, List.map_append, linesOf, linesOf]

theorem lines_of_ne_nil (text : String) : linesOf text ≠ [] := by
  rw [linesOf, Ne, List.map_eq_nil_iff]
  exact List.splitOn_ne_nil _ _

/-- Only a text on one line has one line. -/
theorem lines_of_length_eq_one_iff {text : String} :
    (linesOf text).length = 1 ↔ OneLine text := by
  refine ⟨fun single broken => ?_, fun single => by rw [lines_of_one_line single]; rfl⟩
  obtain ⟨front, back, split⟩ := List.append_of_mem broken
  have first := List.length_pos_iff.mpr (List.splitOn_ne_nil '\n' front)
  have last := List.length_pos_iff.mpr (List.splitOn_ne_nil '\n' back)
  rw [linesOf, List.length_map, split, List.splitOn_append_cons_self, List.length_append] at single
  omega

/-! ## Joined directives -/

namespace Directive

/-- What the daemon reads of directives: the lines of all of them, joined by line breaks. -/
def lines (changes : List String) : List String := linesOf ("\n".intercalate changes)

theorem lines_cons (change next : String) (rest : List String) :
    lines (change :: next :: rest) = linesOf change ++ lines (next :: rest) := by
  rw [lines, String.intercalate_cons_cons, lines_of_append, lines]

/-- Joining and splitting gives back the directives one by one. -/
theorem lines_of_one_line {changes : List String} (some : changes ≠ [])
    (single : ∀ change ∈ changes, OneLine change) : lines changes = changes := by
  induction changes with
  | nil => exact absurd rfl some
  | cons change rest ih =>
      have first := FixtureImages.lines_of_one_line (single change List.mem_cons_self)
      cases rest with
      | nil => exact first
      | cons next others =>
          rw [lines_cons, first, ih (List.cons_ne_nil _ _) fun other member =>
            single other (List.mem_cons_of_mem _ member)]
          rfl

theorem length_le_lines (changes : List String) : changes.length ≤ (lines changes).length := by
  induction changes with
  | nil => exact Nat.zero_le _
  | cons change rest ih =>
      have first := List.length_pos_iff.mpr (lines_of_ne_nil change)
      cases rest with
      | nil => exact first
      | cons next others =>
          rw [lines_cons, List.length_append, List.length_cons]
          omega

/-- There are as many lines as directives only if none of these is broken. -/
theorem one_line_of_lines {changes : List String} (count : (lines changes).length = changes.length) :
    ∀ change ∈ changes, OneLine change := by
  induction changes with
  | nil => simp
  | cons change rest ih =>
      cases rest with
      | nil =>
          intro other member
          rw [List.mem_singleton.mp member]
          exact lines_of_length_eq_one_iff.mp count
      | cons next others =>
          have first := List.length_pos_iff.mpr (lines_of_ne_nil change)
          have later := length_le_lines (next :: others)
          rw [lines_cons, List.length_append, List.length_cons] at count
          rw [List.forall_mem_cons]
          refine ⟨lines_of_length_eq_one_iff.mp ?_, ih ?_⟩ <;> omega

theorem break_mem_quote (text : List Char) : '\n' ∈ quote text ↔ '\n' ∈ text := by
  have escaped (c : Char) : '\n' ∈ escape c ↔ '\n' = c := by
    rw [escape]
    split <;> simp
  simp [quote, escaped]

theorem to_list_of_label (key value : String) : (ofLabel key value).toList =
    "LABEL ".toList ++ quote key.toList ++ '=' :: quote value.toList := String.toList_ofList

theorem head_of_label (key value : String) : (ofLabel key value).toList.head? = some 'L' := by
  rw [to_list_of_label, List.append_assoc]
  rfl

theorem of_label_one_line (key value : String) :
    OneLine (ofLabel key value) ↔ OneLine key ∧ OneLine value := by
  have word : '\n' ∉ "LABEL ".toList := by decide
  have equals : '\n' ≠ '=' := by decide
  simp only [OneLine, to_list_of_label, List.mem_append, List.mem_cons, break_mem_quote, word, equals,
    false_or, not_or]

end Directive

/-! ## Labels -/

/-- No key and no value of some labels has a line break. -/
def EachOneLine (labels : Labels) : Prop :=
  ∀ key value, labels.get? key = some value → OneLine key ∧ OneLine value

/-- Lines are directives, one for each label. -/
structure OnePerLabel (labels : Labels) (lines : List String) : Prop where
  count : lines.length = labels.size
  formed : ∀ line ∈ lines, ∃ key value, line = Directive.ofLabel key value

theorem one_per_label_iff {labels : Labels} (some : labels.entries ≠ []) :
    OnePerLabel labels (Directive.lines (Directive.ofLabels labels)) ↔ EachOneLine labels := by
  have size : (Directive.ofLabels labels).length = labels.size := List.length_map _
  have written : ∀ line ∈ Directive.ofLabels labels, ∃ entry ∈ labels.entries,
      line = Directive.ofLabel entry.1 entry.2 := by
    intro line member
    obtain ⟨entry, held, rfl⟩ := List.mem_map.mp member
    exact ⟨entry, held, rfl⟩
  constructor
  · intro each key value found
    have single := Directive.one_line_of_lines (each.count.trans size.symm)
    rw [← Directive.of_label_one_line]
    exact single _ (List.mem_map.mpr ⟨_, Table.mem_of_get? found, rfl⟩)
  · intro each
    have same : Directive.lines (Directive.ofLabels labels) = Directive.ofLabels labels := by
      refine Directive.lines_of_one_line (by simpa [Directive.ofLabels] using some) fun line member => ?_
      obtain ⟨entry, held, rfl⟩ := written line member
      exact (Directive.of_label_one_line _ _).mpr (each _ _ (Table.get?_of_mem held))
    rw [same]
    refine ⟨size, fun line member => ?_⟩
    obtain ⟨entry, -, rfl⟩ := written line member
    exact ⟨_, _, rfl⟩

namespace EachOneLine

theorem insert {labels : Labels} {key value : String} (each : EachOneLine labels)
    (named : OneLine key) (single : OneLine value) : EachOneLine (labels.insert key value) := by
  intro name text found
  rw [Table.get?_insert] at found
  split at found
  · cases found
    subst name
    exact ⟨named, single⟩
  · exact each name text found

theorem insert_all {labels : Labels} {pairs : List (String × String)} (each : EachOneLine labels)
    (single : ∀ pair ∈ pairs, OneLine pair.1 ∧ OneLine pair.2) :
    EachOneLine (labels.insertAll pairs) := by
  induction pairs generalizing labels with
  | nil => exact each
  | cons pair rest ih =>
      obtain ⟨named, text⟩ := single pair List.mem_cons_self
      exact ih (each.insert named text) fun other member => single other (List.mem_cons_of_mem _ member)

theorem of_list {pairs : List (String × String)}
    (single : ∀ pair ∈ pairs, OneLine pair.1 ∧ OneLine pair.2) :
    EachOneLine (Table.ofList pairs) := by
  refine insert_all (fun key value found => ?_) single
  cases found

theorem overlay {lower upper : Labels} (below : EachOneLine lower) (above : EachOneLine upper) :
    EachOneLine (lower.overlay upper) :=
  below.insert_all fun _ member => above _ _ (Table.get?_of_mem member)

theorem add_stem_iff {labels : Labels} {stem : String} (named : OneLine stem) :
    EachOneLine (labels.addStem stem) ↔ EachOneLine labels := by
  constructor
  · intro each key value found
    rw [← Table.get?_addStem stem] at found
    exact ⟨(one_line_append.mp (each _ _ found).1).2, (each _ _ found).2⟩
  · intro each name value found
    obtain ⟨key, rfl⟩ := Table.mem_keys_addStem (Table.get?_isSome_iff.mp (by rw [found]; rfl))
    rw [Table.get?_addStem] at found
    exact ⟨one_line_append.mpr ⟨named, (each _ _ found).1⟩, (each _ _ found).2⟩

end EachOneLine

/-! ## The labels of an image -/

theorem inlined_one_line (text : String) : OneLine (inlineBreaks text) := by
  rw [OneLine, inlineBreaks, String.toList_ofList, List.mem_flatMap]
  rintro ⟨c, -, broken⟩
  split at broken
  · simp at broken
  · rename_i plain
    exact plain (List.mem_singleton.mp broken).symm

theorem service_labels_one_line_iff (services : List ApplicationService) :
    EachOneLine (serviceLabels services) ↔ ∀ service ∈ services, OneLine service.id := by
  constructor
  · intro each service member
    have written := (service_label_iff services service.id).mpr ⟨service, member, rfl⟩
    obtain ⟨value, found⟩ := Option.isSome_iff_exists.mp written
    exact (one_line_append.mp (each _ _ found).1).2
  · intro single
    refine EachOneLine.of_list fun pair member => ?_
    obtain ⟨service, listed, rfl⟩ := List.mem_map.mp member
    exact ⟨one_line_append.mpr ⟨by decide, single service listed⟩, inlined_one_line _⟩

theorem resource_labels_one_line_iff (scope blueprint server : String) :
    EachOneLine (resourceLabels scope (some blueprint) (some server)) ↔
      OneLine scope ∧ OneLine blueprint ∧ OneLine server := by
  constructor
  · intro each
    exact ⟨(each namespaceLabel scope rfl).2, (each blueprintLabel blueprint rfl).2,
      (each instanceLabel server rfl).2⟩
  · rintro ⟨inScope, ofBlueprint, ofServer⟩
    have marked : EachOneLine ((∅ : Labels).insert managedLabel managedMark) := by
      refine EachOneLine.insert (fun key value found => ?_) (by decide) (by decide)
      cases found
    have context : OneLine (contextOf scope blueprint server) := by
      have dot : OneLine "." := by decide
      simp only [contextOf, one_line_append, inScope, ofBlueprint, ofServer, dot, and_self]
    have keys : ∀ key ∈ contextLabel :: Query.askedKeys, OneLine key := by decide
    have ofScope := marked.insert (keys namespaceLabel (by decide)) inScope
    have named := ofScope.insert (keys blueprintLabel (by decide)) ofBlueprint
    have whole := named.insert (keys instanceLabel (by decide)) ofServer
    exact whole.insert (keys contextLabel (by decide)) context

/-- Everything that the labels of an image are made of is on one line: the names of its instance,
what was captured and is kept, and the names of the services. -/
structure OnOneLine (construction : Construction) (blueprint : Blueprint)
    (credentials devices : Labels) : Prop where
  inScope : OneLine construction.scope
  ofBlueprint : OneLine blueprint.name.text
  ofServer : OneLine construction.server.name.text
  credentials : EachOneLine (keptCredentials credentials blueprint.keepCredentialsFor)
  devices : EachOneLine devices
  services : ∀ service ∈ construction.server.services, OneLine service.id

section

variable {construction : Construction} {blueprint : Blueprint} {credentials devices : Labels}

theorem collected_carries_owned :
    Carries (collectedLabels construction blueprint credentials devices)
      (resourceLabels construction.scope (some blueprint.name.text)
        (some construction.server.name.text)) :=
  captured_over_owned _ _ _ _ _ _ _

theorem collected_one_line_iff :
    EachOneLine (collectedLabels construction blueprint credentials devices) ↔
      OnOneLine construction blueprint credentials devices := by
  constructor
  · intro each
    have owned := (resource_labels_one_line_iff _ _ _).mp fun key value held =>
      each key value (collected_carries_owned key value held)
    obtain ⟨inScope, ofBlueprint, ofServer⟩ := owned
    have under {stem key value : String} (found : (collectedLabels construction blueprint
        credentials devices).get? (stem ++ key) = some value) : OneLine key ∧ OneLine value :=
      ⟨(one_line_append.mp (each _ _ found).1).2, (each _ _ found).2⟩
    refine ⟨inScope, ofBlueprint, ofServer, fun key value found => ?_, fun key value found => ?_,
      (service_labels_one_line_iff _).mp fun name value found => ?_⟩
    · exact under ((collected_credentials _ _ _ _ _).trans found)
    · exact under ((collected_devices _ _ _ _ _).trans found)
    · obtain ⟨id, rfl⟩ := service_labels_under _ _
        (Table.get?_isSome_iff.mp (by rw [found]; rfl))
      exact each _ _ ((collected_services _ _ _ _ _).trans found)
  · intro single
    have owned := (resource_labels_one_line_iff _ _ _).mpr
      ⟨single.inScope, single.ofBlueprint, single.ofServer⟩
    have stems : ∀ stem ∈ capturedStems, OneLine stem := by decide
    have kept := (EachOneLine.add_stem_iff (stems credentialStem (by decide))).mpr
      single.credentials
    have found := (EachOneLine.add_stem_iff (stems deviceStem (by decide))).mpr single.devices
    have registered := (service_labels_one_line_iff _).mpr single.services
    exact ((owned.overlay kept).overlay found).overlay registered

theorem collected_nonempty :
    (collectedLabels construction blueprint credentials devices).entries ≠ [] := by
  have marked := @collected_carries_owned construction blueprint credentials devices managedLabel
    managedMark rfl
  exact List.ne_nil_of_mem (Table.mem_of_get? marked)

/-- The directives of an image are read as one line for each label, if and only if everything that
its labels are made of is on one line. -/
theorem collected_one_per_label_iff :
    OnePerLabel (collectedLabels construction blueprint credentials devices)
        (Directive.lines
          (Directive.ofLabels (collectedLabels construction blueprint credentials devices))) ↔
      OnOneLine construction blueprint credentials devices :=
  (one_per_label_iff collected_nonempty).trans collected_one_line_iff

end

end FixtureImages
