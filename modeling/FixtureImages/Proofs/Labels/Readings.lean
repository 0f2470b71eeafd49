import FixtureImages.Proofs.Labels.Directive
import Mathlib.Data.List.Forall2
import Mathlib.Data.List.TakeWhile

/-!
# Readings of directives

How a directive may be taken apart is said here as a grammar, and not by a procedure that could stop
at the first fit. No directive has two readings, whatever stands in it. A directive that was written
for a label has one, which gives back the label; in it every double quote and every dollar sign
stands behind a backslash that is not taken itself.
-/

namespace FixtureImages.Directive

set_option autoImplicit false

/-! ## The grammar -/

/-- What is written between two quotes spells a text: a backslash takes the next character as it is,
and all other characters but a quote stand for themselves. By line, a backslash takes no line feed.
-/
inductive Spells (byLine : Bool) : List Char → List Char → Prop
  | nil : Spells byLine [] []
  | bare {c : Char} {written text : List Char} (closes : c ≠ '"') (escapes : c ≠ '\\')
      (rest : Spells byLine written text) : Spells byLine (c :: written) (c :: text)
  | taken {c : Char} {written text : List Char} (unbroken : byLine = true → c ≠ '\n')
      (rest : Spells byLine written text) : Spells byLine ('\\' :: c :: written) (c :: text)

def enclosed (written : List Char) : List Char := '"' :: written ++ ['"']

/-- How key and value are written in a directive, and the label that they spell. -/
structure Reading where
  writtenKey : List Char
  writtenValue : List Char
  label : String × String

/-- A directive can be read in a way. A line feed may follow it. -/
structure Reads (byLine : Bool) (directive : String) (reading : Reading) : Prop where
  form : ∃ ending, (ending = [] ∨ ending = ['\n']) ∧ directive.toList =
    "LABEL ".toList ++ enclosed reading.writtenKey ++
      '=' :: (enclosed reading.writtenValue ++ ending)
  key : Spells byLine reading.writtenKey reading.label.1.toList
  value : Spells byLine reading.writtenValue reading.label.2.toList

/-! ## One reading at most -/

section

variable {byLine also : Bool} {written text : List Char}

theorem unquote_of_spells (spells : Spells byLine written text) (rest : List Char) :
    unquote (written ++ '"' :: rest) = some (text, rest) := by
  induction spells with
  | nil => rw [List.nil_append, unquote]
  | bare closes escapes _ ih =>
      rw [List.cons_append, unquote_plain closes escapes, ih]
      rfl
  | taken _ _ ih =>
      rw [List.cons_append, List.cons_append, unquote, ih]
      rfl

/-- The closing quote can be found in one place only. -/
theorem Spells.unique {written' text' rest rest' : List Char} (spells : Spells byLine written text)
    (alike : Spells also written' text') (same : written ++ '"' :: rest = written' ++ '"' :: rest') :
    written = written' ∧ text = text' ∧ rest = rest' := by
  have read := unquote_of_spells spells rest
  rw [same, unquote_of_spells alike rest', Option.some.injEq, Prod.mk.injEq] at read
  obtain ⟨rfl, rfl⟩ := read
  exact ⟨List.append_cancel_right same, rfl, rfl⟩

/-- No directive can be read in two ways, also not by readers that differ in line feeds. -/
theorem Reads.unique {directive : String} {reading other : Reading}
    (reads : Reads byLine directive reading) (alike : Reads also directive other) :
    reading = other := by
  obtain ⟨ending, -, whole⟩ := reads.form
  obtain ⟨last, -, form⟩ := alike.form
  have same := whole.symm.trans form
  simp only [enclosed, List.append_assoc, List.cons_append, List.nil_append,
    List.append_cancel_left_eq, List.cons.injEq, true_and] at same
  obtain ⟨writtenKey, key, behind⟩ := reads.key.unique alike.key same
  simp only [List.cons.injEq, true_and] at behind
  obtain ⟨writtenValue, value, -⟩ := reads.value.unique alike.value behind
  obtain ⟨_, _, _, _⟩ := reading
  obtain ⟨_, _, _, _⟩ := other
  simp only [String.toList_inj] at writtenKey writtenValue key value
  rw [writtenKey, writtenValue, key, value]

end

/-! ## The reading of a label -/

theorem spells_escaped (byLine : Bool) (text : List Char) :
    Spells byLine (text.flatMap escape) text := by
  induction text with
  | nil => exact .nil
  | cons c text ih =>
      rw [List.flatMap_cons, escape]
      split
      · rename_i escaped
        refine .taken ?_ ih
        rintro - rfl
        exact absurd escaped (by decide)
      · rename_i plain
        simp only [needsEscape, Bool.or_eq_true, beq_iff_eq, not_or] at plain
        exact .bare plain.1.2 plain.1.1 ih

/-- How the directive of a label is read. -/
def readingOf (label : String × String) : Reading :=
  ⟨label.1.toList.flatMap escape, label.2.toList.flatMap escape, label⟩

theorem reads_of_label (byLine : Bool) (label : String × String) :
    Reads byLine (ofLabel label.1 label.2) (readingOf label) where
  form := by
    refine ⟨[], .inl rfl, ?_⟩
    rw [List.append_nil]
    exact String.toList_ofList
  key := spells_escaped _ _
  value := spells_escaped _ _

/-! ## Marks behind backslashes -/

def backslashesBehind (front : List Char) : Nat := (front.reverse.takeWhile (· == '\\')).length

/-- Wherever a mark is written, the backslashes before it are odd in number, so that the last one
takes the mark. -/
def Guarded (mark : Char) (written : List Char) : Prop :=
  ∀ front back, written = front ++ mark :: back → backslashesBehind front % 2 = 1

theorem backslashes_behind_cons {c : Char} (plain : c ≠ '\\') (front : List Char) :
    backslashesBehind (c :: front) = backslashesBehind front := by
  rw [backslashesBehind, List.reverse_cons, List.takeWhile_append]
  split
  · rename_i all
    rw [List.takeWhile_cons_of_neg (by simpa using plain), List.append_nil, ← all]
    rfl
  · rfl

/-- A pair of a backslash and what it takes counts as nothing or as two backslashes. -/
theorem backslashes_behind_pair (c : Char) (front : List Char) :
    backslashesBehind ('\\' :: c :: front) % 2 = backslashesBehind front % 2 := by
  by_cases slash : c = '\\'
  · subst c
    have pair : ('\\' :: '\\' :: front).reverse = front.reverse ++ ['\\', '\\'] := by simp
    rw [backslashesBehind, pair, List.takeWhile_append]
    split
    · rename_i all
      rw [backslashesBehind, all, List.length_append]
      exact Nat.add_mod_right _ 2
    · rfl
  · have pair : ('\\' :: c :: front).reverse = (c :: front).reverse ++ ['\\'] := by simp
    have stops : ((c :: front).reverse.takeWhile (· == '\\')).length ≠ (c :: front).reverse.length := by
      intro all
      have whole := List.takeWhile_eq_self_iff.mp
        ((List.takeWhile_prefix (· == '\\')).eq_of_length all)
      exact slash (by simpa using whole c (by simp))
    rw [backslashesBehind, pair, List.takeWhile_append, if_neg stops]
    exact congrArg (· % 2) (backslashes_behind_cons slash front)

theorem escaped_guarded {mark : Char} (marked : needsEscape mark = true) (other : mark ≠ '\\')
    (text : List Char) : Guarded mark (text.flatMap escape) := by
  induction text with
  | nil =>
      intro front back split
      exact absurd split.symm (List.append_ne_nil_of_right_ne_nil _ (List.cons_ne_nil _ _))
  | cons c text ih =>
      intro front back split
      rw [List.flatMap_cons, escape] at split
      split at split
      · -- the mark is the one that is taken here, or comes later
        cases front with
        | nil => exact absurd (List.cons.inj split).1.symm other
        | cons slash front =>
            cases front with
            | nil =>
                obtain ⟨rfl, -⟩ := List.cons.inj split
                rfl
            | cons own front =>
                simp only [List.cons_append, List.nil_append, List.cons.injEq] at split
                obtain ⟨rfl, rfl, later⟩ := split
                rw [backslashes_behind_pair]
                exact ih front back later
      · rename_i plain
        cases front with
        | nil =>
            obtain ⟨rfl, -⟩ := List.cons.inj split
            exact absurd marked plain
        | cons own front =>
            simp only [List.cons_append, List.nil_append, List.cons.injEq] at split
            obtain ⟨rfl, later⟩ := split
            rw [backslashes_behind_cons]
            · exact ih front back later
            · rintro rfl
              exact plain (by decide)

/-! ## Directives of labels -/

/-- A directive can be read in just one way, as a label, and quotes and dollar signs in it are
guarded. -/
structure ReadsOnce (byLine : Bool) (label : String × String) (directive : String)
    (reading : Reading) : Prop where
  reads : Reads byLine directive reading
  only : ∀ other, Reads byLine directive other → other = reading
  gives : reading.label = label
  daemon : read directive = some label
  guarded : ∀ mark ∈ ['"', '$'],
    Guarded mark reading.writtenKey ∧ Guarded mark reading.writtenValue

/-- There is one directive for each label, in order. Each can be read in just one way, which gives
back its label. -/
theorem of_labels_read_once (byLine : Bool) (labels : Labels) :
    List.Forall₂ (fun label directive => ∃ reading, ReadsOnce byLine label directive reading)
      labels.entries (ofLabels labels) := by
  rw [ofLabels, List.forall₂_map_right_iff, List.forall₂_same]
  intro label _
  have reads := reads_of_label byLine label
  refine ⟨readingOf label, reads, fun other alike => alike.unique reads, rfl,
    read_of_label label.1 label.2, fun mark member => ?_⟩
  have marked : needsEscape mark = true ∧ mark ≠ '\\' := by
    rcases List.mem_pair.mp member with rfl | rfl <;> decide
  exact ⟨escaped_guarded marked.1 marked.2 _, escaped_guarded marked.1 marked.2 _⟩

end FixtureImages.Directive
