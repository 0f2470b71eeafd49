import FixtureImages.Proofs.Yaml.Numbers
import FixtureImages.Proofs.Yaml.Scalars

/-!
# Texts that are kept

Which texts are written in a form that is read back, and the token that becomes of each.
-/

namespace FixtureImages.Yaml

set_option autoImplicit false

/-- Whether a text is written so that it is read back, with lines that go on at a column: there is no
next-line character among line breaks that are kept, lines do not begin too far to the right, and a
key on one line is not longer than a key may be. -/
def LegibleText (wide key : Bool) (indent : Nat) (text : String) : Prop :=
  match styleOf wide key text with
  | .plain => True
  | .singleQuotes => '\u0085' ∉ text.toList
  | .doubleQuotes =>
      if key then (escapedText wide text.toList).length + 2 ≤ 1024
      else FoldsWell wide indent text.toList.tail

instance (wide key : Bool) (indent : Nat) (text : String) :
    Decidable (LegibleText wide key indent text) :=
  match style : styleOf wide key text with
  | .plain => isTrue (by simp [LegibleText, style])
  | .singleQuotes => decidable_of_iff ('\u0085' ∉ text.toList) (by simp [LegibleText, style])
  | .doubleQuotes =>
      decidable_of_iff
        (if key then (escapedText wide text.toList).length + 2 ≤ 1024
        else FoldsWell wide indent text.toList.tail) (by simp [LegibleText, style])

/-- The token of a written text. -/
def textToken (wide key : Bool) (text : String) : Token :=
  .scalar text (styleOf wide key text = .plain)

/-- What is written for a scalar: its form, behind a space if one is needed. -/
structure WritesScalar (indent : Nat) (token : Token) (pen after : Pen) (body : List Char) : Prop where
  form : ScalarForm indent token body
  wrote : pen.Wrote (pen.spacing ++ body) after
  used : after.fresh = false
  inked : after.gap = false

/-- A pen behind the space in front of a scalar. -/
def Pen.spaced (pen : Pen) : Pen :=
  { (if pen.gap then pen else pen.put [' ']) with gap := false, fresh := false }

theorem spaced_wrote (pen : Pen) : pen.Wrote pen.spacing pen.spaced := by
  unfold Pen.Wrote Pen.spacing Pen.spaced
  cases pen.gap <;> rfl

theorem write_plain_form {wide : Bool} {text : List Char} (plain : allowsPlain wide text = true)
    (some : text ≠ []) (indent : Nat) (split : Bool) (pen : Pen) :
    ∃ body, WritesScalar indent (.scalar (String.ofList text) true) pen
      (writePlain indent split text pen) body ∧ (split = false → body = text) := by
  obtain ⟨piece, written, wrote, whole, used, inked⟩ :=
    plain_runs_wrote indent split (runsOf text) (show pen.spaced.fresh = false from rfl) rfl
  refine ⟨piece, ⟨.plain plain some written, (spaced_wrote pen).trans wrote, used, inked⟩, ?_⟩
  intro none
  rw [whole none, runs_of_flatten]

/-! ## The styles of a text -/

theorem style_plain {wide key : Bool} {text : String} (style : styleOf wide key text = .plain) :
    Tag.ofPlain text = .text ∧ allowsPlain wide text.toList = true := by
  simp only [styleOf] at style
  split at style
  · rename_i both
    exact ⟨both.1, both.2.1⟩
  · split at style <;> cases style

theorem style_single {wide key : Bool} {text : String} (style : styleOf wide key text = .singleQuotes) :
    allowsSingleQuotes wide text.toList = true := by
  simp only [styleOf] at style
  split at style
  · cases style
  · split at style
    · rename_i both
      exact both.1
    · cases style

/-- The body of a key on one line: no line ends in it, and a reader finds its colon. -/
structure KeyBody (body : List Char) : Prop where
  single : ∀ c ∈ body, Solid c
  short : body.length ≤ 1024

theorem short_key_parts {key : String} (short : isShortKey key = true) :
    key.toList.length < 123 ∧ ∀ c ∈ key.toList, isTextBreak c = false := by
  simp only [isShortKey, Bool.and_eq_true, Bool.not_eq_true', decide_eq_true_eq,
    List.any_eq_false] at short
  exact ⟨by omega, fun c member => by simpa using short.2 c member⟩

theorem doubled_quotes_length (word : List Char) : (doubledQuotes word).length ≤ 2 * word.length := by
  induction word with
  | nil => simp [doubledQuotes]
  | cons c rest ih =>
      rw [doubled_quotes_cons, List.length_append, List.length_cons]
      split <;> simp <;> omega

theorem ascii_solid {c : Char} (ascii : isAsciiText c = true) : Solid c := by
  have range := ascii_text_range ascii
  have apart (d : Char) (outside : d.toNat < 32 ∨ 126 < d.toNat) : c ≠ d := by
    rintro rfl
    omega
  refine ⟨?_, apart _ (by decide)⟩
  simp [isBreak, apart '\n' (by decide), apart '\r' (by decide), apart '\u0085' (by decide),
    apart '\u2028' (by decide), apart '\u2029' (by decide)]

theorem escaped_text_solid (wide : Bool) (text : List Char) : ∀ c ∈ escapedText wide text, Solid c := by
  intro c member
  obtain ⟨d, -, own⟩ := List.mem_flatMap.mp member
  split at own
  · rename_i stands
    rw [List.mem_singleton.mp own]
    by_cases space : d = ' '
    · rw [space]
      exact solid_space
    · exact (unescaped_parts stands space).2.2.2.2
  · exact ascii_solid (escaped_ascii d c own)

/-- A legible text is written in a form that is read back. -/
theorem write_text_form {wide key : Bool} {indent : Nat} (inner : 0 < indent) {text : String}
    (legible : LegibleText wide key indent text) (pen : Pen) :
    ∃ body, WritesScalar indent (textToken wide key text) pen (writeText wide indent key text pen) body ∧
      (key = true → isShortKey text = true → KeyBody body) := by
  unfold LegibleText at legible
  unfold textToken writeText
  cases style : styleOf wide key text with
  | plain =>
      obtain ⟨tag, plain⟩ := style_plain style
      have some : text.toList ≠ [] := by
        intro none
        rw [String.toList_eq_nil_iff.mp none] at tag
        cases tag
      obtain ⟨body, writes, whole⟩ := write_plain_form plain some indent (!key) pen
      rw [String.ofList_toList] at writes
      refine ⟨body, writes, ?_⟩
      rintro rfl short
      obtain ⟨length, noBreaks⟩ := short_key_parts short
      rw [whole rfl]
      refine ⟨fun c member => ?_, by omega⟩
      simp only [allowsPlain, Bool.not_eq_true', Bool.or_eq_false_iff, List.any_eq_false] at plain
      exact (written_of_not_special (by simpa using plain.1.1.2 c member)).solid (noBreaks c member)
  | singleQuotes =>
      rw [style] at legible
      have allows := style_single style
      obtain ⟨piece, quoted, wrote, whole⟩ :=
        single_quoted_wrote allows legible inner (!key) pen
      have form : ScalarForm indent (.scalar (String.ofList text.toList) false) _ := .quoted quoted
      rw [String.ofList_toList] at form
      refine ⟨_, ⟨form, wrote, rfl, rfl⟩, ?_⟩
      rintro rfl short
      obtain ⟨length, noBreaks⟩ := short_key_parts short
      have doubled := doubled_quotes_length text.toList
      rw [whole rfl noBreaks]
      constructor
      · simp only [List.forall_mem_cons, List.forall_mem_append]
        refine ⟨⟨rfl, by decide⟩, fun c member => ?_, ⟨rfl, by decide⟩, by simp⟩
        have own := doubled_quotes_mem member
        exact ((single_quotable allows legible).written c own).1.solid (noBreaks c own)
      · simp only [List.length_cons, List.length_append, List.length_nil]
        omega
  | doubleQuotes =>
      rw [style] at legible
      obtain ⟨piece, quoted, wrote, whole⟩ := double_quoted_wrote inner (!key) (fun on => by
        cases key with
        | false => exact legible
        | true => cases on) pen
      have form : ScalarForm indent (.scalar (String.ofList text.toList) false) _ := .quoted quoted
      rw [String.ofList_toList] at form
      refine ⟨_, ⟨form, wrote, rfl, rfl⟩, ?_⟩
      rintro rfl short
      rw [whole rfl]
      constructor
      · simp only [List.forall_mem_cons, List.forall_mem_append]
        exact ⟨⟨rfl, by decide⟩, escaped_text_solid wide text.toList, ⟨rfl, by decide⟩, by simp⟩
      · simp only [List.length_cons, List.length_append, List.length_nil]
        exact legible

end FixtureImages.Yaml
