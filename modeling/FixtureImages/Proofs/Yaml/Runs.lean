import FixtureImages.Proofs.Yaml.BreakScan
import FixtureImages.Proofs.Yaml.Cursor

/-!
# Runs of written texts

Which characters a text may hold outside of double quotes, and how a text falls into runs of spaces,
of line breaks and of other characters.
-/

namespace FixtureImages.Yaml

set_option autoImplicit false

/-! ## Characters of written texts -/

/-- A character that a text may hold outside of double quotes. -/
structure Written (c : Char) : Prop where
  allowed : isAllowed c = true
  noTab : c ≠ '\t'
  noReturn : c ≠ '\r'
  noEnd : c ≠ '\x00'
  noMark : c ≠ byteOrderMark

theorem ascii_text_range {c : Char} (ascii : isAsciiText c = true) :
    32 ≤ c.toNat ∧ c.toNat ≤ 126 := by
  simpa [isAsciiText, Char.le_def, UInt32.le_iff_toNat_le] using ascii

theorem written_of_not_special {wide : Bool} {c : Char} (special : isSpecial wide c = false) :
    Written c := by
  simp only [isSpecial, Bool.not_eq_false', Bool.or_eq_true, Bool.and_eq_true, beq_iff_eq] at special
  rcases special with (rfl | ascii) | ⟨-, wideChar⟩
  · constructor <;> decide
  · have range := ascii_text_range ascii
    have apart (d : Char) (outside : d.toNat < 32 ∨ 126 < d.toNat) : c ≠ d := by
      rintro rfl
      omega
    refine ⟨?_, apart _ (by decide), apart _ (by decide), apart _ (by decide), apart _ (by decide)⟩
    rw [isAsciiText] at ascii
    simp [isAllowed, ascii]
  · simp only [isWritableWide, Bool.and_eq_true, Bool.or_eq_true, beq_iff_eq, bne_iff_ne,
      decide_eq_true_eq] at wideChar
    obtain ⟨kind, mark⟩ := wideChar
    have high : 128 ≤ c.toNat := by
      rcases kind with ((rfl | low) | middle) | top
      · decide
      all_goals omega
    have apart (d : Char) (outside : d.toNat < 128) : c ≠ d := by
      rintro rfl
      omega
    refine ⟨?_, apart _ (by decide), apart _ (by decide), apart _ (by decide), mark⟩
    simp only [isAllowed, Bool.or_eq_true, Bool.and_eq_true, beq_iff_eq, decide_eq_true_eq]
    tauto

theorem Written.solid {c : Char} (written : Written c) (breaks : isTextBreak c = false) :
    Solid c := by
  refine ⟨?_, written.noMark⟩
  simp only [isTextBreak, Bool.or_eq_false_iff] at breaks
  simp [isBreak, breaks, written.noReturn]

theorem Written.not_gap {c : Char} (written : Written c) (kind : isSpaceOrBreak c = false) :
    isGapOrEnd c = false := by
  simp only [isSpaceOrBreak, isSpace, Bool.or_eq_false_iff] at kind
  have solid := (written.solid kind.2).1
  simp [isGapOrEnd, isSpaceOrEnd, isBreakOrEnd, isEnd, solid, kind.1, written.noTab, written.noEnd]

/-! ## Runs -/

/-- A run of one kind is cut off in front of a character of another kind. -/
theorem runs_of_append {kind : RunKind} {run rest : List Char} (some : run ≠ [])
    (uniform : ∀ c ∈ run, runKind c = kind)
    (differs : ∀ c, rest.head? = .some c → runKind c ≠ kind) :
    runsOf (run ++ rest) = run :: runsOf rest := by
  have single : runsOf run = [run] := by
    apply List.splitBy_of_isChain some
    rw [List.isChain_iff_pairwise]
    apply List.pairwise_of_forall_mem_list
    intro c first d second
    rw [uniform c first, uniform d second]
    exact beq_self_eq_true kind
  unfold runsOf at single ⊢
  rw [List.splitBy_append, single]
  · rfl
  · intro c last d next
    rw [uniform c (List.mem_of_getLast? last)]
    exact beq_eq_false_iff_ne.mpr (differs d next).symm

/-- A text is nothing, or a run in front of a text that begins with another kind. -/
theorem runs_induction {motive : List Char → List (List Char) → Prop} (nil : motive [] [])
    (cons : ∀ (kind : RunKind) (run rest : List Char), run ≠ [] → (∀ c ∈ run, runKind c = kind) →
      (∀ c, rest.head? = some c → runKind c ≠ kind) → motive rest (runsOf rest) →
        motive (run ++ rest) (run :: runsOf rest)) (text : List Char) :
    motive text (runsOf text) := by
  generalize size : text.length = length
  induction length using Nat.strongRecOn generalizing text with
  | ind length ih =>
      cases text with
      | nil => exact nil
      | cons c others =>
          let same (d : Char) : Bool := runKind d == runKind c
          have cut : (c :: others).takeWhile same ++ (c :: others).dropWhile same = c :: others :=
            List.takeWhile_append_dropWhile
          have first : (c :: others).takeWhile same = c :: others.takeWhile same := by
            simp [same]
          have some : (c :: others).takeWhile same ≠ [] := by simp [first]
          have uniform : ∀ d ∈ (c :: others).takeWhile same, runKind d = runKind c := by
            intro d member
            simpa [same] using List.all_eq_true.mp List.all_takeWhile d member
          have differs : ∀ d, ((c :: others).dropWhile same).head? = .some d →
              runKind d ≠ runKind c := by
            intro d head
            have := List.head?_dropWhile_not same (c :: others)
            rw [head] at this
            simpa [same] using this
          have shorter : ((c :: others).dropWhile same).length < length := by
            have := congrArg List.length cut
            rw [List.length_append, size, first, List.length_cons] at this
            omega
          have step := cons (runKind c) _ _ some uniform differs (ih _ shorter _ rfl)
          rwa [← runs_of_append some uniform differs, cut] at step

end FixtureImages.Yaml
