import FixtureImages.Proofs.Decimal.Notation
import FixtureImages.Proofs.Yaml.Cursor
import FixtureImages.Yaml.Data
import FixtureImages.Yaml.Printer

/-!
# Written numbers

Integers and finite numbers are written plain. Their texts have the tags of numbers and read back as
the same numbers, as long as an integer does not have more digits than are converted.
-/

namespace FixtureImages.Yaml

set_option autoImplicit false

/-! ## Figures -/

/-- The characters of written numbers. -/
def figureChars : List Char := "0123456789.e+-".toList

def digitChars : List Char := "0123456789".toList

theorem digit_mem {c : Char} (digit : c.isDigit = true) : c ∈ digitChars := by
  have all : ∀ n < 58, 48 ≤ n → Char.ofNat n ∈ digitChars := by decide
  obtain ⟨low, high⟩ := digit_range digit
  rw [← Char.ofNat_toNat c]
  exact all c.toNat (by omega) low

theorem digit_figure {c : Char} (digit : c.isDigit = true) : c ∈ figureChars :=
  (show ∀ c ∈ digitChars, c ∈ figureChars from each_of_chars (by decide)) c (digit_mem digit)

/-- The text of a number without its sign: figures, the first of them a digit. -/
structure IsFigures (body : List Char) : Prop where
  first : body.head?.any Char.isDigit = true
  all : ∀ c ∈ body, c ∈ figureChars

theorem IsFigures.cons_form {body : List Char} (figures : IsFigures body) :
    ∃ c rest, body = c :: rest ∧ c.isDigit = true := by
  cases body with
  | nil => simpa using figures.first
  | cons c rest => exact ⟨c, rest, rfl, by simpa using figures.first⟩

theorem IsFigures.some {body : List Char} (figures : IsFigures body) : body ≠ [] := by
  obtain ⟨c, rest, rfl, -⟩ := figures.cons_form
  exact List.cons_ne_nil c rest

theorem AllDigits.figures {digits : List Char} (some : digits ≠ []) (all : AllDigits digits) :
    IsFigures digits := by
  refine ⟨?_, fun c member => digit_figure (all c member)⟩
  cases digits with
  | nil => exact absurd rfl some
  | cons c rest => simpa using all c List.mem_cons_self

theorem pointed_figures (numeral : PointedNumeral) : IsFigures numeral.chars := by
  constructor
  · have some := numeral.someWhole
    have all := numeral.wholeDigits
    unfold PointedNumeral.chars
    cases whole : numeral.whole with
    | nil => exact absurd whole some
    | cons c rest =>
        rw [whole] at all
        simpa using all c List.mem_cons_self
  · have suffix : ∀ c ∈ numeral.suffix, c ∈ figureChars := by
      have form := numeral.isSuffix
      generalize numeral.suffix = suffix at form ⊢
      generalize numeral.shift = shift at form
      cases form with
      | none => simp
      | up digits _ all =>
          simp only [List.mem_cons, forall_eq_or_imp]
          exact ⟨by decide, by decide, fun c member => digit_figure (all c member)⟩
      | down digits _ all =>
          simp only [List.mem_cons, forall_eq_or_imp]
          exact ⟨by decide, by decide, fun c member => digit_figure (all c member)⟩
    intro c member
    simp only [PointedNumeral.chars, List.mem_append, List.mem_cons] at member
    rcases member with whole | rfl | fraction | last
    · exact digit_figure (numeral.wholeDigits c whole)
    · decide
    · exact digit_figure (numeral.fractionDigits c fraction)
    · exact suffix c last

def signText (negative : Bool) : List Char := if negative then ['-'] else []

theorem signed_all {body : List Char} (figures : IsFigures body) (negative : Bool) :
    ∀ c ∈ signText negative ++ body, c ∈ figureChars := by
  intro c member
  rcases List.mem_append.mp member with sign | own
  · cases negative with
    | false => cases sign
    | true =>
        rw [List.mem_singleton.mp sign]
        decide
  · exact figures.all c own

/-- A signed number begins with a digit or with a minus before one. -/
theorem signed_cases {body : List Char} (figures : IsFigures body) (negative : Bool) :
    (∃ c rest, signText negative ++ body = c :: rest ∧ c.isDigit = true) ∨
      ∃ c rest, signText negative ++ body = '-' :: c :: rest ∧ c.isDigit = true := by
  obtain ⟨c, rest, rfl, digit⟩ := figures.cons_form
  cases negative with
  | false => exact .inl ⟨c, rest, rfl, digit⟩
  | true => exact .inr ⟨c, rest, rfl, digit⟩

/-! ## Numbers stand plain -/

theorem has_mark_inside_eq_false {text : List Char} (apart : ∀ c ∈ text, c ≠ ':' ∧ c ≠ '#')
    (spaced : Bool) : hasMarkInside spaced text = false := by
  induction text generalizing spaced with
  | nil => rfl
  | cons c rest ih =>
      obtain ⟨colon, sharp⟩ := apart c List.mem_cons_self
      rw [hasMarkInside, ih fun other member => apart other (List.mem_cons_of_mem _ member)]
      simp [colon, sharp]

theorem number_allows_plain {body : List Char} (figures : IsFigures body) (negative wide : Bool) :
    allowsPlain wide (signText negative ++ body) = true := by
  have all := signed_all figures negative
  have apart : ∀ c ∈ figureChars, isSpaceOrBreak c = false ∧ isTextBreak c = false ∧
      isAsciiText c = true ∧ c ≠ ':' ∧ c ≠ '#' := each_of_chars (by decide)
  have first : (signText negative ++ body).head?.any isSpaceOrBreak = false := by
    rw [Option.any_eq_false]
    exact fun c head => by simp [(apart c (all c (List.mem_of_head? head))).1]
  have last : (signText negative ++ body).getLast?.any isSpaceOrBreak = false := by
    rw [Option.any_eq_false]
    exact fun c final => by simp [(apart c (all c (List.mem_of_getLast? final))).1]
  have breaks : (signText negative ++ body).any isTextBreak = false := by
    rw [List.any_eq_false]
    exact fun c member => by simp [(apart c (all c member)).2.1]
  have special : (signText negative ++ body).any (isSpecial wide) = false := by
    rw [List.any_eq_false]
    exact fun c member => by simp [isSpecial, (apart c (all c member)).2.2.1]
  have inside : hasMarkInside true (signText negative ++ body) = false :=
    has_mark_inside_eq_false (fun c member => (apart c (all c member)).2.2.2) true
  have front : hasMarkInFront (signText negative ++ body) = false := by
    have digits : ∀ c ∈ digitChars, c ≠ '-' ∧ c ≠ '.' ∧ c ≠ '?' ∧ c ≠ ':' ∧ isGapOrEnd c = false ∧
        "#,[]\x7b\x7d&*!|>'\"%@\x60".toList.contains c = false := each_of_chars (by decide)
    rcases signed_cases figures negative with ⟨c, rest, same, digit⟩ | ⟨c, rest, same, digit⟩
    · obtain ⟨minus, point, question, colon, -, marks⟩ := digits c (digit_mem digit)
      rw [same]
      simp only [hasMarkInFront, marks]
      simp [minus, point, question, colon]
    · obtain ⟨minus, point, -, -, gap, -⟩ := digits c (digit_mem digit)
      rw [same]
      simp [hasMarkInFront, minus, gap]
  rw [allowsPlain, first, last, breaks, special, inside, front]
  rfl

/-! ## The tags of numbers -/

theorem drop_final_break_eq {text : List Char} (apart : '\n' ∉ text) : dropFinalBreak text = text := by
  unfold dropFinalBreak
  split
  · rename_i ends
    exact absurd (List.mem_of_getLast? ends.2) apart
  · rfl

/-- A number is none of the words that have a tag of their own. -/
theorem number_no_word {body : List Char} (figures : IsFigures body) (negative : Bool) :
    let text := signText negative ++ body
    isNullText text = false ∧ isTruthText text = false ∧ (text == ['<', '<']) = false ∧
      (text == ['=']) = false ∧
        (text == ['!'] || text == ['&'] || text == ['*']) = false := by
  have first : ∃ c rest, signText negative ++ body = c :: rest ∧ c ∈ '-' :: digitChars := by
    rcases signed_cases figures negative with ⟨c, rest, same, digit⟩ | ⟨c, rest, same, digit⟩
    · exact ⟨c, rest, same, List.mem_cons_of_mem _ (digit_mem digit)⟩
    · exact ⟨'-', c :: rest, same, List.mem_cons_self⟩
  obtain ⟨c, rest, same, member⟩ := first
  have apart : ∀ c ∈ '-' :: digitChars, ∀ word ∈ ["", "~", "null", "Null", "NULL"] ++ truthWords ++
      ["<<", "=", "!", "&", "*"], word.toList.head? ≠ some c := each_of_chars (by decide)
  have other (word : String) (known : word ∈ ["", "~", "null", "Null", "NULL"] ++ truthWords ++
      ["<<", "=", "!", "&", "*"]) : word.toList ≠ c :: rest := by
    intro equal
    exact apart c member word known (by rw [equal]; rfl)
  have differs (word : String) (known : word ∈ ["", "~", "null", "Null", "NULL"] ++ truthWords ++
      ["<<", "=", "!", "&", "*"]) : (c :: rest == word.toList) = false :=
    beq_eq_false_iff_ne.mpr (other word known).symm
  dsimp only
  rw [same]
  refine ⟨?_, ?_, differs "<<" (by decide), differs "=" (by decide), ?_⟩
  · rw [isNullText, List.any_eq_false]
    intro word known
    simpa using other word (List.mem_append_left _ (List.mem_append_left _ known))
  · rw [isTruthText, List.any_eq_false]
    intro word known
    simpa using other word (List.mem_append_left _ (List.mem_append_right _ known))
  · rw [show (c :: rest == ['!']) = false from differs "!" (by decide),
      show (c :: rest == ['&']) = false from differs "&" (by decide),
      show (c :: rest == ['*']) = false from differs "*" (by decide)]
    rfl

/-- The tag of a number is that of an integer or of a decimal. -/
theorem number_tag {body : List Char} (figures : IsFigures body) (negative : Bool)
    (either : isIntegerText (signText negative ++ body) = true ∨
      isDecimalText (signText negative ++ body) = true) :
    Tag.ofPlain (String.ofList (signText negative ++ body)) =
      if isIntegerText (signText negative ++ body) then .integer else .decimal := by
  have feed : '\n' ∉ signText negative ++ body := fun member =>
    absurd (signed_all figures negative _ member) (by decide)
  obtain ⟨null, truth, merge, default, marks⟩ := number_no_word figures negative
  unfold Tag.ofPlain
  rw [String.toList_ofList, drop_final_break_eq feed]
  simp only [null, truth, merge, default, marks, Bool.false_eq_true, if_false]
  split
  · rfl
  · rename_i integer
    rw [if_pos (either.resolve_left integer)]

theorem drop_sign_eq {body : List Char} (figures : IsFigures body) (negative : Bool) :
    dropSign (signText negative ++ body) = body := by
  obtain ⟨c, rest, rfl, digit⟩ := figures.cons_form
  have apart : ∀ c ∈ digitChars, (c == '+' || c == '-') = false := each_of_chars (by decide)
  cases negative with
  | true => rfl
  | false => simp [signText, dropSign, apart c (digit_mem digit)]

theorem no_colon {body : List Char} (figures : IsFigures body) : ':' ∉ body := fun member =>
  absurd (figures.all _ member) (by decide)

theorem is_sexagesimal_eq_false {body : List Char} (figures : IsFigures body)
    (first : Char → Bool) : isSexagesimal first body = false := by
  rw [isSexagesimal, List.splitOn_eq_singleton (no_colon figures)]

/-- A point keeps a text from being an integer. -/
theorem pointed_no_integer (numeral : PointedNumeral) (negative : Bool) :
    isIntegerText (signText negative ++ numeral.chars) = false := by
  have figures := pointed_figures numeral
  have sixty := is_sexagesimal_eq_false figures isPositiveDigit
  have point : '.' ∈ numeral.chars := by simp [PointedNumeral.chars]
  unfold isIntegerText
  rw [drop_sign_eq figures]
  dsimp only
  rw [sixty]
  obtain ⟨c, rest, same, digit⟩ := figures.cons_form
  rw [same] at point ⊢
  have inside : '.' ∈ rest := by
    refine (List.mem_cons.mp point).resolve_left ?_
    rintro rfl
    cases digit
  have fails {text : List Char} (member : '.' ∈ text) (accepts : Char → Bool)
      (refuses : accepts '.' = false) : text.all accepts = false := by
    rw [List.all_eq_false]
    exact ⟨'.', member, by simp [refuses]⟩
  cases rest with
  | nil => cases inside
  | cons d rest =>
      have behind (mark : Char) (apart : mark ≠ '.') (accepts : Char → Bool)
          (refuses : accepts '.' = false) : (d == mark && rest.all accepts) = false := by
        rcases List.mem_cons.mp inside with rfl | later
        · simp [apart.symm]
        · rw [fails later accepts refuses, Bool.and_false]
      have octal := fails inside (fun c => ('0' ≤ c && c ≤ '7') || c == '_') rfl
      have decimal := fails inside isDigitOrUnderscore rfl
      have binary := behind 'b' (by decide) (fun c => c == '0' || c == '1' || c == '_') rfl
      have hexadecimal := behind 'x' (by decide) (fun c => isHexDigit c || c == '_') rfl
      by_cases zero : c = '0'
      · subst zero
        cases rest with
        | nil => simp [startsThen, decimal, octal]
        | cons e rest => simp only [startsThen, decimal, octal, binary, hexadecimal]; simp
      · simp [startsThen, decimal, zero]

theorem digits_no_point {digits : List Char} (all : AllDigits digits) :
    ∀ c ∈ digits, (c != '.') = true := fun c member =>
  (show ∀ c ∈ digitChars, (c != '.') = true from each_of_chars (by decide)) c (digit_mem (all c member))

theorem signed_exponent {text : List Char} {shift : Int} (form : IsExponent text shift) :
    isSignedExponent text = true := by
  have some (digits : List Char) (apart : digits ≠ []) (all : AllDigits digits) :
      ∃ d rest, digits = d :: rest ∧ (d :: rest).all Char.isDigit = true := by
    cases digits with
    | nil => exact absurd rfl apart
    | cons d rest => exact ⟨d, rest, rfl, List.all_eq_true.mpr all⟩
  cases form with
  | none => rfl
  | up digits apart all =>
      obtain ⟨d, rest, rfl, every⟩ := some digits apart all
      simp only [isSignedExponent, every]
      rfl
  | down digits apart all =>
      obtain ⟨d, rest, rfl, every⟩ := some digits apart all
      simp only [isSignedExponent, every]
      rfl

theorem pointed_decimal (numeral : PointedNumeral) (negative : Bool) :
    isDecimalText (signText negative ++ numeral.chars) = true := by
  have figures := pointed_figures numeral
  have whole : numeral.chars.takeWhile (· != '.') = numeral.whole := by
    rw [PointedNumeral.chars,
      List.takeWhile_append_of_pos (digits_no_point numeral.wholeDigits)]
    simp
  have fraction : numeral.chars.drop (numeral.whole.length + 1) =
      numeral.fraction ++ numeral.suffix := by
    rw [PointedNumeral.chars, ← List.drop_drop, List.drop_left]
    rfl
  have digits : startsThen Char.isDigit isDigitOrUnderscore numeral.whole = true := by
    have all := numeral.wholeDigits
    cases form : numeral.whole with
    | nil => exact absurd form numeral.someWhole
    | cons c rest =>
        rw [form] at all
        rw [startsThen, all c List.mem_cons_self, Bool.true_and, List.all_eq_true]
        intro d member
        rw [isDigitOrUnderscore, all d (List.mem_cons_of_mem _ member)]
        rfl
  have suffix : (numeral.fraction ++ numeral.suffix).dropWhile isDigitOrUnderscore =
      numeral.suffix := by
    rw [List.dropWhile_append_of_pos fun c member => by
      rw [isDigitOrUnderscore, numeral.fractionDigits c member]; rfl]
    have form := numeral.isSuffix
    generalize numeral.suffix = suffix at form ⊢
    generalize numeral.shift = shift at form
    cases form <;> rfl
  unfold isDecimalText
  rw [drop_sign_eq figures]
  dsimp only
  rw [whole, fraction, digits, isFraction, suffix, signed_exponent numeral.isSuffix]
  simp [PointedNumeral.chars]

/-! ## Integers -/

/-- The digits of an integer behind its sign. -/
def digitsOf (number : Int) : List Char := Nat.toDigits 10 number.natAbs

theorem integer_text (number : Int) :
    (toString number).toList = signText (number < 0) ++ digitsOf number := by
  rw [Int.toString_eq_repr, Int.repr_eq_if]
  split
  · rename_i positive
    have sign : ¬number < 0 := by omega
    rw [Nat.repr_eq_ofList_toDigits, String.toList_ofList, digitsOf,
      show number.toNat = number.natAbs by omega]
    simp [signText, sign]
  · rename_i negative
    have sign : number < 0 := by omega
    rw [Nat.repr_eq_ofList_toDigits, String.toList_append, String.toList_ofList, digitsOf,
      show (-number).toNat = number.natAbs by omega]
    simp [signText, sign]

theorem digits_of_form (number : Int) : digitsOf number ≠ [] ∧ AllDigits (digitsOf number) :=
  ⟨Nat.toDigits_ne_nil, (nat_digits number.natAbs).2⟩

/-- The digits of a positive number do not begin with a zero. -/
theorem to_digits_positive {n : Nat} (positive : 0 < n) :
    ∃ c rest, Nat.toDigits 10 n = c :: rest ∧ isPositiveDigit c = true := by
  induction n using Nat.strongRecOn with
  | ind n ih =>
      by_cases small : n < 10
      · have all : ∀ n < 10, 0 < n → isPositiveDigit n.digitChar = true := by decide
        exact ⟨_, _, Nat.toDigits_of_lt_base small, all n small positive⟩
      · obtain ⟨c, rest, same, first⟩ := ih (n / 10) (by omega) (by omega)
        exact ⟨c, rest ++ [(n % 10).digitChar],
          by rw [Nat.toDigits_of_base_le (by decide) (by omega), same]; rfl, first⟩

theorem digits_of_cases (number : Int) :
    (number = 0 ∧ digitsOf number = ['0']) ∨
      ∃ c rest, digitsOf number = c :: rest ∧ isPositiveDigit c = true := by
  by_cases zero : number = 0
  · exact .inl ⟨zero, by rw [zero]; rfl⟩
  · exact .inr (to_digits_positive (by omega))

theorem integer_is_integer (number : Int) :
    isIntegerText (signText (number < 0) ++ digitsOf number) = true := by
  obtain ⟨some, all⟩ := digits_of_form number
  unfold isIntegerText
  rw [drop_sign_eq (AllDigits.figures some all)]
  dsimp only
  rcases digits_of_cases number with ⟨-, same⟩ | ⟨c, rest, same, first⟩
  · rw [same]
    rfl
  · have decimal : startsThen isPositiveDigit isDigitOrUnderscore (digitsOf number) = true := by
      rw [same] at all ⊢
      rw [startsThen, first, Bool.true_and, List.all_eq_true]
      intro d member
      rw [isDigitOrUnderscore, all d (List.mem_cons_of_mem _ member)]
      rfl
    rw [decimal]
    simp

theorem trim_by_eq {text : List Char} {drops : Char → Bool} (none : ∀ c ∈ text, drops c = false) :
    Text.trimBy drops text = text := by
  have keeps (text : List Char) (none : ∀ c ∈ text, drops c = false) :
      text.dropWhile drops = text := by
    cases text with
    | nil => rfl
    | cons c rest => rw [List.dropWhile_cons_of_neg (by simp [none c List.mem_cons_self])]
  rw [Text.trimBy, keeps text none, keeps text.reverse fun c member => none c (by simpa using member),
    List.reverse_reverse]

theorem read_digits_eq {digits : List Char} (all : AllDigits digits) (fresh : Bool)
    (some : fresh = true → digits ≠ []) (number count : Nat) :
    readDigits 10 fresh number count digits =
      .some (Nat.ofDigitChars 10 digits number, count + digits.length, []) := by
  have each : ∀ c ∈ digitChars, c ≠ '_' ∧ baseDigit? 10 c = .some (c.toNat - 48) := each_of_chars (by decide)
  induction digits generalizing fresh number count with
  | nil =>
      cases fresh with
      | false => rfl
      | true => exact absurd rfl (some rfl)
  | cons c rest ih =>
      obtain ⟨apart, digit⟩ := each c (digit_mem (all c List.mem_cons_self))
      rw [readDigits, if_neg apart, digit]
      dsimp only
      rw [ih (fun d member => all d (List.mem_cons_of_mem _ member)) false (by simp),
        Nat.ofDigitChars_cons, List.length_cons, Nat.mul_comm number 10]
      congr 2
      rw [Nat.add_assoc, Nat.add_comm 1]

theorem cut_sign_digits {digits : List Char} (all : AllDigits digits) :
    FixtureImages.cutSign digits = (false, digits) := by
  unfold FixtureImages.cutSign
  split
  · exact absurd (all _ List.mem_cons_self) (by decide)
  · exact absurd (all _ List.mem_cons_self) (by decide)
  · rfl

/-- An integer reads back, unless it has too many digits. -/
theorem read_integer_eq {digits : List Char} (some : digits ≠ []) (all : AllDigits digits)
    (short : digits.length ≤ digitLimit) :
    readInteger 10 digits = .ok (spelled digits : Int) := by
  have blank : ∀ c ∈ digitChars, Text.isWhiteSpace c = false := each_of_chars (by decide)
  unfold readInteger FixtureImages.readInteger
  dsimp only
  rw [String.toList_ofList, trim_by_eq fun c member => blank c (digit_mem (all c member)),
    cut_sign_digits all]
  have base : cutBaseMark 10 digits = digits := by simp [cutBaseMark]
  dsimp only
  rw [base, read_digits_eq all true (fun _ => some)]
  dsimp only
  rw [if_neg (by omega)]
  rfl

theorem filter_signed {body : List Char} (figures : IsFigures body) (negative : Bool) :
    (signText negative ++ body).filter (· != '_') = signText negative ++ body := by
  rw [List.filter_eq_self]
  exact fun c member =>
    (show ∀ c ∈ figureChars, (c != '_') = true from each_of_chars (by decide)) c (signed_all figures negative c member)

theorem cut_sign_signed {body : List Char} (figures : IsFigures body) (negative : Bool) :
    cutSign (signText negative ++ body) = .ok (negative, body) := by
  obtain ⟨c, rest, rfl, digit⟩ := figures.cons_form
  have apart : ∀ c ∈ digitChars, (c == '-') = false ∧ (c == '+') = false := each_of_chars (by decide)
  obtain ⟨minus, plus⟩ := apart c (digit_mem digit)
  cases negative with
  | true => rfl
  | false => simp [signText, cutSign, minus, plus]

theorem read_unsigned_eq {number : Int} (short : (digitsOf number).length ≤ digitLimit) :
    readUnsigned (digitsOf number) = .ok (number.natAbs : Int) := by
  obtain ⟨some, all⟩ := digits_of_form number
  rcases digits_of_cases number with ⟨zero, same⟩ | ⟨c, rest, same, first⟩
  · rw [same, zero]
    rfl
  · have apart : c ≠ '0' := by
      rintro rfl
      cases first
    have read := read_integer_eq some all short
    have colon : (digitsOf number).contains ':' = false := by
      simpa using no_colon (AllDigits.figures some all)
    rw [show spelled (digitsOf number) = number.natAbs from Nat.ofDigitChars_ten_toDigits] at read
    rw [same] at read colon ⊢
    unfold readUnsigned
    split
    all_goals simp_all

theorem integer_eq {number : Int} (short : (digitsOf number).length ≤ digitLimit) :
    integer (toString number) = .ok (.int number) := by
  obtain ⟨some, all⟩ := digits_of_form number
  have figures := AllDigits.figures some all
  unfold integer
  rw [integer_text, filter_signed figures, cut_sign_signed figures]
  change (readUnsigned (digitsOf number) >>= _) = _
  rw [read_unsigned_eq short]
  change Except.ok (Value.int (if decide (number < 0) = true then _ else _)) = _
  congr 2
  split
  · rename_i negative
    have := of_decide_eq_true negative
    omega
  · rename_i positive
    have : ¬number < 0 := fun less => positive (decide_eq_true less)
    omega

theorem integer_tag (number : Int) : Tag.ofPlain (toString number) = .integer := by
  obtain ⟨some, all⟩ := digits_of_form number
  have tag := number_tag (AllDigits.figures some all) (number < 0) (.inl (integer_is_integer number))
  rwa [if_pos (integer_is_integer number), ← integer_text, String.ofList_toList] at tag

/-- An integer that is not too long is read back from its text. -/
theorem integer_reads_back {number : Int} (short : (digitsOf number).length ≤ digitLimit) :
    scalarValue .integer (toString number) = .ok (.int number) := by
  rw [scalarValue, integer_eq short]
  rfl

/-! ## Finite numbers -/

/-- The text of a finite number: its sign, and zero or its shortest decimal. -/
theorem finite_text (negative : Bool) (significand : Nat) (exponent : Int) :
    (Binary64.finite negative significand exponent).text.toList =
      signText negative ++
        (if significand = 0 then "0.0" else (Binary64.shortest significand exponent).text).toList := by
  rw [Binary64.text, String.toList_append]
  cases negative <;> rfl

theorem real_text_pointed {number : Binary64} {negative : Bool} {numeral : PointedNumeral}
    (text : number.text.toList = signText negative ++ numeral.chars) :
    (realText number).toList = signText negative ++ numeral.chars := by
  have point : (signText negative ++ numeral.chars).contains '.' = true := by
    simp [PointedNumeral.chars]
  unfold realText
  rw [text]
  dsimp only
  rw [point, Bool.not_true, Bool.and_false, if_neg Bool.false_ne_true, String.toList_ofList]

/-- A point and a zero are put before a lone exponent. -/
theorem real_text_bare {number : Binary64} {negative : Bool} {digits suffix : List Char}
    {shift : Int} (text : number.text.toList = signText negative ++ (digits ++ suffix))
    (all : AllDigits digits) (some : suffix ≠ []) (form : IsExponent suffix shift) :
    (realText number).toList = signText negative ++ (digits ++ ['.', '0'] ++ suffix) := by
  have front : ∀ c ∈ signText negative ++ digits, (c != 'e') = true ∧ c ≠ '.' := by
    intro c member
    rcases List.mem_append.mp member with sign | digit
    · cases negative with
      | false => cases sign
      | true =>
          rw [List.mem_singleton.mp sign]
          decide
    · exact (show ∀ c ∈ digitChars, (c != 'e') = true ∧ c ≠ '.' from each_of_chars (by decide)) c
        (digit_mem (all c digit))
  obtain ⟨rest, same⟩ : ∃ rest, suffix = 'e' :: rest := by
    cases form with
    | none => exact absurd rfl some
    | up => exact ⟨_, rfl⟩
    | down => exact ⟨_, rfl⟩
  have point : '.' ∉ suffix := by
    have apart {digits : List Char} (all : AllDigits digits) : '.' ∉ digits := fun member =>
      absurd (all _ member) (by decide)
    cases form with
    | none => simp
    | up digits _ all => simp [apart all]
    | down digits _ all => simp [apart all]
  have mark : (signText negative ++ digits ++ suffix).contains 'e' = true := by simp [same]
  have pointless : (signText negative ++ digits ++ suffix).contains '.' = false := by
    simp only [List.contains_eq_mem, decide_eq_false_iff_not, List.mem_append, not_or]
    exact ⟨⟨fun member => (front _ (List.mem_append_left _ member)).2 rfl,
      fun member => (front _ (List.mem_append_right _ member)).2 rfl⟩, point⟩
  have before : ∀ c ∈ signText negative ++ digits, (c != 'e') = true :=
    fun c member => (front c member).1
  unfold realText
  rw [text, ← List.append_assoc]
  dsimp only
  rw [mark, pointless, Bool.not_false, Bool.and_true, if_pos rfl, String.toList_ofList,
    List.takeWhile_append_of_pos before, List.dropWhile_append_of_pos before, same]
  simp

/-- A finite number in normal form is written with a point, and so that the rational that its text
stands for is rounded to it. -/
theorem real_text_form {significand : Nat} {exponent : Int} {negative : Bool}
    (normal : (Binary64.finite negative significand exponent).Normal) :
    ∃ numeral : PointedNumeral,
      (realText (.finite negative significand exponent)).toList =
        signText negative ++ numeral.chars ∧
      Binary64.ofDecimal false (spelled (numeral.whole ++ numeral.fraction))
        (numeral.shift - (numeral.fraction.length : Int)) = .finite false significand exponent := by
  have text := finite_text negative significand exponent
  by_cases zero : significand = 0
  · subst zero
    have least : exponent = Binary64.leastExponent := normal.2.2.2.resolve_left (by decide)
    let numeral : PointedNumeral := ⟨['0'], ['0'], [], 0, by simp, by simp, all_digits_zeros 1,
      all_digits_zeros 1, .none⟩
    rw [if_pos rfl] at text
    exact ⟨numeral, real_text_pointed text, by rw [least]; rfl⟩
  · rw [if_neg zero] at text
    have positive : 0 < significand := Nat.pos_of_ne_zero zero
    obtain ⟨-, rounds⟩ := Binary64.shortest_rounds normal positive
    generalize Binary64.shortest significand exponent = decimal at text rounds
    have reads (numeral : PointedNumeral) (same : numeral.amount = decimal.amount) :
        Binary64.ofDecimal false (spelled (numeral.whole ++ numeral.fraction))
          (numeral.shift - (numeral.fraction.length : Int)) =
            .finite false significand exponent := by
      rw [← same] at rounds
      exact Binary64.of_decimal_eq false normal positive rounds
    rcases Binary64.decimal_text_form decimal with
      ⟨numeral, form, amount⟩ | ⟨digits, suffix, shift, form, some, all, marked, exponent, amount⟩
    · rw [form] at text
      exact ⟨numeral, real_text_pointed text, reads numeral amount⟩
    · rw [form] at text
      obtain ⟨numeral, chars, same⟩ := Binary64.pointed_behind some all exponent 0
      rw [Nat.cast_zero, Int.zero_add, amount] at same
      refine ⟨numeral, ?_, reads numeral same⟩
      rw [real_text_bare text all marked exponent, chars]
      simp

theorem lower_figures {text : List Char} (all : ∀ c ∈ text, c ∈ figureChars) :
    Text.lower (String.ofList text) = String.ofList text := by
  have each : ∀ c ∈ figureChars, c.toNat ≠ 0x3a3 ∧ Text.lowerChar c = [c] := each_of_chars (by decide)
  have same (passed : List Char) : Text.lowerFrom passed text = text := by
    induction text generalizing passed with
    | nil => rfl
    | cons c rest ih =>
        obtain ⟨apart, own⟩ := each c (all c List.mem_cons_self)
        rw [Text.lowerFrom, if_neg apart, own,
          ih (fun d member => all d (List.mem_cons_of_mem _ member)) (c :: passed)]
        rfl
  rw [Text.lower, String.toList_ofList, same]

theorem drop_underscores_eq {text : List Char} (none : '_' ∉ text) (afterDigit : Bool) :
    dropUnderscores afterDigit text = some text := by
  induction text generalizing afterDigit with
  | nil => rfl
  | cons c rest ih =>
      rw [List.mem_cons, not_or] at none
      unfold dropUnderscores
      rw [if_neg (Ne.symm none.1), ih none.2]
      rfl

/-- Reading a written number rounds the rational that it stands for. -/
theorem read_decimal_eq (numeral : PointedNumeral) :
    readDecimal (String.ofList numeral.chars) =
      some (.ofDecimal false (spelled (numeral.whole ++ numeral.fraction))
        (numeral.shift - (numeral.fraction.length : Int))) := by
  have figures := pointed_figures numeral
  have each : ∀ c ∈ figureChars, Text.isWhiteSpace c = false ∧ asciiForm c = c ∧ c ≠ '_' :=
    each_of_chars (by decide)
  have ascii : numeral.chars.map asciiForm = numeral.chars :=
    (List.map_congr_left fun c member => (each c (figures.all c member)).2.1).trans (List.map_id _)
  have none : '_' ∉ numeral.chars := fun member => (each _ (figures.all _ member)).2.2 rfl
  have unsigned : FixtureImages.cutSign numeral.chars = (false, numeral.chars) := by
    obtain ⟨c, rest, same, digit⟩ := figures.cons_form
    rw [same]
    unfold FixtureImages.cutSign
    split
    · rename_i first
      cases first
      cases digit
    · rename_i first
      cases first
      cases digit
    · rfl
  unfold readDecimal
  rw [String.toList_ofList, trim_by_eq fun c member => (each c (figures.all c member)).1, ascii]
  change (dropUnderscores false numeral.chars).bind readAsciiDecimal = _
  rw [drop_underscores_eq none]
  change readAsciiDecimal numeral.chars = _
  unfold readAsciiDecimal
  rw [unsigned]
  exact numeral.read_unsigned false

theorem decimal_eq {significand : Nat} {exponent : Int} {negative : Bool}
    {numeral : PointedNumeral}
    (rounds : Binary64.ofDecimal false (spelled (numeral.whole ++ numeral.fraction))
      (numeral.shift - (numeral.fraction.length : Int)) = .finite false significand exponent) :
    decimal (String.ofList (signText negative ++ numeral.chars)) =
      .ok (.real (.finite negative significand exponent)) := by
  have figures := pointed_figures numeral
  have colon : numeral.chars.contains ':' = false := by simpa using no_colon figures
  obtain ⟨c, rest, same, digit⟩ := figures.cons_form
  have named (word : String) (first : word.toList.head? = some '.') :
      numeral.chars ≠ word.toList := by
    intro equal
    rw [← equal, same] at first
    cases first
    cases digit
  unfold decimal
  rw [String.toList_ofList, filter_signed figures, lower_figures (signed_all figures negative),
    String.toList_ofList]
  change (cutSign (signText negative ++ numeral.chars) >>= _) = _
  rw [cut_sign_signed figures]
  simp only [bind, Except.bind]
  rw [if_neg (named ".inf" rfl), if_neg (named ".nan" rfl), colon, if_neg Bool.false_ne_true,
    readReal, read_decimal_eq, rounds]
  cases negative <;> rfl

/-- A finite number in normal form is written as a plain text that reads back. -/
theorem real_reads_back {number : Binary64} (normal : number.Normal)
    (finite : number.isFinite = true) :
    Tag.ofPlain (realText number) = .decimal ∧
      scalarValue .decimal (realText number) = .ok (.real number) := by
  cases number with
  | nan => cases finite
  | infinite => cases finite
  | finite negative significand exponent =>
      obtain ⟨numeral, text, rounds⟩ := real_text_form normal
      have same : realText (.finite negative significand exponent) =
          String.ofList (signText negative ++ numeral.chars) := by
        rw [← text, String.ofList_toList]
      rw [same]
      constructor
      · have tag := number_tag (pointed_figures numeral) negative
          (.inr (pointed_decimal numeral negative))
        rwa [pointed_no_integer, if_neg Bool.false_ne_true] at tag
      · rw [scalarValue, decimal_eq rounds]
        rfl

end FixtureImages.Yaml
