import FixtureImages.Directive

/-!
# Reading directives back

Escaping is undone by reading, whatever characters a label is made of. So the directives of an image
set exactly the labels that they were written for.
-/

namespace FixtureImages.Directive

set_option autoImplicit false

/-- A character that is not escaped and does not close the text is read as it is. -/
theorem unquote_plain {c : Char} (closes : c ≠ '"') (escapes : c ≠ '\\')
    (rest : List Char) :
    unquote (c :: rest) = (unquote rest).map (Prod.map (c :: ·) id) := by
  rw [unquote.eq_5]
  · rfl
  · exact closes
  · exact fun _ _ same => absurd same escapes
  · exact fun same => absurd same escapes

theorem unquote_escaped (text rest : List Char) :
    unquote (text.flatMap escape ++ '"' :: rest) = some (text, rest) := by
  induction text with
  | nil => rw [List.flatMap_nil, List.nil_append, unquote]
  | cons c text ih =>
      rw [List.flatMap_cons, List.append_assoc]
      by_cases escaped : needsEscape c = true
      · rw [escape, if_pos escaped, List.cons_append, List.cons_append, List.nil_append, unquote,
          ih]
        rfl
      · rw [escape, if_neg escaped, List.cons_append, List.nil_append]
        simp only [needsEscape, Bool.or_eq_true, beq_iff_eq, not_or] at escaped
        rw [unquote_plain escaped.1.2 escaped.1.1, ih]
        rfl

theorem read_quoted_quote (text rest : List Char) :
    readQuoted (quote text ++ rest) = some (text, rest) := by
  simp [readQuoted, quote, unquote_escaped]

private theorem prefix_cut (word rest : List Char) :
    word.isPrefixOf? (word ++ rest) = some rest := by
  induction word with
  | nil => rfl
  | cons c word ih =>
      have step : (c :: word).isPrefixOf? (c :: (word ++ rest)) =
          if c == c then word.isPrefixOf? (word ++ rest) else none := rfl
      rw [List.cons_append, step, beq_self_eq_true, if_pos rfl, ih]

/-- A directive is read as the label that it was written for. -/
theorem read_of_label (key value : String) : read (ofLabel key value) = some (key, value) := by
  have last : readQuoted (quote value.toList) = some (value.toList, []) := by
    simpa using read_quoted_quote value.toList []
  unfold read ofLabel
  simp only [String.toList_ofList, List.append_assoc, prefix_cut, Option.bind_eq_bind,
    Option.bind_some, read_quoted_quote, last, List.isEmpty_nil, if_true, String.ofList_toList]

theorem read_of_labels (labels : Labels) : (ofLabels labels).filterMap read = labels.entries := by
  simp only [ofLabels, List.filterMap_map, Function.comp_def, read_of_label]
  exact List.filterMap_some

end FixtureImages.Directive
