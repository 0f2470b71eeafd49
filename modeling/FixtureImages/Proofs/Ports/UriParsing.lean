import FixtureImages.Proofs.Ports.UriGrammar

/-!
# Identifiers of a host and a port

What is written as a scheme, two slashes, an address, a colon and a port can be parsed in one way at
most, and only if the address is what the grammar admits as a host without brackets. A colon in it
is not admitted there.
-/

namespace FixtureImages.Uri

set_option autoImplicit false

open scoped Computability

/-! ## Where a text begins -/

theorem split_first {mark : Char} {front other back rest : List Char} (free : mark ∉ front)
    (freeToo : mark ∉ other) (same : front ++ mark :: back = other ++ mark :: rest) :
    front = other ∧ back = rest := by
  induction front generalizing other with
  | nil =>
      cases other with
      | nil => exact ⟨rfl, (List.cons.inj same).2⟩
      | cons first others =>
          exact absurd (List.mem_cons.mpr (.inl (List.cons.inj same).1)) freeToo
  | cons first fronts ih =>
      cases other with
      | nil => exact absurd (List.mem_cons.mpr (.inl (List.cons.inj same).1.symm)) free
      | cons second others =>
          obtain ⟨rfl, behind⟩ := List.cons.inj same
          obtain ⟨rfl, rfl⟩ := ih (List.not_mem_of_not_mem_cons free)
            (List.not_mem_of_not_mem_cons freeToo) behind
          exact ⟨rfl, rfl⟩

theorem scheme_avoids_colon : Avoids ':' scheme :=
  (avoids_one rfl).mul (((avoids_one rfl).add (avoids_one rfl)).add (avoids_one rfl)).star

theorem path_char_avoids_slash : Avoids '/' pathChar :=
  ((name_char_avoids rfl).add (avoids_literal (by simp))).add (avoids_literal (by simp))

/-- A rule without the empty text. -/
def Filled (rule : Language Char) : Prop := ∀ text ∈ rule, text ≠ []

theorem Filled.add {first second : Language Char} (early : Filled first) (late : Filled second) :
    Filled (first + second) :=
  each_of_add early late

theorem Filled.before {first second : Language Char} (early : Filled first) :
    Filled (first * second) :=
  each_of_mul fun front own back _ => List.append_ne_nil_of_left_ne_nil (early front own) back

theorem filled_one {kind : Char → Bool} : Filled (one kind) := by
  rintro _ ⟨c, -, rfl⟩
  exact List.cons_ne_nil c []

theorem filled_literal {word : String} (filled : word.toList ≠ []) : Filled (literal word) :=
  each_of_literal filled

theorem path_char_filled : Filled pathChar :=
  (((filled_one.add (filled_literal (by simp)).before.before).add filled_one).add
    (filled_literal (by simp))).add (filled_literal (by simp))

theorem rooted_path_cases {path : List Char} (member : path ∈ rootedPath) :
    path = [] ∨ '/' ∈ path := by
  obtain ⟨parts, rfl, own⟩ := Language.mem_kstar.mp member
  cases parts with
  | nil => exact .inl rfl
  | cons first rest =>
      have slash : '/' ∈ first :=
        (requires_literal (by simp)).before first (own first List.mem_cons_self)
      exact .inr (List.mem_append_left _ slash)

theorem rootless_path_begins {path : List Char} (member : path ∈ rootlessPath) :
    ∃ c rest, path = c :: rest ∧ c ≠ '/' := by
  obtain ⟨front, filled, back, -, rfl⟩ := Language.mem_mul.mp member
  obtain ⟨first, own, others, -, rfl⟩ := Language.mem_mul.mp filled
  cases first with
  | nil => exact absurd rfl (path_char_filled [] own)
  | cons c rest =>
      refine ⟨c, rest ++ others ++ back, by simp, ?_⟩
      rintro rfl
      exact path_char_avoids_slash _ own List.mem_cons_self

/-- Two slashes at the beginning are left to an authority. -/
theorem path_without_authority {path : List Char}
    (member : path ∈ absolutePath + rootlessPath + 1) (rest : List Char) :
    path ≠ '/' :: '/' :: rest := by
  rintro rfl
  rcases (Language.mem_add _ _ _).mp member with some | empty
  · rcases (Language.mem_add _ _ _).mp some with absolute | rootless
    · obtain ⟨slash, own, back, behind, same⟩ := Language.mem_mul.mp absolute
      cases Set.mem_singleton_iff.mp own
      obtain rfl : back = '/' :: rest := by simpa using same
      rcases (Language.mem_add _ _ _).mp behind with empty | rootless
      · cases (Language.mem_one _).mp empty
      · obtain ⟨c, others, same, apart⟩ := rootless_path_begins rootless
        exact apart (List.cons.inj same).1.symm
    · obtain ⟨c, others, same, apart⟩ := rootless_path_begins rootless
      exact apart (List.cons.inj same).1.symm
  · cases (Language.mem_one _).mp empty

/-! ## Texts whose only delimiters are colons -/

/-- Of the delimiters between components the text has colons at most. -/
def Bare (text : List Char) : Prop := ∀ c ∈ text, isGeneralDelimiter c = true → c = ':'

theorem Bare.free {text : List Char} (bare : Bare text) {c : Char}
    (general : isGeneralDelimiter c = true) (apart : c ≠ ':') : c ∉ text :=
  fun inside => apart (bare c inside general)

theorem Bare.of_append {front back : List Char} (bare : Bare (front ++ back)) :
    Bare front ∧ Bare back :=
  ⟨fun c inside => bare c (List.mem_append_left _ inside),
    fun c inside => bare c (List.mem_append_right _ inside)⟩

theorem marked_free {mark : Char} {part : Option (List Char)} (free : mark ∉ marked mark part) :
    part = none := by
  cases part with
  | none => rfl
  | some text => exact absurd List.mem_cons_self free

theorem authority_bare {authority : Authority} (bare : Bare authority.text) :
    ∃ name port, authority = ⟨none, .named name, port⟩ := by
  obtain ⟨user, host, port⟩ := authority
  obtain ⟨early, late⟩ := bare.of_append
  cases user with
  | some user =>
      exact absurd (List.mem_append_right user List.mem_cons_self) (early.free rfl (by decide))
  | none =>
      cases host with
      | named name => exact ⟨name, port, rfl⟩
      | bracketed address =>
          exact absurd List.mem_cons_self (late.free (c := '[') rfl (by decide))

/-- Behind two slashes a text whose only delimiters are colons is a host and a port. -/
theorem parts_of_bare {parts : Components} {front tail : List Char} (valid : parts.Valid)
    (free : ':' ∉ front) (bare : Bare tail)
    (same : parts.text = front ++ ':' :: '/' :: '/' :: tail) :
    ∃ name port, parts = ⟨front, some ⟨none, .named name, port⟩, [], none, none⟩ ∧
      name ++ marked ':' port = tail := by
  obtain ⟨own, authority, path, query, fragment⟩ := parts
  obtain ⟨rfl, behind⟩ := split_first (scheme_avoids_colon _ valid.scheme) free same
  -- Without an authority the two slashes would begin a path, which the grammar rules out.
  cases authority with
  | none =>
      have whole : path ++ (marked '?' query ++ marked '#' fragment) = '/' :: '/' :: tail := behind
      have outside (mark : Char) (general : isGeneralDelimiter mark = true) (apart : mark ≠ ':')
          (other : mark ≠ '/') : mark ∉ marked '?' query ++ marked '#' fragment := by
        intro inside
        have among : mark ∈ '/' :: '/' :: tail := whole ▸ List.mem_append_right path inside
        simp only [List.mem_cons, other, false_or] at among
        exact bare.free general apart among
      obtain rfl : query = none := marked_free fun inside =>
        outside '?' rfl (by decide) (by decide) (List.mem_append_left _ inside)
      obtain rfl : fragment = none := marked_free fun inside =>
        outside '#' rfl (by decide) (by decide) (List.mem_append_right _ inside)
      have only : path = '/' :: '/' :: tail := (List.append_nil path).symm.trans whole
      exact absurd only (path_without_authority valid.path tail)
  | some authority =>
      obtain rfl : authority.text ++ (path ++ (marked '?' query ++ marked '#' fragment)) = tail :=
        (List.cons.inj (List.cons.inj behind).2).2
      obtain ⟨bareAuthority, bareRest⟩ := bare.of_append
      obtain ⟨barePath, bareMarks⟩ := bareRest.of_append
      obtain ⟨name, port, rfl⟩ := authority_bare bareAuthority
      obtain rfl : query = none := marked_free (bareMarks.of_append.1.free rfl (by decide))
      obtain rfl : fragment = none := marked_free (bareMarks.of_append.2.free rfl (by decide))
      obtain rfl : path = [] :=
        (rooted_path_cases valid.path).resolve_right (barePath.free rfl (by decide))
      exact ⟨name, port, rfl, (List.append_nil _).symm⟩

/-! ## An address and a port -/

/-- The components of a scheme, an address as host and a port. -/
def Components.ofAddress (scheme address port : List Char) : Components :=
  ⟨scheme, some ⟨none, .named address, some port⟩, [], none, none⟩

theorem name_avoids_colon : Avoids ':' (ipv4Address + registeredName) :=
  (ipv4_avoids rfl (by decide)).add (name_char_avoids rfl).star

/-- An address and a port behind a scheme are parsed in one way, if the address is admitted as a
host without brackets, and else not at all. -/
theorem parses_address_iff {text : String} {front address number : List Char} {parts : Components}
    (admitted : front ∈ scheme) (bare : Bare address) (numbered : number ∈ port)
    (written : text.toList = front ++ ':' :: '/' :: '/' :: (address ++ ':' :: number)) :
    Parses text parts ↔
      address ∈ ipv4Address + registeredName ∧ parts = .ofAddress front address number := by
  constructor
  · rintro ⟨valid, same⟩
    have bareTail : Bare (address ++ ':' :: number) := by
      intro c inside general
      rcases List.mem_append.mp inside with early | late
      · exact bare c early general
      · exact (List.mem_cons.mp late).resolve_right (port_avoids general number numbered)
    obtain ⟨name, digits, rfl, tail⟩ := parts_of_bare valid (scheme_avoids_colon _ admitted)
      bareTail (same.trans written)
    have host : name ∈ ipv4Address + registeredName := (valid.authority _ rfl).host
    cases digits with
    | none =>
        have inside : ':' ∈ name := by
          rw [← List.append_nil name]
          exact tail ▸ List.mem_append_right address List.mem_cons_self
        exact absurd inside (name_avoids_colon name host)
    | some digits =>
        -- The name and the port on the left have no colon, so the one between them is the last one.
        have digitsOnly : digits ∈ port := (valid.authority _ rfl).port digits rfl
        obtain ⟨rfl, -, rfl⟩ := (List.append_cons_inj_of_notMem
          (name_avoids_colon name host) (port_avoids rfl digits digitsOnly)).mp tail
        exact ⟨host, rfl⟩
  · rintro ⟨host, rfl⟩
    refine ⟨⟨admitted, ?_, Language.nil_mem_kstar _, ?_, ?_⟩, ?_⟩
    · rintro _ ⟨⟩
      exact ⟨nofun, host, fun _ own => Option.some.inj own ▸ numbered⟩
    · exact nofun
    · exact nofun
    · rw [written]
      simp [Components.text, Components.ofAddress, Authority.text, Host.text, marked]

end FixtureImages.Uri
