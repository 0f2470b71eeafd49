import Mathlib.Computability.Language

/-!
# The generic syntax of resource identifiers

The grammar of the standard, rule by rule, as languages of characters. An identifier is put together
from its components; parsing it means to find components that the grammar admits and that give it.
-/

namespace FixtureImages.Uri

set_option autoImplicit false

open scoped Computability

/-! ## Rules -/

/-- The texts of one character of a class. -/
def one (kind : Char → Bool) : Language Char := {text | ∃ c, kind c = true ∧ text = [c]}

def literal (word : String) : Language Char := {word.toList}

/-- At most so many repetitions. -/
def upTo : Nat → Language Char → Language Char
  | 0, _ => 1
  | count + 1, rule => 1 + rule * upTo count rule

/-- The delimiters between components. -/
def isGeneralDelimiter (c : Char) : Bool := ":/?#[]@".toList.contains c

def isHexDigit (c : Char) : Bool := c.isDigit || "abcdefABCDEF".toList.contains c

def isSubDelimiter (c : Char) : Bool := "!$&'()*+,;=".toList.contains c

def isUnreserved (c : Char) : Bool := c.isAlphanum || "-._~".toList.contains c

def alpha : Language Char := one Char.isAlpha

def digit : Language Char := one Char.isDigit

def hexDigit : Language Char := one isHexDigit

def percentEncoded : Language Char := literal "%" * hexDigit * hexDigit

/-- A character of a name: unreserved, written with a percent sign, or a delimiter of lower rank. -/
def nameChar : Language Char := one isUnreserved + percentEncoded + one isSubDelimiter

def pathChar : Language Char := nameChar + literal ":" + literal "@"

def scheme : Language Char := alpha * (alpha + digit + one "+-.".toList.contains)∗

def userInfo : Language Char := (nameChar + literal ":")∗

def decimalOctet : Language Char :=
  digit + one "123456789".toList.contains * digit + literal "1" * digit * digit +
    literal "2" * one "01234".toList.contains * digit + literal "25" * one "012345".toList.contains

def ipv4Address : Language Char :=
  decimalOctet * literal "." * decimalOctet * literal "." * decimalOctet * literal "." * decimalOctet

/-- Sixteen bits of an address. -/
def piece : Language Char := hexDigit * upTo 3 hexDigit

/-- The last thirty-two bits of an address. -/
def lastPieces : Language Char := piece * literal ":" * piece + ipv4Address

/-- At most so many pieces in front of a double colon. -/
def piecesUpTo : Nat → Language Char
  | 0 => 1
  | count + 1 => 1 + upTo count (piece * literal ":") * piece

def ipv6Address : Language Char :=
  (piece * literal ":") ^ 6 * lastPieces +
    literal "::" * (piece * literal ":") ^ 5 * lastPieces +
    piecesUpTo 1 * literal "::" * (piece * literal ":") ^ 4 * lastPieces +
    piecesUpTo 2 * literal "::" * (piece * literal ":") ^ 3 * lastPieces +
    piecesUpTo 3 * literal "::" * (piece * literal ":") ^ 2 * lastPieces +
    piecesUpTo 4 * literal "::" * (piece * literal ":") * lastPieces +
    piecesUpTo 5 * literal "::" * lastPieces +
    piecesUpTo 6 * literal "::" * piece +
    piecesUpTo 7 * literal "::"

/-- An address of a version to come. -/
def futureAddress : Language Char :=
  one "vV".toList.contains * (hexDigit * hexDigit∗) * literal "." *
    ((one isUnreserved + one isSubDelimiter + literal ":") *
      (one isUnreserved + one isSubDelimiter + literal ":")∗)

def registeredName : Language Char := nameChar∗

def port : Language Char := digit∗

def segment : Language Char := pathChar∗

def filledSegment : Language Char := pathChar * pathChar∗

/-- A path behind an authority. -/
def rootedPath : Language Char := (literal "/" * segment)∗

def absolutePath : Language Char := literal "/" * (1 + filledSegment * rootedPath)

def rootlessPath : Language Char := filledSegment * rootedPath

/-- The text of a query or of a fragment. -/
def queryText : Language Char := (pathChar + literal "/" + literal "?")∗

/-! ## Components -/

/-- A host is an address in brackets, or a name. Addresses of version 4 are written like names. -/
inductive Host
  | bracketed (address : List Char)
  | named (name : List Char)
deriving DecidableEq

namespace Host

def text : Host → List Char
  | bracketed address => '[' :: (address ++ [']'])
  | named name => name

/-- The address or name itself. -/
def address : Host → List Char
  | bracketed address => address
  | named name => name

def Valid : Host → Prop
  | bracketed address => address ∈ ipv6Address + futureAddress
  | named name => name ∈ ipv4Address + registeredName

end Host

structure Authority where
  user : Option (List Char)
  host : Host
  port : Option (List Char)
deriving DecidableEq

/-- A part with a mark in front of it, or nothing. -/
def marked (mark : Char) (part : Option (List Char)) : List Char :=
  (part.map fun text => mark :: text).getD []

namespace Authority

def text (authority : Authority) : List Char :=
  (authority.user.map fun user => user ++ ['@']).getD [] ++
    (authority.host.text ++ marked ':' authority.port)

structure Valid (authority : Authority) : Prop where
  user : ∀ user ∈ authority.user, user ∈ userInfo
  host : authority.host.Valid
  port : ∀ port ∈ authority.port, port ∈ Uri.port

end Authority

structure Components where
  scheme : List Char
  authority : Option Authority
  path : List Char
  query : Option (List Char)
  fragment : Option (List Char)
deriving DecidableEq

namespace Components

def text (parts : Components) : List Char :=
  parts.scheme ++ ':' ::
    ((parts.authority.map fun authority => '/' :: '/' :: authority.text).getD [] ++
      (parts.path ++ (marked '?' parts.query ++ marked '#' parts.fragment)))

/-- Which paths are admitted depends on whether there is an authority. -/
structure Valid (parts : Components) : Prop where
  scheme : parts.scheme ∈ Uri.scheme
  authority : ∀ authority ∈ parts.authority, authority.Valid
  path : parts.path ∈
    if parts.authority.isSome then rootedPath else absolutePath + rootlessPath + 1
  query : ∀ query ∈ parts.query, query ∈ queryText
  fragment : ∀ fragment ∈ parts.fragment, fragment ∈ queryText

end Components

/-- A text is an identifier with these components. -/
def Parses (text : String) (parts : Components) : Prop := parts.Valid ∧ parts.text = text.toList

/-! ## Texts of composed rules -/

section

variable {first second : Language Char} {holds : List Char → Prop}

theorem each_of_add (early : ∀ text ∈ first, holds text) (late : ∀ text ∈ second, holds text) :
    ∀ text ∈ first + second, holds text := by
  intro text member
  rcases (Language.mem_add first second text).mp member with own | own
  · exact early text own
  · exact late text own

theorem each_of_mul (joined : ∀ front ∈ first, ∀ back ∈ second, holds (front ++ back)) :
    ∀ text ∈ first * second, holds text := by
  intro text member
  obtain ⟨front, own, back, other, rfl⟩ := Language.mem_mul.mp member
  exact joined front own back other

theorem each_of_literal {word : String} (own : holds word.toList) :
    ∀ text ∈ literal word, holds text := by
  intro text member
  rw [Set.mem_singleton_iff.mp member]
  exact own

end

/-! ## Characters of rules -/

/-- No text of a rule has a character. -/
def Avoids (c : Char) (rule : Language Char) : Prop := ∀ text ∈ rule, c ∉ text

/-- Every text of a rule has a character. -/
def Requires (c : Char) (rule : Language Char) : Prop := ∀ text ∈ rule, c ∈ text

section

variable {c : Char} {first second : Language Char}

theorem Avoids.add (early : Avoids c first) (late : Avoids c second) : Avoids c (first + second) :=
  each_of_add early late

theorem Avoids.mul (early : Avoids c first) (late : Avoids c second) :
    Avoids c (first * second) := by
  refine each_of_mul fun front own back other => ?_
  rw [List.mem_append, not_or]
  exact ⟨early front own, late back other⟩

theorem avoids_empty : Avoids c 1 := by
  intro text member
  rw [(Language.mem_one text).mp member]
  exact List.not_mem_nil

theorem Avoids.pow (each : Avoids c first) (count : Nat) : Avoids c (first ^ count) := by
  induction count with
  | zero =>
      rw [pow_zero]
      exact avoids_empty
  | succ count ih =>
      rw [pow_succ]
      exact ih.mul each

theorem Avoids.star (each : Avoids c first) : Avoids c first∗ := by
  intro text member
  obtain ⟨parts, rfl, own⟩ := Language.mem_kstar.mp member
  intro inside
  obtain ⟨part, here, has⟩ := List.mem_flatten.mp inside
  exact each part (own part here) has

theorem Avoids.up_to (each : Avoids c first) (count : Nat) : Avoids c (upTo count first) := by
  induction count with
  | zero => exact avoids_empty
  | succ count ih => exact avoids_empty.add (each.mul ih)

theorem avoids_one {kind : Char → Bool} (outside : kind c = false) : Avoids c (one kind) := by
  rintro _ ⟨d, own, rfl⟩ inside
  rw [List.mem_singleton.mp inside, own] at outside
  cases outside

theorem avoids_literal {word : String} (outside : c ∉ word.toList) : Avoids c (literal word) :=
  each_of_literal outside

theorem Requires.add (early : Requires c first) (late : Requires c second) :
    Requires c (first + second) :=
  each_of_add early late

theorem Requires.before (early : Requires c first) : Requires c (first * second) :=
  each_of_mul fun front own back _ => List.mem_append_left back (early front own)

theorem Requires.behind (late : Requires c second) : Requires c (first * second) :=
  each_of_mul fun front _ back own => List.mem_append_right front (late back own)

theorem requires_literal {word : String} (inside : c ∈ word.toList) : Requires c (literal word) :=
  each_of_literal inside

end

/-! ## Characters of addresses -/

section

variable {c : Char}

theorem avoids_class {kind : Char → Bool} {word : String} (within : word.toList.all kind = true)
    (outside : kind c = false) : Avoids c (one word.toList.contains) := by
  refine avoids_one ?_
  rw [← Bool.not_eq_true, List.contains_iff_mem]
  intro inside
  rw [List.all_eq_true.mp within c inside] at outside
  cases outside

theorem is_digit_of_not_hex (notHex : isHexDigit c = false) : c.isDigit = false :=
  (Bool.or_eq_false_iff.mp notHex).1

theorem decimal_octet_avoids (notDigit : c.isDigit = false) : Avoids c decimalOctet := by
  have each : Avoids c digit := avoids_one notDigit
  have figure {word : String} (within : word.toList.all Char.isDigit = true) :
      Avoids c (literal word) := by
    refine avoids_literal fun inside => ?_
    rw [List.all_eq_true.mp within c inside] at notDigit
    cases notDigit
  refine (((each.add ?_).add ?_).add ?_).add ?_
  · exact (avoids_class rfl notDigit).mul each
  · exact ((figure rfl).mul each).mul each
  · exact ((figure rfl).mul (avoids_class rfl notDigit)).mul each
  · exact (figure rfl).mul (avoids_class rfl notDigit)

theorem ipv4_avoids (notDigit : c.isDigit = false) (notDot : c ≠ '.') : Avoids c ipv4Address := by
  have octet : Avoids c decimalOctet := decimal_octet_avoids notDigit
  have dot : Avoids c (literal ".") := avoids_literal (by simpa using notDot)
  exact (((((octet.mul dot).mul octet).mul dot).mul octet).mul dot).mul octet

theorem piece_avoids (notHex : isHexDigit c = false) : Avoids c piece :=
  (avoids_one notHex).mul ((avoids_one notHex).up_to 3)

section

variable (notHex : isHexDigit c = false) (notColon : c ≠ ':')

include notHex notColon

theorem piece_colon_avoids : Avoids c (piece * literal ":") :=
  (piece_avoids notHex).mul (avoids_literal (by simpa using notColon))

theorem pieces_up_to_avoids (count : Nat) : Avoids c (piecesUpTo count) := by
  cases count with
  | zero => exact avoids_empty
  | succ count =>
      exact avoids_empty.add
        (((piece_colon_avoids notHex notColon).up_to count).mul (piece_avoids notHex))

theorem ipv6_avoids (notDot : c ≠ '.') : Avoids c ipv6Address := by
  have last : Avoids c lastPieces :=
    ((piece_colon_avoids notHex notColon).mul (piece_avoids notHex)).add
      (ipv4_avoids (is_digit_of_not_hex notHex) notDot)
  have each (count : Nat) : Avoids c ((piece * literal ":") ^ count) :=
    (piece_colon_avoids notHex notColon).pow count
  have colons : Avoids c (literal "::") := avoids_literal (by simpa using notColon)
  have front (count : Nat) : Avoids c (piecesUpTo count * literal "::") :=
    (pieces_up_to_avoids notHex notColon count).mul colons
  refine (((((((Avoids.add ?_ ?_).add ?_).add ?_).add ?_).add ?_).add ?_).add ?_).add (front 7)
  · exact (each 6).mul last
  · exact (colons.mul (each 5)).mul last
  · exact ((front 1).mul (each 4)).mul last
  · exact ((front 2).mul (each 3)).mul last
  · exact ((front 3).mul (each 2)).mul last
  · exact ((front 4).mul (piece_colon_avoids notHex notColon)).mul last
  · exact (front 5).mul last
  · exact (front 6).mul (piece_avoids notHex)

end

/-- An address of version 6 has a colon in it. -/
theorem ipv6_requires_colon : Requires ':' ipv6Address := by
  have colons : Requires ':' (literal "::") := requires_literal (by simp)
  have front (count : Nat) : Requires ':' (piecesUpTo count * literal "::") := colons.behind
  have six : Requires ':' ((piece * literal ":") ^ 6) := by
    rw [pow_succ]
    exact (requires_literal (by simp)).behind.behind
  refine (((((((Requires.add ?_ ?_).add ?_).add ?_).add ?_).add ?_).add ?_).add ?_).add (front 7)
  · exact six.before
  · exact colons.before.before
  · exact (front 1).before.before
  · exact (front 2).before.before
  · exact (front 3).before.before
  · exact (front 4).before.before
  · exact (front 5).before
  · exact (front 6).before

end

/-! ## Characters between components -/

section

variable {c : Char}

/-- The delimiters between components are of none of the kinds that names and addresses consist of. -/
theorem general_delimiter_apart (general : isGeneralDelimiter c = true) :
    isUnreserved c = false ∧ isSubDelimiter c = false ∧ isHexDigit c = false ∧ c ≠ '%' ∧
      c ≠ '.' := by
  have inside : c ∈ ":/?#[]@".toList := List.contains_iff_mem.mp general
  simp only [String.reduceToList, List.mem_cons, List.not_mem_nil, or_false] at inside
  rcases inside with rfl | rfl | rfl | rfl | rfl | rfl | rfl <;> decide

/-- A name has no delimiter of components in it. -/
theorem name_char_avoids (general : isGeneralDelimiter c = true) : Avoids c nameChar := by
  obtain ⟨unreserved, sub, notHex, percent, -⟩ := general_delimiter_apart general
  have sign : Avoids c (literal "%") := avoids_literal (by simpa using percent)
  exact ((avoids_one unreserved).add ((sign.mul (avoids_one notHex)).mul (avoids_one notHex))).add
    (avoids_one sub)

/-- Of the delimiters between components an address has colons at most. -/
theorem address_avoids (general : isGeneralDelimiter c = true) (notColon : c ≠ ':') :
    Avoids c (ipv4Address + ipv6Address) := by
  obtain ⟨-, -, notHex, -, notDot⟩ := general_delimiter_apart general
  exact (ipv4_avoids (is_digit_of_not_hex notHex) notDot).add (ipv6_avoids notHex notColon notDot)

theorem port_avoids (general : isGeneralDelimiter c = true) : Avoids c port :=
  (avoids_one (is_digit_of_not_hex (general_delimiter_apart general).2.2.1)).star

end

/-! ## Texts of some rules -/

theorem mem_one {kind : Char → Bool} {c : Char} (own : kind c = true) : [c] ∈ one kind :=
  ⟨c, own, rfl⟩

theorem mem_star_of_chars {rule : Language Char} {text : List Char} (each : ∀ c ∈ text, [c] ∈ rule) :
    text ∈ rule∗ := by
  refine Language.mem_kstar.mpr ⟨text.map ([·]), (List.flatMap_singleton' text).symm, ?_⟩
  intro part member
  obtain ⟨c, inside, rfl⟩ := List.mem_map.mp member
  exact each c inside

/-- Letters are a scheme. -/
theorem mem_scheme_of_letters {text : List Char} (filled : text ≠ [])
    (letters : text.all Char.isAlpha = true) : text ∈ scheme := by
  cases text with
  | nil => exact absurd rfl filled
  | cons c rest =>
      have own := List.all_eq_true.mp letters
      refine Language.mem_mul.mpr ⟨[c], mem_one (own c List.mem_cons_self), rest, ?_, rfl⟩
      refine mem_star_of_chars fun d inside => ?_
      exact (Language.mem_add _ _ _).mpr (.inl ((Language.mem_add _ _ _).mpr
        (.inl (mem_one (own d (List.mem_cons_of_mem c inside))))))

theorem mem_port_of_digits {text : List Char} (digits : ∀ c ∈ text, c.isDigit = true) :
    text ∈ port :=
  mem_star_of_chars fun c inside => mem_one (digits c inside)

theorem mem_literal (word : String) : word.toList ∈ literal word := Set.mem_singleton _

/-- The address of version 4 by which a host means itself. -/
theorem loopback_mem_ipv4 : "127.0.0.1".toList ∈ ipv4Address := by
  have figure (c : Char) (own : c.isDigit = true) : [c] ∈ decimalOctet :=
    .inl (.inl (.inl (.inl (mem_one own))))
  have first : ['1', '2', '7'] ∈ decimalOctet :=
    .inl (.inl (.inr (Language.append_mem_mul
      (Language.append_mem_mul (mem_literal "1") (mem_one rfl)) (mem_one rfl))))
  have dot : ['.'] ∈ literal "." := mem_literal "."
  have two := Language.append_mem_mul (Language.append_mem_mul first dot) (figure '0' rfl)
  have three := Language.append_mem_mul (Language.append_mem_mul two dot) (figure '0' rfl)
  exact Language.append_mem_mul (Language.append_mem_mul three dot) (figure '1' rfl)

/-- The address of version 6 by which a host means itself. -/
theorem loopback_mem_ipv6 : "::1".toList ∈ ipv6Address := by
  have nothing : [] ∈ piecesUpTo 6 := .inl Language.nil_mem_one
  have one : ['1'] ∈ piece :=
    Language.append_mem_mul (mem_one rfl) (.inl Language.nil_mem_one)
  exact .inl (.inr (Language.append_mem_mul
    (Language.append_mem_mul nothing (mem_literal "::")) one))

end FixtureImages.Uri
