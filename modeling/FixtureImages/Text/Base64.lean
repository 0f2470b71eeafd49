/-!
# Base64

Bytes written as letters that stand for six bits each. Reading is lenient: characters outside the
alphabet are passed over, and padding that completes a group of four ends the text. A group that is
neither complete nor padded is refused.
-/

namespace FixtureImages.Text

set_option autoImplicit false

/-- The six bits that a letter stands for. -/
def sextet? (c : Char) : Option Nat :=
  if 'A' ≤ c ∧ c ≤ 'Z' then some (c.toNat - 65)
  else if 'a' ≤ c ∧ c ≤ 'z' then some (c.toNat - 71)
  else if '0' ≤ c ∧ c ≤ '9' then some (c.toNat + 4)
  else if c = '+' then some 62
  else if c = '/' then some 63
  else none

/-- Read on in a group of four: `place` letters of it are read, `left` holds the bits that make no
whole byte yet, and `pads` marks have been seen since the last letter. -/
def base64From (place left pads : Nat) : List Char → Option (List UInt8)
  | [] => if place = 0 then some [] else none
  | c :: rest =>
      if c = '=' then
        if 2 ≤ place then
          if 4 ≤ place + pads + 1 then some [] else base64From place left (pads + 1) rest
        else base64From place left pads rest
      else
        match sextet? c with
        | none => base64From place left pads rest
        | some bits =>
            if place = 0 then base64From 1 bits 0 rest
            else
              let joined := left * 64 + bits
              let spare := if place = 1 then 16 else if place = 2 then 4 else 1
              (base64From ((place + 1) % 4) (joined % spare) 0 rest).map
                (UInt8.ofNat (joined / spare) :: ·)

def ofBase64 (text : List Char) : Option (List UInt8) := base64From 0 0 0 text

end FixtureImages.Text
