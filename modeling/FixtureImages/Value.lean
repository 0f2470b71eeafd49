import FixtureImages.Calendar
import FixtureImages.Decimal.Binary64

/-!
# Untyped values

Data before it is validated: what a document or a daemon's answer may hold. A mapping keeps its
entries in order of first insertion, and its keys may be values of any kind that can serve as a key.
-/

namespace FixtureImages

set_option autoImplicit false

inductive Value
  | null
  | bool (value : Bool)
  | int (value : Int)
  | real (value : Binary64)
  | text (value : String)
  | bytes (value : List UInt8)
  | date (value : Date)
  | moment (value : Moment)
  | list (items : List Value)
  | tuple (items : List Value)
  | map (entries : List (Value × Value))
  | set (items : List Value)
deriving Inhabited

namespace Value

mutual

def decEq : (a b : Value) → Decidable (a = b)
  | .null, b => by cases b <;> first | exact isTrue rfl | exact isFalse nofun
  | .bool x, b => by
      cases b with
      | bool y => exact decidable_of_iff (x = y) (by simp)
      | _ => exact isFalse nofun
  | .int x, b => by
      cases b with
      | int y => exact decidable_of_iff (x = y) (by simp)
      | _ => exact isFalse nofun
  | .real x, b => by
      cases b with
      | real y => exact decidable_of_iff (x = y) (by simp)
      | _ => exact isFalse nofun
  | .text x, b => by
      cases b with
      | text y => exact decidable_of_iff (x = y) (by simp)
      | _ => exact isFalse nofun
  | .bytes x, b => by
      cases b with
      | bytes y => exact decidable_of_iff (x = y) (by simp)
      | _ => exact isFalse nofun
  | .date x, b => by
      cases b with
      | date y => exact decidable_of_iff (x = y) (by simp)
      | _ => exact isFalse nofun
  | .moment x, b => by
      cases b with
      | moment y => exact decidable_of_iff (x = y) (by simp)
      | _ => exact isFalse nofun
  | .list x, b =>
      match b with
      | .list y =>
          match decEqItems x y with
          | isTrue same => isTrue (by rw [same])
          | isFalse differ => isFalse (by simpa using differ)
      | .null | .bool _ | .int _ | .real _ | .text _ | .bytes _ | .date _ | .moment _ | .tuple _
      | .map _ | .set _ => isFalse nofun
  | .tuple x, b =>
      match b with
      | .tuple y =>
          match decEqItems x y with
          | isTrue same => isTrue (by rw [same])
          | isFalse differ => isFalse (by simpa using differ)
      | .null | .bool _ | .int _ | .real _ | .text _ | .bytes _ | .date _ | .moment _ | .list _
      | .map _ | .set _ => isFalse nofun
  | .map x, b =>
      match b with
      | .map y =>
          match decEqEntries x y with
          | isTrue same => isTrue (by rw [same])
          | isFalse differ => isFalse (by simpa using differ)
      | .null | .bool _ | .int _ | .real _ | .text _ | .bytes _ | .date _ | .moment _ | .list _
      | .tuple _ | .set _ => isFalse nofun
  | .set x, b =>
      match b with
      | .set y =>
          match decEqItems x y with
          | isTrue same => isTrue (by rw [same])
          | isFalse differ => isFalse (by simpa using differ)
      | .null | .bool _ | .int _ | .real _ | .text _ | .bytes _ | .date _ | .moment _ | .list _
      | .tuple _ | .map _ => isFalse nofun

def decEqItems : (a b : List Value) → Decidable (a = b)
  | [], [] => isTrue rfl
  | [], _ :: _ => isFalse nofun
  | _ :: _, [] => isFalse nofun
  | a :: as, b :: bs =>
      match decEq a b, decEqItems as bs with
      | isTrue head, isTrue tail => isTrue (by rw [head, tail])
      | isFalse head, _ => isFalse (by simp [head])
      | _, isFalse tail => isFalse (by simp [tail])

def decEqEntries : (a b : List (Value × Value)) → Decidable (a = b)
  | [], [] => isTrue rfl
  | [], _ :: _ => isFalse nofun
  | _ :: _, [] => isFalse nofun
  | (ka, va) :: as, (kb, vb) :: bs =>
      match decEq ka kb, decEq va vb, decEqEntries as bs with
      | isTrue key, isTrue value, isTrue tail => isTrue (by rw [key, value, tail])
      | isFalse key, _, _ => isFalse (by simp [key])
      | _, isFalse value, _ => isFalse (by simp [value])
      | _, _, isFalse tail => isFalse (by simp [tail])

end

instance : DecidableEq Value := decEq

/-- The integer that a value counts as when keys are compared: truth values count as 0 and 1. -/
def asInt? : Value → Option Int
  | .bool value => some (if value then 1 else 0)
  | .int value => some value
  | .real value => value.toInt?
  | _ => none

/-- Whether two values are the same key. Numbers of one size are one key whatever their kind,
moments are compared on the universal time line, and the number that is no number is never the same.
-/
def sameKey (a b : Value) : Bool :=
  match a.asInt?, b.asInt? with
  | some x, some y => x == y
  | some _, none => false
  | none, some _ => false
  | none, none =>
      match a, b with
      | .real x, .real y => x == y && x != .nan
      | .moment x, .moment y => x.isSame y
      | _, _ => decide (a = b)

/-- Whether a value can serve as a key. Tuples only stand in lists, so it does not matter for them. -/
def isKey : Value → Bool
  | .list _ | .tuple _ | .map _ | .set _ => false
  | _ => true

/-- Write an entry: under the first key that is the same, or at the end. -/
def putEntry (key value : Value) : List (Value × Value) → List (Value × Value)
  | [] => [(key, value)]
  | (other, old) :: rest =>
      if sameKey other key then (other, value) :: rest else (other, old) :: putEntry key value rest

/-- A mapping from pairs, of which the last under one key stays, at the place of the first. -/
def ofPairs (pairs : List (Value × Value)) : Value :=
  .map (pairs.foldl (fun entries pair => putEntry pair.1 pair.2 entries) [])

def ofMembers (members : List Value) : Value :=
  .set ((members.foldl (fun entries key => putEntry key .null entries) []).map Prod.fst)

def field? (entries : List (Value × Value)) (name : String) : Option Value :=
  (entries.find? fun entry => entry.1 = .text name).map Prod.snd

/-- Whether a value stands for nothing: null, false, zero, or an empty text or collection. -/
def isNothing : Value → Bool
  | .null => true
  | .bool value => !value
  | .int value => value == 0
  | .real value => value.isZero
  | .text value => value.isEmpty
  | .bytes value => value.isEmpty
  | .list items => items.isEmpty
  | .tuple items => items.isEmpty
  | .map entries => entries.isEmpty
  | .set items => items.isEmpty
  | .date _ | .moment _ => false

end Value

end FixtureImages
