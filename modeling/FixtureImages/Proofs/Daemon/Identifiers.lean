import FixtureImages.Host.Daemon
import Mathlib.Algebra.Group.Nat.Defs

/-!
# New identifiers

Identifiers are made of the hexadecimal digits of a count, which can be read back from them. So an
image that is committed gets an identifier that no image had, as long as the counted ones are new.
-/

namespace FixtureImages

set_option autoImplicit false

namespace Text

private theorem hex_digit_injective :
    ∀ first < 16, ∀ second < 16, hexDigit first = hexDigit second → first = second := by decide

theorem hex_digits_length (width number : Nat) : (hexDigits width number).length = width := by
  induction width generalizing number with
  | zero => rfl
  | succ width ih => simp [hexDigits, ih]

/-- So many digits determine a number up to that power of sixteen. -/
theorem hex_digits_injective {width first second : Nat}
    (same : hexDigits width first = hexDigits width second) :
    first % 16 ^ width = second % 16 ^ width := by
  induction width generalizing first second with
  | zero => simp [Nat.mod_one]
  | succ width ih =>
      simp only [hexDigits] at same
      obtain ⟨front, last⟩ := List.append_inj same (by simp [hex_digits_length])
      have high := ih front
      have low := hex_digit_injective _ (Nat.mod_lt _ (by decide)) _ (Nat.mod_lt _ (by decide))
        (List.cons.inj last).1
      rw [Nat.pow_succ', Nat.mod_mul, Nat.mod_mul, high, low]

end Text

/-- How many digits stand in the identifier with a number. -/
def idWidth (number : Nat) : Nat := max 12 (number.log2 / 4 + 1)

theorem number_lt_of_id_width (number : Nat) : number < 16 ^ idWidth number := by
  have bits : number.log2 + 1 ≤ 4 * idWidth number := by
    rw [idWidth]
    omega
  calc number < 2 ^ (number.log2 + 1) := Nat.lt_log2_self
    _ ≤ 2 ^ (4 * idWidth number) := Nat.pow_le_pow_right (by decide) bits
    _ = 16 ^ idWidth number := by rw [Nat.pow_mul]

theorem id_digits_injective {first second : Nat} (same : idDigits first = idDigits second) :
    first = second := by
  have digits : Text.hexDigits (idWidth first) first = Text.hexDigits (idWidth second) second :=
    String.ofList_injective same
  have widths : idWidth first = idWidth second := by
    simpa [Text.hex_digits_length] using congrArg List.length digits
  rw [← widths] at digits
  have remainders := Text.hex_digits_injective digits
  rwa [Nat.mod_eq_of_lt (number_lt_of_id_width first),
    Nat.mod_eq_of_lt (widths ▸ number_lt_of_id_width second)] at remainders

theorem image_id_injective {first second : Nat} (same : imageId first = imageId second) :
    first = second := by
  have chars := congrArg String.toList same
  simp only [imageId, String.toList_append] at chars
  have digits : (idDigits first).toList = (idDigits second).toList :=
    List.append_cancel_left (List.append_cancel_right chars)
  exact id_digits_injective (String.toList_injective digits)

theorem counted_id_injective {suffix : String} {first second : Nat}
    (same : idDigits first ++ suffix = idDigits second ++ suffix) : first = second := by
  have chars := congrArg String.toList same
  rw [String.toList_append, String.toList_append] at chars
  exact id_digits_injective (String.toList_injective (List.append_cancel_right chars))

theorem container_id_ne_empty (number : Nat) : containerId number ≠ "" := by
  intro same
  have lengths := congrArg String.length same
  simp [containerId, String.length_append] at lengths

/-! ## New images -/

/-- Every identifier that the daemon will count out for an image is new. -/
structure FreshImageIds (host : Host) : Prop where
  counted : host.settings.nextImageId = none
  unused : ∀ image ∈ host.images, ∀ number, host.nextId ≤ number → image.id ≠ imageId number

theorem Host.place_by_fresh {α : Type} {idOf : α → String} {item : α} {items : List α}
    (fresh : ∀ other ∈ items, idOf other ≠ idOf item) :
    placeBy idOf item items = items ++ [item] := by
  induction items with
  | nil => rfl
  | cons head rest ih =>
      rw [placeBy, if_neg (fresh head List.mem_cons_self),
        ih fun other member => fresh other (List.mem_cons_of_mem _ member)]
      rfl

/-- The image that a commit makes. -/
def Host.committedImage (container : Container) (request : CommitRequest) (host : Host) : Image :=
  ⟨imageId host.nextId, some [request.repository ++ ":" ++ request.tag],
    some (committedLabels container.labels request.changes),
    host.clock + host.settings.visibilityDelay, false⟩

theorem commit_container_fresh {host : Host} (fresh : FreshImageIds host) (container : Container)
    (request : CommitRequest) :
    host.commitContainer container request =
      (host.committedImage container request,
        { host with
          images := host.images ++ [host.committedImage container request]
          nextId := host.nextId + 1 }) := by
  have appended : Host.placeBy Image.id (host.committedImage container request) host.images =
      host.images ++ [host.committedImage container request] :=
    Host.place_by_fresh fun other member =>
      fresh.unused other member host.nextId (Nat.le_refl _)
  rw [← appended]
  obtain ⟨networks, images, containers, known, nextId, nextPort, clock, settings, answers, faults,
    environment⟩ := host
  obtain ⟨address, ports, hides, crash, log, warning, reply, nextImageId, delay, usual⟩ := settings
  obtain rfl : nextImageId = none := fresh.counted
  rfl

theorem FreshImageIds.commit {host : Host} (fresh : FreshImageIds host) (container : Container)
    (request : CommitRequest) : FreshImageIds (host.commitContainer container request).2 := by
  rw [commit_container_fresh fresh]
  refine ⟨fresh.counted, fun image member number later => ?_⟩
  rcases List.mem_append.mp member with old | new
  · exact fresh.unused image old number (Nat.le_of_succ_le later)
  · rw [List.mem_singleton.mp new]
    intro same
    have := image_id_injective same
    simp only at later
    omega

end FixtureImages
