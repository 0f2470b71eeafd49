import FixtureImages.Polling
import FixtureImages.Proofs.Action.Law

/-!
# Laws of polling

What holds of fetching, of looking at the clock and of pausing holds of polling, however many rounds
it takes.
-/

namespace FixtureImages

set_option autoImplicit false

open Action

variable {State Event Failure View α : Type} {clock : Clock State Event Failure}
  {fetch : Action State Event Failure α}

section

variable {law : Law State Event} (fetches : law.holds fetch) (looks : law.holds clock.now)
  (sleeps : ∀ pause, law.holds (clock.sleep pause))

include fetches looks sleeps

theorem poll_lawful (done : α → Bool) (deadline : Binary64) (interval rounds : Nat) :
    law.holds (poll clock fetch done deadline interval rounds) := by
  induction rounds with
  | zero => exact fetches
  | succ rounds ih =>
      rw [poll]
      apply law.bind fetches
      intro found
      split
      · exact law.pure _
      · apply law.bind looks
        intro now
        split
        · exact law.pure _
        · exact law.bind (sleeps interval) fun _ => ih

theorem wait_for_lawful (done : α → Bool) (timeout : Binary64) (interval : Nat) :
    law.holds (waitFor clock fetch done timeout interval) :=
  law.bind looks fun _ => poll_lawful fetches looks sleeps _ _ _ _

end

section

variable {view : State → View} (fetches : ReadsOnly view fetch) (looks : ReadsOnly view clock.now)
  (sleeps : ∀ pause, ReadsOnly view (clock.sleep pause))

include fetches looks sleeps

theorem poll_reads (done : α → Bool) (deadline : Binary64) (interval rounds : Nat) :
    ReadsOnly view (poll clock fetch done deadline interval rounds) := by
  induction rounds with
  | zero => exact fetches
  | succ rounds ih =>
      rw [poll]
      apply reads_bind fetches
      intro found
      split
      · exact reads_pure _
      · apply reads_bind looks
        intro now
        split
        · exact reads_pure _
        · exact reads_bind (sleeps interval) fun _ => ih

theorem wait_for_reads (done : α → Bool) (timeout : Binary64) (interval : Nat) :
    ReadsOnly view (waitFor clock fetch done timeout interval) :=
  reads_bind looks fun _ => poll_reads fetches looks sleeps _ _ _ _

end

section

variable {view : State → α} (fetches : Reveals view fetch)
  (looks : ∀ state, (clock.now state).state = state)

include fetches looks

/-- What polling gives was fetched last, and nothing was changed since. -/
theorem poll_reveals (done : α → Bool) (deadline : Binary64) (interval rounds : Nat) :
    Reveals view (poll clock fetch done deadline interval rounds) := by
  induction rounds with
  | zero => exact fetches
  | succ rounds ih =>
      intro state value given
      rw [poll] at given ⊢
      obtain ⟨found, fetched, after⟩ := ok_of_bind given
      have seen := fetches state found fetched
      rw [bind_of_ok fetched]
      by_cases stops : done found = true
      · simp only [stops, if_true, pure_apply, Except.ok.injEq] at after ⊢
        exact after ▸ seen
      · simp only [stops, Bool.false_eq_true, if_false] at after ⊢
        obtain ⟨now, looked, later⟩ := ok_of_bind after
        rw [looks] at later
        rw [bind_of_ok looked, looks]
        by_cases late : deadline.le (secondsOf clock.perSecond now) = true
        · simp only [late, if_true, pure_apply, Except.ok.injEq] at later ⊢
          exact later ▸ seen
        · simp only [late] at later ⊢
          exact reveals_bind (fun _ => ih) _ _ later

theorem wait_for_reveals (done : α → Bool) (timeout : Binary64) (interval : Nat) :
    Reveals view (waitFor clock fetch done timeout interval) :=
  reveals_bind fun _ => poll_reveals fetches looks _ _ _ _

end

end FixtureImages
