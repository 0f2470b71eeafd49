import FixtureImages.Proofs.Daemon.Calls

/-!
# Failures to come

A call uses up failures of its own method only, and which failure it meets depends on the rules of
that method only. So calls of one method do not disturb those of another, whatever failures are to
come.
-/

namespace FixtureImages

set_option autoImplicit false

open Action

/-- The rules about one method. -/
def rulesOf (method : String) (rules : List FaultRule) : List FaultRule :=
  rules.filter (·.method == method)

@[simp] theorem rules_of_nil (method : String) : rulesOf method [] = [] := rfl

theorem rules_of_cons (method : String) (rule : FaultRule) (rules : List FaultRule) :
    rulesOf method (rule :: rules) =
      if rule.method = method then rule :: rulesOf method rules else rulesOf method rules := by
  simp [rulesOf, List.filter_cons]

private theorem concerned_method {rule : FaultRule} {call : Call} (concerns : rule.concerns call) :
    rule.method = call.method := by
  simp only [FaultRule.concerns, Bool.and_eq_true, beq_iff_eq] at concerns
  exact concerns.1.1

/-- A call leaves the rules of other methods as they are. -/
theorem meet_faults_other_method {call : Call} {method : String} (apart : call.method ≠ method)
    (rules : List FaultRule) :
    rulesOf method (meetFaults call rules).1 = rulesOf method rules := by
  induction rules with
  | nil => rfl
  | cons rule rest ih =>
      rw [meetFaults]
      by_cases concerns : rule.concerns call = true
      · have own : rule.method ≠ method := concerned_method concerns ▸ apart
        by_cases skips : rule.skip ≠ 0 <;> simp [concerns, skips, rules_of_cons, own, ih]
      · simp [concerns, rules_of_cons, ih]

/-- The rules of the method of a call decide what the call meets and what becomes of them. -/
theorem meet_faults_own_method (call : Call) (rules : List FaultRule) :
    (meetFaults call (rulesOf call.method rules)).2 = (meetFaults call rules).2 ∧
      (meetFaults call (rulesOf call.method rules)).1 =
        rulesOf call.method (meetFaults call rules).1 := by
  induction rules with
  | nil => exact ⟨rfl, rfl⟩
  | cons rule rest ih =>
      by_cases concerns : rule.concerns call = true
      · have own := concerned_method concerns
        by_cases skips : rule.skip ≠ 0 <;>
          simp [meetFaults, concerns, skips, rules_of_cons, own, ih]
      · by_cases own : rule.method = call.method <;>
          simp [meetFaults, concerns, rules_of_cons, own, ih]

/-- A call meets a failure of the rules, and leaves rules with the same failures. -/
theorem meet_faults_all {possible : Failure → Prop} (call : Call) {rules : List FaultRule}
    (all : ∀ rule ∈ rules, possible rule.failure) :
    (∀ rule ∈ (meetFaults call rules).1, possible rule.failure) ∧
      ∀ failure, (meetFaults call rules).2 = some failure → possible failure := by
  induction rules with
  | nil => exact ⟨all, nofun⟩
  | cons rule rest ih =>
      obtain ⟨own, others⟩ := List.forall_mem_cons.mp all
      obtain ⟨later, met⟩ := ih others
      rw [meetFaults]
      by_cases concerns : rule.concerns call = true
      · by_cases skips : rule.skip ≠ 0
        · simpa [concerns, skips] using ⟨⟨own, later⟩, met⟩
        · simpa [concerns, skips] using ⟨⟨own, others⟩, own⟩
      · simpa [concerns] using ⟨⟨own, later⟩, met⟩

/-- What listings of images depend on: the images, the time, and the failures of such listings that
are to come. -/
def imageView (host : Host) : List Image × Nat × List FaultRule :=
  (host.images, host.clock, rulesOf "images.list" host.faults)

theorem image_view_meets {call : Call} (apart : call.method ≠ "images.list") :
    (Frame.ofView imageView).Meets call := by
  intro host
  simp only [Frame.ofView, imageView, meet_faults_other_method apart]

namespace Daemon

theorem list_images_reads (filters : List String) : ReadsOnly imageView (listImages filters) := by
  refine reads_bind (fun first second same => ?_) fun _ => reads_look fun first second same => ?_
  · simp only [imageView, Prod.mk.injEq] at same
    obtain ⟨images, clock, rules⟩ := same
    have left := meet_faults_own_method (.listImages filters) first.faults
    have right := meet_faults_own_method (.listImages filters) second.faults
    simp only [Call.method, rules] at left right
    simp [perform, imageView, images, clock, ← left.1, ← left.2, right.1, right.2]
  · simp only [imageView, Prod.mk.injEq] at same
    simp only [same.1, same.2.1]

theorem sleep_reads {Problem : Type} (pause : Nat) :
    ReadsOnly imageView (sleep pause : HostAction Problem Unit) := by
  refine reads_bind (reads_emit _) fun _ first second same => ⟨rfl, ?_⟩
  simp only [imageView, Prod.mk.injEq] at same
  simp [change, imageView, same]

theorem now_reads {Problem : Type} : ReadsOnly imageView (now : HostAction Problem Nat) :=
  reads_look fun first second same => by
    simp only [imageView, Prod.mk.injEq] at same
    exact same.2.1

end Daemon

/-- Calls made one after the other meet none of the failures to come. -/
def Undisturbed : List FaultRule → List Call → Prop
  | _, [] => True
  | rules, call :: rest =>
      (meetFaults call rules).2 = none ∧ Undisturbed (meetFaults call rules).1 rest

end FixtureImages
