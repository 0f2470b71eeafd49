import FixtureImages.Action

/-!
# Laws of actions

Actions compose associatively, so a sequence may be regrouped into stages. Many properties of an
action hold when they hold of its parts; such a property is a law. Main instances: an action keeps a
frame, which relates the states before and after it, and an action leaves only allowed events in its
trace.
-/

namespace FixtureImages

set_option autoImplicit false

namespace Action

variable {State Event Failure Other α β γ : Type}

@[ext] theorem action_ext {left right : Action State Event Failure α}
    (same : ∀ state, left state = right state) : left = right := funext same

theorem bind_apply (first : Action State Event Failure α)
    (next : α → Action State Event Failure β) (state : State) :
    (first >>= next) state =
      match (first state).result with
      | .error failure => ⟨.error failure, (first state).state, (first state).trace⟩
      | .ok value =>
          ⟨(next value (first state).state).result, (next value (first state).state).state,
            (first state).trace ++ (next value (first state).state).trace⟩ := rfl

theorem pure_apply (value : α) (state : State) :
    (pure value : Action State Event Failure α) state = ⟨.ok value, state, []⟩ := rfl

theorem bind_of_ok {first : Action State Event Failure α} {state : State} {value : α}
    (succeeded : (first state).result = .ok value) (next : α → Action State Event Failure β) :
    (first >>= next) state =
      ⟨(next value (first state).state).result, (next value (first state).state).state,
        (first state).trace ++ (next value (first state).state).trace⟩ := by
  rw [bind_apply, succeeded]

theorem bind_of_error {first : Action State Event Failure α} {state : State} {failure : Failure}
    (failed : (first state).result = .error failure) (next : α → Action State Event Failure β) :
    (first >>= next) state = ⟨.error failure, (first state).state, (first state).trace⟩ := by
  rw [bind_apply, failed]

theorem ok_of_bind {first : Action State Event Failure α}
    {next : α → Action State Event Failure β} {state : State} {final : β}
    (given : ((first >>= next) state).result = .ok final) :
    ∃ value, (first state).result = .ok value ∧
      (next value (first state).state).result = .ok final := by
  cases outcome : (first state).result with
  | error failure =>
      rw [bind_of_error outcome] at given
      cases given
  | ok value =>
      rw [bind_of_ok outcome] at given
      exact ⟨value, rfl, given⟩

theorem error_of_bind {first : Action State Event Failure α}
    {next : α → Action State Event Failure β} {state : State} {failure : Failure}
    (failed : ((first >>= next) state).result = .error failure) :
    (first state).result = .error failure ∨ ∃ value, (first state).result = .ok value ∧
      (next value (first state).state).result = .error failure := by
  cases outcome : (first state).result with
  | error cause =>
      rw [bind_of_error outcome] at failed
      exact .inl (by simpa using failed)
  | ok value =>
      rw [bind_of_ok outcome] at failed
      exact .inr ⟨value, rfl, failed⟩

theorem attempt_bind_apply (action : Action State Event Failure α)
    (next : Except Failure α → Action State Event Other β) (state : State) :
    (attempt action >>= next) state =
      ⟨(next (action state).result (action state).state).result,
        (next (action state).result (action state).state).state,
        (action state).trace ++ (next (action state).result (action state).state).trace⟩ := rfl

theorem look_bind_apply (view : State → α) (next : α → Action State Event Failure β)
    (state : State) : (look view >>= next) state = next (view state) state := rfl

@[simp] theorem fail_apply (failure : Failure) (state : State) :
    (fail failure : Action State Event Failure α) state = ⟨.error failure, state, []⟩ := rfl

@[simp] theorem fail_bind (failure : Failure) (next : α → Action State Event Failure β) :
    (fail failure >>= next) = fail failure := rfl

@[simp] theorem of_except_ok (value : α) :
    (Action.ofExcept (.ok value) : Action State Event Failure α) = pure value := rfl

@[simp] theorem of_except_error (failure : Failure) :
    (Action.ofExcept (.error failure) : Action State Event Failure α) = fail failure := rfl

@[simp] theorem map_error_ok (convert : Failure → Other) (value : α) :
    (Except.ok value).mapError convert = .ok value := rfl

@[simp] theorem map_error_error (convert : Failure → Other) (failure : Failure) :
    (Except.error failure : Except Failure α).mapError convert = .error (convert failure) := rfl

@[simp] theorem map_failure_state (convert : Failure → Other)
    (action : Action State Event Failure α) (state : State) :
    (mapFailure convert action state).state = (action state).state := rfl

theorem ok_of_map_failure {convert : Failure → Other} {action : Action State Event Failure α}
    {state : State} {value : α} (given : (mapFailure convert action state).result = .ok value) :
    (action state).result = .ok value := by
  cases outcome : (action state).result with
  | error failure => simp [mapFailure, outcome] at given
  | ok found => simpa [mapFailure, outcome] using given

theorem error_of_map_failure {convert : Failure → Other} {action : Action State Event Failure α}
    {state : State} {other : Other}
    (failed : (mapFailure convert action state).result = .error other) :
    ∃ failure, (action state).result = .error failure ∧ other = convert failure := by
  cases outcome : (action state).result with
  | error failure => exact ⟨failure, rfl, by simpa [mapFailure, outcome] using failed.symm⟩
  | ok value => simp [mapFailure, outcome] at failed

/-- To fail again with another failure is to change the failure. -/
theorem attempt_or_fail (convert : Failure → Other) (action : Action State Event Failure α) :
    (attempt action >>= fun attempted : Except Failure α =>
        match attempted with
        | .ok value => pure value
        | .error failure => fail (convert failure)) =
      mapFailure convert action := by
  ext state
  rw [attempt_bind_apply, mapFailure]
  cases (action state).result <;> simp [pure_apply]

instance : LawfulMonad (Action State Event Failure) := LawfulMonad.mk' _
  (by
    intro α action
    ext state
    change andThen action succeed state = action state
    rcases outcome : action state with ⟨result, after, trace⟩
    cases result <;> simp [andThen, succeed, outcome])
  (by intro α β value next; rfl)
  (by
    intro α β γ first second third
    ext state
    simp only [bind_apply]
    cases (first state).result with
    | error failure => rfl
    | ok value =>
        dsimp only
        cases (second value (first state).state).result <;> simp)

/-- An action that never fails. -/
def Succeeds (action : Action State Event Failure α) : Prop :=
  ∀ state, ∃ value, (action state).result = .ok value

theorem succeeds_pure (value : α) : Succeeds (pure value : Action State Event Failure α) :=
  fun _ => ⟨value, rfl⟩

theorem succeeds_emit (event : Event) :
    Succeeds (emit event : Action State Event Failure Unit) := fun _ => ⟨(), rfl⟩

theorem succeeds_attempt (action : Action State Event Failure α) :
    Succeeds (attempt action : Action State Event Other (Except Failure α)) :=
  fun state => ⟨(action state).result, rfl⟩

theorem succeeds_bind {first : Action State Event Failure α}
    {next : α → Action State Event Failure β} (succeeds : Succeeds first)
    (succeedsNext : ∀ value, Succeeds (next value)) : Succeeds (first >>= next) := by
  intro state
  obtain ⟨value, outcome⟩ := succeeds state
  obtain ⟨final, finalOutcome⟩ := succeedsNext value (first state).state
  exact ⟨final, by rw [bind_of_ok outcome]; exact finalOutcome⟩

/-- Whatever an action gives has a property. -/
def Gives (property : α → Prop) (action : Action State Event Failure α) : Prop :=
  ∀ state value, (action state).result = .ok value → property value

theorem gives_pure {property : α → Prop} {value : α} (holds : property value) :
    Gives property (pure value : Action State Event Failure α) := by
  intro state given same
  cases same
  exact holds

theorem gives_fail {property : α → Prop} (failure : Failure) :
    Gives property (fail failure : Action State Event Failure α) :=
  fun _ _ same => nomatch same

theorem gives_map_failure {property : α → Prop} {convert : Failure → Other}
    {action : Action State Event Failure α} (gives : Gives property action) :
    Gives property (mapFailure convert action) :=
  fun state value same => gives state value (ok_of_map_failure same)

theorem gives_bind_of {known : α → Prop} {property : β → Prop}
    {first : Action State Event Failure α} {next : α → Action State Event Failure β}
    (gives : Gives known first) (givesNext : ∀ value, known value → Gives property (next value)) :
    Gives property (first >>= next) := by
  intro state given same
  obtain ⟨value, outcome, later⟩ := ok_of_bind same
  exact givesNext value (gives state value outcome) _ given later

theorem gives_bind {property : β → Prop} {first : Action State Event Failure α}
    {next : α → Action State Event Failure β} (gives : ∀ value, Gives property (next value)) :
    Gives property (first >>= next) := by
  have anything : Gives (fun _ => True) first := fun _ _ _ => trivial
  exact gives_bind_of anything fun value _ => gives value

/-- What an action gives can be seen on the state that it leaves. -/
def Reveals (view : State → α) (action : Action State Event Failure α) : Prop :=
  ∀ state value, (action state).result = .ok value → value = view (action state).state

theorem reveals_look {view : State → α} :
    Reveals view (look view : Action State Event Failure α) := by
  intro state value given
  cases given
  rfl

theorem reveals_bind {view : State → β} {first : Action State Event Failure α}
    {next : α → Action State Event Failure β} (reveals : ∀ value, Reveals view (next value)) :
    Reveals view (first >>= next) := by
  intro state value given
  obtain ⟨found, outcome, later⟩ := ok_of_bind given
  rw [bind_of_ok outcome]
  exact reveals found _ value later

theorem reveals_map_failure {view : State → α} {convert : Failure → Other}
    {action : Action State Event Failure α} (reveals : Reveals view action) :
    Reveals view (mapFailure convert action) :=
  fun state value given => reveals state value (ok_of_map_failure given)

end Action

/-- A property of actions which passes from the parts of an action to the whole. What follows a part
may rely on the values that the part can give. -/
structure Law (State Event : Type) where
  holds : {Failure α : Type} → Action State Event Failure α → Prop
  pure : ∀ {Failure α : Type} (value : α), holds (pure value : Action State Event Failure α)
  fail : ∀ {Failure α : Type} (failure : Failure),
    holds (Action.fail failure : Action State Event Failure α)
  look : ∀ {Failure α : Type} (view : State → α),
    holds (Action.look view : Action State Event Failure α)
  bindGiven : ∀ {Failure α β : Type} {first : Action State Event Failure α}
    {next : α → Action State Event Failure β}, holds first →
    (∀ state value, (first state).result = .ok value → holds (next value)) →
    holds (first >>= next)
  attempt : ∀ {Failure Other α : Type} {action : Action State Event Failure α}, holds action →
    holds (Action.attempt action : Action State Event Other (Except Failure α))
  mapFailure : ∀ {Failure Other α : Type} {convert : Failure → Other}
    {action : Action State Event Failure α}, holds action →
    holds (Action.mapFailure convert action)

namespace Law

variable {State Event Failure α β : Type} (law : Law State Event)

theorem bind {first : Action State Event Failure α} {next : α → Action State Event Failure β}
    (holdsFirst : law.holds first) (holdsNext : ∀ value, law.holds (next value)) :
    law.holds (first >>= next) := law.bindGiven holdsFirst fun _ value _ => holdsNext value

theorem of_except (outcome : Except Failure α) :
    law.holds (Action.ofExcept outcome : Action State Event Failure α) := by
  cases outcome with
  | error failure => exact law.fail failure
  | ok value => exact law.pure value

end Law

/-- A relation between an earlier and a later state which holds of no change and of one change
after another. -/
structure Frame (State : Type) where
  holds : State → State → Prop
  refl : ∀ state, holds state state
  trans : ∀ {first second third}, holds first second → holds second third → holds first third

namespace Frame

variable {State Event : Type}

/-- The frame of all changes that leave a view of the state as it is. -/
def ofView {View : Type} (view : State → View) : Frame State where
  holds before after := view after = view before
  refl _ := rfl
  trans earlier later := later.trans earlier

/-- Wherever an action starts and however it ends, the frame holds between both states. -/
def kept (frame : Frame State) : Law State Event where
  holds action := ∀ state, frame.holds state (action state).state
  pure _ := frame.refl
  fail _ := frame.refl
  look _ := frame.refl
  bindGiven {_ _ _ first next} holdsFirst holdsNext state := by
    rw [Action.bind_apply]
    cases outcome : (first state).result with
    | error failure => exact holdsFirst state
    | ok value => exact frame.trans (holdsFirst state) (holdsNext state value outcome _)
  attempt holdsAction := holdsAction
  mapFailure holdsAction := holdsAction

/-- What holds since an origin goes on to hold. -/
def since (frame : Frame State) (origin : State) : Frame State where
  holds before after := frame.holds origin before → frame.holds origin after
  refl _ known := known
  trans earlier later known := later (earlier known)

section

variable {frame : Frame State} {origin : State} {Failure α β : Type}

theorem kept_since {action : Action State Event Failure α} (kept : frame.kept.holds action)
    (origin : State) : (frame.since origin).kept.holds action :=
  fun state known => frame.trans known (kept state)

theorem kept_of_since {action : Action State Event Failure α}
    (kept : ∀ origin, (frame.since origin).kept.holds action) : frame.kept.holds action :=
  fun state => kept state state (frame.refl state)

/-- On states where the frame holds since an origin, whatever an action gives has a property. -/
def GivesSince (frame : Frame State) (origin : State) (property : α → Prop)
    (action : Action State Event Failure α) : Prop :=
  ∀ state, frame.holds origin state → ∀ value, (action state).result = .ok value → property value

theorem gives_since_of_gives {property : α → Prop} {action : Action State Event Failure α}
    (gives : Action.Gives property action) : GivesSince frame origin property action :=
  fun state _ => gives state

theorem gives_since_bind {known : α → Prop} {property : β → Prop}
    {first : Action State Event Failure α} {next : α → Action State Event Failure β}
    (kept : (frame.since origin).kept.holds first) (gives : GivesSince frame origin known first)
    (givesNext : ∀ value, known value → GivesSince frame origin property (next value)) :
    GivesSince frame origin property (first >>= next) := by
  intro state since final given
  obtain ⟨value, outcome, later⟩ := Action.ok_of_bind given
  exact givesNext value (gives state since value outcome) _ (kept state since) final later

theorem gives_since_then {property : β → Prop} {first : Action State Event Failure α}
    {next : α → Action State Event Failure β} (kept : (frame.since origin).kept.holds first)
    (gives : ∀ value, GivesSince frame origin property (next value)) :
    GivesSince frame origin property (first >>= next) := by
  have anything : GivesSince frame origin (fun _ => True) first := fun _ _ _ _ => trivial
  exact gives_since_bind kept anything fun value _ => gives value

theorem gives_since_of_reveals {view : State → α} {property : α → Prop}
    {action : Action State Event Failure α} (reveals : Action.Reveals view action)
    (kept : (frame.since origin).kept.holds action)
    (seen : ∀ state, frame.holds origin state → property (view state)) :
    GivesSince frame origin property action := by
  intro state since value given
  rw [reveals state value given]
  exact seen _ (kept state since)

/-- What follows an action may rely on what the action gives where the frame holds. -/
theorem since_bind {known : α → Prop} {first : Action State Event Failure α}
    {next : α → Action State Event Failure β} (kept : (frame.since origin).kept.holds first)
    (gives : GivesSince frame origin known first)
    (keptNext : ∀ value, known value → (frame.since origin).kept.holds (next value)) :
    (frame.since origin).kept.holds (first >>= next) := by
  intro state since
  cases outcome : (first state).result with
  | error failure =>
      rw [Action.bind_of_error outcome]
      exact kept state since
  | ok value =>
      rw [Action.bind_of_ok outcome]
      exact keptNext value (gives state since value outcome) _ (kept state since)

end

end Frame

/-- What is in the trace of a sequence was done by its first part or, if that gave a value, after
it. -/
theorem Action.mem_trace_bind {State Event Failure α β : Type}
    {first : Action State Event Failure α} {next : α → Action State Event Failure β}
    {state : State} {event : Event} (member : event ∈ ((first >>= next) state).trace) :
    event ∈ (first state).trace ∨ ∃ value, (first state).result = .ok value ∧
      event ∈ (next value (first state).state).trace := by
  rw [bind_apply] at member
  cases outcome : (first state).result with
  | error failure =>
      rw [outcome] at member
      exact .inl member
  | ok value =>
      rw [outcome] at member
      exact (List.mem_append.mp member).imp_right fun later => ⟨value, rfl, later⟩

/-- Wherever an action starts, all events in its trace are allowed. -/
def Law.emitting {State Event : Type} (allowed : Event → Prop) : Law State Event where
  holds action := ∀ state, ∀ event ∈ (action state).trace, allowed event
  pure _ _ _ member := absurd member List.not_mem_nil
  fail _ _ _ member := absurd member List.not_mem_nil
  look _ _ _ member := absurd member List.not_mem_nil
  bindGiven holdsFirst holdsNext state event member := by
    rcases Action.mem_trace_bind member with early | ⟨value, outcome, late⟩
    · exact holdsFirst state event early
    · exact holdsNext state value outcome _ event late
  attempt holdsAction := holdsAction
  mapFailure holdsAction := holdsAction

namespace Action

variable {State Event Failure Other View α β : Type}

/-- What an action gives, and what it leaves of a view of the state, depends on that view alone. -/
def ReadsOnly (view : State → View) (action : Action State Event Failure α) : Prop :=
  ∀ first second, view first = view second →
    (action first).result = (action second).result ∧
      view (action first).state = view (action second).state

variable {view : State → View}

theorem reads_pure (value : α) :
    ReadsOnly view (pure value : Action State Event Failure α) :=
  fun _ _ same => ⟨rfl, same⟩

theorem reads_fail (failure : Failure) :
    ReadsOnly view (fail failure : Action State Event Failure α) :=
  fun _ _ same => ⟨rfl, same⟩

theorem reads_look {see : State → α}
    (seen : ∀ first second, view first = view second → see first = see second) :
    ReadsOnly view (look see : Action State Event Failure α) :=
  fun first second same => ⟨congrArg Except.ok (seen first second same), same⟩

theorem reads_emit (event : Event) :
    ReadsOnly view (emit event : Action State Event Failure Unit) :=
  fun _ _ same => ⟨rfl, same⟩

theorem reads_bind {first : Action State Event Failure α}
    {next : α → Action State Event Failure β} (readsFirst : ReadsOnly view first)
    (readsNext : ∀ value, ReadsOnly view (next value)) : ReadsOnly view (first >>= next) := by
  intro left right same
  obtain ⟨sameResult, sameView⟩ := readsFirst left right same
  simp only [bind_apply, sameResult]
  cases (first right).result with
  | error failure => exact ⟨rfl, sameView⟩
  | ok value => exact readsNext value _ _ sameView

theorem reads_map_failure {convert : Failure → Other} {action : Action State Event Failure α}
    (reads : ReadsOnly view action) : ReadsOnly view (mapFailure convert action) := by
  intro first second same
  obtain ⟨sameResult, sameView⟩ := reads first second same
  exact ⟨congrArg (Except.mapError convert) sameResult, sameView⟩

theorem reads_of_except (outcome : Except Failure α) :
    ReadsOnly view (Action.ofExcept outcome : Action State Event Failure α) := by
  cases outcome with
  | error failure => exact reads_fail failure
  | ok value => exact reads_pure value

end Action

end FixtureImages
