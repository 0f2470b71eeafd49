import FixtureImages.Proofs.Build.Commits
import FixtureImages.Proofs.Build.Watched
import FixtureImages.Proofs.Labels.Captured

/-!
# The steps of commits

Constructed instances have their turns one after the other. In its turn what was captured for an
instance is collected, its container is fetched and stopped, and then it is committed; the first
call that fails ends the turn, and the next instance has its turn all the same. So every turn gives
one image or one failure, and whatever is committed was stopped by the call before.
-/

namespace FixtureImages

set_option autoImplicit false

open Action

variable {Problem α β : Type}

theorem map_failure_bind (convert : Failure → Failure) (first : HostAction Failure α)
    (next : α → HostAction Failure β) :
    (first >>= next).mapFailure convert =
      first.mapFailure convert >>= fun value => (next value).mapFailure convert := by
  funext host
  simp only [mapFailure, bind_apply]
  cases (first host).result <;> rfl

theorem Daemon.stop_trace (container : Container) (grace : Nat) (host : Host) :
    (stop container grace host).trace = [.call (.stop container.name grace)] := by
  simp only [stop, bind_apply, perform]
  cases (meetFaults (.stop container.name grace) host.faults).2 <;> rfl

/-! ## Steps -/

/-- A call that is made in a turn, on a host, and whether it succeeds. -/
structure Step where
  host : Host
  call : Call
  succeeds : Bool

/-- The steps from one call on: those that follow it are made if it succeeds. -/
def stepping (call : Call) (action : HostAction Failure α) (next : α → Host → List Step)
    (host : Host) : List Step :=
  ⟨host, call, (action host).result.isOk⟩ ::
    match (action host).result with
    | .error _ => []
    | .ok value => next value (action host).state

theorem stepping_map_failure (call : Call) (convert : Failure → Failure)
    (action : HostAction Failure α) (next : α → Host → List Step) :
    stepping call (action.mapFailure convert) next = stepping call action next := by
  funext host
  simp only [stepping, mapFailure]
  cases (action host).result <;> rfl

/-- An action makes the calls of some steps, and succeeds if all of them do. -/
structure Follows (action : HostAction Failure α) (steps : Host → List Step) : Prop where
  calls : ∀ host, callsOf (action host).trace = (steps host).map Step.call
  succeeds : ∀ host, (action host).result.isOk = (steps host).all Step.succeeds

namespace Follows

theorem pure (value : α) : Follows (Pure.pure value : HostAction Failure α) fun _ => [] :=
  ⟨fun _ => rfl, fun _ => rfl⟩

theorem note {level : LogLevel} {source : LogSource} {message : String}
    {next : Unit → HostAction Failure α} {steps : Host → List Step}
    (follows : Follows (next ()) steps) :
    Follows (FixtureImages.note level source message >>= next) steps :=
  ⟨follows.calls, follows.succeeds⟩

theorem step {call : Call} {first : HostAction Failure α} {next : α → HostAction Failure β}
    {steps : α → Host → List Step} (called : ∀ host, (first host).trace = [.call call])
    (follows : ∀ value, Follows (next value) (steps value)) :
    Follows (first >>= next) (stepping call first steps) where
  calls host := by
    rw [stepping]
    cases outcome : (first host).result with
    | error failure =>
        rw [bind_of_error outcome, called]
        rfl
    | ok value =>
        rw [bind_of_ok outcome, called, List.map_cons, ← (follows value).calls]
        rfl
  succeeds host := by
    rw [stepping]
    cases outcome : (first host).result with
    | error failure =>
        rw [bind_of_error outcome]
        rfl
    | ok value =>
        rw [bind_of_ok outcome, List.all_cons, ← (follows value).succeeds]
        rfl

end Follows

/-! ## Turns -/

/-- The steps of the turn of an instance, as far as they are made. -/
def commitSteps (blueprint : Blueprint) (runner : Runner) (construction : Construction) :
    Host → List Step :=
  let name := construction.server.name.text
  stepping (.credentials name) (runner.credentials name) fun credentials =>
  stepping (.devices name) (runner.devices name) fun devices =>
  stepping (.getContainer construction.container) (Daemon.getContainer construction.container)
    fun container =>
  stepping (.stop container.name stopGrace) (Daemon.stop container stopGrace) fun _ =>
  let request := commitRequest construction
    (collectedLabels construction blueprint credentials devices)
  stepping (.commit container.name request) (Daemon.commit container request) fun _ _ => []

section

variable (blueprint : Blueprint) (runner : Runner)

/-- A container is stopped by two calls, and the failure of either is one to stop it. -/
theorem stop_instance_eq (construction : Construction) :
    (stopInstance construction).mapFailure (Failure.stop construction.context) = (do
      let container ← (Daemon.getContainer construction.container).mapFailure
        (Failure.stop construction.context)
      noteCommit construction.context ("Stopping container: " ++ shortId construction.container)
      (Daemon.stop container stopGrace).mapFailure (Failure.stop construction.context)
      noteCommit construction.context ("Stopped container: " ++ shortId construction.container)
      return container) := by
  simp only [stopInstance, map_failure_bind]
  rfl

theorem label_and_commit_follows (construction : Construction) :
    Follows (labelAndCommit blueprint runner.watched construction)
      (commitSteps blueprint runner construction) := by
  simp only [labelAndCommit, imageLabels, commitInstance, stop_instance_eq, bind_assoc, pure_bind]
  refine .step (fun _ => rfl) fun credentials => .step (fun _ => rfl) fun devices => ?_
  rw [← stepping_map_failure _ (.stop construction.context)]
  refine .step (Daemon.get_container_trace _) fun container => .note ?_
  rw [← stepping_map_failure _ (.stop construction.context)]
  refine .step (Daemon.stop_trace container _) fun _ => .note ?_
  dsimp only
  rw [← stepping_map_failure _ (.commit construction.context)]
  exact .step (Daemon.commit_trace container _) fun image => .note (.pure _)

/-- The instances that have a turn, each with the host at that time. -/
def turnsFrom : List Construction → Host → List (Construction × Host)
  | [], _ => []
  | construction :: rest, host =>
      if construction.failure.isSome then turnsFrom rest host
      else (construction, host) ::
        turnsFrom rest (labelAndCommit blueprint runner construction host).state

def stepsOf (turn : Construction × Host) : List Step :=
  commitSteps blueprint runner turn.1 turn.2

/-- The image that a turn gives, if it succeeds. -/
def imageOf (turn : Construction × Host) : Option String :=
  (labelAndCommit blueprint runner turn.1 turn.2).result.toOption

/-- The failure that a turn gives, if it fails. -/
def failureOf (turn : Construction × Host) : Option Failure :=
  match (labelAndCommit blueprint runner turn.1 turn.2).result with
  | .error failure => some (commitFailure turn.1.context failure)
  | .ok _ => none

end

section

variable {blueprint : Blueprint} {runner : Runner}

theorem turns_from_constructions (results : List Construction) (host : Host) :
    (turnsFrom blueprint runner results host).map Prod.fst =
      results.filter (·.failure.isNone) := by
  induction results generalizing host with
  | nil => rfl
  | cons construction rest ih =>
      cases failed : construction.failure with
      | some failure => simp [turnsFrom, failed, ih]
      | none => simp [turnsFrom, failed, ih]

/-- What a turn comes to: an image if all its calls succeed, and else a failure of this stage. -/
theorem turn_ends (turn : Construction × Host) :
    (∃ image, imageOf blueprint runner turn = some image ∧
        failureOf blueprint runner turn = none ∧
        ∀ step ∈ stepsOf blueprint runner turn, step.succeeds = true) ∨
      ∃ failure, imageOf blueprint runner turn = none ∧
        failureOf blueprint runner turn = some failure ∧ failure.stage = some .commit ∧
        ∃ step ∈ stepsOf blueprint runner turn, step.succeeds = false := by
  obtain ⟨construction, host⟩ := turn
  have succeeds := (label_and_commit_follows blueprint runner construction).succeeds host
  rw [(label_and_commit_watched blueprint runner construction).result] at succeeds
  simp only [imageOf, failureOf, stepsOf]
  cases outcome : (labelAndCommit blueprint runner construction host).result with
  | ok image =>
      rw [outcome] at succeeds
      exact .inl ⟨image, rfl, rfl, List.all_eq_true.mp succeeds.symm⟩
  | error failure =>
      rw [outcome] at succeeds
      obtain ⟨step, made, failed⟩ := List.all_eq_false.mp succeeds.symm
      exact .inr ⟨_, rfl, rfl, commit_failure_stage _ _, step, made, by simpa using failed⟩

/-- The image that a turn gives is the one that the daemon made in the last step of the turn: its
identifier, without the name of the digest. -/
theorem image_of_committed {turn : Construction × Host} {id : String}
    (given : imageOf blueprint runner turn = some id) :
    ∃ step ∈ stepsOf blueprint runner turn, ∃ (container : Container) (request : CommitRequest)
      (image : Image), container.id = turn.1.container ∧
        step.call = .commit container.name request ∧
        (Daemon.commit container request step.host).result = .ok image ∧
        id = String.ofList (Text.dropFirst "sha256:".toList image.id.toList) := by
  obtain ⟨construction, host⟩ := turn
  have given : (labelAndCommit blueprint runner construction host).result = .ok id := by
    rw [imageOf] at given
    cases outcome : (labelAndCommit blueprint runner construction host).result with
    | error failure => simp [outcome, Except.toOption] at given
    | ok other => simpa [outcome, Except.toOption] using given
  simp only [labelAndCommit, imageLabels, commitInstance, stop_instance_eq, bind_assoc,
    pure_bind] at given
  obtain ⟨credentials, collected, given⟩ := ok_of_bind given
  obtain ⟨devices, listed, given⟩ := ok_of_bind given
  obtain ⟨container, fetched, given⟩ := ok_of_bind given
  rw [noteCommit, note_bind_apply] at given
  obtain ⟨_, stopped, given⟩ := ok_of_bind given
  rw [noteCommit, note_bind_apply] at given
  obtain ⟨image, committed, given⟩ := ok_of_bind given
  cases given
  have fetched := ok_of_map_failure fetched
  have stopped := ok_of_map_failure stopped
  have committed := ok_of_map_failure committed
  refine ⟨⟨_, .commit container.name _, true⟩, ?_, container, _, image,
    Daemon.get_container_gives _ _ container fetched, rfl, committed, rfl⟩
  simp only [map_failure_state] at stopped committed ⊢
  simp [stepsOf, commitSteps, stepping, commitRequest, collectedLabels, collected, listed, fetched,
    stopped, committed, Except.isOk, Except.toBool]

theorem commit_all_result (results : List Construction) (host : Host) :
    let turns := turnsFrom blueprint runner results host
    (commitAll blueprint runner results host :
        Outcome Host Event Problem (List String × List Failure)).result =
      .ok (turns.filterMap (imageOf blueprint runner),
        turns.filterMap (failureOf blueprint runner)) := by
  induction results generalizing host with
  | nil => rfl
  | cons construction rest ih =>
      rw [commitAll]
      cases failed : construction.failure with
      | some failure => simp [turnsFrom, failed, ih]
      | none =>
          simp only [turnsFrom, failed, Option.isSome_none, Bool.false_eq_true, if_false,
            attempt_bind_apply]
          cases outcome : (labelAndCommit blueprint runner construction host).result with
          | ok image =>
              simp only [bind_of_ok (ih _), pure_apply]
              simp [imageOf, failureOf, outcome, Except.toOption]
          | error failure =>
              simp only [note_bind_apply, bind_of_ok (ih _), pure_apply]
              simp [imageOf, failureOf, outcome, Except.toOption]

theorem commit_all_steps (results : List Construction) (host : Host) :
    callsOf (commitAll blueprint runner.watched results host :
        Outcome Host Event Problem (List String × List Failure)).trace =
      ((turnsFrom blueprint runner results host).flatMap (stepsOf blueprint runner)).map
        Step.call := by
  induction results generalizing host with
  | nil => rfl
  | cons construction rest ih =>
      have same := label_and_commit_watched blueprint runner construction
      have steps := (label_and_commit_follows blueprint runner construction).calls host
      obtain ⟨_, others⟩ := @succeeds_commit_all Problem blueprint runner.watched rest
        (labelAndCommit blueprint runner construction host).state
      rw [commitAll]
      cases failed : construction.failure with
      | some failure => simp [turnsFrom, failed, ih]
      | none =>
          simp only [turnsFrom, failed, Option.isSome_none, Bool.false_eq_true, if_false,
            attempt_bind_apply, same.result, same.state, List.flatMap_cons, List.map_append, ← ih,
            calls_of_append, steps, stepsOf]
          cases (labelAndCommit blueprint runner construction host).result with
          | ok image => simp only [bind_of_ok others, pure_apply, List.append_nil]
          | error failure =>
              simp only [note_bind_apply, bind_of_ok others, pure_apply, List.append_nil,
                calls_of_log]

end

/-! ## What is committed was stopped -/

/-- A container is stopped by one step and committed by another, when it runs no more. -/
structure Stops (container : Container) (stop commit : Step) : Prop where
  stopped : stop.call = .stop container.name stopGrace
  succeeded : stop.succeeds = true
  committed : ∃ request, commit.call = .commit container.name request
  halted : ∀ other ∈ commit.host.containers, other.id = container.id → other.running = false

/-- Every commit among some steps is guarded by the step before it; the first one follows on a
previous step, if there is one. -/
def Guarded (guards : Step → Step → Prop) : Option Step → List Step → Prop
  | _, [] => True
  | previous, step :: rest =>
      (step.call.isCommit = true → ∃ stop, previous = some stop ∧ guards stop step) ∧
        Guarded guards (some step) rest

section

variable {guards : Step → Step → Prop} {previous : Option Step}

theorem Guarded.mono {weaker : Step → Step → Prop} {steps : List Step}
    (guarded : Guarded guards previous steps)
    (weakens : ∀ stop commit, guards stop commit → weaker stop commit) :
    Guarded weaker previous steps := by
  induction steps generalizing previous with
  | nil => trivial
  | cons step rest ih =>
      obtain ⟨first, later⟩ := guarded
      refine ⟨fun commits => ?_, ih later⟩
      obtain ⟨stop, same, guard⟩ := first commits
      exact ⟨stop, same, weakens stop step guard⟩

theorem Guarded.append {front back : List Step} (first : Guarded guards previous front)
    (second : Guarded guards none back) : Guarded guards previous (front ++ back) := by
  induction front generalizing previous with
  | nil =>
      cases back with
      | nil => trivial
      | cons step rest =>
          refine ⟨fun commits => ?_, second.2⟩
          obtain ⟨_, absent, _⟩ := second.1 commits
          cases absent
  | cons step rest ih => exact ⟨first.1, ih first.2⟩

theorem Guarded.flat_map {γ : Type} {items : List γ} {steps : γ → List Step}
    (guarded : ∀ item ∈ items, Guarded guards none (steps item)) :
    Guarded guards none (items.flatMap steps) := by
  induction items with
  | nil => trivial
  | cons item rest ih =>
      rw [List.flatMap_cons]
      exact (guarded item List.mem_cons_self).append
        (ih fun other member => guarded other (List.mem_cons_of_mem _ member))

theorem Guarded.preceded {before after : List Step} {step : Step}
    (guarded : Guarded guards previous (before ++ step :: after))
    (commits : step.call.isCommit = true) :
    (∃ stop, before = [] ∧ previous = some stop ∧ guards stop step) ∨
      ∃ earlier stop, before = earlier ++ [stop] ∧ guards stop step := by
  induction before generalizing previous with
  | nil =>
      obtain ⟨stop, same, guard⟩ := guarded.1 commits
      exact .inl ⟨stop, rfl, same, guard⟩
  | cons first rest ih =>
      obtain ⟨stop, rfl, same, guard⟩ | ⟨earlier, stop, rfl, guard⟩ := ih guarded.2
      · cases same
        exact .inr ⟨[], first, rfl, guard⟩
      · exact .inr ⟨first :: earlier, stop, rfl, guard⟩

theorem guarded_stepping {call : Call} {action : HostAction Failure α}
    {next : α → Host → List Step} {host : Host} (other : call.isCommit = false)
    (later : ∀ value, (action host).result = .ok value →
      Guarded guards (some ⟨host, call, true⟩) (next value (action host).state)) :
    Guarded guards previous (stepping call action next host) := by
  refine ⟨fun commits => by simp [other] at commits, ?_⟩
  cases outcome : (action host).result with
  | error failure => trivial
  | ok value => exact later value outcome

end

theorem Daemon.stop_halts {container : Container} {grace : Nat} {host : Host}
    (stopped : (stop container grace host).result = .ok ()) :
    ∀ other ∈ (stop container grace host).state.containers, other.id = container.id →
      other.running = false := by
  obtain ⟨_, performed, -⟩ := ok_of_bind stopped
  rw [stop, bind_of_ok performed]
  intro other member same
  obtain ⟨former, _, rfl⟩ := List.mem_map.mp member
  split at same
  · simp_all
  · contradiction

theorem commit_steps_guarded (blueprint : Blueprint) (runner : Runner)
    (construction : Construction) (host : Host) :
    Guarded (fun stop commit => ∃ container : Container,
        container.id = construction.container ∧ Stops container stop commit) none
      (commitSteps blueprint runner construction host) := by
  refine guarded_stepping rfl fun credentials _ => guarded_stepping rfl fun devices _ =>
    guarded_stepping rfl fun container fetched => guarded_stepping rfl fun _ stopped => ?_
  have same := Daemon.get_container_gives _ _ container fetched
  refine ⟨fun _ => ⟨_, rfl, container, same, rfl, rfl, ⟨_, rfl⟩, ?_⟩, ?_⟩
  · exact Daemon.stop_halts stopped
  · split <;> trivial

/-! ## The whole phase -/

/-- How results are committed on a host, where `turns` are those that have a turn and `whole` is all
that is done. What the runner records of itself is left out of the calls. -/
structure Isolated (blueprint : Blueprint) (runner : Runner) (results : List Construction)
    (turns : List (Construction × Host))
    (whole : Outcome Host Event Problem (List String × List Failure)) : Prop where
  /-- All results that succeeded have one turn, in order, and no others do. -/
  processed : turns.map Prod.fst = results.filter (·.failure.isNone)
  result : whole.result = .ok (turns.filterMap (imageOf blueprint runner),
    turns.filterMap (failureOf blueprint runner))
  /-- Each turn gives one image if all its calls succeed, and one failure if some call fails. -/
  ends : ∀ turn ∈ turns,
    (∃ image, imageOf blueprint runner turn = some image ∧
        failureOf blueprint runner turn = none ∧
        ∀ step ∈ stepsOf blueprint runner turn, step.succeeds = true) ∨
      ∃ failure, imageOf blueprint runner turn = none ∧
        failureOf blueprint runner turn = some failure ∧ failure.stage = some .commit ∧
        ∃ step ∈ stepsOf blueprint runner turn, step.succeeds = false
  calls : callsOf whole.trace = (turns.flatMap (stepsOf blueprint runner)).map Step.call
  /-- A container is committed only by the call after the one that stopped it. -/
  quiescent : ∀ before step after,
    turns.flatMap (stepsOf blueprint runner) = before ++ step :: after →
    step.call.isCommit = true →
      ∃ earlier stop, before = earlier ++ [stop] ∧ ∃ turn ∈ turns, ∃ container : Container,
        container.id = turn.1.container ∧ Stops container stop step

/-- Results are committed in isolation, whatever calls fail; that the runner is watched makes no
difference but for what is recorded. -/
theorem commit_all_isolated (blueprint : Blueprint) (runner : Runner) (results : List Construction)
    (host : Host) :
    SameEffect
        (commitAll blueprint runner.watched results :
          HostAction Problem (List String × List Failure))
        (commitAll blueprint runner results) ∧
      Isolated blueprint runner results (turnsFrom blueprint runner results host)
        (commitAll blueprint runner.watched results host :
          Outcome Host Event Problem (List String × List Failure)) := by
  have watched := @commit_all_watched Problem blueprint runner results
  refine ⟨watched, turns_from_constructions results host, ?_, fun turn _ => turn_ends turn,
    commit_all_steps results host, fun before step after split commits => ?_⟩
  · rw [watched.result]
    exact commit_all_result results host
  · have guarded : Guarded (fun stop commit => ∃ turn ∈ turnsFrom blueprint runner results host,
        ∃ container : Container, container.id = turn.1.container ∧ Stops container stop commit)
        none ((turnsFrom blueprint runner results host).flatMap (stepsOf blueprint runner)) :=
      Guarded.flat_map fun turn member =>
        (commit_steps_guarded blueprint runner turn.1 turn.2).mono fun _ _ guard =>
          ⟨turn, member, guard⟩
    rw [split] at guarded
    obtain ⟨_, _, absent, _⟩ | preceded := guarded.preceded commits
    · cases absent
    · exact preceded

end FixtureImages
