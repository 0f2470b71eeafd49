import FixtureImages.Proofs.Build.Law

/-!
# Watched collaborators

Deployers and runners record what they like of themselves. A watched one does what it did, but all
that is recorded of it is the one call that was made to it. The trace of a watched build then shows
exactly which collaborators were called, in which order and with what, between the calls of the
build itself. Since nothing looks at a trace, being watched changes neither what a build comes to
nor the host that it leaves.
-/

namespace FixtureImages

set_option autoImplicit false

open Action

variable {Problem Other α β : Type}

/-! ## Actions that differ in what they record -/

/-- Two actions come to the same and leave the same host, whatever they record. -/
structure SameEffect (left right : HostAction Problem α) : Prop where
  result : ∀ host, (left host).result = (right host).result
  state : ∀ host, (left host).state = (right host).state

namespace SameEffect

theorem refl (action : HostAction Problem α) : SameEffect action action :=
  ⟨fun _ => rfl, fun _ => rfl⟩

theorem trans {first second third : HostAction Problem α} (earlier : SameEffect first second)
    (later : SameEffect second third) : SameEffect first third :=
  ⟨fun host => (earlier.result host).trans (later.result host),
    fun host => (earlier.state host).trans (later.state host)⟩

theorem bind {first other : HostAction Problem α} {next following : α → HostAction Problem β}
    (same : SameEffect first other) (later : ∀ value, SameEffect (next value) (following value)) :
    SameEffect (first >>= next) (other >>= following) where
  result host := by
    simp only [bind_apply, same.result, same.state]
    cases (other host).result with
    | error failure => rfl
    | ok value => exact (later value).result _
  state host := by
    simp only [bind_apply, same.result, same.state]
    cases (other host).result with
    | error failure => rfl
    | ok value => exact (later value).state _

theorem attempt {action other : HostAction Other α} (same : SameEffect action other) :
    SameEffect (attempt action : HostAction Problem (Except Other α)) (Action.attempt other) :=
  ⟨fun host => congrArg Except.ok (same.result host), same.state⟩

theorem mapFailure {convert : Problem → Other} {action other : HostAction Problem α}
    (same : SameEffect action other) :
    SameEffect (action.mapFailure convert) (other.mapFailure convert) :=
  ⟨fun host => congrArg (Except.mapError convert) (same.result host), same.state⟩

end SameEffect

/-- An action of which only the call to it is recorded. -/
def asCall (made : Call) (action : HostAction Problem α) : HostAction Problem α := fun host =>
  ⟨(action host).result, (action host).state, [.call made]⟩

theorem as_call_same (made : Call) (action : HostAction Problem α) :
    SameEffect (asCall made action) action := ⟨fun _ => rfl, fun _ => rfl⟩

/-! ## Collaborators -/

def Runner.watched (runner : Runner) : Runner where
  run server url := asCall (.run server.name.text url server.steps) (runner.run server url)
  credentials server := asCall (.credentials server) (runner.credentials server)
  devices server := asCall (.devices server) (runner.devices server)

def Builder.watched (builder : Builder) : Builder where
  config := builder.config
  deployer request := asCall (.deploy request) (builder.deployer request)
  makeRunner blueprint := asCall (.makeRunner blueprint.name.text) do
    let runner ← builder.makeRunner blueprint
    return runner.watched

@[simp] theorem Builder.watched_config (builder : Builder) :
    builder.watched.config = builder.config := rfl

@[simp] theorem Builder.watched_scope (builder : Builder) :
    builder.watched.scope = builder.scope := rfl

theorem Builder.make_runner_watched {builder : Builder} {blueprint : Blueprint} {host : Host}
    {runner : Runner} (made : (builder.makeRunner blueprint host).result = .ok runner) :
    builder.watched.makeRunner blueprint host =
      ⟨.ok runner.watched, (builder.makeRunner blueprint host).state,
        [.call (.makeRunner blueprint.name.text)]⟩ := by
  simp [watched, asCall, -bind_pure_comp, bind_of_ok made, pure_apply]

/-- What holds of the hosts that collaborators leave does not depend on whether they are watched. -/
theorem Builder.watched_obeys {builder : Builder} {frame : Frame Host}
    (obeys : builder.CollaboratorsObey (.keeping frame)) :
    builder.watched.CollaboratorsObey (.keeping frame) where
  make blueprint :=
    (HostLaw.keeping frame).bind (obeys.make blueprint) fun _ => (HostLaw.keeping frame).pure _
  made blueprint host watched given := by
    obtain ⟨runner, made, later⟩ := ok_of_bind given
    cases later
    have known := obeys.made blueprint host runner made
    exact ⟨known.run, known.credentials, known.devices⟩
  deploy := obeys.deploy

theorem as_call_lawful {allowed : Call → Prop} {made : Call} (allows : allowed made)
    (action : HostAction Problem α) : (HostLaw.calling allowed).holds (asCall made action) := by
  intro host event member call called
  rw [List.mem_singleton.mp member] at called
  cases called
  exact allows

/-- Watched runners call nothing but what is recorded of them. -/
theorem Builder.watched_runners_call {allowed : Call → Prop}
    (records : ∀ call, call.isScripted = true → allowed call) (builder : Builder) :
    builder.watched.RunnersObey (.calling allowed) where
  make blueprint := as_call_lawful (records _ rfl) _
  made blueprint host watched given := by
    obtain ⟨runner, -, same⟩ := ok_of_bind given
    cases same
    exact ⟨fun _ _ => as_call_lawful (records _ rfl) _, fun _ => as_call_lawful (records _ rfl) _,
      fun _ => as_call_lawful (records _ rfl) _⟩

/-! ## Builds -/

theorem label_and_commit_watched (blueprint : Blueprint) (runner : Runner)
    (construction : Construction) :
    SameEffect (labelAndCommit blueprint runner.watched construction)
      (labelAndCommit blueprint runner construction) := by
  have labels : SameEffect (imageLabels construction blueprint runner.watched)
      (imageLabels construction blueprint runner) :=
    (as_call_same _ _).bind fun _ => (as_call_same _ _).bind fun _ => .refl _
  exact labels.bind fun _ => .refl _

theorem commit_all_watched (blueprint : Blueprint) (runner : Runner) (results : List Construction) :
    SameEffect
      (commitAll blueprint runner.watched results :
        HostAction Problem (List String × List Failure))
      (commitAll blueprint runner results) := by
  induction results with
  | nil => exact .refl _
  | cons construction rest ih =>
      rw [commitAll, commitAll]
      split
      · exact ih
      · refine (label_and_commit_watched blueprint runner construction).attempt.bind
          fun committed => ?_
        cases committed with
        | ok id => exact ih.bind fun _ => .refl _
        | error failure => exact (SameEffect.refl _).bind fun _ => ih.bind fun _ => .refl _

namespace Builder

variable (builder : Builder) (blueprint : Blueprint) (network : String) (runner : Runner)

theorem construct_instance_watched (server : Instance) :
    SameEffect
      (constructInstance server blueprint.name.text network builder.config
        builder.watched.deployer runner.watched : HostAction Problem Construction)
      (constructInstance server blueprint.name.text network builder.config builder.deployer
        runner) := by
  refine (SameEffect.refl _).bind fun _ => ?_
  dsimp only
  split
  · exact .refl _
  · refine (as_call_same _ _).attempt.bind fun deployed => ?_
    cases deployed with
    | error failure => exact .refl _
    | ok deployment =>
        refine (SameEffect.refl _).bind fun _ => ?_
        exact (as_call_same _ _).attempt.bind fun _ => .refl _

theorem construct_rest_watched (built : List Construction) (servers : List Instance) :
    SameEffect
      (constructRest builder.watched blueprint network runner.watched built servers :
        HostAction Problem (List Failure))
      (constructRest builder blueprint network runner built servers) := by
  induction servers generalizing built with
  | nil => exact (commit_all_watched _ _ _).bind fun _ => .refl _
  | cons server rest ih =>
      refine (construct_instance_watched builder blueprint network runner server).bind
        fun construction => ?_
      cases construction.failure with
      | some failure => exact .refl _
      | none => exact (ih _).bind fun _ => .refl _

theorem construct_all_watched :
    SameEffect (constructAll builder.watched blueprint) (constructAll builder blueprint) := by
  refine (SameEffect.refl _).bind fun _ => (SameEffect.refl _).bind fun provided => ?_
  cases provided with
  | error failure => exact .refl _
  | ok network =>
      refine ((as_call_same _ _).bind fun _ => .refl _).trans ?_
      simp only [bind_assoc, pure_bind]
      exact (SameEffect.refl _).bind fun runner =>
        construct_rest_watched builder blueprint network runner [] _

/-- A watched build comes to the same, and leaves the same host. -/
theorem construct_watched :
    SameEffect (construct builder.watched blueprint) (construct builder blueprint) := by
  have builds : SameEffect (build builder.watched blueprint) (build builder blueprint) :=
    (construct_all_watched builder blueprint).mapFailure.bind fun _ => .refl _
  exact builds.attempt.bind fun _ => .refl _

end Builder

end FixtureImages
