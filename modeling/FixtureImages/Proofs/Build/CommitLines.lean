import FixtureImages.Proofs.Build.CommitSteps
import FixtureImages.Proofs.Build.Success
import FixtureImages.Proofs.Labels.Lines

/-!
# The lines of what is committed

Every commit of a build is sent the directives of one instance: those of its ownership and of what
the runner gave for it just before. These directives are read as one line for each label if and only
if the names, what was captured and is kept, and the names of services are each on one line. A
captured secret of two lines breaks its directive.
-/

namespace FixtureImages

set_option autoImplicit false

open Action

/-! ## The commit of a turn -/

theorem mem_stepping {α : Type} {call : Call} {action : HostAction Failure α}
    {next : α → Host → List Step} {host : Host} {step : Step}
    (made : step ∈ stepping call action next host) :
    step.call = call ∨
      ∃ value, (action host).result = .ok value ∧ step ∈ next value (action host).state := by
  rcases List.mem_cons.mp made with rfl | later
  · exact .inl rfl
  · right
    cases outcome : (action host).result with
    | error failure =>
        rw [outcome] at later
        cases later
    | ok value =>
        rw [outcome] at later
        exact ⟨value, rfl, later⟩

/-- What a runner gives for a server on a host: its credentials and then its devices. -/
structure Runner.Captures (runner : Runner) (server : String) (host : Host)
    (credentials devices : Labels) : Prop where
  credentials : (runner.credentials server host).result = .ok credentials
  devices : (runner.devices server (runner.credentials server host).state).result = .ok devices

theorem commit_steps_send {blueprint : Blueprint} {runner : Runner} {construction : Construction}
    {host : Host} {step : Step} {name : String} {request : CommitRequest}
    (made : step ∈ commitSteps blueprint runner construction host)
    (sent : step.call = .commit name request) :
    ∃ credentials devices,
      runner.Captures construction.server.name.text host credentials devices ∧
      request = commitRequest construction
        (collectedLabels construction blueprint credentials devices) := by
  obtain other | ⟨credentials, given, made⟩ := mem_stepping made
  · rw [sent] at other
    cases other
  obtain other | ⟨devices, found, made⟩ := mem_stepping made
  · rw [sent] at other
    cases other
  obtain other | ⟨container, -, made⟩ := mem_stepping made
  · rw [sent] at other
    cases other
  obtain other | ⟨_, -, made⟩ := mem_stepping made
  · rw [sent] at other
    cases other
  obtain own | ⟨_, -, made⟩ := mem_stepping made
  · rw [sent] at own
    cases own
    exact ⟨credentials, devices, ⟨given, found⟩, rfl⟩
  · cases made

/-! ## The commits of a build -/

namespace Builder

variable {builder : Builder} {blueprint : Blueprint} {host : Host}

theorem watched_commits_nothing (builder : Builder) :
    builder.watched.CollaboratorsObey noCommits where
  toRunnersObey := by
    refine watched_runners_call (fun call recorded => ?_) builder
    cases call <;> first | rfl | cases recorded
  deploy _ := as_call_lawful (by rfl) _

/-- A runner that a build is watched with was made by its builder. -/
theorem advance_runner_watched (builder : Builder) (blueprint : Blueprint) :
    Gives (fun progress => ∀ used, progress.ending = .complete used → ∃ runner start,
        (builder.makeRunner blueprint start).result = .ok runner ∧ used = runner.watched)
      (advance builder.watched blueprint) := by
  refine gives_bind fun _ => gives_bind fun network => ?_
  cases network with
  | error failure =>
      dsimp only
      split
      · refine gives_pure fun used same => ?_
        cases same
      · exact gives_fail failure
  | ok network =>
      have made : Gives (fun watched => ∃ runner start,
          (builder.makeRunner blueprint start).result = .ok runner ∧ watched = runner.watched)
          (builder.watched.makeRunner blueprint) := by
        intro start watched given
        obtain ⟨runner, made, same⟩ := ok_of_bind given
        cases same
        exact ⟨runner, start, made, rfl⟩
      refine gives_bind_of made fun watched known => ?_
      intro start progress progressed used complete
      rw [construct_until_failure_runner _ _ _ _ _ start progress progressed used complete]
      exact known

/-- The instance that a commit of a build is of, and what the runner of the build gave for it. -/
structure Commits (builder : Builder) (blueprint : Blueprint) (request : CommitRequest)
    (construction : Construction) (credentials devices : Labels) : Prop where
  member : construction.server ∈ blueprint.instances
  named : construction.NamedIn builder.scope blueprint
  captured : ∃ runner made start, (builder.makeRunner blueprint made).result = .ok runner ∧
    runner.Captures construction.server.name.text start credentials devices
  request : request =
    commitRequest construction (collectedLabels construction blueprint credentials devices)

/-- Instances are settled by commits only when all of them are there. -/
theorem settle_commits {progress : Progress} {call : Call}
    (committed : call ∈
      commitCalls (settle blueprint progress host : Outcome Host Event Failure _).trace) :
    ∃ used, progress.ending = .complete used ∧
      call ∈ callsOf (commitAll blueprint used progress.built host :
        Outcome Host Event Failure (List String × List Failure)).trace := by
  have reclaims : noCommits.AdmitsReclaiming :=
    HostLaw.calling_reclaiming (fun _ => rfl) (fun _ => rfl) (fun _ => rfl) fun _ => rfl
  cases ending : progress.ending with
  | refused failure =>
      simp only [settle, ending] at committed
      cases committed
  | stopped construction failure =>
      have silent : noCommits.holds (settle blueprint progress : HostAction Failure _) := by
        simp only [settle, ending]
        exact noCommits.bind (discard_lawful fun _ => reclaims.of _) fun _ => noCommits.pure _
      rw [commit_calls_of_none silent] at committed
      cases committed
  | complete used =>
      obtain ⟨_, ended⟩ := @succeeds_commit_all Failure blueprint used progress.built host
      simp only [settle, ending, bind_of_ok ended, pure_apply, List.append_nil] at committed
      exact ⟨used, rfl, (List.mem_filter.mp committed).1⟩

theorem construct_commits {name : String} {request : CommitRequest}
    (sent : .call (.commit name request) ∈ (construct builder.watched blueprint host).trace) :
    ∃ construction credentials devices,
      Commits builder blueprint request construction credentials devices := by
  have committed : .commit name request ∈
      commitCalls (prepare builder.watched blueprint host).trace := by
    rw [← construct_commit_calls]
    exact List.mem_filter.mpr ⟨mem_calls_of.mpr sent, rfl⟩
  have silent := advance_commits_nothing (watched_commits_nothing builder) blueprint host
  cases advanced : (advance builder.watched blueprint host).result with
  | error failure =>
      rw [prepare, bind_of_error advanced, silent] at committed
      cases committed
  | ok progress =>
      obtain ⟨failures, -, prepared⟩ := prepare_apply advanced
      rw [prepared, commit_calls_append, silent, List.nil_append] at committed
      obtain ⟨used, complete, called⟩ := settle_commits committed
      obtain ⟨runner, start, made, rfl⟩ := advance_runner_watched _ _ _ _ advanced used complete
      rw [commit_all_steps] at called
      obtain ⟨step, taken, own⟩ := List.mem_map.mp called
      obtain ⟨turn, member, taken⟩ := List.mem_flatMap.mp taken
      obtain ⟨credentials, devices, captured, request⟩ := commit_steps_send taken own
      have built : turn.1 ∈ progress.built := by
        have among := List.mem_map_of_mem (f := Prod.fst) member
        rw [turns_from_constructions] at among
        exact (List.mem_filter.mp among).1
      obtain ⟨covers, -⟩ := advance_gives _ _ _ _ advanced
      rw [Progress.Covers, complete] at covers
      have listed : turn.1.server ∈ blueprint.instances := covers ▸ List.mem_map_of_mem built
      exact ⟨turn.1, credentials, devices, listed, advance_named _ _ _ _ advanced _ built,
        ⟨runner, start, turn.2, made, captured⟩, request⟩

/-- What is sent with a commit is read as one line for each label if and only if the names of the
instance, what was captured for it and is kept, and the names of its services are on one line each. -/
theorem commit_lines_iff {name : String} {request : CommitRequest}
    (sent : .call (.commit name request) ∈ (construct builder.watched blueprint host).trace) :
    ∃ construction credentials devices,
      Commits builder blueprint request construction credentials devices ∧
      (OnePerLabel (collectedLabels construction blueprint credentials devices)
          (Directive.lines request.changes) ↔
        OnOneLine construction blueprint credentials devices) := by
  obtain ⟨construction, credentials, devices, commits⟩ := construct_commits sent
  refine ⟨construction, credentials, devices, commits, ?_⟩
  rw [commits.request]
  exact collected_one_per_label_iff

/-- A script by which a secret of two lines is captured. -/
def twoLineScript : RunnerScript :=
  { RunnerScript.quiet with credentials := [("hs1", .ofList [("@alice:hs1", "line1\nline2")])] }

/-- A builder whose runners capture that secret. -/
def twoLineBuilder : Builder :=
  deployingBuilder { Config.usual with baseImage := "img" } twoLineScript

/-- What is sent to commit `hs1` then. -/
def twoLineRequest : CommitRequest :=
  { repository := localRepository, tag := "default.bp.hs1", author := commitAuthor, pause := true
    changes :=
      ["LABEL \"commander.managed\"=\"true\"", "LABEL \"commander.namespace\"=\"default\"",
        "LABEL \"commander.blueprint\"=\"bp\"", "LABEL \"commander.instance\"=\"hs1\"",
        "LABEL \"commander.context\"=\"default.bp.hs1\"",
        "LABEL \"credential_@alice:hs1\"=\"line1\nline2\""] }

theorem two_line_secret_sent :
    .call (.commit "commander_default.bp.hs1" twoLineRequest) ∈
      (construct twoLineBuilder.watched Blueprint.pair (Host.fresh ∅)).trace := by
  decide +kernel

/-- The last two of its seven lines are none of the six labels. So the directives of a commit are not
always one line for each label. -/
theorem secret_breaks_directive : ¬∀ (builder : Builder) (blueprint : Blueprint) (host : Host)
    (name : String) (request : CommitRequest),
    .call (.commit name request) ∈ (construct builder.watched blueprint host).trace →
      OnePerLabel (Directive.decode request.changes) (Directive.lines request.changes) := by
  intro claimed
  have each := claimed _ _ _ _ _ two_line_secret_sent
  have last : "line2\"" ∈ Directive.lines twoLineRequest.changes := by decide +kernel
  obtain ⟨key, value, formed⟩ := each.formed _ last
  have first : some 'l' = some 'L' := by
    rw [← Directive.head_of_label key value, ← formed]
    decide
  cases first

/-- The secret is what stands in the way. -/
theorem commit_lines_iff_of_secret :
    .call (.commit "commander_default.bp.hs1" twoLineRequest) ∈
        (construct twoLineBuilder.watched Blueprint.pair (Host.fresh ∅)).trace ∧
      ∃ construction credentials devices,
        Commits twoLineBuilder Blueprint.pair twoLineRequest construction credentials devices ∧
        (OnePerLabel (collectedLabels construction Blueprint.pair credentials devices)
            (Directive.lines twoLineRequest.changes) ↔
          OnOneLine construction Blueprint.pair credentials devices) :=
  ⟨two_line_secret_sent, commit_lines_iff two_line_secret_sent⟩

end Builder

end FixtureImages
