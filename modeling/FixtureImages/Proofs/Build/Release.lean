import FixtureImages.Proofs.Build.Law
import FixtureImages.Proofs.Daemon.Faults

/-!
# The discipline of releases

Every instance that was constructed is released once, the last one first, after all commits and
after the failed instance is discarded, and before the one removal of networks, which always comes.
No failure of a call that a release or the removal makes keeps the others from being made or changes
how the build ends.
-/

namespace FixtureImages

set_option autoImplicit false

open Action

variable {Problem : Type}

theorem succeeds_commit_all (blueprint : Blueprint) (runner : Runner)
    (built : List Construction) :
    Succeeds (commitAll blueprint runner built :
      HostAction Problem (List String × List Failure)) := by
  induction built with
  | nil => exact succeeds_pure _
  | cons construction rest ih =>
      rw [commitAll]
      split
      · exact ih
      · refine succeeds_bind (succeeds_attempt _) fun committed => ?_
        cases committed with
        | ok id => exact succeeds_bind ih fun _ => succeeds_pure _
        | error failure =>
            exact succeeds_bind (succeeds_note _ _ _) fun _ =>
              succeeds_bind ih fun _ => succeeds_pure _

/-- A call that kills or removes a container. -/
def Call.Reclaims : Call → Prop
  | .kill .. | .removeContainer .. => True
  | _ => False

namespace Builder

/-! ## What was constructed -/

/-- How far a build came with the instances of its blueprint: the constructed ones are the first
ones, and one that failed comes next. -/
def Progress.Covers (progress : Progress) (servers : List Instance) : Prop :=
  match progress.ending with
  | .refused _ => progress.built = []
  | .stopped construction failure =>
      construction.failure = some failure ∧
        ∃ rest, servers = progress.built.map Construction.server ++ construction.server :: rest
  | .complete _ => servers = progress.built.map Construction.server

theorem construct_instance_gives (server : Instance) (blueprint network : String)
    (config : Config) (deployer : Deployer) (runner : Runner) :
    Gives (fun construction => construction.server = server ∧
        construction.scope = config.scope.text ∧
        construction.context = contextOf config.scope.text blueprint server.name.text)
      (constructInstance server blueprint network config deployer runner :
        HostAction Problem Construction) := by
  refine gives_bind fun _ => ?_
  dsimp only
  split
  · exact gives_pure ⟨rfl, rfl, rfl⟩
  · refine gives_bind fun deployed => ?_
    cases deployed with
    | error failure =>
        refine gives_bind fun _ => gives_pure ?_
        rw [Construction.failDeployment]
        split <;> exact ⟨rfl, rfl, rfl⟩
    | ok deployment =>
        refine gives_bind fun _ => gives_bind fun ran => ?_
        cases ran with
        | ok _ => exact gives_pure ⟨rfl, rfl, rfl⟩
        | error failure => exact gives_bind fun _ => gives_pure ⟨rfl, rfl, rfl⟩

theorem Progress.Covers.cons {construction : Construction} {progress : Progress}
    {server : Instance} {servers : List Instance} (own : construction.server = server)
    (tried : ∀ failure, progress.ending ≠ .refused failure) (covers : progress.Covers servers) :
    Covers ⟨construction :: progress.built, progress.ending⟩ (server :: servers) := by
  obtain ⟨built, ending⟩ := progress
  cases ending with
  | refused failure => exact absurd rfl (tried failure)
  | stopped failed failure =>
      obtain ⟨reason, rest, split⟩ := covers
      exact ⟨reason, rest, by simp [split, own]⟩
  | complete runner =>
      simp only [Covers] at covers
      simp [Covers, covers, own]

theorem construct_until_failure_gives (builder : Builder) (blueprint : Blueprint)
    (network : String) (runner : Runner) (servers : List Instance) :
    Gives (fun progress => (∀ failure, progress.ending ≠ .refused failure) ∧
        progress.Covers servers ∧ ∀ construction ∈ progress.built,
          construction.failure = none ∧ construction.scope = builder.scope)
      (constructUntilFailure builder blueprint network runner servers :
        HostAction Problem Progress) := by
  induction servers with
  | nil => exact gives_pure ⟨nofun, rfl, by simp⟩
  | cons server rest ih =>
      refine gives_bind_of (construct_instance_gives _ _ _ _ _ _) fun construction known => ?_
      obtain ⟨own, scope, -⟩ := known
      cases failed : construction.failure with
      | some failure => exact gives_pure ⟨nofun, ⟨failed, rest, by simp [own]⟩, by simp⟩
      | none =>
          refine gives_bind_of ih fun progress known => gives_pure ?_
          obtain ⟨tried, covers, succeeded⟩ := known
          refine ⟨tried, covers.cons own tried, ?_⟩
          simpa [failed, scope, Builder.scope] using succeeded

theorem advance_gives (builder : Builder) (blueprint : Blueprint) :
    Gives (fun progress => progress.Covers blueprint.instances ∧
        ∀ construction ∈ progress.built,
          construction.failure = none ∧ construction.scope = builder.scope)
      (advance builder blueprint) := by
  refine gives_bind fun _ => gives_bind fun network => ?_
  cases network with
  | error failure =>
      dsimp only
      split
      · exact gives_pure ⟨rfl, by simp⟩
      · exact gives_fail failure
  | ok network =>
      refine gives_bind fun runner => ?_
      intro host progress given
      exact (construct_until_failure_gives builder blueprint network runner _ host progress given).2

/-! ## What is called -/

/-- The calls by which instances are released one after the other: each container is fetched, killed
if it is found running, fetched again and removed. -/
def releaseCalls : List Construction → Host → List Call
  | [], _ => []
  | construction :: rest, host =>
      let id := construction.container
      let killed : Outcome Host Event Failure Bool :=
        Catalog.killContainer id construction.context host
      let freed : Outcome Host Event Failure Unit := release construction host
      killCalls id host ++ removalCalls id killed.state ++ releaseCalls rest freed.state

/-- The calls by which an instance that failed is discarded: its log is read, and it is removed. -/
def discardCalls (construction : Construction) (host : Host) : List Call :=
  let id := construction.container
  let shown : Outcome Host Event Failure Unit := Catalog.printLog id construction.context host
  if id.isEmpty then [] else logCalls id host ++ removalCalls id shown.state

/-- The calls between the last construction and the first release. -/
def settleCalls (blueprint : Blueprint) (progress : Progress) (host : Host) : List Call :=
  match progress.ending with
  | .refused _ => []
  | .stopped construction _ => discardCalls construction host
  | .complete runner =>
      callsOf (commitAll blueprint runner progress.built host :
        Outcome Host Event Failure (List String × List Failure)).trace

/-- The calls of the one removal of networks: they are listed, and each that is found is removed. -/
def sweepCalls (query : Query) (host : Host) : List Call :=
  .listNetworks query.filters ::
    match (Catalog.listNetworks query host).result with
    | .error _ => []
    | .ok networks => networks.map fun network => .removeNetwork network.name

theorem release_calls (construction : Construction) (host : Host) :
    callsOf (release construction host : Outcome Host Event Failure Unit).trace =
      releaseCalls [construction] host := by
  obtain ⟨killed, outcome⟩ := @Catalog.succeeds_kill_container Failure
    construction.container construction.context host
  obtain ⟨removed, later⟩ := @Catalog.succeeds_remove_container Failure
    construction.container construction.context
    (Catalog.killContainer construction.container construction.context host :
      Outcome Host Event Failure Bool).state
  simp only [release, bind_of_ok outcome, bind_of_ok later, pure_apply, calls_of_append,
    Catalog.kill_container_calls, Catalog.remove_container_calls, calls_of_nil, releaseCalls]
  simp

theorem release_all_calls (built : List Construction) (host : Host) :
    callsOf (releaseAll built host : Outcome Host Event Failure Unit).trace =
      releaseCalls built host := by
  induction built generalizing host with
  | nil => rfl
  | cons construction rest ih =>
      obtain ⟨_, outcome⟩ := @succeeds_release Failure construction host
      rw [releaseAll, bind_of_ok outcome, calls_of_append, ih, release_calls]
      simp [releaseCalls]

theorem succeeds_discard (construction : Construction) :
    Succeeds (discard construction : HostAction Problem Unit) := by
  rw [discard]
  split
  · exact succeeds_bind (Catalog.succeeds_print_log _ _) fun _ =>
      succeeds_bind (Catalog.succeeds_remove_container _ _) fun _ => succeeds_pure _
  · exact succeeds_pure _

theorem discard_calls (construction : Construction) (host : Host) :
    callsOf (discard construction host : Outcome Host Event Failure Unit).trace =
      discardCalls construction host := by
  obtain ⟨_, shown⟩ := @Catalog.succeeds_print_log Failure construction.container
    construction.context host
  obtain ⟨_, removed⟩ := @Catalog.succeeds_remove_container Failure
    construction.container construction.context
    (Catalog.printLog construction.container construction.context host :
      Outcome Host Event Failure Unit).state
  cases empty : construction.container.isEmpty with
  | true => simp [discard, discardCalls, empty, pure_apply]
  | false =>
      simp [-bind_pure_comp, discard, discardCalls, empty, bind_of_ok shown, bind_of_ok removed,
        pure_apply, Catalog.print_log_calls, Catalog.remove_container_calls]

theorem succeeds_settle (blueprint : Blueprint) (progress : Progress) :
    Succeeds (settle blueprint progress : HostAction Problem (List Failure)) := by
  rw [settle]
  cases progress.ending with
  | refused failure => exact succeeds_pure _
  | stopped construction failure =>
      exact succeeds_bind (succeeds_discard construction) fun _ => succeeds_pure _
  | complete runner =>
      exact succeeds_bind (succeeds_commit_all _ _ _) fun _ => succeeds_pure _

theorem settle_calls (blueprint : Blueprint) (progress : Progress) (host : Host) :
    callsOf (settle blueprint progress host : Outcome Host Event Failure (List Failure)).trace =
      settleCalls blueprint progress host := by
  rw [settle, settleCalls]
  cases progress.ending with
  | refused failure => rfl
  | stopped construction failure =>
      obtain ⟨_, discarded⟩ := @succeeds_discard Failure construction host
      simp [-bind_pure_comp, bind_of_ok discarded, pure_apply, discard_calls]
  | complete runner =>
      obtain ⟨_, committed⟩ := @succeeds_commit_all Failure blueprint runner
        progress.built host
      simp [-bind_pure_comp, bind_of_ok committed, pure_apply]

theorem prepare_apply {builder : Builder} {blueprint : Blueprint} {host : Host}
    {progress : Progress} (advanced : (advance builder blueprint host).result = .ok progress) :
    ∃ failures,
      (settle blueprint progress (advance builder blueprint host).state :
        Outcome Host Event Failure (List Failure)).result = .ok failures ∧
      prepare builder blueprint host =
        ⟨.ok (progress.built, failures),
          (settle blueprint progress (advance builder blueprint host).state :
            Outcome Host Event Failure (List Failure)).state,
          (advance builder blueprint host).trace ++
            (settle blueprint progress (advance builder blueprint host).state :
              Outcome Host Event Failure (List Failure)).trace⟩ := by
  obtain ⟨failures, settled⟩ := @succeeds_settle Failure blueprint progress
    (advance builder blueprint host).state
  exact ⟨failures, settled, by
    simp [-bind_pure_comp, prepare, bind_of_ok advanced, bind_of_ok settled, pure_apply]⟩

theorem remove_all_calls {Item : Type} {name : Item → String}
    {remove : Item → HostAction Problem Bool} {made : Item → Call}
    (succeeds : ∀ item, Succeeds (remove item))
    (calls : ∀ item host, callsOf (remove item host).trace = [made item]) (items : List Item)
    (host : Host) : callsOf (Catalog.removeAll name remove items host).trace = items.map made := by
  induction items generalizing host with
  | nil => rfl
  | cons item rest ih =>
      obtain ⟨removed, outcome⟩ := succeeds item host
      obtain ⟨others, later⟩ := @Catalog.succeeds_remove_all _ _ name _ succeeds rest
        (remove item host).state
      simp [-bind_pure_comp, Catalog.removeAll, bind_of_ok outcome, bind_of_ok later, pure_apply,
        calls, ih]

theorem remove_networks_calls (scope blueprint : String) (host : Host) :
    callsOf (Provision.removeNetworks scope blueprint host :
        Outcome Host Event Problem (List String)).trace =
      sweepCalls (.ofBlueprint scope blueprint) host := by
  rw [Provision.removeNetworks, attempt_bind_apply, sweepCalls]
  have listed : (Catalog.listNetworks (.ofBlueprint scope blueprint) host).trace =
      [.call (.listNetworks (Query.ofBlueprint scope blueprint).filters)] :=
    Daemon.list_networks_trace _ host
  rw [listed]
  cases (Catalog.listNetworks (.ofBlueprint scope blueprint) host).result with
  | error failure => simp [bind_apply, pure_apply]
  | ok networks =>
      simp [remove_all_calls (fun network => Catalog.succeeds_remove_network _ _)
        fun network host => Catalog.remove_network_calls _ _ host]

/-! ## How a build ends -/

/-- How a build ends on a host when it has come to some failures, with nothing left to release and
no networks to remove. -/
def verdict (builder : Builder) (blueprint : Blueprint) (settled : Except Failure (List Failure))
    (host : Host) : Except BuildFailure (List String) :=
  (report blueprint (conclude builder blueprint settled host).result host).result

theorem note_failures_reads (failures : List Failure) :
    ReadsOnly imageView (noteFailures failures : HostAction Problem Unit) := by
  induction failures with
  | nil => exact reads_pure _
  | cons failure rest ih => exact reads_bind (reads_emit _) fun _ => ih

theorem conclude_reads (builder : Builder) (blueprint : Blueprint)
    (settled : Except Failure (List Failure)) :
    ReadsOnly imageView (conclude builder blueprint settled) := by
  have awaits : ReadsOnly imageView
      ((awaitImages builder blueprint).mapFailure BuildFailure.single) :=
    reads_map_failure <| reads_map_failure <|
      wait_for_reads (Daemon.list_images_reads _) Daemon.now_reads Daemon.sleep_reads _ _ _
  refine reads_bind (reads_of_except _) fun failures => ?_
  split
  · exact reads_bind (note_failures_reads failures) fun _ =>
      reads_bind (reads_fail _) fun _ => awaits
  · exact awaits

theorem report_reads {View : Type} {view : Host → View} (blueprint : Blueprint)
    (concluded : Except BuildFailure (List Image)) :
    ReadsOnly view (report blueprint concluded) := by
  refine reads_bind (reads_of_except _) fun images => ?_
  dsimp only
  split
  · exact reads_bind (reads_fail _) fun _ => reads_bind (reads_emit _) fun _ => reads_pure _
  · exact reads_bind (reads_emit _) fun _ => reads_pure _

theorem reclaiming_keeps_image_view :
    (HostLaw.keeping (Frame.ofView imageView)).AdmitsReclaiming where
  get id := Daemon.get_container_lawful (image_view_meets (by simp [Call.method]))
  kill container :=
    Daemon.kill_lawful (image_view_meets (by simp [Call.method])) fun _ => rfl
  readLog container := Daemon.read_log_lawful (image_view_meets (by simp [Call.method]))
  remove container :=
    Daemon.remove_container_lawful (image_view_meets (by simp [Call.method])) fun _ => rfl

/-- The failures of the calls that release instances and remove networks have no part in how a
build ends. -/
theorem construct_result (builder : Builder) (blueprint : Blueprint) (host : Host) :
    (construct builder blueprint host).result =
      verdict builder blueprint (settledOn builder blueprint host)
        (prepare builder blueprint host).state := by
  have kept : imageView (released builder blueprint host).state =
      imageView (prepare builder blueprint host).state :=
    release_all_lawful (fun _ _ => reclaiming_keeps_image_view.of _) _
  rw [construct_apply, reported, verdict, concluded,
    (conclude_reads builder blueprint _ _ _ kept).1]
  exact (@report_reads Unit (fun _ => ()) blueprint _ _ _ rfl).1

/-! ## The discipline -/

/-- What holds of the releases of a build on a host, however the build ends. -/
structure ReleaseDiscipline (builder : Builder) (blueprint : Blueprint) (host : Host) : Prop where
  /-- Those to be released are the first instances of the blueprint, up to one that failed. -/
  constructed : ∀ progress, (advance builder blueprint host).result = .ok progress →
    builtOn builder blueprint host = progress.built ∧ progress.Covers blueprint.instances ∧
      ∀ construction ∈ progress.built,
        construction.failure = none ∧ construction.scope = builder.scope
  /-- Nothing is to be released when no instance was tried. -/
  untried : ∀ failure, (advance builder blueprint host).result = .error failure →
    builtOn builder blueprint host = []
  /-- All releases come in reverse order after what prepares them, then the images are waited for,
  and then networks are removed once. -/
  calls : callsOf (construct builder blueprint host).trace =
    callsOf (prepare builder blueprint host).trace ++
      releaseCalls (builtOn builder blueprint host).reverse
        (prepare builder blueprint host).state ++
      callsOf (concluded builder blueprint host).trace ++
      sweepCalls (builder.queryFor blueprint) (concluded builder blueprint host).state
  /-- The commits, or the log and the removal of the instance that failed, come before. -/
  settled : ∀ progress, (advance builder blueprint host).result = .ok progress →
    callsOf (prepare builder blueprint host).trace =
      callsOf (advance builder blueprint host).trace ++
        settleCalls blueprint progress (advance builder blueprint host).state
  /-- Between the releases and the removal of networks images are listed, and nothing else. -/
  waits : ∀ made ∈ callsOf (concluded builder blueprint host).trace,
    made.method = "images.list" ∨ made.method = "sleep"
  /-- Unless a collaborator does so, nothing but the instance that failed is killed or removed
  before the releases. -/
  apart : builder.CollaboratorsObey (HostLaw.calling fun made => ¬made.Reclaims) →
    ∀ made ∈ callsOf (prepare builder blueprint host).trace, made.Reclaims →
      ∃ progress construction failure, (advance builder blueprint host).result = .ok progress ∧
        progress.ending = .stopped construction failure ∧
        made ∈ discardCalls construction (advance builder blueprint host).state
  /-- How the build ends was settled before the releases, and does not depend on them or on the
  removal of networks. -/
  result : (construct builder blueprint host).result =
    verdict builder blueprint (settledOn builder blueprint host)
      (prepare builder blueprint host).state

theorem waiting_calls :
    (HostLaw.calling fun made =>
      made.method = "images.list" ∨ made.method = "sleep").AdmitsWaiting :=
  HostLaw.calling_waiting (fun _ => .inl rfl) fun _ => .inr rfl

theorem providing_calls : (HostLaw.calling fun made => ¬made.Reclaims).AdmitsNetworks :=
  HostLaw.calling_networks (fun _ => not_false) (fun _ _ _ => not_false) fun _ => not_false

theorem committing_calls : (HostLaw.calling fun made => ¬made.Reclaims).AdmitsCommits :=
  HostLaw.calling_commits (fun _ => not_false) (fun _ => not_false) fun _ _ => not_false

theorem prepare_reclaims (builder : Builder) (blueprint : Blueprint) (host : Host)
    (obeys : builder.CollaboratorsObey (HostLaw.calling fun made => ¬made.Reclaims)) :
    ∀ made ∈ callsOf (prepare builder blueprint host).trace, made.Reclaims →
      ∃ progress construction failure, (advance builder blueprint host).result = .ok progress ∧
        progress.ending = .stopped construction failure ∧
        made ∈ discardCalls construction (advance builder blueprint host).state := by
  intro made member reclaims
  have advancing := HostLaw.calling_iff.mp (advance_lawful providing_calls.provides obeys blueprint) host
  cases advanced : (advance builder blueprint host).result with
  | error failure =>
      rw [prepare, bind_of_error advanced] at member
      exact absurd reclaims (advancing made member)
  | ok progress =>
      obtain ⟨failures, _, prepared⟩ := prepare_apply advanced
      simp only [prepared, calls_of_append, settle_calls, List.mem_append] at member
      rcases member with early | settling
      · exact absurd reclaims (advancing made early)
      · rw [settleCalls] at settling
        cases ending : progress.ending with
        | refused failure => simp [ending] at settling
        | stopped construction failure =>
            rw [ending] at settling
            exact ⟨progress, construction, failure, rfl, ending, settling⟩
        | complete runner =>
            rw [ending] at settling
            have runnerObeys := advance_runner_obeys obeys.toRunnersObey blueprint host progress
              advanced runner ending
            have committing := HostLaw.calling_iff.mp
              (@commit_all_lawful Failure _ runner progress.built
                (fun _ _ => committing_calls.stopping _) committing_calls.commit runnerObeys
                blueprint)
            exact absurd reclaims (committing _ made settling)

/-- Every build keeps the discipline of releases. -/
theorem construct_keeps_release_discipline (builder : Builder) (blueprint : Blueprint)
    (host : Host) : ReleaseDiscipline builder blueprint host where
  constructed progress advanced := by
    obtain ⟨failures, _, prepared⟩ := prepare_apply advanced
    exact ⟨by simp [builtOn, prepared], advance_gives builder blueprint host progress advanced⟩
  untried failure advanced := by
    rw [builtOn, prepare, bind_of_error advanced]
  calls := by
    have silent := HostLaw.calling_iff.mp
      (@report_lawful (HostLaw.calling fun _ => False) blueprint
        (concluded builder blueprint host).result)
    have reported : callsOf (reported builder blueprint host).trace = [] :=
      List.eq_nil_iff_forall_not_mem.mpr (silent _)
    rw [construct_apply]
    simp only [calls_of_append, reported, List.append_nil, released, release_all_calls, swept,
      remove_networks_calls, queryFor]
  settled progress advanced := by
    obtain ⟨failures, _, prepared⟩ := prepare_apply advanced
    rw [prepared, calls_of_append, settle_calls]
  waits := HostLaw.calling_iff.mp (conclude_lawful waiting_calls builder blueprint _) _
  apart := prepare_reclaims builder blueprint host
  result := construct_result builder blueprint host

end Builder

end FixtureImages
