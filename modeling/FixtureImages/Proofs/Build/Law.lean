import FixtureImages.Proofs.Action.Polling
import FixtureImages.Proofs.Build.Stages
import FixtureImages.Proofs.Daemon.Law
import FixtureImages.Scripted

/-!
# Laws of builds

A law holds of a stage of a build when it holds of the calls which that stage makes and of what its
collaborators do. The calls are grouped by what they are made for: providing and removing networks,
committing, reclaiming containers, and waiting for images.
-/

namespace FixtureImages

set_option autoImplicit false

open Action

variable {Problem : Type}

namespace HostLaw

structure AdmitsNetworks (law : HostLaw) : Prop where
  list : ∀ filters, law.holds (Daemon.listNetworks filters)
  create : ∀ name driver labels, law.holds (Daemon.createNetwork name driver labels)
  remove : ∀ id name, law.holds (Daemon.removeNetwork id name)

/-- What is done to networks when they are removed. -/
structure AdmitsNetworkRemoval (law : HostLaw) : Prop where
  list : ∀ filters, law.holds (Daemon.listNetworks filters)
  remove : ∀ id name, law.holds (Daemon.removeNetwork id name)

structure AdmitsCommits (law : HostLaw) : Prop where
  get : ∀ id, law.holds (Daemon.getContainer id)
  stop : ∀ container, law.holds (Daemon.stop container stopGrace)
  commit : ∀ container request, law.holds (Daemon.commit container request)

structure AdmitsReclaiming (law : HostLaw) : Prop where
  get : ∀ id, law.holds (Daemon.getContainer id)
  kill : ∀ container, law.holds (Daemon.kill container "KILL")
  readLog : ∀ container, law.holds (Daemon.readLog container)
  remove : ∀ container, law.holds (Daemon.removeContainer container true)

/-- What is done to the container of one instance when it is committed. -/
structure AdmitsStopping (law : HostLaw) (id : String) : Prop where
  get : law.holds (Daemon.getContainer id)
  stop : ∀ container, container.id = id → law.holds (Daemon.stop container stopGrace)

/-- What is done to the container of one instance when it is reclaimed. -/
structure AdmitsReclaimingOf (law : HostLaw) (id : String) : Prop where
  get : law.holds (Daemon.getContainer id)
  kill : ∀ container, container.id = id → law.holds (Daemon.kill container "KILL")
  readLog : ∀ container, law.holds (Daemon.readLog container)
  remove : ∀ container, container.id = id → law.holds (Daemon.removeContainer container true)

theorem AdmitsNetworks.removal {law : HostLaw} (networks : law.AdmitsNetworks) :
    law.AdmitsNetworkRemoval := ⟨networks.list, networks.remove⟩

theorem AdmitsCommits.stopping {law : HostLaw} (commits : law.AdmitsCommits) (id : String) :
    law.AdmitsStopping id := ⟨commits.get id, fun container _ => commits.stop container⟩

theorem AdmitsReclaiming.of {law : HostLaw} (reclaims : law.AdmitsReclaiming) (id : String) :
    law.AdmitsReclaimingOf id :=
  ⟨reclaims.get id, fun container _ => reclaims.kill container, reclaims.readLog,
    fun container _ => reclaims.remove container⟩

structure AdmitsWaiting (law : HostLaw) : Prop where
  list : ∀ filters, law.holds (Daemon.listImages filters)
  sleep : ∀ pause, law.holds (Daemon.sleep pause : HostAction Failure Unit)

section

variable {allowed : Call → Prop}

theorem calling_networks (list : ∀ filters, allowed (.listNetworks filters))
    (create : ∀ name driver labels, allowed (.createNetwork name driver labels))
    (remove : ∀ name, allowed (.removeNetwork name)) : (calling allowed).AdmitsNetworks where
  list _ := Daemon.list_networks_lawful (calling_perform (list _))
  create _ _ _ :=
    Daemon.create_network_lawful (calling_perform (create _ _ _)) (calling_take _)
  remove _ _ := Daemon.remove_network_lawful (calling_perform (remove _)) (calling_change _)

theorem calling_stop (stop : ∀ name, allowed (.stop name stopGrace)) (container : Container) :
    (calling allowed).holds (Daemon.stop container stopGrace) :=
  Daemon.stop_lawful (calling_perform (stop _)) (calling_change _)

theorem calling_commits (get : ∀ id, allowed (.getContainer id))
    (stop : ∀ name, allowed (.stop name stopGrace))
    (commit : ∀ name request, allowed (.commit name request)) : (calling allowed).AdmitsCommits where
  get _ := Daemon.get_container_lawful (calling_perform (get _))
  stop _ := calling_stop stop _
  commit _ _ := Daemon.commit_lawful (calling_perform (commit _ _)) (calling_take _)

theorem calling_reclaiming (get : ∀ id, allowed (.getContainer id))
    (kill : ∀ name, allowed (.kill name "KILL"))
    (readLog : ∀ name, allowed (.readLog name true true false))
    (remove : ∀ name, allowed (.removeContainer name true)) :
    (calling allowed).AdmitsReclaiming where
  get _ := Daemon.get_container_lawful (calling_perform (get _))
  kill _ := Daemon.kill_lawful (calling_perform (kill _)) (calling_change _)
  readLog _ := Daemon.read_log_lawful (calling_perform (readLog _))
  remove _ :=
    Daemon.remove_container_lawful (calling_perform (remove _)) (calling_change _)

theorem calling_waiting (list : ∀ filters, allowed (.listImages filters))
    (sleep : ∀ pause, allowed (.sleep pause)) : (calling allowed).AdmitsWaiting where
  list _ := Daemon.list_images_lawful (calling_perform (list _))
  sleep pause := calling_sleep (sleep pause)

end

end HostLaw

/-- The law holds of all that a runner does. -/
structure Runner.Obeys (law : HostLaw) (runner : Runner) : Prop where
  run : ∀ server url, law.holds (runner.run server url)
  credentials : ∀ server, law.holds (runner.credentials server)
  devices : ∀ server, law.holds (runner.devices server)

/-- The law holds of making a runner and of all runners that are made. -/
structure Builder.RunnersObey (law : HostLaw) (builder : Builder) : Prop where
  make : ∀ blueprint, law.holds (builder.makeRunner blueprint)
  made : ∀ blueprint host runner, (builder.makeRunner blueprint host).result = .ok runner →
    runner.Obeys law

structure Builder.CollaboratorsObey (law : HostLaw) (builder : Builder) : Prop
    extends builder.RunnersObey law where
  deploy : ∀ request, law.holds (builder.deployer request)

variable {law : HostLaw}

theorem wrap_daemon_lawful {α : Type} {wrap : Failure → Failure} {action : HostAction Failure α}
    (holds : law.holds action) : law.holds (Provision.wrapDaemon wrap action) :=
  law.mapFailure holds

theorem ensure_network_lawful (lists : ∀ filters, law.holds (Daemon.listNetworks filters))
    (creates : ∀ name driver labels, law.holds (Daemon.createNetwork name driver labels))
    (scope blueprint : String) : law.holds (Provision.ensureNetwork scope blueprint) := by
  refine law.bind (wrap_daemon_lawful (lists _)) fun existing => ?_
  cases existing with
  | nil =>
      refine law.bind (wrap_daemon_lawful (creates _ _ _)) fun reply => ?_
      have finish : law.holds (do
          note .info .network
            ("[Network] Created: " ++ networkName scope blueprint ++ " (" ++ shortId reply.id ++ ")")
          return networkName scope blueprint : HostAction Failure String) :=
        law.bind (law.note _ _ _) fun _ => law.pure _
      dsimp only
      split
      · split
        · exact law.bind (law.fail _) fun _ => law.bind (law.note _ _ _) fun _ =>
            law.bind (law.fail _) fun _ => finish
        · exact law.bind (law.note _ _ _) fun _ => finish
      · split
        · exact law.bind (law.fail _) fun _ => finish
        · exact finish
  | cons network others =>
      dsimp only
      split
      · exact law.bind (law.note _ _ _) fun _ => law.pure _
      · exact law.pure _

theorem HostLaw.AdmitsNetworks.provides (networks : law.AdmitsNetworks)
    (scope blueprint : String) : law.holds (Provision.ensureNetwork scope blueprint) :=
  ensure_network_lawful networks.list networks.create scope blueprint

theorem remove_networks_lawful (removal : law.AdmitsNetworkRemoval) (scope blueprint : String) :
    law.holds (Provision.removeNetworks scope blueprint : HostAction Problem (List String)) := by
  refine law.bind (law.attempt (removal.list _)) fun listed => ?_
  cases listed with
  | error failure => exact law.bind (law.note _ _ _) fun _ => law.pure _
  | ok found =>
      exact Catalog.remove_all_lawful fun network _ =>
        Catalog.remove_network_lawful (removal.remove network.id network.name)

theorem set_up_instance_lawful {runner : Runner} (deployed : Construction)
    (runs : ∀ server url, law.holds (runner.run server url)) :
    law.holds (setUpInstance runner deployed : HostAction Problem Construction) := by
  refine law.bind (law.attempt (runs _ _)) fun ran => ?_
  cases ran with
  | ok _ => exact law.pure _
  | error failure => exact law.bind (law.note _ _ _) fun _ => law.pure _

theorem construct_instance_lawful {deployer : Deployer} {runner : Runner} {server : Instance}
    {blueprint network : String} {config : Config}
    (deploys : ∀ request, request.network = network → law.holds (deployer request))
    (runs : ∀ server url, law.holds (runner.run server url)) :
    law.holds (constructInstance server blueprint network config deployer runner :
      HostAction Problem Construction) := by
  refine law.bind (law.note _ _ _) fun _ => ?_
  dsimp only
  split
  · exact law.pure _
  · refine law.bind (law.attempt (deploys _ rfl)) fun deployed => ?_
    cases deployed with
    | error failure => exact law.bind (law.note _ _ _) fun _ => law.pure _
    | ok deployment =>
        exact law.bind (law.note _ _ _) fun _ => set_up_instance_lawful _ runs

theorem stop_instance_lawful {construction : Construction}
    (stopping : law.AdmitsStopping construction.container) :
    law.holds (stopInstance construction) := by
  refine law.bindGiven stopping.get fun host container given => ?_
  have own := Daemon.get_container_gives construction.container host container given
  exact law.bind (law.note _ _ _) fun _ => law.bind (stopping.stop container own) fun _ =>
    law.bind (law.note _ _ _) fun _ => law.pure _

theorem image_labels_lawful {runner : Runner} (obeys : runner.Obeys law)
    (construction : Construction) (blueprint : Blueprint) :
    law.holds (imageLabels construction blueprint runner) :=
  law.bind (obeys.credentials _) fun _ => law.bind (obeys.devices _) fun _ => law.pure _

theorem commit_all_lawful {runner : Runner} {built : List Construction}
    (stops : ∀ construction ∈ built, law.AdmitsStopping construction.container)
    (commits : ∀ container request, law.holds (Daemon.commit container request))
    (obeys : runner.Obeys law) (blueprint : Blueprint) :
    law.holds (commitAll blueprint runner built :
      HostAction Problem (List String × List Failure)) := by
  induction built with
  | nil => exact law.pure _
  | cons construction rest ih =>
      have others := ih fun other member => stops other (List.mem_cons_of_mem _ member)
      have commit : law.holds (labelAndCommit blueprint runner construction) :=
        law.bind (image_labels_lawful obeys construction blueprint) fun _ =>
          law.bind (law.mapFailure <|
            stop_instance_lawful (stops construction List.mem_cons_self)) fun container =>
            law.bind (law.mapFailure (commits container _)) fun _ =>
              law.bind (law.note _ _ _) fun _ => law.pure _
      rw [commitAll]
      split
      · exact others
      · refine law.bind (law.attempt commit) fun committed => ?_
        cases committed with
        | ok id => exact law.bind others fun _ => law.pure _
        | error failure =>
            exact law.bind (law.note _ _ _) fun _ => law.bind others fun _ => law.pure _

namespace Builder

theorem release_lawful {construction : Construction}
    (reclaims : law.AdmitsReclaimingOf construction.container) :
    law.holds (release construction : HostAction Problem Unit) :=
  law.bind (Catalog.kill_container_lawful reclaims.get reclaims.kill) fun _ =>
    law.bind (Catalog.remove_container_lawful reclaims.get reclaims.remove) fun _ =>
      law.pure _

/-- An instance without a container is not touched when it is discarded. -/
theorem discard_lawful {construction : Construction}
    (reclaims : construction.container ≠ "" →
      law.AdmitsReclaimingOf construction.container) :
    law.holds (discard construction : HostAction Problem Unit) := by
  rw [discard]
  split
  · rename_i named
    have known : construction.container ≠ "" := by
      intro empty
      simp [empty] at named
    exact law.bind
      (Catalog.print_log_lawful (reclaims known).get (reclaims known).readLog) fun _ =>
      law.bind
        (Catalog.remove_container_lawful (reclaims known).get (reclaims known).remove) fun _ =>
        law.pure _
  · exact law.pure _

theorem release_all_lawful {built : List Construction}
    (reclaims : ∀ construction ∈ built, law.AdmitsReclaimingOf construction.container) :
    law.holds (releaseAll built : HostAction Problem Unit) := by
  induction built with
  | nil => exact law.pure _
  | cons construction rest ih =>
      have others := ih fun other member => reclaims other (List.mem_cons_of_mem _ member)
      exact law.bind (release_lawful (reclaims construction List.mem_cons_self)) fun _ => others

theorem construct_until_failure_lawful {builder : Builder} {blueprint : Blueprint}
    {network : String} {runner : Runner}
    (deploys : ∀ request, request.network = network → law.holds (builder.deployer request))
    (runs : ∀ server url, law.holds (runner.run server url)) (servers : List Instance) :
    law.holds (constructUntilFailure builder blueprint network runner servers :
      HostAction Problem Progress) := by
  induction servers with
  | nil => exact law.pure _
  | cons server rest ih =>
      refine law.bind (construct_instance_lawful deploys runs) fun construction => ?_
      split
      · exact law.pure _
      · exact law.bind ih fun _ => law.pure _

theorem advance_lawful {builder : Builder}
    (provides : ∀ scope name, law.holds (Provision.ensureNetwork scope name))
    (obeys : builder.CollaboratorsObey law) (blueprint : Blueprint) :
    law.holds (advance builder blueprint) := by
  refine law.bind (law.note _ _ _) fun _ =>
    law.bind (law.attempt (provides _ _)) fun network => ?_
  cases network with
  | error failure =>
      dsimp only
      split
      · exact law.pure _
      · exact law.fail _
  | ok network =>
      exact law.bindGiven (obeys.make blueprint) fun host runner made =>
        construct_until_failure_lawful (fun request _ => obeys.deploy request)
          (obeys.made blueprint host runner made).run blueprint.instances

theorem construct_until_failure_runner (builder : Builder) (blueprint : Blueprint)
    (network : String) (runner : Runner) (servers : List Instance) :
    Gives (fun progress => ∀ used, progress.ending = .complete used → used = runner)
      (constructUntilFailure builder blueprint network runner servers :
        HostAction Problem Progress) := by
  induction servers with
  | nil =>
      refine gives_pure fun used same => ?_
      cases same
      rfl
  | cons server rest ih =>
      refine gives_bind fun construction => ?_
      split
      · exact gives_pure nofun
      · exact gives_bind_of ih fun progress known => gives_pure known

/-- The runner that instances are committed with obeys what all runners that are made obey. -/
theorem advance_runner_obeys {builder : Builder} (obeys : builder.RunnersObey law)
    (blueprint : Blueprint) :
    Gives (fun progress => ∀ runner, progress.ending = .complete runner → runner.Obeys law)
      (advance builder blueprint) := by
  refine gives_bind fun _ => gives_bind fun network => ?_
  cases network with
  | error failure =>
      dsimp only
      split
      · exact gives_pure nofun
      · exact gives_fail failure
  | ok network =>
      have made : Gives (Runner.Obeys law) (builder.makeRunner blueprint) := obeys.made blueprint
      refine gives_bind_of made fun runner runnerObeys => ?_
      intro host progress given used complete
      have same := construct_until_failure_runner _ _ _ _ _ host progress given used complete
      exact same ▸ runnerObeys

theorem settle_lawful {progress : Progress}
    (stops : ∀ construction ∈ progress.built, law.AdmitsStopping construction.container)
    (commits : ∀ container request, law.holds (Daemon.commit container request))
    (reclaims : ∀ construction failure, progress.ending = .stopped construction failure →
      construction.container ≠ "" → law.AdmitsReclaimingOf construction.container)
    (blueprint : Blueprint)
    (obeys : ∀ runner, progress.ending = .complete runner → runner.Obeys law) :
    law.holds (settle blueprint progress : HostAction Problem (List Failure)) := by
  rw [settle]
  cases ending : progress.ending with
  | refused failure => exact law.pure _
  | stopped construction failure =>
      exact law.bind (discard_lawful (reclaims construction failure ending)) fun _ => law.pure _
  | complete runner =>
      exact law.bind (commit_all_lawful stops commits (obeys runner ending) blueprint) fun _ =>
        law.pure _

theorem note_failures_lawful (failures : List Failure) :
    law.holds (noteFailures failures : HostAction Problem Unit) := by
  induction failures with
  | nil => exact law.pure _
  | cons failure rest ih => exact law.bind (law.note _ _ _) fun _ => ih

theorem await_images_lawful (waits : law.AdmitsWaiting) (builder : Builder)
    (blueprint : Blueprint) : law.holds (awaitImages builder blueprint) :=
  law.mapFailure (wait_for_lawful (waits.list _) (law.look _) waits.sleep _ _ _)

theorem conclude_lawful (waits : law.AdmitsWaiting) (builder : Builder) (blueprint : Blueprint)
    (settled : Except Failure (List Failure)) : law.holds (conclude builder blueprint settled) := by
  refine law.bind (law.of_except _) fun failures => ?_
  have awaits : law.holds ((awaitImages builder blueprint).mapFailure BuildFailure.single) :=
    law.mapFailure (await_images_lawful waits builder blueprint)
  split
  · exact law.bind (note_failures_lawful failures) fun _ => law.bind (law.fail _) fun _ => awaits
  · exact awaits

theorem report_lawful (blueprint : Blueprint) (concluded : Except BuildFailure (List Image)) :
    law.holds (report blueprint concluded) := by
  refine law.bind (law.of_except _) fun images => ?_
  dsimp only
  split
  · exact law.bind (law.fail _) fun _ => law.bind (law.note _ _ _) fun _ => law.pure _
  · exact law.bind (law.note _ _ _) fun _ => law.pure _

section

variable {builder : Builder}
  (provides : ∀ scope name, law.holds (Provision.ensureNetwork scope name))
  (commits : law.AdmitsCommits) (reclaims : law.AdmitsReclaiming)
  (obeys : builder.CollaboratorsObey law)

include provides commits reclaims obeys

theorem prepare_lawful (blueprint : Blueprint) : law.holds (prepare builder blueprint) := by
  refine law.bindGiven (advance_lawful provides obeys blueprint)
    fun host progress advanced => ?_
  have runners := advance_runner_obeys obeys.toRunnersObey blueprint host progress advanced
  exact law.bind (settle_lawful (fun _ _ => commits.stopping _) commits.commit
    (fun _ _ _ _ => reclaims.of _) blueprint runners) fun _ => law.pure _

theorem construct_all_lawful (blueprint : Blueprint) :
    law.holds (constructAll builder blueprint) := by
  rw [construct_all_eq]
  exact law.bind (prepare_lawful provides commits reclaims obeys blueprint) fun _ =>
    law.bind (release_all_lawful fun _ _ => reclaims.of _) fun _ => law.pure _

end

theorem construct_lawful {builder : Builder} {blueprint : Blueprint}
    (constructs : law.holds (constructAll builder blueprint)) (waits : law.AdmitsWaiting)
    (removes : law.holds (Provision.removeNetworks builder.scope blueprint.name.text :
      HostAction BuildFailure (List String))) :
    law.holds (construct builder blueprint) := by
  have builds : law.holds (build builder blueprint) :=
    law.bind (law.mapFailure constructs) fun failures =>
      conclude_lawful waits builder blueprint (.ok failures)
  exact law.bind (law.attempt builds) fun built => law.bind removes fun _ =>
    report_lawful blueprint built

theorem construct_if_missing_lawful {builder : Builder} {blueprint : Blueprint}
    (lists : law.holds (Catalog.listImages (builder.queryFor blueprint)))
    (constructs : law.holds (construct builder blueprint)) :
    law.holds (constructIfMissing builder blueprint) := by
  refine law.bind (law.mapFailure lists) fun images => ?_
  have builds : law.holds (do
      let _ ← construct builder blueprint
      return true : HostAction BuildFailure Bool) := law.bind constructs fun _ => law.pure _
  split
  · exact law.bind (law.note _ _ _) fun _ => law.pure _
  · exact builds

end Builder

/-- A call that scripted runners record. -/
def Call.isScripted : Call → Bool
  | .makeRunner _ | .run .. | .credentials _ | .devices _ => true
  | _ => false

/-- A law that admits the calls that they record holds of scripted runners. -/
theorem RunnerScript.runners_obey {builder : Builder}
    (performs : ∀ call, call.isScripted = true → law.holds (perform call))
    (script : RunnerScript) (scripted : builder.makeRunner = script.make) :
    builder.RunnersObey law := by
  have meets {call : Call} (recorded : call.isScripted = true)
      (failures : List (String × Failure)) (server : String) :
      law.holds (meet call failures server) := by
    refine law.bind (performs call recorded) fun _ => ?_
    split
    · exact law.fail _
    · exact law.pure _
  have obeys : script.runner.Obeys law :=
    ⟨fun _ _ => meets rfl _ _, fun _ => law.bind (meets rfl _ _) fun _ => law.pure _,
      fun _ => law.bind (meets rfl _ _) fun _ => law.pure _⟩
  have made (blueprint : Blueprint) : Gives (Runner.Obeys law) (script.make blueprint) := by
    refine gives_bind fun _ => ?_
    split
    · exact gives_fail _
    · exact gives_pure obeys
  refine ⟨fun blueprint => ?_, fun blueprint => ?_⟩
  · rw [scripted]
    refine law.bind (performs _ rfl) fun _ => ?_
    split
    · exact law.fail _
    · exact law.pure _
  · rw [scripted]
    exact made blueprint

/-- A script in which nothing fails and nothing is captured. -/
def RunnerScript.quiet : RunnerScript := ⟨none, [], [], [], [], []⟩

/-- A blueprint of two servers without steps. -/
def Blueprint.pair : Blueprint where
  name := ⟨"bp", by decide⟩
  instances := [⟨⟨"hs1", by decide⟩, none, [], []⟩, ⟨⟨"hs2", by decide⟩, none, [], []⟩]
  keepCredentialsFor := []
  nonempty := by simp
  distinct := by decide

end FixtureImages
