import FixtureImages.Proofs.Build.Release

/-!
# Undisturbed removals

The calls by which a build removes what it made: those that discard an instance that failed, those
that release the others, and those that remove networks. On a host without failures to come none of
them is disturbed.
-/

namespace FixtureImages

set_option autoImplicit false

open Action

/-! ## Hosts without failures to come -/

/-- No failures are to come if none were. -/
def faultless : Frame Host where
  holds before after := before.faults = [] → after.faults = []
  refl _ quiet := quiet
  trans earlier later quiet := later (earlier quiet)

theorem undisturbed_without_faults (calls : List Call) : Undisturbed [] calls := by
  induction calls with
  | nil => trivial
  | cons call rest ih => exact ⟨rfl, ih⟩

theorem faultless_meets (call : Call) : faultless.Meets call := by
  intro host quiet
  simp [quiet, meetFaults]

private theorem faultless_provides : (HostLaw.keeping faultless).AdmitsNetworks where
  list _ := Daemon.list_networks_lawful (faultless_meets _)
  create _ _ _ := Daemon.create_network_lawful (faultless_meets _) fun _ quiet => quiet
  remove _ _ := Daemon.remove_network_lawful (faultless_meets _) fun _ quiet => quiet

private theorem faultless_commits : (HostLaw.keeping faultless).AdmitsCommits where
  get _ := Daemon.get_container_lawful (faultless_meets _)
  stop _ := Daemon.stop_lawful (faultless_meets _) fun _ quiet => quiet
  commit _ _ := Daemon.commit_lawful (faultless_meets _) fun _ quiet => quiet

private theorem faultless_reclaims : (HostLaw.keeping faultless).AdmitsReclaiming where
  get _ := Daemon.get_container_lawful (faultless_meets _)
  kill _ := Daemon.kill_lawful (faultless_meets _) fun _ quiet => quiet
  readLog _ := Daemon.read_log_lawful (faultless_meets _)
  remove _ := Daemon.remove_container_lawful (faultless_meets _) fun _ quiet => quiet

private theorem faultless_waits : (HostLaw.keeping faultless).AdmitsWaiting where
  list _ := Daemon.list_images_lawful (faultless_meets _)
  sleep _ := Daemon.sleep_lawful (fun _ quiet => quiet) fun _ quiet => quiet

namespace Builder

/-! ## The removals of a build -/

/-- The removals by which instances are released meet no failure. The calls that kill may. -/
def ReleasesUndisturbed : List Construction → Host → Prop
  | [], _ => True
  | construction :: rest, host =>
      let killed : Outcome Host Event Failure Bool :=
        Catalog.killContainer construction.container construction.context host
      let freed : Outcome Host Event Failure Unit := release construction host
      Undisturbed killed.state.faults (removalCalls construction.container killed.state) ∧
        ReleasesUndisturbed rest freed.state

/-- The removal of an instance that failed, if it has a container, meets no failure. Reading its log
may. -/
def DiscardUndisturbed (construction : Construction) (host : Host) : Prop :=
  let shown : Outcome Host Event Failure Unit :=
    Catalog.printLog construction.container construction.context host
  construction.container ≠ "" →
    Undisturbed shown.state.faults (removalCalls construction.container shown.state)

/-- None of the calls by which a build removes containers and networks meets a failure. -/
structure RemovalsUndisturbed (builder : Builder) (blueprint : Blueprint) (host : Host) : Prop where
  discard : ∀ progress construction failure,
    (advance builder blueprint host).result = .ok progress →
    progress.ending = .stopped construction failure →
    DiscardUndisturbed construction (advance builder blueprint host).state
  release : ReleasesUndisturbed (builtOn builder blueprint host).reverse
    (prepare builder blueprint host).state
  sweep : Undisturbed (concluded builder blueprint host).state.faults
    (sweepCalls (builder.queryFor blueprint) (concluded builder blueprint host).state)

variable {builder : Builder} {blueprint : Blueprint} {host : Host}

theorem releases_undisturbed_without_faults (built : List Construction) (start : Host)
    (quiet : start.faults = []) : ReleasesUndisturbed built start := by
  induction built generalizing start with
  | nil => trivial
  | cons construction rest ih =>
      have killed : (HostLaw.keeping faultless).holds
          (Catalog.killContainer construction.container construction.context :
            HostAction Failure Bool) :=
        Catalog.kill_container_lawful (faultless_reclaims.get _) (faultless_reclaims.of _).kill
      have freed : (HostLaw.keeping faultless).holds
          (release construction : HostAction Failure Unit) :=
        release_lawful (faultless_reclaims.of _)
      refine ⟨?_, ih _ (freed start quiet)⟩
      rw [killed start quiet]
      exact undisturbed_without_faults _

/-- On a host without failures to come no removal is disturbed, unless collaborators make failures.
-/
theorem removals_undisturbed_without_faults
    (obeys : builder.CollaboratorsObey (HostLaw.keeping faultless)) (blueprint : Blueprint)
    (quiet : host.faults = []) : RemovalsUndisturbed builder blueprint host := by
  have advanced : (advance builder blueprint host).state.faults = [] :=
    advance_lawful faultless_provides.provides obeys blueprint host quiet
  have prepared : (prepare builder blueprint host).state.faults = [] :=
    prepare_lawful faultless_provides.provides faultless_commits faultless_reclaims obeys blueprint
      host quiet
  have freed : (HostLaw.keeping faultless).holds
      (releaseAll (builtOn builder blueprint host).reverse : HostAction Failure Unit) :=
    release_all_lawful fun _ _ => faultless_reclaims.of _
  have waited := conclude_lawful faultless_waits builder blueprint
    (settledOn builder blueprint host) _ (freed _ prepared)
  refine ⟨fun progress construction failure _ _ => ?_,
    releases_undisturbed_without_faults _ _ prepared, ?_⟩
  · have shown : (HostLaw.keeping faultless).holds
        (Catalog.printLog construction.container construction.context :
          HostAction Failure Unit) :=
      Catalog.print_log_lawful (faultless_reclaims.get _) faultless_reclaims.readLog
    intro _
    rw [shown _ advanced]
    exact undisturbed_without_faults _
  · have rules : (concluded builder blueprint host).state.faults = [] := waited
    rw [rules]
    exact undisturbed_without_faults _

end Builder

end FixtureImages
