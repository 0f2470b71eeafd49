import FixtureImages.Proofs.Daemon.Sparing
import FixtureImages.Proofs.Daemon.Sweep

/-!
# What a cleaning does, whatever fails

A cleaning is three sweeps, each on the host that the one before it left. Whatever calls fail, it
returns; what disappears is what it reports; and what is still there although it should be gone was
hidden by a failed listing, or could not be removed itself.

An image that was just committed may not be listed yet. The images that a cleaning answers for are
those that can be listed at its time.
-/

namespace FixtureImages

set_option autoImplicit false

open Action

variable {Problem : Type}

/-- All that belongs to a namespace is found by the query for it. -/
theorem Query.accepts_of_owned {scope : String} {labels : Option Labels}
    (owned : OwnedBy scope labels) : (ofScope scope).accepts labels = true := by
  obtain ⟨managed, inside⟩ := owned
  rw [accepts_iff]
  intro key value asked
  simp only [ofScope, Query.labels, writeSome, if_true, Table.get?_insert] at asked
  split at asked
  · rename_i same
    cases asked
    exact same ▸ inside
  · split at asked
    · rename_i same
      cases asked
      exact same ▸ managed
    · cases asked

/-! ## What a sweep accounts for -/

namespace Sweep

variable {α : Type}

/-- How a sweep that starts on one host accounts for all resources of a kind, between the host
before a cleaning and the one after it. -/
structure Accounts (sweep : Sweep α) (kind : Host → List α) (idOf : α → String)
    (wanted : α → Prop) (start before after : Host) (reported : List String) : Prop where
  listed : (sweep.listed start).Sublist (kind before)
  visited : (sweep.visits start).map Prod.fst = (sweep.listed start).filter sweep.tries
  gone : (sweep.gone start).Sublist (sweep.listed start)
  reported : reported = (sweep.gone start).map sweep.name
  disappeared : kind after =
    (kind before).filter fun item => !((sweep.gone start).map idOf).contains (idOf item)
  raised : ∀ item ∈ kind after, wanted item →
    (∃ failure, (sweep.list start).result = .error failure) ∨
      ∃ moment failure, (item, moment) ∈ sweep.visits start ∧
        (sweep.removal item moment).result = .error failure

theorem accounts_of_takes {sweep : Sweep α} {kind : Host → List α} {idOf : α → String}
    {wanted : α → Prop} {start before after : Host} {shown : α → Bool}
    (lists : (Frame.ofView kind).kept.holds sweep.list)
    (takes : ∀ item, Takes kind idOf (idOf item) (sweep.removal item))
    (earlier : kind start = kind before) (later : kind after = kind (sweep.left start))
    (shows : ∀ items, (sweep.list start).result = .ok items → items = (kind start).filter shown)
    (covers : ∀ item, wanted item → shown item = true ∧ sweep.tries item = true) :
    sweep.Accounts kind idOf wanted start before after ((sweep.gone start).map sweep.name) := by
  have disappeared : kind after =
      (kind before).filter fun item => !((sweep.gone start).map idOf).contains (idOf item) := by
    rw [later, left_takes lists takes, earlier]
  refine ⟨?_, visits_items start, gone_sublist start, rfl, disappeared, fun item there asked => ?_⟩
  · rw [listed, ← earlier]
    cases outcome : (sweep.list start).result with
    | error failure => exact List.nil_sublist _
    | ok items =>
        rw [shows items outcome]
        exact List.filter_sublist
  · rw [disappeared, List.mem_filter] at there
    obtain ⟨present, unreported⟩ := there
    cases outcome : (sweep.list start).result with
    | error failure => exact .inl ⟨failure, rfl⟩
    | ok items =>
        have found : item ∈ sweep.listed start := by
          rw [listed, outcome, shows items outcome, earlier]
          exact List.mem_filter.mpr ⟨present, (covers item asked).1⟩
        exact .inr (removal_raised (by simpa using unreported) found (covers item asked).2)

end Sweep

/-! ## The three sweeps -/

namespace Catalog

variable {query : Query} {host : Host}

theorem list_containers_shows {containers : List Container}
    (given : (listContainers query host).result = .ok containers) :
    containers = host.containers.filter fun container =>
      container.always || query.accepts container.labels := by
  obtain ⟨_, _, later⟩ := ok_of_bind given
  cases later
  simp only [Bool.true_or, Bool.true_and, Query.meets_filters_eq_accepts]
  rfl

theorem list_networks_shows {networks : List Network}
    (given : (listNetworks query host).result = .ok networks) :
    networks = host.networks.filter fun network =>
      network.always || query.accepts network.labels := by
  obtain ⟨_, _, later⟩ := ok_of_bind given
  cases later
  simp only [Query.meets_filters_eq_accepts]
  rfl

theorem list_images_shows {images : List Image}
    (given : (listImages query host).result = .ok images) :
    images = host.images.filter fun image =>
      image.visibleAt ≤ host.clock && (image.always || query.accepts image.labels) := by
  obtain ⟨_, _, later⟩ := ok_of_bind given
  cases later
  simp only [Query.meets_filters_eq_accepts]
  rfl

end Catalog

namespace Cleanup

def containerSweep (scope : String) : Sweep Container where
  list := Catalog.listContainers (.ofScope scope)
  tries _ := true
  removal container := Daemon.reclaim container.id
  name := Container.id

def networkSweep (scope : String) : Sweep Network where
  list := Catalog.listNetworks (.ofScope scope)
  tries _ := true
  removal network := Daemon.removeNetwork network.id network.name
  name := Network.name

/-- Foreign images, and those of blueprints that are to be kept, are listed but not tried. -/
def imageSweep (scope : String) (keep : List String) : Sweep Image where
  list := Catalog.listImages (.ofScope scope)
  tries image := isLocalImage image.tags && !keep.contains (blueprintOf image)
  removal image := Daemon.removeImage image.id true
  name := Image.id

variable (scope : String) (keep : List String)

section

variable (Problem)

theorem remove_containers_performs :
    (containerSweep scope).Performs (removeContainers scope : HostAction Problem _) :=
  Sweep.performs_of_remove_all (containerSweep scope) _
    (fun container _ => Catalog.remove_container_tries container.id _) nofun
    (fun _ _ => ⟨_, rfl, rfl⟩) fun _ => rfl

theorem remove_networks_performs :
    (networkSweep scope).Performs (removeNetworks scope : HostAction Problem _) :=
  Sweep.performs_of_remove_all (networkSweep scope) _
    (fun network _ => Catalog.remove_network_tries network.id network.name) nofun
    (fun _ _ => ⟨_, rfl, rfl⟩) fun _ => rfl

theorem remove_images_performs :
    (imageSweep scope keep).Performs (removeImages scope keep : HostAction Problem _) := by
  refine Sweep.performs_of_remove_all (imageSweep scope keep) (removeUnlessKept keep) ?_ ?_
    (fun _ _ => ⟨_, rfl, rfl⟩) fun _ => rfl
  · intro image tried
    simp only [imageSweep, Bool.and_eq_true, Bool.not_eq_true'] at tried
    simp only [removeUnlessKept, tried, Bool.not_true, Bool.false_eq_true, if_false]
    exact Catalog.remove_image_tries image.id
  · intro image untried
    simp only [imageSweep, Bool.and_eq_false_iff, Bool.not_eq_false'] at untried
    rw [removeUnlessKept]
    split
    · exact ⟨fun _ => rfl, fun _ => rfl, fun _ => rfl⟩
    · rename_i tagged
      have kept : keep.contains (blueprintOf image) = true :=
        untried.resolve_left (by simpa using tagged)
      simp only [kept, if_true]
      exact ⟨fun _ => rfl, fun _ => rfl, fun _ => rfl⟩

end

/-! ## The whole cleaning -/

/-- The host on which the network sweep of a cleaning starts. -/
def afterContainers (host : Host) : Host := (containerSweep scope).left host

/-- The host on which the image sweep of a cleaning starts. -/
def afterNetworks (host : Host) : Host := (networkSweep scope).left (afterContainers scope host)

def afterImages (host : Host) : Host := (imageSweep scope keep).left (afterNetworks scope host)

/-- The exact effect of a cleaning on a host, when it is to remove all containers and networks of a
namespace and the wanted images: all three sweeps are made from beginning to end, each accounts for
its kind, and no other calls are made. -/
structure Exact (wanted : Image → Prop) (host : Host) (removed : Removed) (after : Host)
    (made : List Call) : Prop where
  containers : (containerSweep scope).Accounts Host.containers Container.id
    (fun container => OwnedBy scope container.labels) host host after removed.containers
  networks : (networkSweep scope).Accounts Host.networks Network.id
    (fun network => OwnedBy scope network.labels) (afterContainers scope host) host after
      removed.networks
  images : (imageSweep scope keep).Accounts Host.images Image.id wanted
    (afterNetworks scope host) host after removed.images
  calls : made = (containerSweep scope).calls host ++
    (networkSweep scope).calls (afterContainers scope host) ++
      (imageSweep scope keep).calls (afterNetworks scope host)

section

variable {View : Type} (view : Host → View)
  (performs : ∀ call host, view (perform call host).state = view host)

include performs

theorem container_sweep_keeps
    (drops : ∀ id host, view (Host.dropContainer id host) = view host) (host : Host) :
    view (afterContainers scope host) = view host := by
  have lawful : ∀ call, (HostLaw.keeping (.ofView view)).holds (perform call) := performs
  have lists : (HostLaw.keeping (.ofView view)).holds (containerSweep scope).list :=
    Daemon.list_containers_lawful (lawful _)
  refine Sweep.left_keeps lists (fun container => ?_) host
  exact Daemon.reclaim_lawful (Daemon.get_container_lawful (lawful _)) fun _ =>
    Daemon.remove_container_lawful (lawful _) (drops _)

theorem network_sweep_keeps
    (drops : ∀ id host, view (Host.dropNetwork id host) = view host) (host : Host) :
    view (afterNetworks scope host) = view (afterContainers scope host) := by
  have lawful : ∀ call, (HostLaw.keeping (.ofView view)).holds (perform call) := performs
  have lists : (HostLaw.keeping (.ofView view)).holds (networkSweep scope).list :=
    Daemon.list_networks_lawful (lawful _)
  exact Sweep.left_keeps lists
    (fun network => Daemon.remove_network_lawful (lawful _) (drops network.id)) _

theorem image_sweep_keeps
    (drops : ∀ id host, view (Host.dropImage id host) = view host) (host : Host) :
    view (afterImages scope keep host) = view (afterNetworks scope host) := by
  have lawful : ∀ call, (HostLaw.keeping (.ofView view)).holds (perform call) := performs
  have lists : (HostLaw.keeping (.ofView view)).holds (imageSweep scope keep).list :=
    Daemon.list_images_lawful (lawful _)
  exact Sweep.left_keeps lists
    (fun image => Daemon.remove_image_lawful (lawful _) (drops image.id)) _

end

section

variable {scope keep} {start before after : Host}

theorem container_sweep_accounts (earlier : start.containers = before.containers)
    (later : after.containers = ((containerSweep scope).left start).containers) :
    (containerSweep scope).Accounts Host.containers Container.id
      (fun container => OwnedBy scope container.labels) start before after
        (((containerSweep scope).gone start).map Container.id) := by
  have lists : (HostLaw.keeping (.ofView Host.containers)).holds (containerSweep scope).list :=
    Daemon.list_containers_lawful fun _ => rfl
  refine Sweep.accounts_of_takes lists (fun container => Daemon.reclaim_takes container.id) earlier
    later (fun _ => Catalog.list_containers_shows) fun container owned => ?_
  simp [Query.accepts_of_owned owned, containerSweep]

theorem network_sweep_accounts (earlier : start.networks = before.networks)
    (later : after.networks = ((networkSweep scope).left start).networks) :
    (networkSweep scope).Accounts Host.networks Network.id
      (fun network => OwnedBy scope network.labels) start before after
        (((networkSweep scope).gone start).map Network.name) := by
  have lists : (HostLaw.keeping (.ofView Host.networks)).holds (networkSweep scope).list :=
    Daemon.list_networks_lawful fun _ => rfl
  refine Sweep.accounts_of_takes lists
    (fun network => Daemon.remove_network_takes network.id network.name) earlier later
    (fun _ => Catalog.list_networks_shows) fun network owned => ?_
  simp [Query.accepts_of_owned owned, networkSweep]

theorem image_sweep_accounts (earlier : start.images = before.images)
    (later : after.images = ((imageSweep scope keep).left start).images) :
    (imageSweep scope keep).Accounts Host.images Image.id
      (fun image => Disposable scope keep image ∧ image.visibleAt ≤ start.clock) start before after
        (((imageSweep scope keep).gone start).map Image.id) := by
  have lists : (HostLaw.keeping (.ofView Host.images)).holds (imageSweep scope keep).list :=
    Daemon.list_images_lawful fun _ => rfl
  refine Sweep.accounts_of_takes lists (fun image => Daemon.remove_image_takes image.id true)
    earlier later (fun _ => Catalog.list_images_shows) fun image asked => ?_
  obtain ⟨disposable, visible⟩ := asked
  have tagged : isLocalImage image.tags = true := List.all_eq_true.mpr disposable.tagged
  simp [visible, Query.accepts_of_owned disposable.owned, imageSweep, tagged, disposable.unkept]

end

variable (Problem) in
theorem run_apply (host : Host) :
    let outcome := (run scope keep : HostAction Problem Removed) host
    outcome.result = .ok
        ⟨((containerSweep scope).gone host).map Container.id,
          ((networkSweep scope).gone (afterContainers scope host)).map Network.name,
          ((imageSweep scope keep).gone (afterNetworks scope host)).map Image.id⟩ ∧
      outcome.state = afterImages scope keep host ∧
      callsOf outcome.trace = (containerSweep scope).calls host ++
        (networkSweep scope).calls (afterContainers scope host) ++
          (imageSweep scope keep).calls (afterNetworks scope host) := by
  have containers := remove_containers_performs Problem scope
  have networks := remove_networks_performs Problem scope
  have images := remove_images_performs Problem scope keep
  simp only [run, bind_of_ok (containers.result _), bind_of_ok (networks.result _),
    bind_of_ok (images.result _), containers.state, networks.state, images.state,
    calls_of_append, containers.calls, networks.calls, images.calls, note_bind_apply, pure_apply]
  exact ⟨rfl, rfl, by simp [afterNetworks, afterContainers]⟩

/-- A cleaning always returns, and its effect is exact for all images that can be listed. -/
theorem run_exact (host : Host) :
    let outcome := (run scope keep : HostAction Problem Removed) host
    ∃ removed, outcome.result = .ok removed ∧
      Exact scope keep (fun image => Disposable scope keep image ∧ image.visibleAt ≤ host.clock)
        host removed outcome.state (callsOf outcome.trace) := by
  intro outcome
  obtain ⟨result, state, made⟩ := run_apply Problem scope keep host
  have time : (afterNetworks scope host).clock = host.clock := by
    rw [network_sweep_keeps _ Host.clock, container_sweep_keeps _ Host.clock]
    all_goals intros; rfl
  refine ⟨_, result, ?_, ?_, ?_, made⟩
  · refine container_sweep_accounts rfl ?_
    rw [state, image_sweep_keeps _ _ Host.containers, network_sweep_keeps _ Host.containers]
    · rfl
    all_goals intros; rfl
  · refine network_sweep_accounts ?_ ?_
    · exact container_sweep_keeps _ Host.networks (fun _ _ => rfl) (fun _ _ => rfl) host
    · rw [state, image_sweep_keeps _ _ Host.networks]
      · rfl
      all_goals intros; rfl
  · dsimp only
    rw [← time]
    refine image_sweep_accounts ?_ (congrArg Host.images state)
    rw [network_sweep_keeps _ Host.images, container_sweep_keeps _ Host.images]
    all_goals intros; rfl

/-- An image of a namespace that was just committed. -/
def committedImage : Image :=
  ⟨imageId 1, some [imageName "pkg" "bp" "hs1"],
    some (resourceLabels "pkg" (some "bp") (some "hs1")), 150000, false⟩

/-- A host on which that image is not listed yet. -/
def laggingHost : Host := { Host.fresh ∅ with images := [committedImage], nextId := 2 }

theorem committed_image_disposable : Disposable "pkg" [] committedImage where
  owned := by constructor <;> decide
  tagged := by decide
  unkept := List.not_mem_nil

/-- There a cleaning leaves and does not report it, although no call fails: its effect is not exact
for all images of the namespace. -/
theorem run_overlooks_unlisted :
    let outcome := (run "pkg" [] : HostAction Failure Removed) laggingHost
    ¬∃ removed, outcome.result = .ok removed ∧
      Exact "pkg" [] (Disposable "pkg" []) laggingHost removed outcome.state
        (callsOf outcome.trace) := by
  intro outcome
  rintro ⟨removed, _, effect⟩
  have there : committedImage ∈
      ((run "pkg" [] : HostAction Failure Removed) laggingHost).state.images := by
    decide +kernel
  obtain ⟨failure, refused⟩ | ⟨moment, failure, visited, _⟩ :=
    effect.images.raised committedImage there committed_image_disposable
  · have listing : ((imageSweep "pkg" []).list (afterNetworks "pkg" laggingHost)).result =
        .ok [] := by decide +kernel
    rw [listing] at refused
    cases refused
  · have none : (imageSweep "pkg" []).visits (afterNetworks "pkg" laggingHost) = [] := by rfl
    rw [none] at visited
    cases visited

end Cleanup

end FixtureImages
