import FixtureImages.Proofs.Cleanup.Effect
import FixtureImages.Proofs.Daemon.Removal

/-!
# Cleaning twice

Where no call fails, a sweep leaves each item that it comes to settled: gone or, in the case of a
network, held by a running container. Settled items are left alone by another sweep. So a second
cleaning finds nothing to remove, unless an image came to be listed in between.
-/

namespace FixtureImages

set_option autoImplicit false

open Action

variable {Problem α : Type}

theorem Daemon.perform_faultless {host : Host} (faultless : host.faults = []) (call : Call) :
    perform call host = ⟨.ok (), host, [.call call]⟩ := by
  obtain ⟨faults⟩ := host
  cases faultless
  rfl

namespace Sweep

/-! ## Settled items -/

/-- What a removal comes to on hosts on which no call fails: it settles its item, leaves settled
what is settled, and neither removes nor changes anything for a settled item. -/
structure Settles (sweep : Sweep α) (settled : α → Host → Prop) : Prop where
  faultless : ∀ item host, host.faults = [] → (sweep.removal item host).state.faults = []
  settles : ∀ item host, host.faults = [] → settled item (sweep.removal item host).state
  stays : ∀ item other host, host.faults = [] → settled other host →
    settled other (sweep.removal item host).state
  rests : ∀ item host, host.faults = [] → settled item host →
    (sweep.removal item host).result.isOk = false ∧ (sweep.removal item host).state = host

variable {sweep : Sweep α} {settled : α → Host → Prop}

theorem Settles.left_from_stays (settles : sweep.Settles settled) {items : List α} {other : α}
    {host : Host} (faultless : host.faults = []) (known : settled other host) :
    settled other (sweep.leftFrom items host) := by
  induction items generalizing host with
  | nil => exact known
  | cons item rest ih =>
      exact ih (settles.faultless item host faultless) (settles.stays item other host faultless known)

theorem Settles.left_from_settled (settles : sweep.Settles settled) (items : List α) {host : Host}
    (faultless : host.faults = []) :
    (sweep.leftFrom items host).faults = [] ∧
      ∀ item ∈ items, settled item (sweep.leftFrom items host) := by
  induction items generalizing host with
  | nil => exact ⟨faultless, fun item member => absurd member List.not_mem_nil⟩
  | cons item rest ih =>
      have next := settles.faultless item host faultless
      obtain ⟨later, others⟩ := ih next
      refine ⟨later, fun other member => ?_⟩
      rcases List.mem_cons.mp member with rfl | further
      · rw [leftFrom]
        exact settles.left_from_stays next (settles.settles other host faultless)
      · exact others other further

theorem Settles.left_from_rests (settles : sweep.Settles settled) {items : List α} {host : Host}
    (faultless : host.faults = []) (known : ∀ item ∈ items, settled item host) :
    sweep.leftFrom items host = host ∧ sweep.goneFrom items host = [] := by
  induction items with
  | nil => exact ⟨rfl, rfl⟩
  | cons item rest ih =>
      obtain ⟨refused, same⟩ := settles.rests item host faultless (known item List.mem_cons_self)
      obtain ⟨left, gone⟩ := ih fun other member => known other (List.mem_cons_of_mem _ member)
      rw [leftFrom, gone_from_cons, refused, same]
      exact ⟨left, gone⟩

/-! ## Whole sweeps -/

/-- A listing shows some items of a kind and leaves the host as it is. -/
def Shows (sweep : Sweep α) (kind : Host → List α) (shown : Host → α → Bool) : Prop :=
  ∀ host, host.faults = [] → (sweep.list host).result = .ok ((kind host).filter (shown host)) ∧
    (sweep.list host).state = host

section

variable {kind : Host → List α} {shown : Host → α → Bool} {host : Host}
  (settles : sweep.Settles settled) (shows : sweep.Shows kind shown) (faultless : host.faults = [])

include settles shows faultless

/-- Whatever a sweep leaves of what it lists and tries is settled. -/
theorem left_settled {idOf : α → String} (lists : (Frame.ofView kind).kept.holds sweep.list)
    (takes : ∀ item, Takes kind idOf (idOf item) (sweep.removal item)) :
    (sweep.left host).faults = [] ∧
      ∀ item ∈ kind (sweep.left host), shown host item = true → sweep.tries item = true →
        settled item (sweep.left host) := by
  obtain ⟨listed, same⟩ := shows host faultless
  obtain ⟨later, others⟩ :=
    settles.left_from_settled (((kind host).filter (shown host)).filter sweep.tries) faultless
  have left : sweep.left host =
      sweep.leftFrom (((kind host).filter (shown host)).filter sweep.tries) host := by
    rw [Sweep.left, Sweep.listed, listed, same]
    rfl
  refine ⟨left ▸ later, fun item there wanted tried => ?_⟩
  rw [left_takes lists takes] at there
  rw [left]
  exact others item (List.mem_filter.mpr
    ⟨List.mem_filter.mpr ⟨(List.mem_filter.mp there).1, wanted⟩, tried⟩)

/-- A sweep that lists and tries settled items only does nothing. -/
theorem left_rests (known : ∀ item ∈ kind host, shown host item = true →
      sweep.tries item = true → settled item host) :
    sweep.left host = host ∧ sweep.gone host = [] := by
  obtain ⟨listed, same⟩ := shows host faultless
  rw [left, gone, Sweep.listed, listed, same]
  refine settles.left_from_rests faultless fun item member => ?_
  obtain ⟨member, tried⟩ := List.mem_filter.mp member
  obtain ⟨there, wanted⟩ := List.mem_filter.mp member
  exact known item there wanted tried

end

end Sweep

namespace Cleanup

/-! ## What settles the three sweeps -/

/-- No item of a kind has the identifier of this one. -/
def Absent (kind : Host → List α) (idOf : α → String) (item : α) (host : Host) : Prop :=
  ∀ other ∈ kind host, idOf other ≠ idOf item

theorem absent_iff {kind : Host → List α} {idOf : α → String} {item : α} {host : Host} :
    Absent kind idOf item host ↔ (kind host).any (fun other => idOf other == idOf item) = false := by
  simp [Absent]

theorem drop_absent {items : List α} {idOf : α → String} {id : String}
    (absent : items.any (fun other => idOf other == id) = false) :
    items.filter (fun other => idOf other != id) = items := by
  rw [List.filter_eq_self]
  intro other member
  simpa using List.any_eq_false.mp absent other member

section

variable {id name : String} {host : Host} (faultless : host.faults = [])

include faultless

theorem reclaim_faultless :
    (Daemon.reclaim id host).state = Host.dropContainer id host ∧
      (Daemon.reclaim id host).result.isOk = host.containers.any (·.id == id) := by
  simp only [Daemon.reclaim, Daemon.getContainer, bind_apply, Daemon.perform_faultless faultless, look]
  cases found : host.containers.find? (·.id == id) with
  | none =>
      have absent : host.containers.any (·.id == id) = false := by simpa using found
      rw [absent]
      refine ⟨?_, rfl⟩
      simp only [Host.dropContainer, drop_absent absent]
      rfl
  | some container =>
      have same : container.id = id := by simpa using List.find?_some found
      have present : host.containers.any (·.id == id) = true :=
        List.any_eq_true.mpr ⟨container, List.mem_of_find?_eq_some found, by simp [same]⟩
      rw [present]
      simp only [pure_apply, Daemon.removeContainer, bind_apply,
        Daemon.perform_faultless faultless, look, same, found, Bool.not_true, Bool.and_false,
        Bool.false_eq_true, if_false]
      exact ⟨rfl, rfl⟩

theorem remove_image_faultless :
    (Daemon.removeImage id true host).state = Host.dropImage id host ∧
      (Daemon.removeImage id true host).result.isOk = host.images.any (·.id == id) := by
  simp only [Daemon.removeImage, bind_apply, Daemon.perform_faultless faultless, look]
  cases present : host.images.any (·.id == id) with
  | false =>
      refine ⟨?_, rfl⟩
      simp only [Host.dropImage, drop_absent present]
      rfl
  | true => exact ⟨rfl, rfl⟩

theorem remove_network_faultless :
    (Daemon.removeNetwork id name host).state =
        (if host.hasEndpoint name then host else Host.dropNetwork id host) ∧
      (Daemon.removeNetwork id name host).result.isOk =
        (host.networks.any (·.id == id) && !host.hasEndpoint name) := by
  simp only [Daemon.removeNetwork, bind_apply, Daemon.perform_faultless faultless, look]
  cases present : host.networks.any (·.id == id) with
  | false =>
      refine ⟨?_, rfl⟩
      simp only [Host.dropNetwork, drop_absent present, ite_self]
      rfl
  | true =>
      simp only [Bool.not_true, Bool.false_eq_true, if_false, bind_apply, look]
      cases held : host.hasEndpoint name with
      | false =>
          rw [Host.hasEndpoint] at held
          simp only [held]
          exact ⟨rfl, rfl⟩
      | true =>
          rw [Host.hasEndpoint] at held
          simp only [held]
          exact ⟨rfl, rfl⟩

end

/-- A removal that drops the items with the identifier of its own settles them, when it succeeds only
if there are any. -/
theorem settles_of_drops {sweep : Sweep α} {kind : Host → List α} {idOf : α → String}
    (drop : String → Host → Host) (faults : ∀ id host, (drop id host).faults = host.faults)
    (drops : ∀ id host, kind (drop id host) = (kind host).filter (idOf · != id))
    (keeps : ∀ id host, (kind host).any (idOf · == id) = false → drop id host = host)
    (removes : ∀ item host, host.faults = [] →
      (sweep.removal item host).state = drop (idOf item) host ∧
        (sweep.removal item host).result.isOk = (kind host).any (idOf · == idOf item)) :
    sweep.Settles (Absent kind idOf) where
  faultless item host faultless := by
    rw [(removes item host faultless).1, faults, faultless]
  settles item host faultless := by
    intro other there
    rw [(removes item host faultless).1, drops] at there
    simpa using (List.mem_filter.mp there).2
  stays item other host faultless absent := by
    intro another there
    rw [(removes item host faultless).1, drops] at there
    exact absent another (List.mem_filter.mp there).1
  rests item host faultless absent := by
    obtain ⟨state, result⟩ := removes item host faultless
    rw [absent_iff] at absent
    exact ⟨result.trans absent, state.trans (keeps _ host absent)⟩

variable {scope : String} {keep : List String}

theorem container_sweep_settles :
    (containerSweep scope).Settles (Absent Host.containers Container.id) := by
  refine settles_of_drops Host.dropContainer (fun _ _ => rfl) (fun _ _ => rfl)
    (fun id host absent => ?_) fun container host faultless => reclaim_faultless faultless
  simp only [Host.dropContainer, drop_absent absent]

theorem image_sweep_settles :
    (imageSweep scope keep).Settles (Absent Host.images Image.id) := by
  refine settles_of_drops Host.dropImage (fun _ _ => rfl) (fun _ _ => rfl)
    (fun id host absent => ?_) fun image host faultless => remove_image_faultless faultless
  simp only [Host.dropImage, drop_absent absent]

/-- A network is settled when it is gone, or while a running container is attached to it. -/
theorem network_sweep_settles :
    (networkSweep scope).Settles fun network host =>
      Absent Host.networks Network.id network host ∨ host.hasEndpoint network.name = true where
  faultless network host faultless := by
    rw [networkSweep, (remove_network_faultless faultless).1]
    split <;> exact faultless
  settles network host faultless := by
    rw [networkSweep, (remove_network_faultless faultless).1]
    split
    · exact .inr ‹_›
    · refine .inl fun other there => ?_
      simpa using (List.mem_filter.mp there).2
  stays network other host faultless known := by
    rw [networkSweep, (remove_network_faultless faultless).1]
    split
    · exact known
    · exact known.imp (fun absent another there => absent another (List.mem_filter.mp there).1) id
  rests network host faultless known := by
    obtain ⟨state, result⟩ := @remove_network_faultless network.id network.name host faultless
    rw [networkSweep]
    dsimp only
    rw [state, result]
    rcases known with absent | held
    · rw [absent_iff] at absent
      simp only [absent, Bool.false_and, Host.dropNetwork, drop_absent absent, ite_self, true_and]
    · simp [held]

/-! ## What the listings show -/

/-- Whether a listing for a namespace shows what has these labels. -/
def asked (scope : String) (always : Bool) (labels : Option Labels) : Bool :=
  always || (Query.ofScope scope).accepts labels

theorem container_sweep_shows : (containerSweep scope).Shows Host.containers fun _ container =>
    asked scope container.always container.labels := by
  intro host faultless
  simp only [containerSweep, Catalog.listContainers, Daemon.listContainers, bind_apply,
    Daemon.perform_faultless faultless, look, Query.meets_filters_eq_accepts, Bool.true_or,
    Bool.true_and]
  exact ⟨rfl, trivial⟩

theorem network_sweep_shows : (networkSweep scope).Shows Host.networks fun _ network =>
    asked scope network.always network.labels := by
  intro host faultless
  simp only [networkSweep, Catalog.listNetworks, Daemon.listNetworks, bind_apply,
    Daemon.perform_faultless faultless, look, Query.meets_filters_eq_accepts]
  exact ⟨rfl, trivial⟩

theorem image_sweep_shows : (imageSweep scope keep).Shows Host.images fun host image =>
    image.visibleAt ≤ host.clock && asked scope image.always image.labels := by
  intro host faultless
  simp only [imageSweep, Catalog.listImages, Daemon.listImages, bind_apply,
    Daemon.perform_faultless faultless, look, Query.meets_filters_eq_accepts]
  exact ⟨rfl, trivial⟩

/-! ## Cleaned hosts -/

/-- There is nothing to remove for a cleaning: no container is listed, all listed networks are held,
and no image is listed that is neither foreign nor kept. -/
structure Cleaned (scope : String) (keep : List String) (host : Host) : Prop where
  containers : ∀ container ∈ host.containers, asked scope container.always container.labels = false
  networks : ∀ network ∈ host.networks, asked scope network.always network.labels = true →
    host.hasEndpoint network.name = true
  images : ∀ image ∈ host.images, image.visibleAt ≤ host.clock →
    asked scope image.always image.labels = true → (imageSweep scope keep).tries image = false

section

variable {host : Host} (faultless : host.faults = [])

include faultless

variable (Problem) in
/-- Where there is nothing to remove, a cleaning reports nothing and leaves the host as it is. -/
theorem run_of_cleaned (cleaned : Cleaned scope keep host) :
    let outcome := (run scope keep : HostAction Problem Removed) host
    outcome.result = .ok ⟨[], [], []⟩ ∧ outcome.state = host := by
  have containers : (containerSweep scope).left host = host ∧ (containerSweep scope).gone host = [] :=
    Sweep.left_rests container_sweep_settles container_sweep_shows faultless
      fun container there shown _ => by
        rw [cleaned.containers container there] at shown
        cases shown
  have networks : (networkSweep scope).left host = host ∧ (networkSweep scope).gone host = [] :=
    Sweep.left_rests network_sweep_settles network_sweep_shows faultless
      fun network there shown _ => .inr (cleaned.networks network there shown)
  have images : (imageSweep scope keep).left host = host ∧ (imageSweep scope keep).gone host = [] :=
    Sweep.left_rests image_sweep_settles image_sweep_shows faultless
      fun image there shown tried => by
        rw [Bool.and_eq_true, decide_eq_true_eq] at shown
        rw [cleaned.images image there shown.1 shown.2] at tried
        cases tried
  obtain ⟨result, state, -⟩ := run_apply Problem scope keep host
  have first : afterContainers scope host = host := containers.1
  have second : afterNetworks scope host = host := by rw [afterNetworks, first, networks.1]
  rw [first, second, containers.2, networks.2, images.2] at result
  rw [afterImages, second, images.1] at state
  exact ⟨result, state⟩

theorem after_containers_cleaned : (afterContainers scope host).faults = [] ∧
    ∀ container ∈ (afterContainers scope host).containers,
      asked scope container.always container.labels = false := by
  have lists : (HostLaw.keeping (.ofView Host.containers)).holds (containerSweep scope).list :=
    Daemon.list_containers_lawful fun _ => rfl
  obtain ⟨later, settled⟩ := Sweep.left_settled container_sweep_settles container_sweep_shows
    faultless lists fun _ => Daemon.reclaim_takes _
  refine ⟨later, fun container there => ?_⟩
  by_contra shown
  rw [Bool.not_eq_false] at shown
  exact settled container there shown rfl container there rfl

theorem after_networks_cleaned {scope : String} :
    ((networkSweep scope).left host).faults = [] ∧
      ∀ network ∈ ((networkSweep scope).left host).networks,
        asked scope network.always network.labels = true →
          ((networkSweep scope).left host).hasEndpoint network.name = true := by
  have lists : (HostLaw.keeping (.ofView Host.networks)).holds (networkSweep scope).list :=
    Daemon.list_networks_lawful fun _ => rfl
  obtain ⟨later, settled⟩ := Sweep.left_settled network_sweep_settles network_sweep_shows
    faultless lists fun _ => Daemon.remove_network_takes _ _
  refine ⟨later, fun network there shown => ?_⟩
  exact (settled network there shown rfl).resolve_left fun absent => absent network there rfl

theorem after_images_cleaned :
    ((imageSweep scope keep).left host).faults = [] ∧
      ∀ image ∈ ((imageSweep scope keep).left host).images, image.visibleAt ≤ host.clock →
        asked scope image.always image.labels = true → (imageSweep scope keep).tries image = false := by
  have lists : (HostLaw.keeping (.ofView Host.images)).holds (imageSweep scope keep).list :=
    Daemon.list_images_lawful fun _ => rfl
  obtain ⟨later, settled⟩ := Sweep.left_settled image_sweep_settles image_sweep_shows
    faultless lists fun _ => Daemon.remove_image_takes _ _
  refine ⟨later, fun image there visible shown => ?_⟩
  by_contra tried
  rw [Bool.not_eq_false] at tried
  have listed : (decide (image.visibleAt ≤ host.clock) && asked scope image.always image.labels) = true := by
    rw [shown, Bool.and_true, decide_eq_true visible]
  exact settled image there listed tried image there rfl

variable (Problem) in
/-- Where no call fails, a cleaning leaves nothing to remove. -/
theorem run_cleans :
    let outcome := (run scope keep : HostAction Problem Removed) host
    outcome.state.faults = [] ∧ Cleaned scope keep outcome.state := by
  obtain ⟨-, state, -⟩ := run_apply Problem scope keep host
  obtain ⟨first, containers⟩ := @after_containers_cleaned scope host faultless
  obtain ⟨second, networks⟩ := @after_networks_cleaned _ first scope
  obtain ⟨third, images⟩ := @after_images_cleaned scope keep _ second
  -- the later sweeps leave alone what the earlier ones were for
  have held : (afterNetworks scope host).containers = (afterContainers scope host).containers :=
    network_sweep_keeps scope Host.containers (fun _ _ => rfl) (fun _ _ => rfl) host
  have attached : (afterImages scope keep host).containers = (afterNetworks scope host).containers :=
    image_sweep_keeps scope keep Host.containers (fun _ _ => rfl) (fun _ _ => rfl) host
  have reached : (afterImages scope keep host).networks = (afterNetworks scope host).networks :=
    image_sweep_keeps scope keep Host.networks (fun _ _ => rfl) (fun _ _ => rfl) host
  have time : (afterImages scope keep host).clock = (afterNetworks scope host).clock :=
    image_sweep_keeps scope keep Host.clock (fun _ _ => rfl) (fun _ _ => rfl) host
  intro outcome
  rw [state]
  refine ⟨third, fun container there => ?_, fun network there shown => ?_, fun image there => ?_⟩
  · rw [attached, held] at there
    exact containers container there
  · rw [reached] at there
    rw [Host.hasEndpoint, attached]
    exact networks network there shown
  · rw [time]
    exact images image there

end

/-! ## Cleaning twice -/

/-- What cleaning twice comes to, where the first cleaning ended like this. -/
structure CleansOnce (scope : String) (keep : List String)
    (first : Outcome Host Event Problem Removed) : Prop where
  returns : ∃ removed, first.result = .ok removed
  /-- No container of the namespace remains. -/
  containers : ∀ container ∈ first.state.containers, ¬OwnedBy scope container.labels
  /-- A network of the namespace remains only if a running container is attached to it. -/
  networks : ∀ network ∈ first.state.networks, OwnedBy scope network.labels →
    first.state.hasEndpoint network.name = true
  /-- An image of the namespace remains only if it is foreign, kept or not listed yet. -/
  images : ∀ image ∈ first.state.images, OwnedBy scope image.labels →
    isLocalImage image.tags = false ∨ blueprintOf image ∈ keep ∨
      first.state.clock < image.visibleAt
  /-- After a pause in which no image that it asks for came to be listed, another cleaning reports
  nothing and leaves the host as it is. -/
  again : ∀ pause, (∀ image ∈ first.state.images, asked scope image.always image.labels = true →
      image.visibleAt ≤ first.state.clock + pause → image.visibleAt ≤ first.state.clock) →
    let start := { first.state with clock := first.state.clock + pause }
    let second := (run scope keep : HostAction Problem Removed) start
    second.result = .ok ⟨[], [], []⟩ ∧ second.state = start

variable (Problem) in
/-- Where no call fails, cleaning a namespace once is enough. -/
theorem run_idempotent (scope : String) (keep : List String) {host : Host}
    (faultless : host.faults = []) :
    CleansOnce scope keep ((run scope keep : HostAction Problem Removed) host) := by
  obtain ⟨result, -⟩ := run_apply Problem scope keep host
  obtain ⟨still, cleaned⟩ := @run_cleans Problem scope keep host faultless
  have owned (always : Bool) {labels : Option Labels} (owned : OwnedBy scope labels) :
      asked scope always labels = true := by
    rw [asked, Query.accepts_of_owned owned, Bool.or_true]
  constructor
  case returns => exact ⟨_, result⟩
  case containers =>
    intro container there own
    have unasked := cleaned.containers container there
    rw [owned _ own] at unasked
    cases unasked
  case networks =>
    intro network there own
    exact cleaned.networks network there (owned _ own)
  case images =>
    intro image there own
    obtain later | visible := Nat.lt_or_ge
      ((run scope keep : HostAction Problem Removed) host).state.clock image.visibleAt
    · exact .inr (.inr later)
    · have untried := cleaned.images image there visible (owned _ own)
      simp only [imageSweep, Bool.and_eq_false_iff, Bool.not_eq_false'] at untried
      exact untried.imp_right fun kept => .inl (List.contains_iff_mem.mp kept)
  case again =>
    intro pause none
    refine run_of_cleaned Problem still ⟨cleaned.containers, cleaned.networks, ?_⟩
    intro image there visible shown
    exact cleaned.images image there (none image there shown visible) shown

/-- A host with two networks of the namespace `pkg`, one of them held by a running container of
another, with a running container and four images of `pkg`: one to be removed, an untagged one of a
blueprint to keep, a foreign one, and one that is not listed yet. -/
def mixedHost : Host :=
  let labels (scope blueprint : String) : Labels :=
    resourceLabels scope (some blueprint) (some "hs1")
  let container (scope network : String) (host : Host) : Host :=
    let request : ContainerRequest :=
      { image := "img", name := containerName scope, hostname := "hs1", labels := labels scope "bp"
        environment := ∅, network, ports := [], extraHosts := ∅, detach := true }
    let made := host.addContainer none (Host.requestedContainer request)
    made.2.startContainer made.1.id
  let image (tags : Option (List String)) (blueprint : String) (visibleAt : Nat) (host : Host) :
      Host := (host.addImage tags (some (labels "pkg" blueprint)) none visibleAt false).2
  let network (name : String) (host : Host) : Host :=
    (host.addNetwork name (some (labels "pkg" "bp")) none false).2
  Host.fresh ∅ |> network "free" |> network "held" |> container "pkg" "free"
    |> container "other" "held" |> image (some [imageName "pkg" "bp" "hs1"]) "bp" 0
    |> image none "kept" 0 |> image (some ["registry/bp"]) "bp" 0 |> image none "bp" 150000

/-- What is to go is gone after the first cleaning. -/
theorem run_idempotent_of_mixed :
    mixedHost.faults = [] ∧
      CleansOnce "pkg" ["kept"] ((run "pkg" ["kept"] : HostAction Failure Removed) mixedHost) ∧
      ((run "pkg" ["kept"] : HostAction Failure Removed) mixedHost).result =
        .ok ⟨[containerId 3], ["free"], [imageId 5]⟩ :=
  ⟨rfl, run_idempotent Failure "pkg" ["kept"] rfl, by decide +kernel⟩

/-- So a cleaning may leave an image of its namespace that is neither foreign nor kept. -/
theorem cleaning_leaves_unlisted : ¬∀ (scope : String) (keep : List String) (host : Host),
    host.faults = [] →
      ∀ image ∈ ((run scope keep : HostAction Failure Removed) host).state.images,
        OwnedBy scope image.labels →
          isLocalImage image.tags = false ∨ blueprintOf image ∈ keep := by
  intro claimed
  have there : committedImage ∈
      ((run "pkg" [] : HostAction Failure Removed) laggingHost).state.images := by
    decide +kernel
  rcases claimed "pkg" [] laggingHost rfl committedImage there
    committed_image_disposable.owned with foreign | kept
  · exact absurd foreign (by decide)
  · cases kept

end Cleanup

end FixtureImages
