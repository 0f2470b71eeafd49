import FixtureImages.Proofs.Build.Operations

/-!
# One network for each blueprint

A network is made only after none was listed, under labels that the query of no other blueprint
accepts, and every other operation on networks removes some. So from a host on which each blueprint
of each namespace has one network at most, no sequence of operations leads to one on which some
blueprint has two. When a network is provided, it is there under the name that is given.
-/

namespace FixtureImages

set_option autoImplicit false

open Action

variable {Problem : Type}

namespace Host

/-- The networks of a blueprint in a namespace. -/
def networksOf (scope blueprint : String) (host : Host) : List Network :=
  host.networks.filter fun network => (Query.ofBlueprint scope blueprint).accepts network.labels

/-- A blueprint has one network at most. Listings show only what their filters ask for, and the
daemon answers with an identifier only if it made a network. -/
structure SingleNetworks (host : Host) : Prop where
  single : ∀ scope blueprint, (host.networksOf scope blueprint).length ≤ 1
  asked : ∀ network ∈ host.networks, network.always = false
  replies : ∀ reply, host.settings.networkReply = some reply → reply.id = ""

theorem filter_place_by_length {α : Type} (idOf : α → String) (keep : α → Bool) (item : α)
    (items : List α) :
    ((placeBy idOf item items).filter keep).length ≤
      (items.filter keep).length + if keep item then 1 else 0 := by
  induction items with
  | nil => cases wanted : keep item <;> simp [placeBy, wanted]
  | cons head rest ih =>
      rw [placeBy]
      split <;> cases first : keep head <;> cases wanted : keep item <;> simp_all

end Host

/-- The labels of a new network are those of one blueprint only. -/
theorem network_labels_accepted_iff {scope blueprint other name : String} :
    (Query.ofBlueprint other name).accepts (some (resourceLabels scope (some blueprint) none)) =
        true ↔
      other = scope ∧ name = blueprint := by
  have apart : managedLabel ≠ blueprintLabel ∧ managedLabel ≠ namespaceLabel ∧
      namespaceLabel ≠ blueprintLabel := by decide
  rw [Query.accepts_blueprint_iff, OwnedBy]
  simp [resourceLabels, Query.labels, Query.writeSome, Table.get?_insert, apart, eq_comm]

/-! ## How a provision ends -/

namespace Provision

/-- What becomes of a failure of a call: one of the daemon is put into the words of this stage. -/
def worded (wrap : Failure → Failure) (failure : Failure) : Failure :=
  if failure.isDaemon then wrap failure else failure

def listingOn (scope blueprint : String) (host : Host) :
    Outcome Host Event Failure (List Network) :=
  Catalog.listNetworks (.ofBlueprint scope blueprint) host

/-- The creation that follows when no network was listed. -/
def creationOn (scope blueprint : String) (host : Host) : Outcome Host Event Failure NetworkReply :=
  Daemon.createNetwork (networkName scope blueprint) "bridge"
    (resourceLabels scope (some blueprint) none) (listingOn scope blueprint host).state

/-- What is made of the answer to a creation. -/
def acceptReply (scope blueprint : String) (reply : NetworkReply) : HostAction Failure String := do
  let name := networkName scope blueprint
  if !reply.warning.isEmpty then
    if reply.id.isEmpty then fail (.networkWarning blueprint reply.warning)
    note .warning .network ("[Network] " ++ name ++ ": " ++ reply.warning)
  if reply.id.isEmpty then fail (.networkWithoutId blueprint)
  note .info .network ("[Network] Created: " ++ name ++ " (" ++ shortId reply.id ++ ")")
  return name

theorem make_network_eq (scope blueprint : String) :
    makeNetwork scope blueprint =
      (Daemon.createNetwork (networkName scope blueprint) "bridge"
        (resourceLabels scope (some blueprint) none)).mapFailure
          (worded (.networkCreate blueprint)) >>= acceptReply scope blueprint := rfl

theorem accept_reply_apply (scope blueprint : String) (reply : NetworkReply) (host : Host) :
    (acceptReply scope blueprint reply host).state = host ∧
      (acceptReply scope blueprint reply host).result =
        if reply.id = "" then
          .error (if reply.warning = "" then .networkWithoutId blueprint
            else .networkWarning blueprint reply.warning)
        else .ok (networkName scope blueprint) := by
  by_cases named : reply.id = "" <;> by_cases warned : reply.warning = "" <;>
    simp [acceptReply, named, warned, note_bind_apply, pure_apply, -bind_pure_comp]

/-- How the provision of a network ends: the listing fails, a listed network is used, the creation
fails, or its answer decides. -/
inductive Ends (scope blueprint : String) (host : Host)
    (outcome : Outcome Host Event Failure String) : Prop
  | unlisted {failure : Failure}
      (failed : (listingOn scope blueprint host).result = .error failure)
      (ended : outcome.result = .error (worded (.networkList blueprint) failure))
      (left : outcome.state = (listingOn scope blueprint host).state)
  | reused {network : Network} {others : List Network}
      (listed : (listingOn scope blueprint host).result = .ok (network :: others))
      (ended : outcome.result = .ok network.name)
      (left : outcome.state = (listingOn scope blueprint host).state)
  | refused {failure : Failure} (listed : (listingOn scope blueprint host).result = .ok [])
      (failed : (creationOn scope blueprint host).result = .error failure)
      (ended : outcome.result = .error (worded (.networkCreate blueprint) failure))
      (left : outcome.state = (creationOn scope blueprint host).state)
  | answered {reply : NetworkReply} (listed : (listingOn scope blueprint host).result = .ok [])
      (replied : (creationOn scope blueprint host).result = .ok reply)
      (ended : outcome.result =
        (acceptReply scope blueprint reply (creationOn scope blueprint host).state).result)
      (left : outcome.state = (creationOn scope blueprint host).state)

theorem ensure_network_ends (scope blueprint : String) (host : Host) :
    Ends scope blueprint host (ensureNetwork scope blueprint host) := by
  rw [ensureNetwork, wrapDaemon, bind_apply, mapFailure]
  cases listed : (listingOn scope blueprint host).result with
  | error failure =>
      rw [listingOn] at listed
      rw [listed]
      exact .unlisted listed rfl rfl
  | ok existing =>
      rw [listingOn] at listed
      rw [listed]
      cases existing with
      | cons network others =>
          cases others with
          | nil => exact .reused listed rfl rfl
          | cons second rest => exact .reused listed rfl rfl
      | nil =>
          simp only [map_error_ok, make_network_eq]
          rw [bind_apply, mapFailure]
          cases created : (creationOn scope blueprint host).result with
          | error failure =>
              rw [creationOn, listingOn] at created
              rw [created]
              exact .refused listed created rfl rfl
          | ok reply =>
              rw [creationOn, listingOn] at created
              rw [created]
              exact .answered listed created rfl (accept_reply_apply scope blueprint reply _).1

end Provision

/-! ## What operations do to networks -/

/-- A frame that nothing matters to but networks, and that admits their removal. -/
structure Frame.MindsNetworks (frame : Frame Host) : Prop where
  same : ∀ {before after : Host}, after.networks = before.networks →
    after.settings.networkReply = before.settings.networkReply → frame.holds before after
  fewer : ∀ (host : Host) (keep : Network → Bool),
    frame.holds host { host with networks := host.networks.filter keep }

namespace Frame.MindsNetworks

variable {frame : Frame Host} (minds : frame.MindsNetworks)

include minds

theorem meets (call : Call) : frame.Meets call := fun _ => minds.same rfl rfl

theorem starts (move : Move) (host : Host) : frame.holds host (move.start host) :=
  minds.same rfl rfl

theorem removal : (HostLaw.keeping frame).AdmitsNetworkRemoval where
  list _ := Daemon.list_networks_lawful (minds.meets _)
  remove _ _ := Daemon.remove_network_lawful (minds.meets _) fun host => minds.fewer host _

theorem reclaiming : (HostLaw.keeping frame).AdmitsReclaiming where
  get _ := Daemon.get_container_lawful (minds.meets _)
  kill _ := Daemon.kill_lawful (minds.meets _) fun _ => minds.same rfl rfl
  readLog _ := Daemon.read_log_lawful (minds.meets _)
  remove _ := Daemon.remove_container_lawful (minds.meets _) fun _ => minds.same rfl rfl

theorem deploying : (HostLaw.keeping frame).AdmitsDeploying where
  create _ := Daemon.create_container_lawful (minds.meets _) fun _ => minds.same rfl rfl
  copy _ _ _ := minds.meets _
  start _ := by
    refine Daemon.start_lawful (minds.meets _) (HostLaw.keeping_change fun host => ?_)
    rw [Host.startContainer]
    split <;> exact minds.same rfl rfl
  inspect _ := Daemon.inspect_lawful (minds.meets _) fun _ => minds.same rfl rfl
  request _ _ := by
    refine Daemon.request_lawful (Frame.refl _) (HostLaw.keeping_take fun host => ?_)
      fun _ _ => minds.same rfl rfl
    rw [Host.nextAnswer]
    split <;> exact minds.same rfl rfl
  list _ _ := Daemon.list_containers_lawful (minds.meets _)
  sleep _ := Daemon.sleep_lawful (Frame.refl _) fun _ => minds.same rfl rfl

theorem operations (provides : ∀ scope blueprint,
      (HostLaw.keeping frame).holds (Provision.ensureNetwork scope blueprint)) :
    (HostLaw.keeping frame).AdmitsOperations where
  provides := provides
  removes := remove_networks_lawful minds.removal
  commits :=
    { get := minds.reclaiming.get
      stop := fun _ => Daemon.stop_lawful (minds.meets _) fun _ => minds.same rfl rfl
      commit := fun _ _ => Daemon.commit_lawful (minds.meets _) fun _ => minds.same rfl rfl }
  reclaims := minds.reclaiming
  waits :=
    { list := fun _ => Daemon.list_images_lawful (minds.meets _)
      sleep := fun _ => minds.deploying.sleep _ }

theorem cleaning (scope : String) (keep : List String) :
    (HostLaw.keeping frame).holds
      (Cleanup.run scope keep : HostAction Problem Cleanup.Removed) := by
  have lists (filters : List String) : (HostLaw.keeping frame).holds (Daemon.listImages filters) :=
    Daemon.list_images_lawful (minds.meets _)
  have removes (id : String) : (HostLaw.keeping frame).holds (Daemon.removeImage id true) :=
    Daemon.remove_image_lawful (minds.meets _) fun _ => minds.same rfl rfl
  exact Law.bind _ (Cleanup.remove_containers_lawful minds.deploying.list minds.reclaiming scope)
    fun _ => Law.bind _ (Cleanup.remove_networks_lawful minds.removal scope) fun _ =>
      Law.bind _ (Cleanup.remove_images_lawful lists removes scope keep)
        fun _ => Law.bind _ (HostLaw.note _ _ _ _) fun _ => Law.pure _ _

/-- What providing a network keeps holds between the first host and the last of all operations. -/
theorem moved (provides : ∀ scope blueprint,
      (HostLaw.keeping frame).holds (Provision.ensureNetwork scope blueprint)) {moves : List Move}
    (obey : ∀ move ∈ moves, move.operation.Obeys (.keeping frame)) (host : Host) :
    frame.holds host (movedBy moves host) :=
  moved_by_keeps minds.starts (fun move member =>
    Operation.action_lawful (minds.operations provides) (obey move member) fun scope keep _ =>
      minds.cleaning scope keep) host

theorem deploying_builder (config : Config) (script : RunnerScript) :
    (Builder.deployingBuilder config script).CollaboratorsObey (.keeping frame) :=
  Builder.deploying_builder_obeys minds.deploying (fun call _ => minds.meets call) config script

end Frame.MindsNetworks

/-- The frame of all changes after which each blueprint still has one network at most. -/
def keepsSingle : Frame Host where
  holds before after := before.SingleNetworks → after.SingleNetworks
  refl _ single := single
  trans earlier later single := later (earlier single)

/-! ## Providing a network -/

section

open Host

variable {scope blueprint : String} {host before after : Host}

theorem Host.SingleNetworks.filter (single : host.SingleNetworks) (keep : Network → Bool) :
    SingleNetworks { host with networks := host.networks.filter keep } where
  single scope blueprint := by
    refine Nat.le_trans (List.Sublist.length_le ?_) (single.single scope blueprint)
    exact List.filter_sublist.filter _
  asked network member := single.asked network (List.mem_filter.mp member).1
  replies := single.replies

theorem keeps_single_minds_networks : keepsSingle.MindsNetworks where
  same networks replies single := by
    refine ⟨?_, networks ▸ single.asked, replies ▸ single.replies⟩
    intro scope blueprint
    rw [Host.networksOf, networks]
    exact single.single scope blueprint
  fewer _ keep single := single.filter keep

theorem Host.SingleNetworks.add (single : host.SingleNetworks)
    (missing : host.networksOf scope blueprint = []) (name : String) :
    (host.addNetwork name (some (resourceLabels scope (some blueprint) none)) none
      false).2.SingleNetworks := by
  refine ⟨?_, ?_, single.replies⟩
  · intro other title
    refine Nat.le_trans (filter_place_by_length _ _ _ _) ?_
    by_cases own : other = scope ∧ title = blueprint
    · obtain ⟨rfl, rfl⟩ := own
      rw [if_pos (network_labels_accepted_iff.mpr ⟨rfl, rfl⟩)]
      exact Nat.le_of_eq (congrArg (List.length · + 1) missing)
    · rw [if_neg (mt network_labels_accepted_iff.mp own)]
      exact single.single other title
  · intro network member
    rcases mem_place_by member with rfl | old
    · rfl
    · exact single.asked network old

/-- When nothing was listed for a blueprint, a network may be made for it. -/
theorem create_network_single (single : host.SingleNetworks)
    (missing : host.networksOf scope blueprint = []) (name driver : String) :
    let made := Daemon.createNetwork name driver (resourceLabels scope (some blueprint) none) host
    made.state.SingleNetworks ∧ ∀ reply, made.result = .ok reply → reply.id ≠ "" →
      ∃ network ∈ made.state.networks, network.name = name ∧
        (Query.ofBlueprint scope blueprint).accepts network.labels = true := by
  let call : Call := .createNetwork name driver (resourceLabels scope (some blueprint) none)
  have met := keeps_single_minds_networks.meets call host single
  simp only [Daemon.createNetwork, bind_apply, perform, look]
  cases (meetFaults call host.faults).2 with
  | some failure =>
      refine ⟨met, fun reply given => ?_⟩
      cases given
  | none =>
      cases replied : host.settings.networkReply with
      | some answer =>
          refine ⟨met, fun reply given named => ?_⟩
          cases given
          exact absurd (single.replies answer replied) named
      | none =>
          refine ⟨met.add missing name, fun reply _ _ => ⟨_, mem_place_by_self _ _ _, rfl, ?_⟩⟩
          exact network_labels_accepted_iff.mpr ⟨rfl, rfl⟩

theorem list_networks_reveals (query : Query) :
    Reveals (fun host => host.networks.filter fun network =>
      network.always || query.accepts network.labels) (Catalog.listNetworks query) := by
  refine reveals_bind fun _ => ?_
  intro host networks given
  cases given
  simp only [look, Query.meets_filters_eq_accepts]

/-- A provision keeps networks single. When it gives a name, there is a network under it. -/
theorem ensure_network_single (single : host.SingleNetworks) :
    let provided := Provision.ensureNetwork scope blueprint host
    provided.state.SingleNetworks ∧ ∀ name, provided.result = .ok name →
      ∃ network ∈ provided.state.networks, network.name = name ∧
        (Query.ofBlueprint scope blueprint).accepts network.labels = true := by
  have lists : (HostLaw.keeping keepsSingle).holds
      (Catalog.listNetworks (.ofBlueprint scope blueprint)) :=
    Daemon.list_networks_lawful (keeps_single_minds_networks.meets _)
  have listing : (Provision.listingOn scope blueprint host).state.SingleNetworks :=
    lists host single
  have shown := list_networks_reveals (.ofBlueprint scope blueprint) host
  have creation (listed : (Provision.listingOn scope blueprint host).result = .ok []) :=
    create_network_single listing
      (by
        have none := shown [] listed
        simp only [List.nil_eq, List.filter_eq_nil_iff, Bool.or_eq_true, not_or] at none
        exact List.filter_eq_nil_iff.mpr fun network member => (none network member).2)
      (networkName scope blueprint) "bridge"
  intro provided
  cases Provision.ensure_network_ends scope blueprint host with
  | unlisted failed ended left =>
      exact ⟨left ▸ listing, fun name given => nomatch ended.symm.trans given⟩
  | refused listed failed ended left =>
      exact ⟨left ▸ (creation listed).1, fun name given => nomatch ended.symm.trans given⟩
  | @reused network others listed ended left =>
      have member : network ∈ network :: others := List.mem_cons_self
      rw [shown _ listed] at member
      obtain ⟨there, accepted⟩ := List.mem_filter.mp member
      rw [listing.asked network there, Bool.false_or] at accepted
      exact ⟨left ▸ listing, fun name given =>
        ⟨network, left ▸ there, Except.ok.inj (ended.symm.trans given), accepted⟩⟩
  | @answered reply listed replied ended left =>
      obtain ⟨kept, made⟩ := creation listed
      refine ⟨left ▸ kept, fun name given => ?_⟩
      rw [ended, (Provision.accept_reply_apply _ _ _ _).2] at given
      split at given
      · cases given
      · rename_i named
        obtain rfl := Except.ok.inj given
        exact left ▸ made reply replied named

/-! ## Operations one after the other -/

/-- What holds of networks on all hosts that a sequence of operations passes. -/
structure KeepsNetworksSingle (moves : List Move) (host : Host) : Prop where
  /-- Each blueprint has one network at most. -/
  single : ∀ front back, moves = front ++ back → (movedBy front host).SingleNetworks
  /-- When a network is provided where an operation starts, there is one of the blueprint under the
  name that is given. -/
  provided : ∀ front move back, moves = front ++ move :: back → ∀ scope blueprint name,
    let outcome := Provision.ensureNetwork scope blueprint (move.start (movedBy front host))
    outcome.result = .ok name → ∃ network ∈ outcome.state.networks, network.name = name ∧
      (Query.ofBlueprint scope blueprint).accepts network.labels = true

/-- Whatever is asked for and whatever fails, each blueprint keeps one network at most, and a
network that is provided is there. -/
theorem operations_keep_networks_single {moves : List Move} (single : host.SingleNetworks)
    (obey : ∀ move ∈ moves, move.operation.Obeys (.keeping keepsSingle)) :
    KeepsNetworksSingle moves host := by
  have minds := keeps_single_minds_networks
  have reached (front back : List Move) (split : moves = front ++ back) :
      (movedBy front host).SingleNetworks :=
    minds.moved (fun _ _ _ single => (ensure_network_single single).1)
      (fun move member => obey move (split ▸ List.mem_append_left _ member)) host single
  refine ⟨reached, fun front move back split scope blueprint => ?_⟩
  exact (ensure_network_single (minds.starts move _ (reached front _ split))).2

end

/-- No network can be removed. -/
def networkStays : FaultRule :=
  ⟨"network.remove", none, .outside .api "boom" none, 0, none⟩

/-- A network is provided, a build uses it and cannot remove it, and then it is provided again. -/
def provideAndBuild : List Move :=
  [⟨.ensureNetwork "default" "bp", [], 0⟩,
    ⟨.order Builder.plainBuilder (.construct Blueprint.pair), [networkStays], 0⟩,
    ⟨.ensureNetwork "default" "bp", [], 0⟩]

/-- There is never more than one of it, nor of the network of another namespace. -/
theorem provide_and_build_keeps_single :
    Builder.sharedHost.SingleNetworks ∧
      (∀ move ∈ provideAndBuild, move.operation.Obeys (.keeping keepsSingle)) ∧
      KeepsNetworksSingle provideAndBuild Builder.sharedHost ∧
      (movedBy provideAndBuild Builder.sharedHost).networks.map Network.name =
        ["commander_other_bp", "commander_default_bp"] := by
  have single : Builder.sharedHost.SingleNetworks := by
    refine ⟨fun scope blueprint => ?_, by decide, fun reply given => nomatch given⟩
    exact Nat.le_trans (List.length_filter_le _ _) (by decide)
  have obey : ∀ move ∈ provideAndBuild, move.operation.Obeys (.keeping keepsSingle) := by
    intro move member
    simp only [provideAndBuild, List.mem_cons, List.not_mem_nil, or_false] at member
    rcases member with rfl | rfl | rfl
    · trivial
    · exact keeps_single_minds_networks.deploying_builder Builder.plainBuilder.config
        RunnerScript.quiet
    · trivial
  exact ⟨single, obey, operations_keep_networks_single single obey, by decide +kernel⟩

end FixtureImages
