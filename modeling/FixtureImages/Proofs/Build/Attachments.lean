import FixtureImages.Proofs.Build.Artifacts
import FixtureImages.Proofs.Build.Networks
import FixtureImages.Proofs.Build.Watched

/-!
# Networks by name

The network of a blueprint is found by its labels, but containers are attached to it by its name,
which joins a namespace and a blueprint by an underscore. Names may have underscores themselves, so
two pairs share a name when one is cut at another underscore than the other. Apart from these
pairs, containers are attached to the network of their own blueprint only.
-/

namespace FixtureImages

set_option autoImplicit false

open Action

/-! ## Names of networks -/

/-- Two pairs of names that are cut from one text: what stands between the two cuts belongs to the
blueprint of the first and to the namespace of the second. -/
def Overlaps (scope blueprint scope' blueprint' : String) : Prop :=
  ∃ middle, scope' = scope ++ "_" ++ middle ∧ blueprint = middle ++ "_" ++ blueprint'

/-- Pairs that give networks one name although they differ. -/
def Collides (scope blueprint scope' blueprint' : String) : Prop :=
  Overlaps scope blueprint scope' blueprint' ∨ Overlaps scope' blueprint' scope blueprint

theorem network_name_of_overlap {scope blueprint scope' blueprint' : String}
    (overlaps : Overlaps scope blueprint scope' blueprint') :
    networkName scope blueprint = networkName scope' blueprint' := by
  obtain ⟨middle, rfl, rfl⟩ := overlaps
  simp only [networkName, String.append_assoc]

/-- Where one text is cut twice at a character, the cuts agree or one is behind the other. -/
theorem cut_twice {cut : Char} {front back front' back' : List Char}
    (same : front ++ cut :: back = front' ++ cut :: back') :
    (front = front' ∧ back = back') ∨
      ∃ middle, (front' = front ++ cut :: middle ∧ back = middle ++ cut :: back') ∨
        (front = front' ++ cut :: middle ∧ back' = middle ++ cut :: back) := by
  rcases List.append_eq_append_iff.mp same with ⟨more, later, rest⟩ | ⟨more, later, rest⟩
  · cases more with
    | nil =>
        rw [List.nil_append, List.cons.injEq] at rest
        exact .inl ⟨by rw [later, List.append_nil], rest.2⟩
    | cons c middle =>
        rw [List.cons_append, List.cons.injEq] at rest
        obtain ⟨rfl, rest⟩ := rest
        exact .inr ⟨middle, .inl ⟨later, rest⟩⟩
  · cases more with
    | nil =>
        rw [List.nil_append, List.cons.injEq] at rest
        exact .inl ⟨by rw [later, List.append_nil], rest.2.symm⟩
    | cons c middle =>
        rw [List.cons_append, List.cons.injEq] at rest
        obtain ⟨rfl, rest⟩ := rest
        exact .inr ⟨middle, .inr ⟨later, rest⟩⟩

/-- Networks have one name exactly when their namespaces and blueprints agree or collide. -/
theorem network_name_eq_iff {scope blueprint scope' blueprint' : String} :
    networkName scope blueprint = networkName scope' blueprint' ↔
      (scope = scope' ∧ blueprint = blueprint') ∨ Collides scope blueprint scope' blueprint' := by
  constructor
  · intro same
    have joined : scope.toList ++ '_' :: blueprint.toList =
        scope'.toList ++ '_' :: blueprint'.toList := by
      simpa [networkName, ← String.toList_inj] using same
    rcases cut_twice joined with ⟨front, back⟩ | ⟨middle, ⟨front, back⟩ | ⟨front, back⟩⟩
    · exact .inl ⟨String.toList_inj.mp front, String.toList_inj.mp back⟩
    · refine .inr (.inl ⟨String.ofList middle, ?_, ?_⟩) <;> simp [← String.toList_inj, front, back]
    · refine .inr (.inr ⟨String.ofList middle, ?_, ?_⟩) <;> simp [← String.toList_inj, front, back]
  · rintro (⟨rfl, rfl⟩ | overlaps | overlaps)
    · rfl
    · exact network_name_of_overlap overlaps
    · exact (network_name_of_overlap overlaps).symm

theorem Overlaps.apart {scope blueprint scope' blueprint' : String}
    (overlaps : Overlaps scope blueprint scope' blueprint') :
    scope ≠ scope' ∧ blueprint ≠ blueprint' ∧ '_' ∈ scope'.toList ∧ '_' ∈ blueprint.toList := by
  obtain ⟨middle, rfl, rfl⟩ := overlaps
  have one : "_".toList.length = 1 := rfl
  refine ⟨fun same => ?_, fun same => ?_, by simp, by simp⟩
  all_goals
    have longer := congrArg (List.length ∘ String.toList) same
    simp only [Function.comp_apply, String.toList_append, List.length_append] at longer
    omega

/-- Pairs that collide differ in both names, and one has an underscore in its namespace where the
other has one in its blueprint. -/
theorem Collides.apart {scope blueprint scope' blueprint' : String}
    (collides : Collides scope blueprint scope' blueprint') :
    scope ≠ scope' ∧ blueprint ≠ blueprint' ∧
      ('_' ∈ scope'.toList ∧ '_' ∈ blueprint.toList ∨
        '_' ∈ scope.toList ∧ '_' ∈ blueprint'.toList) := by
  rcases collides with overlaps | overlaps
  · obtain ⟨scopes, blueprints, marked⟩ := overlaps.apart
    exact ⟨scopes, blueprints, .inl marked⟩
  · obtain ⟨scopes, blueprints, marked⟩ := overlaps.apart
    exact ⟨scopes.symm, blueprints.symm, .inr marked⟩

/-! ## Networks under their names -/

/-- The networks that are found for a blueprint have its name. Listings show only what their filters
ask for. -/
structure Host.NamesNetworks (host : Host) : Prop where
  named : ∀ network ∈ host.networks, ∀ scope blueprint,
    (Query.ofBlueprint scope blueprint).accepts network.labels = true →
      network.name = networkName scope blueprint
  asked : ∀ network ∈ host.networks, network.always = false

/-- The frame of all changes after which networks still have the names of their blueprints. -/
def keepsNames : Frame Host where
  holds before after := before.NamesNetworks → after.NamesNetworks
  refl _ names := names
  trans earlier later names := later (earlier names)

theorem keeps_names_minds_networks : keepsNames.MindsNetworks where
  same networks _ names := ⟨networks ▸ names.named, networks ▸ names.asked⟩
  fewer _ _ names :=
    ⟨fun network member => names.named network (List.mem_filter.mp member).1,
      fun network member => names.asked network (List.mem_filter.mp member).1⟩

variable {scope blueprint : String} {host : Host}

theorem Host.NamesNetworks.add (names : host.NamesNetworks) (scope blueprint : String) :
    (host.addNetwork (networkName scope blueprint) (some (resourceLabels scope (some blueprint) none))
      none false).2.NamesNetworks := by
  constructor
  · intro network member other title accepted
    rcases Host.mem_place_by member with rfl | old
    · obtain ⟨rfl, rfl⟩ := network_labels_accepted_iff.mp accepted
      rfl
    · exact names.named network old other title accepted
  · intro network member
    rcases Host.mem_place_by member with rfl | old
    · rfl
    · exact names.asked network old

/-- Providing a network leaves networks under their names, and gives the name of the blueprint. -/
theorem ensure_network_names (names : host.NamesNetworks) :
    let provided := Provision.ensureNetwork scope blueprint host
    provided.state.NamesNetworks ∧
      ∀ name, provided.result = .ok name → name = networkName scope blueprint := by
  have minds := keeps_names_minds_networks
  have lists : (HostLaw.keeping keepsNames).holds
      (Catalog.listNetworks (.ofBlueprint scope blueprint)) :=
    Daemon.list_networks_lawful (minds.meets _)
  have creates : (HostLaw.keeping keepsNames).holds
      (Daemon.createNetwork (networkName scope blueprint) "bridge"
        (resourceLabels scope (some blueprint) none)) :=
    Daemon.create_network_lawful (minds.meets _) fun _ names => names.add scope blueprint
  have listing : (Provision.listingOn scope blueprint host).state.NamesNetworks := lists host names
  have creation : (Provision.creationOn scope blueprint host).state.NamesNetworks :=
    creates _ listing
  intro provided
  cases Provision.ensure_network_ends scope blueprint host with
  | unlisted failed ended left =>
      exact ⟨left ▸ listing, fun name given => nomatch ended.symm.trans given⟩
  | refused listed failed ended left =>
      exact ⟨left ▸ creation, fun name given => nomatch ended.symm.trans given⟩
  | @reused network others listed ended left =>
      have shown := list_networks_reveals (.ofBlueprint scope blueprint) host _ listed
      have member : network ∈ network :: others := List.mem_cons_self
      rw [shown] at member
      obtain ⟨there, accepted⟩ := List.mem_filter.mp member
      rw [listing.asked network there, Bool.false_or] at accepted
      refine ⟨left ▸ listing, fun name given => ?_⟩
      rw [← Except.ok.inj (ended.symm.trans given)]
      exact listing.named network there scope blueprint accepted
  | @answered reply listed replied ended left =>
      refine ⟨left ▸ creation, fun name given => ?_⟩
      rw [ended, (Provision.accept_reply_apply _ _ _ _).2] at given
      split at given
      · cases given
      · exact (Except.ok.inj given).symm

/-! ## Deployments of a build -/

/-- A call deploys onto a network only if it is that one. -/
def Call.OnNetwork (network : String) (call : Call) : Prop :=
  ∀ request, call = .deploy request → request.network = network

def Call.isDeploy : Call → Bool
  | .deploy _ => true
  | _ => false

theorem Call.on_network_of_other {call : Call} {network : String} (other : call.isDeploy = false) :
    call.OnNetwork network := by
  rintro request rfl
  cases other

theorem Call.not_deploy_of_scripted {call : Call} (recorded : call.isScripted = true) :
    call.isDeploy = false := by
  cases call <;> first | rfl | cases recorded

namespace Builder

variable {builder : Builder} {blueprint : Blueprint}

/-- Instances are deployed onto the network that was provided. -/
theorem advance_deploys (names : host.NamesNetworks) :
    ∀ made ∈ callsOf (advance builder.watched blueprint host).trace,
      made.OnNetwork (networkName builder.scope blueprint.name.text) := by
  let network := networkName builder.scope blueprint.name.text
  let law := HostLaw.calling (Call.OnNetwork network)
  have networks : law.AdmitsNetworks :=
    HostLaw.calling_networks (fun _ => Call.on_network_of_other rfl)
      (fun _ _ _ => Call.on_network_of_other rfl) fun _ => Call.on_network_of_other rfl
  have runners : builder.watched.RunnersObey law :=
    watched_runners_call (fun call recorded =>
      Call.on_network_of_other (Call.not_deploy_of_scripted recorded)) builder
  have deploys (request : DeployRequest) (own : request.network = network) :
      law.holds (builder.watched.deployer request) := by
    refine as_call_lawful (fun other same => ?_) _
    cases same
    exact own
  intro made member
  rw [mem_calls_of, advance] at member
  rcases mem_trace_bind member with logged | ⟨_, -, member⟩
  · exact law.note _ _ _ _ _ logged made rfl
  rcases mem_trace_bind member with providing | ⟨provided, given, member⟩
  · exact networks.provides _ _ _ _ providing made rfl
  cases provided with
  | error failure =>
      dsimp only at member
      split at member
      · cases member
      · cases member
  | ok provided =>
      obtain rfl : provided = network := (ensure_network_names names).2 _ (Except.ok.inj given)
      have builds : law.holds (do
          let runner ← builder.watched.makeRunner blueprint
          constructUntilFailure builder.watched blueprint network runner blueprint.instances) :=
        law.bindGiven (runners.make blueprint) fun start runner made =>
          construct_until_failure_lawful deploys (runners.made blueprint start runner made).run _
      exact builds _ _ member made rfl

/-- The law that nothing is deployed. -/
abbrev noDeployments : HostLaw := .calling fun made => made.isDeploy = false

theorem settle_deploys_nothing {progress : Progress} {start : Host}
    (advanced : (advance builder.watched blueprint start).result = .ok progress) :
    noDeployments.holds (settle blueprint progress : HostAction Failure (List Failure)) := by
  have runners : builder.watched.RunnersObey noDeployments :=
    watched_runners_call (fun _ recorded => Call.not_deploy_of_scripted recorded) builder
  have commits : noDeployments.AdmitsCommits :=
    HostLaw.calling_commits (fun _ => rfl) (fun _ => rfl) fun _ _ => rfl
  have reclaims : noDeployments.AdmitsReclaiming :=
    HostLaw.calling_reclaiming (fun _ => rfl) (fun _ => rfl) (fun _ => rfl) fun _ => rfl
  exact settle_lawful (fun _ _ => commits.stopping _) commits.commit
    (fun _ _ _ _ => reclaims.of _) blueprint
    (advance_runner_obeys runners blueprint start progress advanced)

/-- Whatever fails, all that a build deploys is deployed onto the network of its blueprint by name. -/
theorem construct_deploys (names : host.NamesNetworks) {request : DeployRequest}
    (deployed : .call (.deploy request) ∈ (construct builder.watched blueprint host).trace) :
    request.network = networkName builder.scope blueprint.name.text := by
  have whole := @construct_calls_filter Call.isDeploy
    (HostLaw.calling_reclaiming (fun _ => rfl) (fun _ => rfl) (fun _ => rfl) fun _ => rfl)
    (HostLaw.calling_waiting (fun _ => rfl) fun _ => rfl)
    (HostLaw.calling_networks (fun _ => rfl) (fun _ _ _ => rfl) fun _ => rfl).removal
    builder.watched blueprint host
  have prepared : .call (.deploy request) ∈ (prepare builder.watched blueprint host).trace := by
    have among : .deploy request ∈
        (callsOf (construct builder.watched blueprint host).trace).filter Call.isDeploy :=
      List.mem_filter.mpr ⟨mem_calls_of.mpr deployed, rfl⟩
    rw [whole] at among
    exact mem_calls_of.mp (List.mem_filter.mp among).1
  rcases mem_trace_bind prepared with advancing | ⟨progress, advanced, settling⟩
  · exact advance_deploys names _ (mem_calls_of.mpr advancing) request rfl
  rcases mem_trace_bind settling with settling | ⟨_, _, later⟩
  · have silent := settle_deploys_nothing advanced _ _ settling _ rfl
    cases silent
  · cases later

end Builder

/-! ## Operations one after the other -/

/-- Which networks have one name, and what that means for builds over a sequence of operations. -/
structure AttachesByName (moves : List Move) (host : Host) : Prop where
  /-- Accepted names give networks one name exactly when they agree or collide. -/
  names : ∀ scope blueprint scope' blueprint' : Name,
    networkName scope.text blueprint.text = networkName scope'.text blueprint'.text ↔
      (scope = scope' ∧ blueprint = blueprint') ∨
        Collides scope.text blueprint.text scope'.text blueprint'.text
  /-- Names that collide differ both in the namespace and in the blueprint. -/
  apart : ∀ scope blueprint scope' blueprint' : String,
    Collides scope blueprint scope' blueprint' → scope ≠ scope' ∧ blueprint ≠ blueprint'
  /-- On all hosts that are passed, the networks of a blueprint have its name. -/
  named : ∀ front back, moves = front ++ back → (movedBy front host).NamesNetworks
  /-- Wherever a build starts and whatever fails in it, its instances are deployed by name onto a
  network that is there exactly if this is that of the blueprint or of one that collides with it. -/
  attached : ∀ front back, moves = front ++ back → ∀ builder blueprint faults pause request,
    let start := Move.start ⟨.order builder (.construct blueprint), faults, pause⟩
      (movedBy front host)
    .call (.deploy request) ∈ (Builder.construct builder.watched blueprint start).trace →
      ∀ network ∈ start.networks, ∀ scope name,
        (Query.ofBlueprint scope name).accepts network.labels = true →
          (request.network = network.name ↔
            (builder.scope = scope ∧ blueprint.name.text = name) ∨
              Collides builder.scope blueprint.name.text scope name)

/-- Whatever is asked for and whatever fails, a build attaches its containers to the network of
another blueprint only if the names collide, and then it does. -/
theorem operations_attach_by_name {moves : List Move} (names : host.NamesNetworks)
    (obey : ∀ move ∈ moves, move.operation.Obeys (.keeping keepsNames)) :
    AttachesByName moves host := by
  have minds := keeps_names_minds_networks
  have texts (one other : Name) : one.text = other.text ↔ one = other :=
    ⟨Name.eq_of_text, congrArg Name.text⟩
  have reached (front back : List Move) (split : moves = front ++ back) :
      (movedBy front host).NamesNetworks :=
    minds.moved (fun _ _ _ names => (ensure_network_names names).1)
      (fun move member => obey move (split ▸ List.mem_append_left _ member)) host names
  constructor
  case names =>
    intro scope blueprint scope' blueprint'
    rw [network_name_eq_iff, texts, texts]
  case apart =>
    intro scope blueprint scope' blueprint' collides
    exact ⟨collides.apart.1, collides.apart.2.1⟩
  case named => exact reached
  case attached =>
    intro front back split builder blueprint faults pause request start deployed network there
      scope name accepted
    have named := minds.starts ⟨.order builder (.construct blueprint), faults, pause⟩ _
      (reached front back split)
    rw [Builder.construct_deploys named deployed, named.named network there scope name accepted]
    exact network_name_eq_iff

/-! ## Two blueprints with one network name -/

private theorem first_scope_named : isName "a".toList = true := by decide

private theorem first_blueprint_named : isName "b_c".toList = true := by decide

private theorem second_scope_named : isName "a_b".toList = true := by decide

private theorem second_blueprint_named : isName "c".toList = true := by decide

/-- The two servers again, as the blueprint `c`. -/
def Blueprint.second : Blueprint :=
  { Blueprint.pair with name := ⟨"c", second_blueprint_named⟩ }

/-- A builder in the namespace `a_b`. -/
def secondBuilder : Builder :=
  Builder.deployingBuilder
    { Config.usual with baseImage := "img", scope := ⟨"a_b", second_scope_named⟩ }
    RunnerScript.quiet

/-- The network of the blueprint `b_c` in the namespace `a` is provided. -/
def provideFirst : List Move := [⟨.ensureNetwork "a" "b_c", [], 0⟩]

/-- What the build of `c` in the namespace `a_b` asks its deployer for. -/
def secondRequest : DeployRequest :=
  { baseImage := "img", containerName := "commander_a_b.c.hs1", scope := "a_b", blueprint := "c"
    server := "hs1", registrations := ∅, network := "commander_a_b_c" }

/-- It is asked on a host with only the network of `b_c` in the namespace `a`. -/
theorem second_build_deploys :
    .call (.deploy secondRequest) ∈ (Builder.construct secondBuilder.watched Blueprint.second
      (movedBy provideFirst (Host.fresh ∅))).trace := by
  decide +kernel

/-- So accepted names that differ do not always give networks different names, and containers are
attached to the network of another blueprint in another namespace. -/
theorem network_shared_by_names :
    (¬∀ scope blueprint scope' blueprint' : Name, (scope, blueprint) ≠ (scope', blueprint') →
      networkName scope.text blueprint.text ≠ networkName scope'.text blueprint'.text) ∧
    ¬∀ (moves : List Move) (builder : Builder) (blueprint : Blueprint) (request : DeployRequest),
      let start := movedBy moves (Host.fresh ∅)
      .call (.deploy request) ∈ (Builder.construct builder.watched blueprint start).trace →
        ∀ network ∈ start.networks, ∀ scope name,
          (Query.ofBlueprint scope name).accepts network.labels = true →
            request.network = network.name →
              builder.scope = scope ∧ blueprint.name.text = name := by
  constructor
  · intro claimed
    exact claimed ⟨"a", first_scope_named⟩ ⟨"b_c", first_blueprint_named⟩
      ⟨"a_b", second_scope_named⟩ ⟨"c", second_blueprint_named⟩ (by decide) rfl
  · intro claimed
    have only : ∃ network ∈ (movedBy provideFirst (Host.fresh ∅)).networks,
        (Query.ofBlueprint "a" "b_c").accepts network.labels = true ∧
          network.name = "commander_a_b_c" := by decide +kernel
    obtain ⟨first, there, accepted, name⟩ := only
    have same := claimed provideFirst secondBuilder Blueprint.second secondRequest
      second_build_deploys first there "a" "b_c" accepted name.symm
    exact absurd same.1 (by decide)

/-- The network is provided, and then the colliding blueprint is built. -/
def provideAndAttach : List Move :=
  provideFirst ++ [⟨.order secondBuilder (.construct Blueprint.second), [], 0⟩]

/-- The two collide, so the attachment is as foreseen. -/
theorem attach_by_name_of_collision :
    (Host.fresh ∅).NamesNetworks ∧
      (∀ move ∈ provideAndAttach, move.operation.Obeys (.keeping keepsNames)) ∧
      AttachesByName provideAndAttach (Host.fresh ∅) ∧ Collides "a_b" "c" "a" "b_c" := by
  have names : (Host.fresh ∅).NamesNetworks := by
    constructor <;> intro network member <;> cases member
  have obey : ∀ move ∈ provideAndAttach, move.operation.Obeys (.keeping keepsNames) := by
    intro move member
    simp only [provideAndAttach, provideFirst, List.cons_append, List.nil_append, List.mem_cons,
      List.not_mem_nil, or_false] at member
    rcases member with rfl | rfl
    · trivial
    · exact keeps_names_minds_networks.deploying_builder secondBuilder.config RunnerScript.quiet
  exact ⟨names, obey, operations_attach_by_name names obey, .inr ⟨"b", rfl, rfl⟩⟩

end FixtureImages
