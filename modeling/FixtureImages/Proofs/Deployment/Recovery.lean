import FixtureImages.Proofs.Build.Commits
import FixtureImages.Proofs.Build.Handover
import FixtureImages.Proofs.Build.Reclaim
import FixtureImages.Proofs.Labels.Captured

/-!
# Recovering what was captured

What was captured for an instance goes onto its image as labels, from there onto each container that
is made of the image, and is read back when that container is deployed. On the way two sets of
labels are laid over each other twice. As long as the container that was committed tells of nothing
captured, everything that was kept comes back, and nothing else does.
-/

namespace FixtureImages

set_option autoImplicit false

open Action

/-! ## The image of a reference -/

/-- A reference stands for an image on a host: it is a tag of that image and of no other. -/
structure Host.Refers (host : Host) (reference : String) (image : Image) : Prop where
  stored : image ∈ host.images
  tagged : reference ∈ image.tags.getD []
  alone : ∀ other ∈ host.images, reference ∈ other.tags.getD [] → other = image

theorem Host.Refers.labels {host : Host} {reference : String} {image : Image}
    (refers : host.Refers reference image) (key : String) :
    (host.labelsOfTag reference).get? key = (image.labels.getD ∅).get? key := by
  -- along the images, either those of the image were written or it is still to come
  have folds (images : List Image) (labels : Labels)
      (alone : ∀ other ∈ images, reference ∈ other.tags.getD [] → other = image)
      (held : labels.get? key = (image.labels.getD ∅).get? key ∨
        labels.get? key = none ∧ image ∈ images) :
      (images.foldl (fun labels image =>
        if (image.tags.getD []).contains reference then labels.overlay (image.labels.getD ∅)
        else labels) labels).get? key = (image.labels.getD ∅).get? key := by
    induction images generalizing labels with
    | nil => exact held.resolve_right fun pending => List.not_mem_nil pending.2
    | cons first rest ih =>
        have others := fun other member => alone other (List.mem_cons_of_mem first member)
        rw [List.foldl_cons]
        by_cases named : reference ∈ first.tags.getD []
        · obtain rfl := alone first List.mem_cons_self named
          rw [if_pos (List.contains_iff_mem.mpr named)]
          refine ih _ others (.inl ?_)
          rcases held with written | ⟨absent, _⟩
          · rw [Table.get?_overlay, written, Option.or_self]
          · rw [Table.get?_overlay, absent, Option.or_none]
        · rw [if_neg (by simpa using named)]
          refine ih _ others (held.imp_right fun pending => ⟨pending.1, ?_⟩)
          refine (List.mem_cons.mp pending.2).resolve_left ?_
          rintro rfl
          exact named refers.tagged
  exact folds host.images ∅ refers.alone (.inr ⟨rfl, refers.stored⟩)

theorem Daemon.commit_places {container : Container} {request : CommitRequest} {host : Host}
    {image : Image} (made : (commit container request host).result = .ok image) :
    (commit container request host).state.images = Host.placeBy Image.id image host.images := by
  obtain ⟨_, performed, taken⟩ := ok_of_bind made
  rw [commit, bind_of_ok performed]
  cases taken
  rfl

/-- After the commit of an instance its reference stands for the image, unless it stood for another
one before. -/
theorem label_and_commit_refers {blueprint : Blueprint} {runner : Runner}
    {construction : Construction} {host : Host} {commitment : Commitment}
    (committed : commitmentOn blueprint runner construction host = some commitment)
    (free : ∀ image ∈ (readyToCommit blueprint runner construction host).state.images,
      localRepository ++ ":" ++ construction.context ∉ image.tags.getD []) :
    (labelAndCommit blueprint runner construction host).state.Refers
      (localRepository ++ ":" ++ construction.context) commitment.image := by
  have ends := label_and_commit_ends blueprint runner construction host
  rw [committed] at ends
  generalize labelAndCommit blueprint runner construction host = outcome at ends
  cases ends with
  | @made labels container image after events id record ready succeeded =>
      have made := congrArg Outcome.result succeeded
      have places := Daemon.commit_places made
      rw [succeeded] at places
      refine ⟨?_, ?_, fun other member tagged => ?_⟩
      · exact places ▸ Host.mem_place_by_self _ _ _
      · rw [(Daemon.commit_gives container _ _ image made).1]
        exact List.mem_singleton_self _
      · rw [places] at member
        exact (Host.mem_place_by member).resolve_right fun old => free other old tagged

/-! ## What a commit writes -/

/-- What is written for an instance is what the runner gave for it, and the image has that over the
labels of the container. -/
theorem commitment_gathers {blueprint : Blueprint} {runner : Runner} {construction : Construction}
    {host : Host} {commitment : Commitment}
    (committed : commitmentOn blueprint runner construction host = some commitment) :
    ∃ credentials devices,
      (runner.credentials construction.server.name.text host).result = .ok credentials ∧
      (runner.devices construction.server.name.text
        (runner.credentials construction.server.name.text host).state).result = .ok devices ∧
      commitment.labels = collectedLabels construction blueprint credentials devices ∧
      commitment.image.labels =
        some ((commitment.container.labels.getD ∅).overlay commitment.labels) := by
  have ends := label_and_commit_ends blueprint runner construction host
  rw [committed] at ends
  generalize labelAndCommit blueprint runner construction host = outcome at ends
  cases ends with
  | @made labels container image after events id record ready succeeded =>
      obtain ⟨collected, gathered, later⟩ := ok_of_bind ready
      obtain ⟨_, _, paired⟩ := ok_of_bind later
      cases paired
      obtain ⟨credentials, given, others⟩ := ok_of_bind gathered
      obtain ⟨devices, found, whole⟩ := ok_of_bind others
      cases whole
      obtain ⟨_, written⟩ := Daemon.commit_gives container _ _ image (by rw [succeeded])
      refine ⟨credentials, devices, given, found, rfl, written.trans (congrArg some ?_)⟩
      exact committed_labels_eq _ _

/-- The image of an instance has what the runner gave for it, over the labels of the container. -/
theorem commitment_collects {blueprint : Blueprint} {runner : Runner} {construction : Construction}
    {host : Host} {commitment : Commitment}
    (committed : commitmentOn blueprint runner construction host = some commitment) :
    ∃ credentials devices,
      (runner.credentials construction.server.name.text host).result = .ok credentials ∧
      (runner.devices construction.server.name.text
        (runner.credentials construction.server.name.text host).state).result = .ok devices ∧
      commitment.image.labels = some ((commitment.container.labels.getD ∅).overlay
        (collectedLabels construction blueprint credentials devices)) := by
  obtain ⟨credentials, devices, given, found, gathered, written⟩ := commitment_gathers committed
  exact ⟨credentials, devices, given, found, gathered ▸ written⟩

/-! ## What a deployment reads -/

namespace Deployment

variable {Client : Type} {connect : Nat → Except Failure Client} {cache : ClientCache Client}
  {config : Config} {request : DeployRequest} {host : Host}

/-- The labels of the container that is made for a request. -/
def labelsFor (request : DeployRequest) (host : Host) : Labels :=
  (host.labelsOfTag request.baseImage).overlay
    (resourceLabels request.scope (some request.blueprint) (some request.server))

theorem created_labels {container : Container}
    (made : (created config request host).result = .ok container) :
    container.labels = some (labelsFor request host) := by
  obtain ⟨_, _, placed⟩ := ok_of_bind made
  cases placed
  rfl

theorem deploy_reads {deployment : Deployment}
    (deployed : (deployThrough connect cache config request host).result = .ok deployment) :
    deployment.credentials = credentialsOf (labelsFor request host) ∧
      deployment.devices = devicesOf (labelsFor request host) ∧
      deployment.services = servicesOf (labelsFor request host) := by
  cases connects : (cache.get connect).1 with
  | error failure =>
      rw [deployThrough, connects] at deployed
      cases deployed
  | ok client =>
      rw [deploy_through_of_client connects, deploy_eq] at deployed
      obtain ⟨container, made, later⟩ := ok_of_bind deployed
      have labelled := created_labels (created_of_create made)
      have reads : Gives (fun given : Deployment =>
          given.credentials = credentialsOf (container.labels.getD ∅) ∧
            given.devices = devicesOf (container.labels.getD ∅) ∧
            given.services = servicesOf (container.labels.getD ∅)) (do
          let place ← settleLaunch config request container
          waitUntilReady config container place.client
          describe request container place) :=
        gives_bind fun _ => gives_bind fun _ => gives_bind fun _ => gives_pure ⟨rfl, rfl, rfl⟩
      simpa [labelled] using reads _ deployment later

/-- Under the stems of captured state, a container has what its image has. -/
theorem labels_for_captured {image : Image} (refers : host.Refers request.baseImage image)
    {stem : String} (captured : stem ∈ capturedStems) (key : String) :
    (labelsFor request host).get? (stem ++ key) = (image.labels.getD ∅).get? (stem ++ key) := by
  rw [labelsFor, Table.get?_overlay, resource_labels_uncaptured _ _ _ _ captured, Option.none_or,
    refers.labels]

end Deployment

/-! ## The way from one to the other -/

/-- A deployment has the captured credentials that are kept, all captured devices, and a registration
for each service of the instance. -/
structure Recovers (blueprint : Blueprint) (server : Instance) (credentials devices : Labels)
    (deployment : Deployment) : Prop where
  credentials : ∀ identity, deployment.credentials.get? identity =
    if blueprint.keepCredentialsFor = [] ∨ identity ∈ blueprint.keepCredentialsFor then
      credentials.get? identity
    else none
  devices : ∀ identity, deployment.devices.get? identity = devices.get? identity
  services : ∀ id, (deployment.services.get? id).isSome = true ↔
    ∃ service ∈ server.services, service.id = id

/-- Whatever a runner captured for an instance that was committed is recovered from the image, if the
container told of nothing captured by itself. -/
theorem deploy_recovers_captured {Client : Type} {connect : Nat → Except Failure Client}
    {cache : ClientCache Client} {config : Config} {request : DeployRequest}
    {blueprint : Blueprint} {runner : Runner} {construction : Construction} {host later : Host}
    {commitment : Commitment} {deployment : Deployment}
    (committed : commitmentOn blueprint runner construction host = some commitment)
    (bare : Uncaptured (commitment.container.labels.getD ∅))
    (refers : later.Refers request.baseImage commitment.image)
    (deployed : (Deployment.deployThrough connect cache config request later).result =
      .ok deployment) :
    ∃ credentials devices,
      (runner.credentials construction.server.name.text host).result = .ok credentials ∧
      (runner.devices construction.server.name.text
        (runner.credentials construction.server.name.text host).state).result = .ok devices ∧
      Recovers blueprint construction.server credentials devices deployment := by
  obtain ⟨credentials, devices, given, found, written⟩ := commitment_collects committed
  obtain ⟨ofCredentials, ofDevices, ofServices⟩ := Deployment.deploy_reads deployed
  have reads {stem : String} (captured : stem ∈ capturedStems) (key : String) :
      (Deployment.labelsFor request later).get? (stem ++ key) =
        (collectedLabels construction blueprint credentials devices).get? (stem ++ key) := by
    rw [Deployment.labels_for_captured refers captured, written, Option.getD_some,
      Table.get?_overlay, bare stem captured, Option.or_none]
  refine ⟨credentials, devices, given, found, fun identity => ?_, fun identity => ?_, fun id => ?_⟩
  · rw [ofCredentials, credentialsOf, Table.get?_cutStem, reads (by decide), collected_credentials,
      kept_credentials]
  · rw [ofDevices, devicesOf, Table.get?_cutStem, reads (by decide), collected_devices]
  · rw [ofServices, servicesOf, Table.get?_mapValues, Option.isSome_map, Table.get?_cutStem,
      reads (by decide), collected_services, service_label_iff]

/-- A script by which identities are captured that look like labels, with secrets that are escaped. -/
def capturingScript : RunnerScript :=
  { RunnerScript.quiet with
    credentials := [("hs1", .ofList [("credential_@a:hs1", "\"p$a\\n"), ("@b:hs1", "b")])]
    devices := [("hs1", .ofList [("application_service_@a:hs1", "DEV$")])] }

/-- A server with a service. -/
def servedInstance : Instance :=
  ⟨⟨"hs1", hs1_named⟩, none, [],
    [⟨"credential_", "hs", "as", "http://host:9000", "bot", false, false, false⟩]⟩

/-- A blueprint of that server, of which one identity is kept. -/
def Blueprint.served : Blueprint where
  name := ⟨"bp", bp_named⟩
  instances := [servedInstance]
  keepCredentialsFor := ["credential_@a:hs1"]
  nonempty := by simp
  distinct := by decide

/-- What the script says is recovered in another namespace. -/
theorem deploy_recovers_captured_of_script :
    let config := { Config.usual with baseImage := "img" }
    let connect : Nat → Except Failure Unit := fun _ => .ok ()
    let request : DeployRequest := ⟨"img", "c1", "default", "bp", "hs1", ∅, "n"⟩
    let host := (Deployment.deploy config request (Host.fresh ∅)).state
    let construction : Construction := ⟨servedInstance, "default.bp.hs1", "default",
      some "000000000001c0de", "http://127.0.0.1:32768", none⟩
    let later := (labelAndCommit Blueprint.served capturingScript.runner construction host).state
    let again : DeployRequest :=
      ⟨"localhost/commander:default.bp.hs1", "c2", "other", "copy", "hs9", ∅, "n"⟩
    ∃ commitment deployment,
      commitmentOn Blueprint.served capturingScript.runner construction host = some commitment ∧
      Uncaptured (commitment.container.labels.getD ∅) ∧
      later.Refers again.baseImage commitment.image ∧
      (Deployment.deployThrough connect ClientCache.empty config again later).result =
        .ok deployment ∧
      ∃ credentials devices,
        (capturingScript.runner.credentials "hs1" host).result = .ok credentials ∧
        (capturingScript.runner.devices "hs1"
          (capturingScript.runner.credentials "hs1" host).state).result = .ok devices ∧
        Recovers Blueprint.served servedInstance credentials devices deployment := by
  intro config connect request host construction later again
  have commits : (commitmentOn Blueprint.served capturingScript.runner construction
      host).map (·.container.labels) =
        some (some (resourceLabels "default" (some "bp") (some "hs1"))) := by
    decide +kernel
  obtain ⟨commitment, committed, labelled⟩ := Option.map_eq_some_iff.mp commits
  have bare : Uncaptured (commitment.container.labels.getD ∅) := by
    rw [labelled]
    exact resource_labels_uncaptured "default" "bp" "hs1"
  have empty : (readyToCommit Blueprint.served capturingScript.runner construction
      host).state.images = [] := by
    decide +kernel
  have refers : later.Refers again.baseImage commitment.image := by
    apply label_and_commit_refers committed
    simp [empty]
  have answers : (Deployment.deployThrough connect ClientCache.empty config again
      later).result.isOk = true := by
    decide +kernel
  cases deployed : (Deployment.deployThrough connect ClientCache.empty config again later).result with
  | error failure =>
      rw [deployed] at answers
      cases answers
  | ok deployment =>
      have recovered := deploy_recovers_captured committed bare refers deployed
      exact ⟨commitment, deployment, committed, bare, refers, rfl, recovered⟩

end FixtureImages
