import FixtureImages.Proofs.Build.Attachments
import FixtureImages.Proofs.Deployment.Recovery

/-!
# Services by identifier

An instance lists its services, but they travel by their identifiers: to the deployer of the
instance, and on labels to its image. Of services that share an identifier the last one is kept. So
there is one entry for each service exactly if their identifiers differ, and an instance does not
have to see to that.
-/

namespace FixtureImages

set_option autoImplicit false

open Action

/-- What is written on a label for a service. -/
def ApplicationService.descriptor (service : ApplicationService) : String :=
  inlineBreaks service.registration

/-- What that is read as. -/
def ApplicationService.restored (service : ApplicationService) : String :=
  restoreBreaks service.descriptor

def serviceIds (services : List ApplicationService) : List String := services.map (·.id)

/-- The last service with an identifier. -/
def lastWith (services : List ApplicationService) (id : String) : Option ApplicationService :=
  services.reverse.find? fun service => service.id == id

/-! ## One entry for each service -/

section

variable {write : ApplicationService → String} {services : List ApplicationService}
  {entries : Labels} {service : ApplicationService} {id : String}

theorem last_with_mem (found : lastWith services id = some service) :
    service ∈ services ∧ service.id = id := by
  have own := List.find?_some found
  rw [beq_iff_eq] at own
  exact ⟨List.mem_reverse.mp (List.mem_of_find?_eq_some found), own⟩

theorem last_with_is_some_iff : (lastWith services id).isSome = true ↔ id ∈ serviceIds services := by
  simp [lastWith, serviceIds]

theorem last_with_of_nodup (distinct : (serviceIds services).Nodup) (member : service ∈ services) :
    lastWith services service.id = some service := by
  have known := last_with_is_some_iff.mpr (List.mem_map_of_mem member)
  obtain ⟨last, found⟩ := Option.isSome_iff_exists.mp known
  obtain ⟨listed, same⟩ := last_with_mem found
  rw [found, List.inj_on_of_nodup_map distinct listed member same]

/-- There are as many entries as services, and each service has its own. -/
structure OnePerService (write : ApplicationService → String) (services : List ApplicationService)
    (entries : Labels) : Prop where
  own : ∀ service ∈ services, entries.get? service.id = some (write service)
  count : entries.size = services.length

/-- Under each identifier stands what the last service with it wrote, and nothing else does. -/
structure KeepsLast (write : ApplicationService → String) (services : List ApplicationService)
    (entries : Labels) : Prop where
  last : ∀ id, entries.get? id = (lastWith services id).map write
  count : entries.size = (serviceIds services).dedup.length
  each : OnePerService write services entries ↔ (serviceIds services).Nodup

/-- Repeated identifiers leave fewer entries than services. -/
theorem nodup_of_one_per_service (count : entries.size = (serviceIds services).dedup.length)
    (each : OnePerService write services entries) : (serviceIds services).Nodup := by
  have whole : (serviceIds services).dedup.length = (serviceIds services).length := by
    rw [← count, each.count, serviceIds, List.length_map]
  exact List.dedup_eq_self.mp ((List.dedup_sublist _).eq_of_length whole)

theorem keeps_last_of_get (last : ∀ id, entries.get? id = (lastWith services id).map write) :
    KeepsLast write services entries := by
  have count : entries.size = (serviceIds services).dedup.length := by
    refine Table.size_eq_dedup fun id => ?_
    rw [← Table.get?_isSome_iff, last, Option.isSome_map, last_with_is_some_iff]
  refine ⟨last, count, nodup_of_one_per_service count, fun distinct => ⟨?_, ?_⟩⟩
  · intro service member
    rw [last, last_with_of_nodup distinct member, Option.map_some]
  · rw [count, distinct.dedup, serviceIds, List.length_map]

end

theorem service_labels_last (services : List ApplicationService) (id : String) :
    (serviceLabels services).get? (serviceStem ++ id) =
      (lastWith services id).map ApplicationService.descriptor := by
  have stems (service : ApplicationService) :
      (serviceStem ++ service.id == serviceStem ++ id) = (service.id == id) := by
    rw [Bool.eq_iff_iff, beq_iff_eq, beq_iff_eq]
    simp [← String.toList_inj]
  rw [serviceLabels, Table.get?_ofList, ← List.map_reverse, List.find?_map, Option.map_map]
  simp only [Function.comp_def, stems]
  rfl

theorem registrations_last (server : Instance) :
    KeepsLast ApplicationService.restored server.services (registrationsOf server) := by
  apply keeps_last_of_get
  intro id
  rw [registrationsOf, servicesOf, Table.get?_mapValues, Table.get?_cutStem, service_labels_last,
    Option.map_map]
  rfl

/-! ## What a deployer is handed -/

/-- A deployer of which only the calls are recorded. -/
def Deployer.watched (deployer : Deployer) : Deployer := fun request =>
  asCall (.deploy request) (deployer request)

theorem set_up_asks_nothing (runner : Runner) (deployed : Construction) (host : Host) :
    (callsOf (setUpInstance runner.watched deployed host :
      Outcome Host Event Failure Construction).trace).filter Call.isDeploy = [] := by
  have none : Builder.noDeployments.holds
      (setUpInstance runner.watched deployed : HostAction Failure Construction) :=
    set_up_instance_lawful deployed fun _ _ => as_call_lawful (by rfl) _
  refine List.filter_eq_nil_iff.mpr fun made member => ?_
  rw [none host _ (mem_calls_of.mp member) made rfl]
  decide

/-- A deployer is asked once for an instance, if a base image is known for it. -/
theorem construct_instance_asks (server : Instance) (blueprint network : String) (config : Config)
    (deployer : Deployer) (runner : Runner) (host : Host) :
    (callsOf (constructInstance server blueprint network config deployer.watched runner.watched
      host : Outcome Host Event Failure Construction).trace).filter Call.isDeploy =
      if (baseImageOf server config).isEmpty then []
      else [.deploy (deployRequestFor server blueprint network config)] := by
  generalize same : deployRequestFor server blueprint network config = request
  rw [deployRequestFor] at same
  simp only [constructInstance, noteInstance, note_bind_apply, same]
  split
  · rfl
  · cases deployed : (deployer request host).result with
    | error failure =>
        simp only [attempt_bind_apply, Deployer.watched, asCall, deployed]
        rfl
    | ok deployment =>
        simp only [attempt_bind_apply, Deployer.watched, asCall, deployed, note_bind_apply,
          calls_of_call, calls_of_log, List.cons_append, List.nil_append]
        rw [List.filter_cons_of_pos (by rfl), set_up_asks_nothing]

/-! ## What goes onto an image -/

/-- The labels of services on a resource, by identifier. -/
def servicesOn (labels : Labels) : Labels := labels.cutStem serviceStem

theorem services_on_get (labels : Labels) (id : String) :
    (servicesOn labels).get? id = labels.get? (serviceStem ++ id) :=
  Table.get?_cutStem serviceStem labels id

/-- What a commit writes of services, and what is then on the image. -/
structure Commitment.KeepsServices (services : List ApplicationService) (commitment : Commitment) :
    Prop where
  sent : KeepsLast ApplicationService.descriptor services
    (servicesOn (Directive.decode commitment.request.changes))
  /-- It lies over what the container has. -/
  image : ∀ id, (servicesOn (commitment.image.labels.getD ∅)).get? id =
    ((lastWith services id).map ApplicationService.descriptor).or
      ((servicesOn (commitment.container.labels.getD ∅)).get? id)
  bare : (∀ id, (servicesOn (commitment.container.labels.getD ∅)).get? id = none) →
    KeepsLast ApplicationService.descriptor services
      (servicesOn (commitment.image.labels.getD ∅))

theorem commitment_keeps_services {blueprint : Blueprint} {runner : Runner}
    {construction : Construction} {host : Host} {commitment : Commitment}
    (committed : commitmentOn blueprint runner construction host = some commitment) :
    commitment.KeepsServices construction.server.services := by
  obtain ⟨credentials, devices, -, -, gathered, written⟩ := commitment_gathers committed
  have own (id : String) : commitment.labels.get? (serviceStem ++ id) =
      (lastWith construction.server.services id).map ApplicationService.descriptor := by
    rw [gathered, collected_services, service_labels_last]
  have image (id : String) : (servicesOn (commitment.image.labels.getD ∅)).get? id =
      ((lastWith construction.server.services id).map ApplicationService.descriptor).or
        ((servicesOn (commitment.container.labels.getD ∅)).get? id) := by
    rw [services_on_get, services_on_get, written, Option.getD_some, Table.get?_overlay, own]
  refine ⟨keeps_last_of_get fun id => ?_, image, fun bare => keeps_last_of_get fun id => ?_⟩
  · rw [services_on_get, ← own id]
    exact Directive.decode_of_labels commitment.labels _
  · rw [image, bare, Option.or_none]

/-! ## What is kept of the services of an instance -/

/-- What is kept of the services of an instance, wherever it is constructed and committed. -/
structure ServicesKept (server : Instance) : Prop where
  /-- A deployer is asked once, if a base image is known. -/
  asked : ∀ (blueprint network : String) (config : Config) (deployer : Deployer) (runner : Runner)
    (host : Host),
    (callsOf (constructInstance server blueprint network config deployer.watched runner.watched
      host : Outcome Host Event Failure Construction).trace).filter Call.isDeploy =
      if (baseImageOf server config).isEmpty then []
      else [.deploy (deployRequestFor server blueprint network config)]
  handed : ∀ blueprint network config, KeepsLast ApplicationService.restored server.services
    (deployRequestFor server blueprint network config).registrations
  committed : ∀ blueprint runner construction host commitment,
    commitmentOn blueprint runner construction host = some commitment →
      construction.server = server → commitment.KeepsServices server.services

theorem services_kept (server : Instance) : ServicesKept server where
  asked := construct_instance_asks server
  handed _ _ _ := registrations_last server
  committed := by
    rintro blueprint runner construction host commitment committed rfl
    exact commitment_keeps_services committed

/-! ## Services that share an identifier -/

/-- Data of a service and its tokens. -/
def bridgeData (serverToken serviceToken sender : String) : Value :=
  .map [(.text "id", .text "bridge"), (.text "hs_token", .text serverToken),
    (.text "as_token", .text serviceToken), (.text "sender_localpart", .text sender)]

/-- Data of an instance with two services of one identifier. -/
def twoBridgesData : Value :=
  .map [(.text "name", .text "hs1"),
    (.text "application_services",
      .list [bridgeData "h1" "a1" "bot1", bridgeData "h2" "a2" "bot2"])]

def twoBridges : Instance :=
  ⟨⟨"hs1", hs1_named⟩, none, [],
    [⟨"bridge", "h1", "a1", "", "bot1", false, false, false⟩,
      ⟨"bridge", "h2", "a2", "", "bot2", false, false, false⟩]⟩

/-- A blueprint of that instance. -/
def Blueprint.twoBridges : Blueprint where
  name := ⟨"bp", bp_named⟩
  instances := [FixtureImages.twoBridges]
  keepCredentialsFor := []
  nonempty := by simp
  distinct := by decide

/-- A configuration with a base image. -/
def bridgeConfig : Config := { Config.usual with baseImage := "img" }

/-- The instance as it is constructed on a fresh host. -/
def bridgeOutcome : Outcome Host Event Failure Construction :=
  constructInstance twoBridges "bp" "n" bridgeConfig (Deployment.deploy bridgeConfig)
    RunnerScript.quiet.runner (Host.fresh ∅)

/-- The data are valid, but neither a deployer nor an image gets an entry for each service. -/
theorem repeated_id_loses_service : Instance.ofValue twoBridgesData = .ok twoBridges ∧
    (∃ network config deployer runner host request,
      .call (.deploy request) ∈ (constructInstance twoBridges "bp" network config
        (Deployer.watched deployer) (Runner.watched runner) host :
          Outcome Host Event Failure Construction).trace ∧
      ¬OnePerService ApplicationService.restored twoBridges.services request.registrations) ∧
    ∃ construction commitment, bridgeOutcome.result = .ok construction ∧
      commitmentOn Blueprint.twoBridges RunnerScript.quiet.runner construction
        bridgeOutcome.state = some commitment ∧
      ¬OnePerService ApplicationService.descriptor twoBridges.services
        (servicesOn (commitment.image.labels.getD ∅)) := by
  have repeated : ¬(serviceIds twoBridges.services).Nodup := by decide
  refine ⟨by rfl, ?_, ?_⟩
  · have asked := construct_instance_asks twoBridges "bp" "n" bridgeConfig
      (Deployment.deploy bridgeConfig) RunnerScript.quiet.runner (Host.fresh ∅)
    have known : ¬(baseImageOf twoBridges bridgeConfig).isEmpty = true := by decide
    rw [if_neg known] at asked
    have made := List.mem_of_mem_filter (asked ▸ List.mem_singleton_self _)
    refine ⟨_, _, _, _, _, _, mem_calls_of.mp made, fun each => ?_⟩
    exact repeated ((registrations_last twoBridges).each.mp each)
  · let construction : Construction := ⟨twoBridges, "default.bp.hs1", "default",
      some "000000000001c0de", "http://127.0.0.1:32768", none⟩
    have constructed : bridgeOutcome.result = .ok construction := by decide +kernel
    have commits : (commitmentOn Blueprint.twoBridges RunnerScript.quiet.runner construction
        bridgeOutcome.state).map (·.container.labels) =
          some (some (resourceLabels "default" (some "bp") (some "hs1"))) := by
      decide +kernel
    obtain ⟨commitment, committed, labelled⟩ := Option.map_eq_some_iff.mp commits
    have kept : commitment.KeepsServices twoBridges.services := commitment_keeps_services committed
    have bare (id : String) :
        (servicesOn (commitment.container.labels.getD ∅)).get? id = none := by
      rw [services_on_get, labelled]
      exact resource_labels_uncaptured "default" "bp" "hs1" serviceStem (by decide) id
    exact ⟨construction, commitment, constructed, committed,
      fun each => repeated ((kept.bare bare).each.mp each)⟩

end FixtureImages
