import FixtureImages.Proofs.Build.Images
import Mathlib.Control.Monad.Basic

/-!
# Built unless there is an image

A blueprint is built only when no image of it is listed. What an attempt leaves may be incomplete
when some commits failed, since the images of the others are kept, and the next attempt finds them.
So an attempt that builds leaves an image of every instance, and one that finds images can miss some
only after an attempt that reported the commits which failed.
-/

namespace FixtureImages.Builder

set_option autoImplicit false

open Action

/-- One call for a blueprint: by a builder, after a pause, with failures to come. -/
structure Attempt where
  builder : Builder
  faults : List FaultRule
  pause : Nat

/-- The host as an attempt finds it. -/
def Attempt.start (attempt : Attempt) (host : Host) : Host :=
  { host with faults := attempt.faults, clock := host.clock + attempt.pause }

def Attempt.run (attempt : Attempt) (blueprint : Blueprint) (host : Host) :
    Outcome Host Event BuildFailure Bool :=
  constructIfMissing attempt.builder blueprint (attempt.start host)

/-- The outcomes of attempts made one after the other. -/
def attemptAll (blueprint : Blueprint) : List Attempt → Host →
    List (Outcome Host Event BuildFailure Bool)
  | [], _ => []
  | attempt :: rest, host =>
      attempt.run blueprint host :: attemptAll blueprint rest (attempt.run blueprint host).state

/-- Whether there is an image of an instance. -/
def HasImage (scope : String) (blueprint : Blueprint) (host : Host) (server : Instance) : Prop :=
  ∃ image ∈ host.images,
    (Query.ofInstance scope blueprint.name.text server.name.text).accepts image.labels = true

/-- Whether there is an image of every instance. -/
def Complete (scope : String) (blueprint : Blueprint) (host : Host) : Prop :=
  ∀ server ∈ blueprint.instances, HasImage scope blueprint host server

instance (scope : String) (blueprint : Blueprint) (host : Host) (server : Instance) :
    Decidable (HasImage scope blueprint host server) :=
  inferInstanceAs (Decidable (∃ image ∈ host.images, _ = true))

instance (scope : String) (blueprint : Blueprint) (host : Host) :
    Decidable (Complete scope blueprint host) :=
  inferInstanceAs (Decidable (∀ server ∈ blueprint.instances, _))

/-! ## One attempt -/

theorem list_images_listed {query : Query} {host : Host} {images : List Image}
    (listed : (Catalog.listImages query host).result = .ok images) :
    ∀ image ∈ images, image ∈ host.images ∧ Listed query image := by
  simp only [Catalog.listImages, Daemon.listImages, bind_apply, perform, look] at listed
  revert listed
  cases (meetFaults (.listImages query.filters) host.faults).2 with
  | some failure =>
      intro listed
      cases listed
  | none =>
      intro listed image member
      cases listed
      obtain ⟨there, shown⟩ := List.mem_filter.mp member
      simp only [Query.meets_filters_eq_accepts, Bool.and_eq_true, Bool.or_eq_true] at shown
      exact ⟨there, shown.2⟩

/-- What one attempt leaves, and what its end tells about it. -/
structure AttemptEnds (scope : String) (blueprint : Blueprint) (committed : List Construction)
    (before : Host) (outcome : Outcome Host Event BuildFailure Bool) : Prop where
  grown : Grown scope blueprint committed before outcome.state
  ours : (committed.map Construction.server).Sublist blueprint.instances
  whole : committed = [] ∨ committed.map Construction.server = blueprint.instances ∨
    PartlyCommitted blueprint outcome.result
  built : outcome.result = .ok true → committed.map Construction.server = blueprint.instances
  reused : outcome.result = .ok false → committed = [] ∧
    ∃ image ∈ before.images, Listed (.ofBlueprint scope blueprint.name.text) image

theorem construct_if_missing_ends {builder : Builder} {blueprint : Blueprint} {host : Host}
    (obeys : builder.CollaboratorsObey (imageLaw builder.scope blueprint))
    (fresh : FreshImageIds host) :
    ∃ committed, AttemptEnds builder.scope blueprint committed host
      (constructIfMissing builder blueprint host) := by
  have lists : (imageLaw builder.scope blueprint).holds
      (Catalog.listImages (builder.queryFor blueprint)) := (keeps_listed_minds_images _).waiting.list _
  have listing : Grown builder.scope blueprint [] host
      (Catalog.listImages (builder.queryFor blueprint) host).state := .of_kept fresh (lists host)
  rw [constructIfMissing, bind_apply, mapFailure]
  cases listed : (Catalog.listImages (builder.queryFor blueprint) host).result with
  | error failure =>
      rw [map_error_error]
      refine ⟨[], listing, List.nil_sublist _, .inl rfl, ?_, ?_⟩
      · intro claimed
        cases claimed
      · intro claimed
        cases claimed
  | ok images =>
      rw [map_error_ok]
      cases images with
      | cons image rest =>
          obtain ⟨there, shown⟩ := list_images_listed listed image List.mem_cons_self
          refine ⟨[], listing, List.nil_sublist _, .inl rfl, ?_, ?_⟩
          · intro claimed
            cases claimed
          · intro _
            exact ⟨rfl, image, there, shown⟩
      | nil =>
          obtain ⟨committed, grown, ours, whole, built⟩ := construct_grows obeys listing.fresh
          refine ⟨committed, ?_⟩
          simp only [List.isEmpty_nil, Bool.not_true, Bool.false_eq_true, if_false]
          cases constructed : (construct builder blueprint
            (Catalog.listImages (builder.queryFor blueprint) host).state).result with
          | error failure =>
              rw [bind_of_error constructed]
              refine ⟨listing.trans grown, ours, ?_, ?_, ?_⟩
              · rw [constructed] at whole
                refine whole.imp_right (Or.imp_right ?_)
                rintro ⟨failures, same, partly⟩
                cases same
                exact ⟨failures, rfl, partly⟩
              · intro claimed
                cases claimed
              · intro claimed
                cases claimed
          | ok ids =>
              rw [bind_of_ok constructed]
              have all := built ids constructed
              refine ⟨listing.trans grown, ours, .inr (.inl all), ?_, ?_⟩
              · intro _
                exact all
              · intro claimed
                cases claimed

/-! ## Attempts one after the other -/

/-- What holds after some attempts, whose ends are given: an image of the blueprint is one of an
instance, and there is one of every instance if there is any, unless commits were reported to have
failed. -/
structure Settled (scope : String) (blueprint : Blueprint)
    (ends : List (Except BuildFailure Bool)) (host : Host) : Prop where
  fresh : FreshImageIds host
  owned : ∀ image ∈ host.images, Listed (.ofBlueprint scope blueprint.name.text) image →
    ∃ server ∈ blueprint.instances, HasImage scope blueprint host server
  complete : (∃ image ∈ host.images, Listed (.ofBlueprint scope blueprint.name.text) image) →
    Complete scope blueprint host ∨ ∃ result ∈ ends, PartlyCommitted blueprint result

section

variable {scope : String} {blueprint : Blueprint} {committed : List Construction}
  {before after : Host}

theorem HasImage.kept {server : Instance} (has : HasImage scope blueprint before server)
    (grown : Grown scope blueprint committed before after) :
    HasImage scope blueprint after server := by
  obtain ⟨image, member, accepted⟩ := has
  have listed : Listed (.ofBlueprint scope blueprint.name.text) image :=
    .inr (Query.accepts_blueprint_of_instance accepted)
  exact ⟨image, grown.kept image member listed, accepted⟩

theorem Complete.kept (complete : Complete scope blueprint before)
    (grown : Grown scope blueprint committed before after) : Complete scope blueprint after :=
  fun server member => (complete server member).kept grown

theorem complete_of_all (grown : Grown scope blueprint committed before after)
    (all : committed.map Construction.server = blueprint.instances) :
    Complete scope blueprint after := by
  intro server member
  rw [← all] at member
  obtain ⟨construction, known, rfl⟩ := List.mem_map.mp member
  exact grown.found construction known

end

/-- One more attempt keeps what holds after attempts, and its end says what it found or built. -/
theorem Settled.attempt {scope : String} {blueprint : Blueprint}
    {ends : List (Except BuildFailure Bool)} {host : Host} {attempt : Attempt}
    (settled : Settled scope blueprint ends host) (same : attempt.builder.scope = scope)
    (obeys : attempt.builder.CollaboratorsObey (imageLaw scope blueprint)) :
    let outcome := attempt.run blueprint host
    Settled scope blueprint (ends ++ [outcome.result]) outcome.state ∧
      (outcome.result = .ok true → Complete scope blueprint outcome.state) ∧
      (outcome.result = .ok false →
        (∃ server ∈ blueprint.instances, HasImage scope blueprint outcome.state server) ∧
          (Complete scope blueprint outcome.state ∨
            ∃ result ∈ ends, PartlyCommitted blueprint result)) := by
  subst same
  have started : Settled attempt.builder.scope blueprint ends (attempt.start host) :=
    ⟨⟨settled.fresh.counted, settled.fresh.unused⟩, settled.owned, settled.complete⟩
  obtain ⟨committed, grown, ours, whole, built, reused⟩ :=
    construct_if_missing_ends obeys started.fresh
  intro outcome
  refine ⟨⟨grown.fresh, fun image member listed => ?_, ?_⟩, fun succeeded => ?_,
    fun succeeded => ?_⟩
  · rcases grown.origin image member listed with old | ⟨construction, known, accepted⟩
    · obtain ⟨server, inside, has⟩ := started.owned image old listed
      exact ⟨server, inside, HasImage.kept has grown⟩
    · exact ⟨construction.server, ours.subset (List.mem_map_of_mem known),
        grown.found construction known⟩
  · rintro ⟨image, member, listed⟩
    rcases whole with none | all | partly
    · have old : image ∈ (attempt.start host).images := by
        rcases grown.origin image member listed with old | ⟨_, known, _⟩
        · exact old
        · simp [none] at known
      rcases started.complete ⟨image, old, listed⟩ with complete | ⟨result, earlier, partly⟩
      · exact .inl (Complete.kept complete grown)
      · exact .inr ⟨result, List.mem_append_left _ earlier, partly⟩
    · exact .inl (complete_of_all grown all)
    · exact .inr ⟨outcome.result, by simp, partly⟩
  · exact complete_of_all grown (built succeeded)
  · obtain ⟨_, image, member, listed⟩ := reused succeeded
    obtain ⟨server, inside, has⟩ := started.owned image member listed
    refine ⟨⟨server, inside, HasImage.kept has grown⟩, ?_⟩
    exact (started.complete ⟨image, member, listed⟩).imp_left fun complete =>
      Complete.kept complete grown

/-- The outcomes of attempts after others, whose ends are given. -/
theorem settled_attempts {scope : String} {blueprint : Blueprint} {attempts : List Attempt}
    (usable : ∀ attempt ∈ attempts, attempt.builder.scope = scope ∧
      attempt.builder.CollaboratorsObey (imageLaw scope blueprint))
    {ends : List (Except BuildFailure Bool)} {host : Host}
    (settled : Settled scope blueprint ends host)
    {earlier later : List (Outcome Host Event BuildFailure Bool)}
    {outcome : Outcome Host Event BuildFailure Bool}
    (run : attemptAll blueprint attempts host = earlier ++ outcome :: later) :
    (outcome.result = .ok true → Complete scope blueprint outcome.state) ∧
      (outcome.result = .ok false →
        (∃ server ∈ blueprint.instances, HasImage scope blueprint outcome.state server) ∧
          (Complete scope blueprint outcome.state ∨
            ∃ result ∈ ends ++ earlier.map Outcome.result, PartlyCommitted blueprint result)) := by
  induction attempts generalizing ends host earlier with
  | nil => simp [attemptAll] at run
  | cons attempt rest ih =>
      obtain ⟨same, obeys⟩ := usable attempt List.mem_cons_self
      obtain ⟨next, built, reused⟩ := settled.attempt same obeys
      cases earlier with
      | nil =>
          obtain ⟨rfl, _⟩ := List.cons.inj run
          refine ⟨built, fun succeeded => ?_⟩
          simpa using reused succeeded
      | cons first others =>
          obtain ⟨rfl, tail⟩ := List.cons.inj run
          have further := ih (fun other member => usable other (List.mem_cons_of_mem _ member))
            next tail
          simpa using further

/-- Attempts on a host without images of the blueprint: one that builds leaves an image of every
instance; one that does not finds an image of an instance, and of every instance unless an earlier
attempt reported that the commits of some but not all instances failed. -/
theorem attempts_complete {scope : String} {blueprint : Blueprint} {attempts : List Attempt}
    {host : Host}
    (usable : ∀ attempt ∈ attempts, attempt.builder.scope = scope ∧
      attempt.builder.CollaboratorsObey (imageLaw scope blueprint))
    (fresh : FreshImageIds host)
    (none : ∀ image ∈ host.images, ¬Listed (.ofBlueprint scope blueprint.name.text) image)
    {earlier later : List (Outcome Host Event BuildFailure Bool)}
    {outcome : Outcome Host Event BuildFailure Bool}
    (run : attemptAll blueprint attempts host = earlier ++ outcome :: later) :
    (outcome.result = .ok true → Complete scope blueprint outcome.state) ∧
      (outcome.result = .ok false →
        (∃ server ∈ blueprint.instances, HasImage scope blueprint outcome.state server) ∧
          (Complete scope blueprint outcome.state ∨
            ∃ result ∈ earlier.map Outcome.result, PartlyCommitted blueprint result)) := by
  have start : Settled scope blueprint [] host :=
    ⟨fresh, fun image member listed => absurd listed (none image member),
      fun ⟨image, member, listed⟩ => absurd listed (none image member)⟩
  simpa using settled_attempts usable start run

/-! ## Builders with the deployer over the daemon -/

/-- A builder with the deployer over the daemon, whose runners follow a script. -/
def deployingBuilder (config : Config) (script : RunnerScript) : Builder :=
  ⟨config, Deployment.deploy config, script.make⟩

theorem deploying_builder_obeys {law : HostLaw} (deploys : law.AdmitsDeploying)
    (performs : ∀ call, call.isScripted = true → law.holds (perform call)) (config : Config)
    (script : RunnerScript) : (deployingBuilder config script).CollaboratorsObey law :=
  ⟨RunnerScript.runners_obey performs script rfl, Deployment.deploy_lawful deploys config⟩

/-- What such a builder's collaborators call is only what scripted runners record and what a
deployment calls. -/
theorem deploying_builder_calls {allowed : Call → Prop}
    (records : ∀ call, call.isScripted = true → allowed call)
    (deploys : ∀ call, call.isDeploying = true → allowed call) (config : Config)
    (script : RunnerScript) :
    (deployingBuilder config script).CollaboratorsObey (.calling allowed) :=
  deploying_builder_obeys (HostLaw.calling_deploying deploys)
    (fun call recorded => HostLaw.calling_perform (records call recorded)) config script

/-- A builder that makes containers on the host, with runners that do nothing. -/
def plainBuilder : Builder :=
  let config := { Config.usual with baseImage := "img" }
  ⟨config, Deployment.deploy config, RunnerScript.quiet.make⟩

/-- The image of `hs1` cannot be committed once. -/
def commitFails : FaultRule :=
  ⟨"container.commit", some "commander_default.bp.hs1", .outside .api "boom" none, 0, some 1⟩

theorem plain_builder_leaves_images (scope : String) (blueprint : Blueprint) :
    plainBuilder.CollaboratorsObey (imageLaw scope blueprint) :=
  deploying_builder_obeys (keeps_listed_minds_images _).deploying
    (fun call _ => (keeps_listed_minds_images _).meets call) _ _

/-- Two attempts on an empty host, of which the first meets a commit that fails. -/
theorem attempts_complete_of_pair :
    let first : Attempt := ⟨plainBuilder, [commitFails], 0⟩
    let second : Attempt := ⟨plainBuilder, [], 0⟩
    let earlier := first.run Blueprint.pair (Host.fresh ∅)
    let outcome := second.run Blueprint.pair earlier.state
    (outcome.result = .ok true → Complete "default" Blueprint.pair outcome.state) ∧
      (outcome.result = .ok false →
        (∃ server ∈ Blueprint.pair.instances,
          HasImage "default" Blueprint.pair outcome.state server) ∧
          (Complete "default" Blueprint.pair outcome.state ∨
            ∃ result ∈ [earlier].map Outcome.result,
              PartlyCommitted Blueprint.pair result)) := by
  intro first second earlier outcome
  refine @attempts_complete "default" Blueprint.pair [first, second] (Host.fresh ∅) ?_ ?_ ?_
    [earlier] [] outcome rfl
  · intro attempt member
    have own : attempt.builder = plainBuilder := by
      rcases List.mem_cons.mp member with rfl | member
      · rfl
      · rw [List.mem_singleton.mp member]
    rw [own]
    exact ⟨rfl, plain_builder_leaves_images _ _⟩
  · exact ⟨rfl, fun image member => absurd member List.not_mem_nil⟩
  · exact fun image member => absurd member List.not_mem_nil

/-- The second of these attempts builds nothing, although there is no image of `hs1`. -/
theorem attempts_leave_incomplete :
    ∃ earlier outcome,
      attemptAll Blueprint.pair [⟨plainBuilder, [commitFails], 0⟩, ⟨plainBuilder, [], 0⟩]
        (Host.fresh ∅) = [earlier, outcome] ∧
      outcome.result = .ok false ∧ ¬Complete "default" Blueprint.pair outcome.state :=
  ⟨_, _, rfl, by decide +kernel, by decide +kernel⟩

end FixtureImages.Builder
