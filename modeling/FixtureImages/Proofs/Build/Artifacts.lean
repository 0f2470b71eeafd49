import FixtureImages.Proofs.Blueprint.Names
import FixtureImages.Proofs.Build.Success

/-!
# Artifacts that are not shared

The image and the container of an instance are named by three names with dots between them. No name
that is accepted has a dot, so the three can be read back, and artifacts of one name are of the same
namespace, blueprint and instance. Within a blueprint that is what its distinct instances come to.
-/

namespace FixtureImages

set_option autoImplicit false

/-! ## Names in a context -/

theorem name_undotted {chars : List Char} (named : isName chars = true) : '.' ∉ chars := by
  intro dotted
  rw [← String.toList_ofList (l := chars)] at named dotted
  rcases ((is_name_iff _).mp named).character dotted with own | feed
  · rw [← is_name_char_iff] at own
    exact absurd own (by decide)
  · exact absurd feed (by decide)

/-- A text with a dot is no name, whatever it is to name. -/
theorem Name.of_dotted (what : String) {text : String} (dotted : '.' ∈ text.toList) :
    Name.of what (some text) = .error ⟨what, some text⟩ :=
  dif_neg fun named => name_undotted named dotted

theorem Name.eq_of_text {one other : Name} (same : one.text = other.text) : one = other := by
  cases one
  cases other
  cases same
  rfl

/-- The names in a context are what stands between its dots. -/
theorem context_split (scope blueprint server : Name) :
    (contextOf scope.text blueprint.text server.text).toList.splitOn '.' =
      [scope.text.toList, blueprint.text.toList, server.text.toList] := by
  have joined : (contextOf scope.text blueprint.text server.text).toList =
      scope.text.toList ++ '.' :: (blueprint.text.toList ++ '.' :: server.text.toList) := by
    simp [contextOf]
  rw [joined, List.splitOn_append_cons_self_of_not_mem (name_undotted scope.valid),
    List.splitOn_append_cons_self_of_not_mem (name_undotted blueprint.valid),
    List.splitOn_eq_singleton (name_undotted server.valid)]

theorem context_eq_iff {scope blueprint server scope' blueprint' server' : Name} :
    contextOf scope.text blueprint.text server.text =
        contextOf scope'.text blueprint'.text server'.text ↔
      scope = scope' ∧ blueprint = blueprint' ∧ server = server' := by
  constructor
  · intro same
    -- both sides are read back from one text
    have parts := context_split scope blueprint server
    rw [same, context_split] at parts
    simp only [List.cons.injEq, String.toList_inj, and_true] at parts
    obtain ⟨first, second, third⟩ := parts
    exact ⟨Name.eq_of_text first.symm, Name.eq_of_text second.symm, Name.eq_of_text third.symm⟩
  · rintro ⟨rfl, rfl, rfl⟩
    rfl

/-! ## Whose artifacts they are -/

/-- An instance of a blueprint, in the namespace of a configuration. -/
structure Owner where
  config : Config
  blueprint : Blueprint
  server : Instance
  listed : server ∈ blueprint.instances

namespace Owner

/-- The namespace, the blueprint and the instance. -/
def names (owner : Owner) : Name × Name × Name :=
  (owner.config.scope, owner.blueprint.name, owner.server.name)

/-- The repository and the tag that the instance is committed under. -/
def reference (owner : Owner) : String × String :=
  imageReference owner.config.scope.text owner.blueprint.name.text owner.server.name.text

/-- The image that others look the instance up by. -/
def image (owner : Owner) : String :=
  imageName owner.config.scope.text owner.blueprint.name.text owner.server.name.text

/-- The name that a deployer is asked to give the container of the instance. -/
def container (owner : Owner) (network : String) : String :=
  (deployRequestFor owner.server owner.blueprint.name.text network owner.config).containerName

end Owner

/-- Two artifacts have one name only when their owners have the same names. -/
theorem Owner.names_eq_of_shared {one other : Owner} {network network' : String}
    (shared : one.reference = other.reference ∨ one.image = other.image ∨
      one.container network = other.container network') : one.names = other.names := by
  have same : contextOf one.config.scope.text one.blueprint.name.text one.server.name.text =
      contextOf other.config.scope.text other.blueprint.name.text other.server.name.text := by
    rcases shared with reference | image | container
    · exact congrArg Prod.snd reference
    · exact (String.append_right_inj _).mp image
    · exact (String.append_right_inj _).mp container
  obtain ⟨scope, blueprint, server⟩ := context_eq_iff.mp same
  rw [names, names, scope, blueprint, server]

/-! ## Within a blueprint -/

/-- The references of instances, in order. -/
def referencesOf (scope blueprint : Name) (instances : List Instance) : List (String × String) :=
  instances.map fun server => imageReference scope.text blueprint.text server.name.text

/-- The images that instances are looked up by. -/
def imagesOf (scope blueprint : Name) (instances : List Instance) : List String :=
  instances.map fun server => imageName scope.text blueprint.text server.name.text

/-- The names of the containers that instances are built in. -/
def containersOf (config : Config) (blueprint : Name) (network : String)
    (instances : List Instance) : List String :=
  instances.map fun server =>
    (deployRequestFor server blueprint.text network config).containerName

/-- Whatever tells instances apart by their names is distinct exactly when the names are. -/
theorem nodup_map_iff_names {α : Type} {f : Instance → α} {instances : List Instance}
    (same : ∀ one other, f one = f other ↔ one.name = other.name) :
    (instances.map f).Nodup ↔ (instanceNames instances).Nodup := by
  have texts (one other : Instance) : one.name.text = other.name.text ↔ one.name = other.name :=
    ⟨Name.eq_of_text, congrArg Name.text⟩
  simp only [instanceNames, List.Nodup, List.pairwise_map, ne_eq, same, texts]

theorem references_nodup_iff {scope blueprint : Name} {instances : List Instance} :
    (referencesOf scope blueprint instances).Nodup ↔ (instanceNames instances).Nodup :=
  nodup_map_iff_names fun one other => by simp [imageReference, context_eq_iff]

theorem images_nodup_iff {scope blueprint : Name} {instances : List Instance} :
    (imagesOf scope blueprint instances).Nodup ↔ (instanceNames instances).Nodup :=
  nodup_map_iff_names fun one other => by simp [imageName, imageReference, context_eq_iff]

theorem containers_nodup_iff {config : Config} {blueprint : Name} {network : String}
    {instances : List Instance} :
    (containersOf config blueprint network instances).Nodup ↔ (instanceNames instances).Nodup :=
  nodup_map_iff_names fun one other => by simp [deployRequestFor, containerName, context_eq_iff]

/-- Instances make a blueprint exactly when there are some, and no two with one reference. -/
theorem blueprint_of_iff (scope name : Name) (instances : List Instance) (keep : List String) :
    (∃ blueprint, Blueprint.of name instances keep = .ok blueprint) ↔
      instances ≠ [] ∧ (referencesOf scope name instances).Nodup := by
  rw [references_nodup_iff]
  constructor
  · rintro ⟨blueprint, made⟩
    obtain ⟨-, rfl, -⟩ := Blueprint.of_ok_iff.mp made
    exact ⟨blueprint.nonempty, blueprint.distinct⟩
  · rintro ⟨nonempty, distinct⟩
    exact ⟨⟨name, instances, keep, nonempty, distinct⟩, Blueprint.of_ok_iff.mpr ⟨rfl, rfl, rfl⟩⟩

/-! ## Commits of builds -/

/-- The repository and the tag that a commit writes. -/
def Commitment.reference (commitment : Commitment) : String × String :=
  (commitment.request.repository, commitment.request.tag)

namespace Builder

variable (builder : Builder) (blueprint : Blueprint) (host : Host)

/-- Whether or not a build succeeds, what it commits are some of the instances of its blueprint, in
order, each under its own reference. -/
theorem commits_on_owned :
    ((commitsOn builder blueprint host).map Commitment.server).Sublist blueprint.instances ∧
    ∀ commitment ∈ commitsOn builder blueprint host, commitment.Sound builder.scope blueprint := by
  rcases commits_on_cases builder blueprint host with
    nothing | ⟨progress, runner, advanced, complete⟩
  · rw [nothing]
    exact ⟨List.nil_sublist _, by simp⟩
  · obtain ⟨covers, -⟩ := advance_gives builder blueprint host progress advanced
    have named := advance_named builder blueprint host progress advanced
    rw [Progress.Covers, complete] at covers
    rw [commits_on_eq advanced complete]
    refine ⟨?_, commits_from_sound named _⟩
    have committed := @commits_from_sublist blueprint runner progress.built
      (advance builder blueprint host).state
    have servers := committed.map Construction.server
    rwa [List.map_map, ← covers] at servers

theorem commits_on_references :
    ((commitsOn builder blueprint host).map Commitment.reference).Sublist
      (referencesOf builder.config.scope blueprint.name blueprint.instances) := by
  obtain ⟨servers, sound⟩ := commits_on_owned builder blueprint host
  have own : (commitsOn builder blueprint host).map Commitment.reference =
      referencesOf builder.config.scope blueprint.name
        ((commitsOn builder blueprint host).map Commitment.server) := by
    rw [referencesOf, List.map_map]
    exact List.map_congr_left fun commitment member => (sound commitment member).reference
  rw [own]
  exact servers.map _

variable {builder blueprint host}

/-- Whose a commit of a build is. -/
theorem commitment_owned {commitment : Commitment}
    (member : commitment ∈ commitsOn builder blueprint host) :
    ∃ owner : Owner, owner.config = builder.config ∧ owner.blueprint = blueprint ∧
      owner.server = commitment.server ∧ commitment.reference = owner.reference := by
  obtain ⟨servers, sound⟩ := commits_on_owned builder blueprint host
  have listed := servers.subset (List.mem_map_of_mem member)
  exact ⟨⟨builder.config, blueprint, commitment.server, listed⟩, rfl, rfl, rfl,
    (sound commitment member).reference⟩

end Builder

/-! ## Nothing is shared -/

/-- No two instances, blueprints or namespaces that are accepted have an artifact in common. -/
structure NothingShared : Prop where
  /-- Images and containers of one name are of the same namespace, blueprint and instance. -/
  apart : ∀ (one other : Owner) (network network' : String),
    one.reference = other.reference ∨ one.image = other.image ∨
      one.container network = other.container network' → one.names = other.names
  /-- No dot can slip into a name. -/
  dotted : ∀ (what text : String), '.' ∈ text.toList →
    Name.of what (some text) = .error ⟨what, some text⟩
  /-- Instances are accepted exactly when there are some and their images do not clash. -/
  accepted : ∀ (scope name : Name) (instances : List Instance) (keep : List String),
    (∃ blueprint, Blueprint.of name instances keep = .ok blueprint) ↔
      instances ≠ [] ∧ (referencesOf scope name instances).Nodup
  /-- The instances of a blueprint do not clash in any way. -/
  within : ∀ (config : Config) (blueprint : Blueprint) (network : String),
    blueprint.instances ≠ [] ∧
    (referencesOf config.scope blueprint.name blueprint.instances).Nodup ∧
    (imagesOf config.scope blueprint.name blueprint.instances).Nodup ∧
    (containersOf config blueprint.name network blueprint.instances).Nodup
  /-- No build commits two instances under one reference. -/
  once : ∀ (builder : Builder) (blueprint : Blueprint) (host : Host),
    ((Builder.commitsOn builder blueprint host).map Commitment.reference).Nodup
  /-- Commits of any two builds under one reference are of the same namespace, blueprint and
  instance. -/
  commits : ∀ (builder other : Builder) (blueprint another : Blueprint) (host later : Host),
    ∀ one ∈ Builder.commitsOn builder blueprint host,
    ∀ two ∈ Builder.commitsOn other another later, one.reference = two.reference →
      builder.config.scope = other.config.scope ∧ blueprint.name = another.name ∧
        one.server.name = two.server.name

/-- Names keep the artifacts of all instances apart, however they were accepted. -/
theorem nothing_shared : NothingShared where
  apart _ _ _ _ shared := Owner.names_eq_of_shared shared
  dotted what _ inside := Name.of_dotted what inside
  accepted := blueprint_of_iff
  within _ blueprint _ := ⟨blueprint.nonempty, references_nodup_iff.mpr blueprint.distinct,
    images_nodup_iff.mpr blueprint.distinct, containers_nodup_iff.mpr blueprint.distinct⟩
  once builder blueprint host :=
    (references_nodup_iff.mpr blueprint.distinct).sublist
      (Builder.commits_on_references builder blueprint host)
  commits builder other blueprint another host later one member two member' same := by
    obtain ⟨owner, config, plan, server, own⟩ := Builder.commitment_owned member
    obtain ⟨owner', config', plan', server', own'⟩ := Builder.commitment_owned member'
    have names := @Owner.names_eq_of_shared owner owner' "" "" (.inl (by rw [← own, same, own']))
    rw [Owner.names, Owner.names, Prod.mk.injEq, Prod.mk.injEq] at names
    rw [← config, ← config', ← plan, ← plan', ← server, ← server']
    exact names

end FixtureImages
