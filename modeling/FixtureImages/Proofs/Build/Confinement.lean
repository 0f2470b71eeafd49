import FixtureImages.Proofs.Build.Artifacts
import FixtureImages.Proofs.Deployment.Recovery

/-!
# Credentials of unlisted identities

Where identities are listed whose credentials are kept, a commit writes a credential for those only.
Directives go over the labels of the container and remove none of them, so for all other identities
the image has what its container had, and nothing that was captured. A container made of an image
that tells of credentials itself hands them on.
-/

namespace FixtureImages

set_option autoImplicit false

/-- Labels carry a credential of an identity. -/
def CarriesCredential (labels : Option Labels) (identity : String) : Prop :=
  credentialStem ++ identity ∈ (labels.getD ∅).keys

instance (labels : Option Labels) (identity : String) :
    Decidable (CarriesCredential labels identity) :=
  inferInstanceAs (Decidable (_ ∈ _))

/-- The image of a commit carries credentials of listed identities, and beside them only what its
container carried. -/
structure Commitment.Confined (listed : List String) (commitment : Commitment) : Prop where
  carries : ∀ identity, CarriesCredential commitment.image.labels identity →
    identity ∈ listed ∨ CarriesCredential commitment.container.labels identity
  unlisted : ∀ identity, identity ∉ listed →
    (commitment.image.labels.getD ∅).get? (credentialStem ++ identity) =
      (commitment.container.labels.getD ∅).get? (credentialStem ++ identity)

section

variable {blueprint : Blueprint} (lists : blueprint.keepCredentialsFor ≠ [])

include lists

theorem commitment_on_unlisted {runner : Runner} {construction : Construction} {host : Host}
    {commitment : Commitment}
    (committed : commitmentOn blueprint runner construction host = some commitment)
    {identity : String} (unlisted : identity ∉ blueprint.keepCredentialsFor) :
    (commitment.image.labels.getD ∅).get? (credentialStem ++ identity) =
      (commitment.container.labels.getD ∅).get? (credentialStem ++ identity) := by
  obtain ⟨credentials, devices, -, -, written⟩ := commitment_collects committed
  have dropped : (collectedLabels construction blueprint credentials devices).get?
      (credentialStem ++ identity) = none := by
    rw [collected_credentials, kept_credentials, if_neg (not_or.mpr ⟨lists, unlisted⟩)]
  rw [written, Option.getD_some, Table.get?_overlay, dropped, Option.none_or]

theorem commitment_on_confined {runner : Runner} {construction : Construction} {host : Host}
    {commitment : Commitment}
    (committed : commitmentOn blueprint runner construction host = some commitment) :
    commitment.Confined blueprint.keepCredentialsFor where
  unlisted _ unlisted := commitment_on_unlisted lists committed unlisted
  carries identity carried := by
    by_cases listed : identity ∈ blueprint.keepCredentialsFor
    · exact .inl listed
    · right
      rw [CarriesCredential, ← Table.get?_isSome_iff] at carried ⊢
      rwa [← commitment_on_unlisted lists committed listed]

end

/-- Whatever was captured, no commit of a blueprint that lists identities adds a credential of
another one, be it a commit of a build or of any instances on any host. -/
theorem commits_confined {blueprint : Blueprint} (lists : blueprint.keepCredentialsFor ≠ []) :
    (∀ (runner : Runner) (built : List Construction) (host : Host),
      ∀ commitment ∈ commitsFrom blueprint runner built host,
        commitment.Confined blueprint.keepCredentialsFor) ∧
    ∀ (builder : Builder) (host : Host), ∀ commitment ∈ Builder.commitsOn builder blueprint host,
      commitment.Confined blueprint.keepCredentialsFor := by
  have each (runner : Runner) (built : List Construction) (host : Host) :
      ∀ commitment ∈ commitsFrom blueprint runner built host,
        commitment.Confined blueprint.keepCredentialsFor := by
    intro commitment member
    obtain ⟨construction, -, later, committed⟩ := commits_from_mem member
    exact commitment_on_confined lists committed
  refine ⟨each, fun builder host commitment member => ?_⟩
  rcases Builder.commits_on_cases builder blueprint host with
    nothing | ⟨progress, runner, advanced, complete⟩
  · rw [nothing] at member
    exact absurd member List.not_mem_nil
  · rw [Builder.commits_on_eq advanced complete] at member
    exact each runner _ _ commitment member

/-! ## A build upon a build -/

private theorem upper_blueprint_named : isName "upper".toList = true := by decide

/-- A blueprint of the two servers again, of which only one identity is kept. -/
def Blueprint.upper : Blueprint :=
  { Blueprint.pair with
    name := ⟨"upper", upper_blueprint_named⟩, keepCredentialsFor := ["@c:hs1"] }

/-- A builder upon an image of choice. -/
def builderUpon (baseImage : String) (script : RunnerScript) : Builder :=
  Builder.deployingBuilder { Config.usual with baseImage } script

/-- A host after the two servers were built and all credentials kept, that of `@b:hs1` among them. -/
def stackedHost : Host :=
  (Builder.construct (builderUpon "img" capturingScript) Blueprint.pair (Host.fresh ∅)).state

/-- A script by which two identities are captured, one of them for the second time. -/
def recapturingScript : RunnerScript :=
  { RunnerScript.quiet with
    credentials := [("hs1", .ofList [("@b:hs1", "new"), ("@c:hs1", "c"), ("@d:hs1", "d")])] }

/-- A builder upon the image of `hs1` there. -/
def upperBuilder : Builder := builderUpon "localhost/commander:default.bp.hs1" recapturingScript

/-- An upper image has the credential of `@b:hs1` from the image below, and that of `@c:hs1` as it is
captured, but none of `@d:hs1`. -/
theorem upper_commit : ∃ commitment ∈ Builder.commitsOn upperBuilder Blueprint.upper stackedHost,
    CarriesCredential commitment.image.labels "@b:hs1" ∧
    CarriesCredential commitment.image.labels "@c:hs1" ∧
    ¬CarriesCredential commitment.image.labels "@d:hs1" := by
  have found : (Builder.commitsOn upperBuilder Blueprint.upper stackedHost).any (fun commitment =>
      decide (CarriesCredential commitment.image.labels "@b:hs1" ∧
        CarriesCredential commitment.image.labels "@c:hs1" ∧
        ¬CarriesCredential commitment.image.labels "@d:hs1")) = true := by
    decide +kernel
  obtain ⟨commitment, member, carried⟩ := List.any_eq_true.mp found
  exact ⟨commitment, member, of_decide_eq_true carried⟩

/-- So not all that an image tells of is listed: the credential of `@b:hs1` is handed on, though the
blueprint lists `@c:hs1` alone. -/
theorem credentials_handed_on : ¬∀ (builder : Builder) (blueprint : Blueprint) (host : Host),
    blueprint.keepCredentialsFor ≠ [] →
      ∀ commitment ∈ Builder.commitsOn builder blueprint host, ∀ identity,
        CarriesCredential commitment.image.labels identity →
          identity ∈ blueprint.keepCredentialsFor := by
  intro claimed
  obtain ⟨commitment, member, carried, -⟩ := upper_commit
  have listed := claimed upperBuilder Blueprint.upper stackedHost (by decide) commitment member
    "@b:hs1" carried
  exact absurd listed (by decide)

/-- That image is confined all the same. -/
theorem commits_confined_upon_build :
    Blueprint.upper.keepCredentialsFor ≠ [] ∧
      ∃ commitment ∈ Builder.commitsOn upperBuilder Blueprint.upper stackedHost,
        commitment.Confined Blueprint.upper.keepCredentialsFor ∧
        CarriesCredential commitment.image.labels "@b:hs1" ∧
        CarriesCredential commitment.image.labels "@c:hs1" ∧
        ¬CarriesCredential commitment.image.labels "@d:hs1" := by
  have lists : Blueprint.upper.keepCredentialsFor ≠ [] := by decide
  obtain ⟨commitment, member, carried⟩ := upper_commit
  exact ⟨lists, commitment, member,
    (commits_confined lists).2 upperBuilder stackedHost commitment member, carried⟩

end FixtureImages
