import FixtureImages.Proofs.Build.Images

/-!
# What a build commits

A build commits its instances one after the other. The commits that succeed are listed here with the
container and the labels that each was made of, and with the image that it made. A build that
succeeds has one for every instance: of the container that was deployed for it, under the name by
which its image is looked up, and with all labels of its ownership.
-/

namespace FixtureImages

set_option autoImplicit false

open Action

variable {Problem : Type}

/-- The labels that directives set. -/
def Directive.decode (changes : List String) : Labels :=
  .ofList (changes.filterMap Directive.read)

theorem Directive.decode_of_labels (labels : Labels) (key : String) :
    (decode (ofLabels labels)).get? key = labels.get? key := by
  have written := Table.get?_overlay Table.empty labels key
  rw [Table.get?_empty, Option.or_none] at written
  rw [decode, read_of_labels]
  exact written

/-- A commit that succeeded: of which instance and container, with which labels, and its image. -/
structure Commitment where
  construction : Construction
  container : Container
  labels : Labels
  image : Image

def commitRequest (construction : Construction) (labels : Labels) : CommitRequest :=
  { repository := localRepository, tag := construction.context, author := commitAuthor
    pause := true, changes := Directive.ofLabels labels }

namespace Commitment

def server (commitment : Commitment) : Instance := commitment.construction.server

def request (commitment : Commitment) : CommitRequest :=
  commitRequest commitment.construction commitment.labels

def call (commitment : Commitment) : Call :=
  .commit commitment.container.name commitment.request

end Commitment

/-! ## The commit of one instance -/

/-- All that comes before the commit of an instance: its labels are collected and its container is
stopped. -/
def readyToCommit (blueprint : Blueprint) (runner : Runner) (construction : Construction) :
    HostAction Failure (Labels × Container) := do
  let labels ← imageLabels construction blueprint runner
  let container ← (stopInstance construction).mapFailure (.stop construction.context)
  return (labels, container)

/-- The commit itself, which nothing but a log record follows. -/
def freeze (construction : Construction) (readied : Labels × Container) :
    HostAction Failure String := do
  let image ← Action.mapFailure (Failure.commit construction.context) <|
    Daemon.commit readied.2 (commitRequest construction readied.1)
  let id := String.ofList (Text.dropFirst "sha256:".toList image.id.toList)
  noteCommit construction.context ("Created docker image " ++ id)
  return id

theorem label_and_commit_eq (blueprint : Blueprint) (runner : Runner)
    (construction : Construction) :
    labelAndCommit blueprint runner construction =
      readyToCommit blueprint runner construction >>= freeze construction := by
  simp only [labelAndCommit, readyToCommit, bind_assoc, pure_bind]
  rfl

/-- The commit of an instance on a host, if it succeeds. -/
def commitmentOn (blueprint : Blueprint) (runner : Runner) (construction : Construction)
    (host : Host) : Option Commitment :=
  let readied := readyToCommit blueprint runner construction host
  match readied.result with
  | .error _ => none
  | .ok (labels, container) =>
      match (Daemon.commit container (commitRequest construction labels) readied.state).result with
      | .error _ => none
      | .ok image => some ⟨construction, container, labels, image⟩

/-- The commits of instances one after the other that succeed. -/
def commitsFrom (blueprint : Blueprint) (runner : Runner) :
    List Construction → Host → List Commitment
  | [], _ => []
  | construction :: rest, host =>
      (commitmentOn blueprint runner construction host).toList ++
        commitsFrom blueprint runner rest (labelAndCommit blueprint runner construction host).state

/-- How the commit of one instance ends after what comes before it, and which commit succeeded. -/
inductive CommitEnds (construction : Construction)
    (readied : Outcome Host Event Failure (Labels × Container)) :
    Outcome Host Event Failure String → Option Commitment → Prop
  | unready {failure : Failure} (failed : readied.result = .error failure) :
      CommitEnds construction readied ⟨.error failure, readied.state, readied.trace⟩ none
  | refused {labels : Labels} {container : Container} {failure : Failure} {after : Host}
      {events : List Event} (ready : readied.result = .ok (labels, container))
      (failed : Daemon.commit container (commitRequest construction labels) readied.state =
        ⟨.error failure, after, events⟩) :
      CommitEnds construction readied
        ⟨.error (.commit construction.context failure), after, readied.trace ++ events⟩ none
  | made {labels : Labels} {container : Container} {image : Image} {after : Host}
      {events : List Event} {id : String} {record : LogRecord}
      (ready : readied.result = .ok (labels, container))
      (succeeded : Daemon.commit container (commitRequest construction labels) readied.state =
        ⟨.ok image, after, events⟩) :
      CommitEnds construction readied
        ⟨.ok id, after, readied.trace ++ (events ++ [.log record])⟩
        (some ⟨construction, container, labels, image⟩)

theorem label_and_commit_ends (blueprint : Blueprint) (runner : Runner)
    (construction : Construction) (host : Host) :
    CommitEnds construction (readyToCommit blueprint runner construction host)
      (labelAndCommit blueprint runner construction host)
      (commitmentOn blueprint runner construction host) := by
  rw [label_and_commit_eq, commitmentOn]
  cases ready : (readyToCommit blueprint runner construction host).result with
  | error failure =>
      rw [bind_of_error ready]
      exact .unready ready
  | ok pair =>
      obtain ⟨labels, container⟩ := pair
      rw [bind_of_ok ready, freeze, bind_apply, mapFailure]
      rcases committed : Daemon.commit container (commitRequest construction labels)
        (readyToCommit blueprint runner construction host).state with ⟨result, after, events⟩
      cases result with
      | error failure =>
          simp only [committed, map_error_error]
          exact .refused ready committed
      | ok image =>
          simp only [committed, map_error_ok, noteCommit, note_bind_apply, pure_apply]
          exact .made ready committed

/-! ## What a commit is made of -/

theorem Daemon.commit_gives (container : Container) (request : CommitRequest) :
    Gives (fun image => image.tags = some [request.repository ++ ":" ++ request.tag] ∧
        image.labels = some (Host.committedLabels container.labels request.changes))
      (Daemon.commit container request) := by
  refine gives_bind fun _ => ?_
  intro host image given
  cases given
  exact ⟨rfl, rfl⟩

/-- A commit is of the container of its instance, is named as the image of the instance is looked up,
and has all labels of the ownership of the instance. -/
structure Commitment.Sound (scope : String) (blueprint : Blueprint) (commitment : Commitment) :
    Prop where
  container : commitment.container.id = commitment.construction.container
  reference : (commitment.request.repository, commitment.request.tag) =
    imageReference scope blueprint.name.text commitment.server.name.text
  carries : Carries (Directive.decode commitment.request.changes)
    (resourceLabels scope (some blueprint.name.text) (some commitment.server.name.text))
  context : (Directive.decode commitment.request.changes).get? contextLabel =
    some commitment.request.tag
  tags : commitment.image.tags =
    some [imageName scope blueprint.name.text commitment.server.name.text]
  labels : commitment.image.labels =
    some (Host.committedLabels commitment.container.labels commitment.request.changes)
  accepted : (Query.ofInstance scope blueprint.name.text commitment.server.name.text).accepts
    commitment.image.labels = true

/-- Instances are named after the blueprint and the namespace that they are built in. -/
def Construction.NamedIn (scope : String) (blueprint : Blueprint) (construction : Construction) :
    Prop :=
  construction.scope = scope ∧
    construction.context = contextOf scope blueprint.name.text construction.server.name.text

section

variable {scope : String} {blueprint : Blueprint} {runner : Runner}

theorem ready_to_commit_gives (construction : Construction) :
    Gives (fun readied => Carries readied.1 (resourceLabels construction.scope
          (some blueprint.name.text) (some construction.server.name.text)) ∧
        SameOwner readied.1 (resourceLabels construction.scope
          (some blueprint.name.text) (some construction.server.name.text)) ∧
        readied.2.id = construction.container)
      (readyToCommit blueprint runner construction) := by
  have fetched : Gives (fun container => container.id = construction.container)
      (stopInstance construction) :=
    gives_bind_of (Daemon.get_container_gives _) fun container same =>
      gives_bind fun _ => gives_bind fun _ => gives_bind fun _ => gives_pure same
  have collected : Gives (fun labels => Carries labels (resourceLabels construction.scope
        (some blueprint.name.text) (some construction.server.name.text)) ∧
      SameOwner labels (resourceLabels construction.scope
        (some blueprint.name.text) (some construction.server.name.text)))
      (imageLabels construction blueprint runner) :=
    fun host labels given => ⟨image_labels_carry _ _ _ host labels given,
      image_labels_same_owner _ _ _ host labels given⟩
  refine gives_bind_of collected fun labels known => ?_
  refine gives_bind_of (gives_map_failure fetched) fun container same => ?_
  exact gives_pure ⟨known.1, known.2, same⟩

theorem commitment_on_sound {construction : Construction} {host : Host} {commitment : Commitment}
    (named : construction.NamedIn scope blueprint)
    (committed : commitmentOn blueprint runner construction host = some commitment) :
    commitment.construction = construction ∧ commitment.Sound scope blueprint := by
  obtain ⟨owned, context⟩ := named
  have ends := label_and_commit_ends blueprint runner construction host
  rw [committed] at ends
  generalize labelAndCommit blueprint runner construction host = outcome at ends
  cases ends with
  | @made labels container image after events id record ready succeeded =>
      obtain ⟨carries, same, fetched⟩ := ready_to_commit_gives construction _ _ ready
      obtain ⟨tags, written⟩ := Daemon.commit_gives container
        (commitRequest construction labels) _ image (by rw [succeeded])
      rw [owned] at carries same
      have reads (key : String) :
          (Directive.decode (Directive.ofLabels labels)).get? key = labels.get? key :=
        Directive.decode_of_labels labels key
      refine ⟨rfl, fetched, ?_, ?_, ?_, ?_, written, ?_⟩
      · exact congrArg (Prod.mk localRepository) context
      · intro key value held
        exact (reads key).trans (carries key value held)
      · refine (reads contextLabel).trans ?_
        exact (carries contextLabel _ rfl).trans (congrArg some context.symm)
      · rw [tags]
        exact congrArg (fun tag => some [localRepository ++ ":" ++ tag]) context
      · rw [written]
        exact committed_labels_accepted container.labels same

theorem commitment_on_construction {construction : Construction} {host : Host}
    {commitment : Commitment}
    (committed : commitmentOn blueprint runner construction host = some commitment) :
    commitment.construction = construction := by
  have ends := label_and_commit_ends blueprint runner construction host
  rw [committed] at ends
  generalize labelAndCommit blueprint runner construction host = outcome at ends
  cases ends
  rfl

/-- What is committed of instances one after the other was committed of one of them. -/
theorem commits_from_mem {built : List Construction} {host : Host} {commitment : Commitment}
    (member : commitment ∈ commitsFrom blueprint runner built host) :
    ∃ construction ∈ built, ∃ later,
      commitmentOn blueprint runner construction later = some commitment := by
  induction built generalizing host with
  | nil => exact absurd member List.not_mem_nil
  | cons construction rest ih =>
      rw [commitsFrom] at member
      rcases List.mem_append.mp member with own | others
      · exact ⟨construction, List.mem_cons_self, host, Option.mem_toList.mp own⟩
      · obtain ⟨other, listed, committed⟩ := ih others
        exact ⟨other, List.mem_cons_of_mem _ listed, committed⟩

/-- No instance is committed twice, and none out of turn. -/
theorem commits_from_sublist (built : List Construction) (host : Host) :
    ((commitsFrom blueprint runner built host).map Commitment.construction).Sublist built := by
  induction built generalizing host with
  | nil => exact List.Sublist.slnil
  | cons construction rest ih =>
      rw [commitsFrom, List.map_append]
      cases committed : commitmentOn blueprint runner construction host with
      | none => exact (ih _).cons construction
      | some commitment =>
          have own := commitment_on_construction committed
          simpa [own] using ih _

theorem commits_from_sound {built : List Construction}
    (named : ∀ construction ∈ built, construction.NamedIn scope blueprint) (host : Host) :
    ∀ commitment ∈ commitsFrom blueprint runner built host, commitment.Sound scope blueprint := by
  intro commitment member
  obtain ⟨construction, known, later, committed⟩ := commits_from_mem member
  exact (commitment_on_sound (named construction known) committed).2

end

/-! ## All commits of a build -/

section

variable {blueprint : Blueprint} {runner : Runner}

/-- The commits of the later instances follow on that of the first, whose failure is reported. -/
theorem commit_all_cons {construction : Construction} (succeeded : construction.failure = none)
    (rest : List Construction) (host : Host) :
    let first := labelAndCommit blueprint runner construction host
    let later : Outcome Host Event Problem (List String × List Failure) :=
      commitAll blueprint runner rest first.state
    ∃ images failures ids reported noted, later.result = .ok (images, failures) ∧
      (commitAll blueprint runner (construction :: rest) host :
          Outcome Host Event Problem (List String × List Failure)) =
        ⟨.ok (ids, reported ++ failures), later.state, first.trace ++ (noted ++ later.trace)⟩ ∧
      callsOf noted = [] ∧ (reported = [] → ∃ id, first.result = .ok id) := by
  dsimp only
  obtain ⟨⟨images, failures⟩, ended⟩ := @succeeds_commit_all Problem blueprint runner rest
    (labelAndCommit blueprint runner construction host).state
  refine ⟨images, failures, ?_⟩
  rw [commitAll, if_neg (by simp [succeeded]), attempt_bind_apply]
  cases committed : (labelAndCommit blueprint runner construction host).result with
  | ok id =>
      refine ⟨id :: images, [], [], ended, ?_, rfl, fun _ => ⟨id, rfl⟩⟩
      simp only [bind_of_ok ended, pure_apply, List.append_nil, List.nil_append]
  | error failure =>
      let reported := commitFailure construction.context failure
      let record : LogRecord := ⟨.error, .commit, "[Commit] " ++ reported.message⟩
      refine ⟨images, [reported], [.log record], ended, ?_, rfl, by simp⟩
      simp only [note_bind_apply, bind_of_ok ended, pure_apply, List.append_nil]
      rfl

/-- When nothing failed, every instance was committed. -/
theorem commit_all_complete {built : List Construction}
    (constructed : ∀ construction ∈ built, construction.failure = none) {host : Host}
    {images : List String}
    (ended : (commitAll blueprint runner built host :
      Outcome Host Event Problem (List String × List Failure)).result = .ok (images, [])) :
    (commitsFrom blueprint runner built host).map Commitment.construction = built := by
  induction built generalizing host images with
  | nil => rfl
  | cons construction rest ih =>
      obtain ⟨ids, failures, all, reported, noted, later, whole, -, silent⟩ :=
        @commit_all_cons Problem blueprint runner _ (constructed _ List.mem_cons_self) rest host
      rw [whole, Except.ok.injEq, Prod.mk.injEq, List.append_eq_nil_iff] at ended
      obtain ⟨-, rfl, rfl⟩ := ended
      obtain ⟨id, committed⟩ := silent rfl
      have others := ih (fun other member => constructed other (List.mem_cons_of_mem _ member)) later
      rw [commitsFrom, List.map_append, others]
      have ends := label_and_commit_ends blueprint runner construction host
      generalize labelAndCommit blueprint runner construction host = outcome at ends committed
      generalize commitmentOn blueprint runner construction host = commitment at ends
      cases ends with
      | unready failed => cases committed
      | refused ready failed => cases committed
      | made ready frozen => rfl

end

/-! ## The calls that commit -/

def Call.isCommit : Call → Bool
  | .commit .. => true
  | _ => false

/-- The commits among the calls of a trace, those that fail included. -/
def commitCalls (events : List Event) : List Call := (callsOf events).filter Call.isCommit

@[simp] theorem commit_calls_append (front back : List Event) :
    commitCalls (front ++ back) = commitCalls front ++ commitCalls back := by
  simp [commitCalls]

/-- The law that nothing is committed. -/
abbrev noCommits : HostLaw := .calling fun made => made.isCommit = false

theorem commit_calls_of_none {α : Type} {action : HostAction Problem α}
    (holds : noCommits.holds action) (host : Host) : commitCalls (action host).trace = [] := by
  rw [commitCalls, List.filter_eq_nil_iff]
  intro made member
  simp [HostLaw.calling_iff.mp holds host made member]

theorem stopping_commits_nothing (construction : Construction) :
    noCommits.holds (stopInstance construction) :=
  stop_instance_lawful ⟨Daemon.get_container_lawful (HostLaw.calling_perform rfl),
    fun container _ => HostLaw.calling_stop (fun _ => rfl) container⟩

theorem ready_to_commit_lawful {law : HostLaw} {runner : Runner} (obeys : runner.Obeys law)
    {construction : Construction} (stops : law.holds (stopInstance construction))
    (blueprint : Blueprint) : law.holds (readyToCommit blueprint runner construction) :=
  law.bind (image_labels_lawful obeys _ _) fun _ =>
    law.bind (law.mapFailure stops) fun _ => law.pure _

section

variable {blueprint : Blueprint} {runner : Runner}

theorem label_and_commit_calls (obeys : runner.Obeys noCommits) {construction : Construction}
    {host : Host} {id : String}
    (committed : (labelAndCommit blueprint runner construction host).result = .ok id) :
    commitCalls (labelAndCommit blueprint runner construction host).trace =
      (commitmentOn blueprint runner construction host).toList.map Commitment.call := by
  have quiet := commit_calls_of_none
    (ready_to_commit_lawful obeys (stopping_commits_nothing construction) blueprint) host
  have ends := label_and_commit_ends blueprint runner construction host
  generalize labelAndCommit blueprint runner construction host = outcome at ends committed
  generalize commitmentOn blueprint runner construction host = commitment at ends
  cases ends with
  | unready failed => cases committed
  | refused ready failed => cases committed
  | @made labels container image after events id record ready succeeded =>
      have called : events =
          [.call (.commit container.name (commitRequest construction labels))] := by
        rw [← Daemon.commit_trace container (commitRequest construction labels)
          (readyToCommit blueprint runner construction host).state, succeeded]
      rw [commit_calls_append, quiet, called]
      rfl

/-- When nothing failed, each instance was committed by one call, and nothing else was. -/
theorem commit_all_calls (obeys : runner.Obeys noCommits) {built : List Construction}
    (constructed : ∀ construction ∈ built, construction.failure = none) {host : Host}
    {images : List String}
    (ended : (commitAll blueprint runner built host :
      Outcome Host Event Problem (List String × List Failure)).result = .ok (images, [])) :
    commitCalls (commitAll blueprint runner built host :
        Outcome Host Event Problem (List String × List Failure)).trace =
      (commitsFrom blueprint runner built host).map Commitment.call := by
  induction built generalizing host images with
  | nil => rfl
  | cons construction rest ih =>
      obtain ⟨ids, failures, all, reported, noted, later, whole, silent, committed⟩ :=
        @commit_all_cons Problem blueprint runner _ (constructed _ List.mem_cons_self) rest host
      rw [whole, Except.ok.injEq, Prod.mk.injEq, List.append_eq_nil_iff] at ended
      obtain ⟨-, rfl, rfl⟩ := ended
      obtain ⟨id, committed⟩ := committed rfl
      have others := ih (fun other member => constructed other (List.mem_cons_of_mem _ member)) later
      have nothing : commitCalls noted = [] := by rw [commitCalls, silent, List.filter_nil]
      rw [whole, commit_calls_append, commit_calls_append, nothing, others,
        label_and_commit_calls obeys committed, commitsFrom, List.map_append, List.nil_append]

end

/-! ## The images that commits make -/

/-- The images of a host that a query lists, visible or not. -/
def shownBy (query : Query) (host : Host) : List Image :=
  host.images.filter fun image => image.always || query.accepts image.labels

/-- The images that a query lists stay as they are, and new images keep getting new identifiers. -/
def keepsShown (query : Query) : Frame Host where
  holds before after := FreshImageIds before →
    FreshImageIds after ∧ shownBy query after = shownBy query before
  refl _ fresh := ⟨fresh, rfl⟩
  trans earlier later fresh := by
    obtain ⟨between, first⟩ := earlier fresh
    obtain ⟨final, second⟩ := later between
    exact ⟨final, second.trans first⟩

theorem keeps_shown_minds_images (query : Query) : (keepsShown query).MindsImages := by
  constructor
  intro before after images settings nextId _ fresh
  refine ⟨fresh.of_same images settings nextId, ?_⟩
  rw [shownBy, images, shownBy]

/-- The images that a query lists are those from before, followed by new ones. -/
structure Adds (query : Query) (images : List Image) (before after : Host) : Prop where
  fresh : FreshImageIds after
  shown : shownBy query after = shownBy query before ++ images
  new : ∀ image ∈ images, ∀ old ∈ shownBy query before, image.id ≠ old.id
  distinct : (images.map Image.id).Nodup

namespace Adds

variable {query : Query} {images later : List Image} {before between after : Host}

theorem of_kept (fresh : FreshImageIds before) (kept : (keepsShown query).holds before after) :
    Adds query [] before after := by
  obtain ⟨final, same⟩ := kept fresh
  exact ⟨final, by simp [same], by simp, by simp⟩

theorem trans (first : Adds query images before between) (second : Adds query later between after) :
    Adds query (images ++ later) before after where
  fresh := second.fresh
  shown := by rw [second.shown, first.shown, List.append_assoc]
  new := by
    intro image member old there
    rcases List.mem_append.mp member with early | late
    · exact first.new image early old there
    · apply second.new image late old
      rw [first.shown]
      exact List.mem_append_left _ there
  distinct := by
    rw [List.map_append, List.nodup_append]
    refine ⟨first.distinct, second.distinct, ?_⟩
    intro id early other late
    obtain ⟨image, member, rfl⟩ := List.mem_map.mp early
    obtain ⟨next, follows, rfl⟩ := List.mem_map.mp late
    have apart : next.id ≠ image.id := by
      apply second.new next follows image
      rw [first.shown]
      exact List.mem_append_right _ member
    exact apart.symm

end Adds

theorem commit_adds {query : Query} {container : Container} {request : CommitRequest}
    {host after : Host} {image : Image} {events : List Event}
    (accepted : query.accepts (some (Host.committedLabels container.labels request.changes)) = true)
    (fresh : FreshImageIds host)
    (succeeded : Daemon.commit container request host = ⟨.ok image, after, events⟩) :
    Adds query [image] host after := by
  have performed := (keeps_shown_minds_images query).meets (.commit container.name request) host
  rw [Daemon.commit, bind_apply, perform] at succeeded
  generalize meetFaults (.commit container.name request) host.faults = met at performed succeeded
  obtain ⟨faults, failure⟩ := met
  cases failure with
  | some failure => cases succeeded
  | none =>
      have between := (performed fresh).1
      have final := between.commit container request
      rw [commit_container_fresh between] at final
      simp only [take, commit_container_fresh between] at succeeded
      obtain ⟨rfl, rfl, -⟩ := succeeded
      refine ⟨final, ?_, ?_, by simp⟩
      · have listed : (query.accepts (Host.committedImage container request
            { host with faults }).labels) = true := accepted
        simp only [shownBy, List.filter_append, List.filter_cons, listed, Bool.or_true, if_true,
          List.filter_nil]
      · intro image member old there
        rw [List.mem_singleton.mp member]
        exact (fresh.unused old (List.mem_filter.mp there).1 host.nextId (Nat.le_refl _)).symm

theorem commit_refused {query : Query} {container : Container} {request : CommitRequest}
    {host after : Host} {failure : Failure} {events : List Event}
    (failed : Daemon.commit container request host = ⟨.error failure, after, events⟩) :
    (keepsShown query).holds host after := by
  have performed := (keeps_shown_minds_images query).meets (.commit container.name request) host
  rw [Daemon.commit, bind_apply, perform] at failed
  generalize meetFaults (.commit container.name request) host.faults = met at performed failed
  obtain ⟨faults, failure⟩ := met
  cases failure with
  | some failure =>
      obtain ⟨-, rfl, -⟩ := failed
      exact performed
  | none => cases failed

section

variable {scope : String} {blueprint : Blueprint} {runner : Runner}

/-- The law that the images of a blueprint stay as they are. -/
abbrev shownLaw (scope : String) (blueprint : Blueprint) : HostLaw :=
  .keeping (keepsShown (.ofBlueprint scope blueprint.name.text))

theorem label_and_commit_adds (obeys : runner.Obeys (shownLaw scope blueprint))
    {construction : Construction} (named : construction.NamedIn scope blueprint) {host : Host}
    (fresh : FreshImageIds host) :
    Adds (.ofBlueprint scope blueprint.name.text)
      ((commitmentOn blueprint runner construction host).toList.map Commitment.image) host
      (labelAndCommit blueprint runner construction host).state := by
  let query := Query.ofBlueprint scope blueprint.name.text
  have minds := keeps_shown_minds_images query
  have readies := ready_to_commit_lawful obeys
    (stop_instance_lawful (minds.stopping construction.container)) blueprint host
  have readied : Adds query [] host _ := .of_kept fresh readies
  have ends := label_and_commit_ends blueprint runner construction host
  have sound := @commitment_on_sound scope blueprint runner construction host
  generalize labelAndCommit blueprint runner construction host = outcome at ends
  generalize commitmentOn blueprint runner construction host = commitment at ends sound
  cases ends with
  | unready failed => exact readied
  | refused ready failed => exact readied.trans (.of_kept readied.fresh (commit_refused failed))
  | made ready succeeded =>
      have known := (sound named rfl).2
      have accepted := Query.accepts_blueprint_of_instance (known.labels ▸ known.accepted)
      exact readied.trans (commit_adds accepted readied.fresh succeeded)

/-- Commits add the images of those that succeed, in order. -/
theorem commit_all_adds (obeys : runner.Obeys (shownLaw scope blueprint))
    {built : List Construction} (constructed : ∀ construction ∈ built,
      construction.failure = none ∧ construction.NamedIn scope blueprint)
    {host : Host} (fresh : FreshImageIds host) :
    Adds (.ofBlueprint scope blueprint.name.text)
      ((commitsFrom blueprint runner built host).map Commitment.image) host
      (commitAll blueprint runner built host :
        Outcome Host Event Problem (List String × List Failure)).state := by
  induction built generalizing host with
  | nil => exact .of_kept fresh (Frame.refl _ _)
  | cons construction rest ih =>
      obtain ⟨succeeded, named⟩ := constructed construction List.mem_cons_self
      obtain ⟨ids, failures, all, reported, noted, -, whole, -, -⟩ :=
        @commit_all_cons Problem blueprint runner _ succeeded rest host
      have first := label_and_commit_adds obeys named fresh
      have others := fun other member => constructed other (List.mem_cons_of_mem _ member)
      rw [whole, commitsFrom, List.map_append]
      exact first.trans (ih others first.fresh)

end

end FixtureImages
