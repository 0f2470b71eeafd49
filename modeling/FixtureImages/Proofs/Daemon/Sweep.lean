import FixtureImages.Proofs.Daemon.Faults

/-!
# Sweeps

A sweep lists resources and removes some of those that are listed, one after the other, whatever
becomes of the others. It comes to each of them once and in order, it reports the ones whose removal
raised nothing, and exactly these are gone when it ends.
-/

namespace FixtureImages

set_option autoImplicit false

open Action

variable {Problem α : Type}

/-! ## Removals that take one resource away -/

/-- A removal takes the resources of a kind with one identifier away if it succeeds, and none if it
fails. -/
def Takes (kind : Host → List α) (idOf : α → String) (id : String)
    (removal : HostAction Failure Unit) : Prop :=
  ∀ host, kind (removal host).state =
    if (removal host).result.isOk then (kind host).filter (idOf · != id) else kind host

section

variable {kind : Host → List α} {idOf : α → String} {id : String}

theorem takes_fail (failure : Failure) : Takes kind idOf id (fail failure) := fun _ => rfl

theorem takes_change {update : Host → Host}
    (drops : ∀ host, kind (update host) = (kind host).filter (idOf · != id)) :
    Takes kind idOf id (change update) := drops

/-- What comes before a removal may fail, but takes nothing away. -/
theorem takes_bind {β : Type} {known : β → Prop} {first : HostAction Failure β}
    {next : β → HostAction Failure Unit} (keeps : (Frame.ofView kind).kept.holds first)
    (gives : Gives known first) (takes : ∀ value, known value → Takes kind idOf id (next value)) :
    Takes kind idOf id (first >>= next) := by
  intro host
  have kept : kind (first host).state = kind host := keeps host
  cases outcome : (first host).result with
  | error failure =>
      rw [bind_of_error outcome]
      exact kept
  | ok value =>
      have taken := takes value (gives host value outcome) (first host).state
      rw [bind_of_ok outcome]
      rwa [kept] at taken

theorem takes_then {β : Type} {first : HostAction Failure β} {next : β → HostAction Failure Unit}
    (keeps : (Frame.ofView kind).kept.holds first)
    (takes : ∀ value, Takes kind idOf id (next value)) : Takes kind idOf id (first >>= next) :=
  takes_bind keeps (fun _ _ _ => trivial : Gives (fun _ => True) first) fun value _ => takes value

end

namespace Daemon

theorem remove_image_takes (id : String) (force : Bool) :
    Takes Host.images Image.id id (removeImage id force) := by
  refine takes_then (fun _ => rfl) fun _ => takes_then (fun _ => rfl) fun found => ?_
  split
  · exact takes_change fun _ => rfl
  · exact takes_fail _

theorem remove_network_takes (id name : String) :
    Takes Host.networks Network.id id (removeNetwork id name) := by
  refine takes_then (fun _ => rfl) fun _ => takes_then (fun _ => rfl) fun gone => ?_
  split
  · exact takes_fail _
  · refine takes_then (fun _ => rfl) fun attached => ?_
    split
    · exact takes_fail _
    · exact takes_change fun _ => rfl

theorem remove_container_takes (container : Container) (force : Bool) :
    Takes Host.containers Container.id container.id (removeContainer container force) := by
  refine takes_then (fun _ => rfl) fun _ => takes_then (fun _ => rfl) fun found => ?_
  cases found with
  | none => exact takes_fail _
  | some current =>
      dsimp only
      split
      · exact takes_fail _
      · exact takes_change fun _ => rfl

/-- Fetch a container and remove it by force. -/
def reclaim (id : String) : HostAction Failure Unit := do
  removeContainer (← getContainer id) true

theorem reclaim_takes (id : String) : Takes Host.containers Container.id id (reclaim id) := by
  have keeps : (HostLaw.keeping (Frame.ofView Host.containers)).holds (getContainer id) :=
    get_container_lawful fun _ => rfl
  refine takes_bind keeps (get_container_gives id) fun container same => ?_
  exact same ▸ remove_container_takes container true

theorem reclaim_lawful {law : HostLaw} {id : String} (gets : law.holds (getContainer id))
    (removes : ∀ container, law.holds (removeContainer container true)) :
    law.holds (reclaim id) := law.bind gets removes

end Daemon

/-! ## Removals that are tried -/

namespace Catalog

/-- To try a removal is to make its calls and to tell whether they succeeded. -/
structure Tries (tried : HostAction Problem Bool) (removal : HostAction Failure Unit) : Prop where
  result : ∀ host, (tried host).result = .ok (removal host).result.isOk
  state : ∀ host, (tried host).state = (removal host).state
  calls : ∀ host, callsOf (tried host).trace = callsOf (removal host).trace

/-- Nothing is done, and nothing is reported. -/
structure Skips (tried : HostAction Problem Bool) : Prop where
  result : ∀ host, (tried host).result = .ok false
  state : ∀ host, (tried host).state = host
  calls : ∀ host, callsOf (tried host).trace = []

/-- A removal is tried when its outcome is told, be it with a log record. -/
theorem tries_of_answer {removal : HostAction Failure Unit}
    {answer : Except Failure Unit → HostAction Problem Bool}
    (answers : ∀ ended host, ∃ events, answer ended host = ⟨.ok ended.isOk, host, events⟩ ∧
      callsOf events = []) :
    Tries (attempt removal >>= answer) removal := by
  constructor <;> intro host <;>
    obtain ⟨events, told, silent⟩ := answers (removal host).result (removal host).state <;>
    simp only [attempt_bind_apply, told, calls_of_append, silent, List.append_nil]

theorem remove_container_tries (id context : String) :
    Tries (removeContainer id context : HostAction Problem Bool) (Daemon.reclaim id) := by
  refine tries_of_answer fun ended host => ?_
  cases ended with
  | ok _ => exact ⟨_, rfl, rfl⟩
  | error failure =>
      dsimp only
      split <;> exact ⟨_, rfl, rfl⟩

theorem remove_image_tries (id : String) :
    Tries (removeImage id : HostAction Problem Bool) (Daemon.removeImage id true) := by
  refine tries_of_answer fun ended host => ?_
  cases ended with
  | ok _ => exact ⟨_, rfl, rfl⟩
  | error failure =>
      dsimp only
      split <;> exact ⟨_, rfl, rfl⟩

theorem remove_network_tries (id name : String) :
    Tries (removeNetwork id name : HostAction Problem Bool) (Daemon.removeNetwork id name) := by
  refine tries_of_answer fun ended host => ?_
  cases ended with
  | ok _ => exact ⟨_, rfl, rfl⟩
  | error failure =>
      dsimp only
      split
      · exact ⟨_, rfl, rfl⟩
      · split <;> exact ⟨_, rfl, rfl⟩

end Catalog

/-! ## One after the other -/

/-- What a sweep is made of: how resources are listed, which of them are tried, and how one of them
is removed and reported. -/
structure Sweep (α : Type) where
  list : HostAction Failure (List α)
  tries : α → Bool
  removal : α → HostAction Failure Unit
  name : α → String

namespace Sweep

variable (sweep : Sweep α)

/-- Items with the hosts that they are come to on, when they are removed one after the other. -/
def visitsFrom : List α → Host → List (α × Host)
  | [], _ => []
  | item :: rest, host => (item, host) :: visitsFrom rest (sweep.removal item host).state

/-- The host after items were removed one after the other. -/
def leftFrom : List α → Host → Host
  | [], host => host
  | item :: rest, host => leftFrom rest (sweep.removal item host).state

/-- What the listing of a sweep shows, which is nothing if it fails. -/
def listed (host : Host) : List α := (sweep.list host).result.toOption.getD []

/-- All that a sweep comes to: the listed items that are tried, each with the host at that time. -/
def visits (host : Host) : List (α × Host) :=
  sweep.visitsFrom ((sweep.listed host).filter sweep.tries) (sweep.list host).state

/-- The host that a sweep leaves. -/
def left (host : Host) : Host :=
  sweep.leftFrom ((sweep.listed host).filter sweep.tries) (sweep.list host).state

/-- The items whose removal raises nothing, when they are removed one after the other. -/
def goneFrom (items : List α) (host : Host) : List α :=
  ((sweep.visitsFrom items host).filter fun visit =>
    (sweep.removal visit.1 visit.2).result.isOk).map Prod.fst

/-- The items that a sweep removed, in the order of the listing. -/
def gone (host : Host) : List α :=
  sweep.goneFrom ((sweep.listed host).filter sweep.tries) (sweep.list host).state

/-- The calls of a sweep: the listing, and those for each item that it comes to. -/
def calls (host : Host) : List Call :=
  callsOf (sweep.list host).trace ++
    (sweep.visits host).flatMap fun visit => callsOf (sweep.removal visit.1 visit.2).trace

/-- An action performs a sweep: it never fails, reports what is gone, and does nothing else. -/
structure Performs (action : HostAction Problem (List String)) : Prop where
  result : ∀ host, (action host).result = .ok ((sweep.gone host).map sweep.name)
  state : ∀ host, (action host).state = sweep.left host
  calls : ∀ host, callsOf (action host).trace = sweep.calls host

variable {sweep}

@[simp]
theorem gone_from_nil (host : Host) : sweep.goneFrom [] host = [] := rfl

theorem gone_from_cons (item : α) (rest : List α) (host : Host) :
    sweep.goneFrom (item :: rest) host =
      if (sweep.removal item host).result.isOk then
        item :: sweep.goneFrom rest (sweep.removal item host).state
      else sweep.goneFrom rest (sweep.removal item host).state := by
  simp only [goneFrom, visitsFrom, List.filter_cons]
  split <;> rfl

theorem visits_from_items (items : List α) (host : Host) :
    (sweep.visitsFrom items host).map Prod.fst = items := by
  induction items generalizing host with
  | nil => rfl
  | cons item rest ih => rw [visitsFrom, List.map_cons, ih]

/-- However the removals end, every listed item that is to be tried is come to once, in order. -/
theorem visits_items (host : Host) :
    (sweep.visits host).map Prod.fst = (sweep.listed host).filter sweep.tries :=
  visits_from_items _ _

theorem gone_sublist_tried (host : Host) :
    (sweep.gone host).Sublist ((sweep.listed host).filter sweep.tries) := by
  rw [← visits_items]
  exact List.filter_sublist.map Prod.fst

theorem gone_sublist (host : Host) : (sweep.gone host).Sublist (sweep.listed host) :=
  (gone_sublist_tried host).trans List.filter_sublist

section

variable (sweep) (tried : α → HostAction Problem Bool)
  (tries : ∀ item, sweep.tries item = true → Catalog.Tries (tried item) (sweep.removal item))
  (skips : ∀ item, sweep.tries item = false → Catalog.Skips (tried item))

include tries skips

theorem remove_all_apply (items : List α) (host : Host) :
    let visits := sweep.visitsFrom (items.filter sweep.tries) host
    let outcome := Catalog.removeAll sweep.name tried items host
    outcome.result = .ok ((sweep.goneFrom (items.filter sweep.tries) host).map sweep.name) ∧
      outcome.state = sweep.leftFrom (items.filter sweep.tries) host ∧
      callsOf outcome.trace =
        visits.flatMap fun visit => callsOf (sweep.removal visit.1 visit.2).trace := by
  induction items generalizing host with
  | nil => exact ⟨rfl, rfl, rfl⟩
  | cons item rest ih =>
      cases wanted : sweep.tries item with
      | false =>
          have skipped := skips item wanted
          obtain ⟨result, state, calls⟩ := ih host
          simp only [Catalog.removeAll, List.filter_cons, wanted, bind_of_ok (skipped.result host),
            skipped.state, bind_of_ok result, pure_apply, calls_of_append, skipped.calls]
          exact ⟨rfl, state, by simpa using calls⟩
      | true =>
          have attempted := tries item wanted
          obtain ⟨result, state, calls⟩ := ih (sweep.removal item host).state
          simp only [Catalog.removeAll, List.filter_cons, wanted, if_true,
            bind_of_ok (attempted.result host), attempted.state, bind_of_ok result, pure_apply,
            calls_of_append, attempted.calls, visitsFrom, leftFrom, List.flatMap_cons, calls,
            gone_from_cons]
          refine ⟨?_, state, by simp⟩
          cases (sweep.removal item host).result.isOk <;> rfl

/-- To list, and to remove what is listed, is to perform a sweep. A failed listing may be logged. -/
theorem performs_of_remove_all
    {answer : Except Failure (List α) → HostAction Problem (List String)}
    (refuses : ∀ failure host, ∃ events, answer (.error failure) host = ⟨.ok [], host, events⟩ ∧
      callsOf events = [])
    (removes : ∀ items, answer (.ok items) = Catalog.removeAll sweep.name tried items) :
    sweep.Performs (attempt sweep.list >>= answer) := by
  have whole (host : Host) :
      let outcome := (attempt sweep.list >>= answer) host
      outcome.result = .ok ((sweep.gone host).map sweep.name) ∧
        outcome.state = sweep.left host ∧ callsOf outcome.trace = sweep.calls host := by
    dsimp only
    rw [attempt_bind_apply, calls_of_append]
    simp only [gone, left, calls, visits, listed]
    cases (sweep.list host).result with
    | error failure =>
        obtain ⟨events, told, silent⟩ := refuses failure (sweep.list host).state
        rw [told, silent]
        exact ⟨rfl, rfl, rfl⟩
    | ok items =>
        obtain ⟨result, state, made⟩ :=
          remove_all_apply sweep tried tries skips items (sweep.list host).state
        rw [removes]
        exact ⟨result, state, congrArg (callsOf (sweep.list host).trace ++ ·) made⟩
  exact ⟨fun host => (whole host).1, fun host => (whole host).2.1, fun host => (whole host).2.2⟩

end

/-! ## What a sweep leaves -/

section

variable {kind : Host → List α} {idOf : α → String}

theorem left_from_keeps {frame : Frame Host}
    (removes : ∀ item, frame.kept.holds (sweep.removal item)) (items : List α) (host : Host) :
    frame.holds host (sweep.leftFrom items host) := by
  induction items generalizing host with
  | nil => exact frame.refl host
  | cons item rest ih => exact frame.trans (removes item host) (ih _)

/-- A sweep keeps a frame when its listing and its removals do. -/
theorem left_keeps {frame : Frame Host} (lists : frame.kept.holds sweep.list)
    (removes : ∀ item, frame.kept.holds (sweep.removal item)) (host : Host) :
    frame.holds host (sweep.left host) :=
  frame.trans (lists host) (left_from_keeps removes _ _)

theorem left_from_takes (takes : ∀ item, Takes kind idOf (idOf item) (sweep.removal item))
    (items : List α) (host : Host) :
    kind (sweep.leftFrom items host) =
      (kind host).filter fun other => !((sweep.goneFrom items host).map idOf).contains (idOf other)
        := by
  induction items generalizing host with
  | nil => exact (List.filter_eq_self.mpr fun _ _ => rfl).symm
  | cons item rest ih =>
      have taken := takes item host
      rw [leftFrom, ih, taken]
      cases ended : (sweep.removal item host).result.isOk with
      | false => simp [gone_from_cons, ended]
      | true =>
          simp only [if_true, List.filter_filter, gone_from_cons, ended, List.map_cons,
            List.contains_cons, Bool.not_or, bne, Bool.and_comm]

/-- Exactly the items that a sweep reports are gone. -/
theorem left_takes (lists : (Frame.ofView kind).kept.holds sweep.list)
    (takes : ∀ item, Takes kind idOf (idOf item) (sweep.removal item)) (host : Host) :
    kind (sweep.left host) =
      (kind host).filter fun other => !((sweep.gone host).map idOf).contains (idOf other) := by
  have same : kind (sweep.list host).state = kind host := lists host
  rw [left, left_from_takes takes, same]
  rfl

/-- A listed item that is tried and still there is one whose removal raised. -/
theorem removal_raised {host : Host} {item : α}
    (there : idOf item ∉ (sweep.gone host).map idOf) (shown : item ∈ sweep.listed host)
    (tried : sweep.tries item = true) :
    ∃ moment failure, (item, moment) ∈ sweep.visits host ∧
      (sweep.removal item moment).result = .error failure := by
  have reached : item ∈ (sweep.visits host).map Prod.fst := by
    rw [visits_items]
    exact List.mem_filter.mpr ⟨shown, tried⟩
  obtain ⟨⟨other, moment⟩, visited, rfl⟩ := List.mem_map.mp reached
  cases ended : (sweep.removal other moment).result with
  | error failure => exact ⟨moment, failure, visited, ended⟩
  | ok done =>
      have succeeded : (sweep.removal other moment).result.isOk = true := by rw [ended]; rfl
      have taken : other ∈ sweep.gone host :=
        List.mem_map.mpr ⟨(other, moment), List.mem_filter.mpr ⟨visited, succeeded⟩, rfl⟩
      exact absurd (List.mem_map_of_mem taken) there

end

end Sweep

end FixtureImages
