/-
**The event stream.**

`src/src/storage/event_store.rs`, `src/src/storage/workspace_events.rs` and `src/src/api/events.rs`:
transactions insert events, each under an id that is drawn before the transaction commits, and a
stream delivers the events of an organization.  It reads a page of at most a hundred events beyond
its cursor, delivers them one by one while the cursor follows, and waits to be notified before it
reads the next page.

Main definitions:

* `EventRecord`, `EventWrite` — the events, and what a transaction inserts;
* `EventStreamState.resume` — `next_event`, from one point where it may be suspended to the next;
* `EventSystem.perform` — writers and one stream;
* `NotLate`, `Answers`, `SmallBacklog` — the commits, and the queries, that the stream copes with.

Main results:

* `EventSystem.Sound` — what holds of the stream in every run;
* `stream_delivers_committed_events` — **every committed event is delivered, in order and once**,
  when no event commits below one that was read already and no page is cut off;
* `EventSystem.reconnected_stream_continues` — no event comes twice to a client that reconnects;
* `late_event_never_delivered` — an event that commits below one that was delivered;
* `blocked_stream_has_delivered` — **a stream that waits has delivered what its last query could
  see**, when no query meets more than a hundred events;
* `backlog_withheld` — a stream that waits before the rest of its backlog.
-/
import WorkspaceControl.Calls
import WorkspaceControl.Pages

set_option autoImplicit false

namespace WorkspaceControl

open Fallible Relational

/-! ### Events -/

structure EventRecord where
  id : Uuid
  organizationId : Uuid
  workspaceId : Option Uuid
  kind : String
  payload : Payload
  createdAt : ℤ
deriving DecidableEq

structure NewEvent where
  organizationId : Uuid
  workspaceId : Option Uuid
  kind : String
  payload : Payload

/-- The kind has 1 to 128 safe ASCII characters. -/
def NewEvent.validate (event : NewEvent) : Except StorageError Unit :=
  ensure (!event.kind.toList.isEmpty && Text.len event.kind.toList ≤ 128 &&
    event.kind.toList.all fun c => Text.isAlphanumeric c || c = '.' || c = '_' || c = '-')
    .invalidEvent

/-- The row that `append_event` inserts. -/
def NewEvent.record (event : NewEvent) (id : Uuid) (now : ℤ) : Except StorageError EventRecord := do
  event.validate
  pure ⟨id, event.organizationId, event.workspaceId, event.kind, event.payload, now⟩

/-- The row of an event of a workspace. -/
def workspaceEvent (kind : String) (payload : Payload) (workspace : Workspace) (id : Uuid)
    (now : ℤ) : EventRecord :=
  ⟨id, workspace.organizationId, some workspace.id, kind, payload, now⟩

def stateChangedPayload (workspace : Workspace) (action : Option String) : Payload :=
  let payload := Payload.object
    [("state", .scalar (.str workspace.state.asStr)),
      ("generation", .scalar (.int workspace.generation)),
      ("node_pool", .scalar (.str workspace.nodePool))]
  match action with
  | some action => payload.setIndex "action" (.scalar (.str action))
  | none => payload

def imageUpdatedPayload (workspace : Workspace) : Payload :=
  .object [("image", .scalar (.str workspace.template.image)),
    ("generation", .scalar (.int workspace.generation))]

def placementUpdatedPayload (workspace : Workspace) : Payload :=
  .object [("node_pool", .scalar (.str workspace.nodePool)),
    ("generation", .scalar (.int workspace.generation))]

/-- What a transaction appends. -/
inductive EventWrite
  | append (event : NewEvent)
  | stateChanged (workspace : Workspace) (action : Option String)
  | imageUpdated (workspace : Workspace)
  | placementUpdated (workspace : Workspace)

def EventWrite.record (id : Uuid) (now : ℤ) : EventWrite → Except StorageError EventRecord
  | append event => event.record id now
  | stateChanged workspace action => .ok (workspaceEvent "workspace.state_changed"
      (stateChangedPayload workspace action) workspace id now)
  | imageUpdated workspace => .ok (workspaceEvent "workspace.image_updated"
      (imageUpdatedPayload workspace) workspace id now)
  | placementUpdated workspace => .ok (workspaceEvent "workspace.placement_updated"
      (placementUpdatedPayload workspace) workspace id now)

abbrev EventTable : Type := Table EventRecord.id

def EventRecord.concerns (organizationId : Uuid) (record : EventRecord) : Bool :=
  record.organizationId = organizationId

/-- The limit is clamped to 1 and 1000. -/
def listEvents (events : EventTable) (organizationId : Uuid) (after : Option Uuid) (limit : ℕ) :
    List EventRecord :=
  events.page (EventRecord.concerns organizationId) after (max 1 (min limit 1000))

/-- The rows of a transaction, which fails when an id is taken. -/
def insertEvents (events : EventTable) : List EventRecord → Option EventTable
  | [] => some events
  | record :: records => (events.insertNew record).bind fun events => insertEvents events records

/-! ### The stream -/

/-- How the stream learns that there is something to read. -/
inductive EventNotifier
  | poll
  | postgres
deriving DecidableEq

/-- Where `next_event` stands: at the head of its loop, or suspended. -/
inductive StreamPoint
  | top
  | waiting
  | querying
deriving DecidableEq

structure EventStreamState where
  organizationId : Uuid
  cursor : Option Uuid
  pending : List EventRecord
  notifier : EventNotifier
  initialQuery : Bool
  point : StreamPoint

inductive StreamItem
  | event (record : EventRecord)
  | error (message : String)

def StreamItem.record : StreamItem → Option EventRecord
  | event record => some record
  | error _ => none

namespace EventStreamState

/-- `EventNotifier::wait` fails: the listener may, the ticks of an interval do not. -/
def waitFails (s : EventStreamState) (succeeds : Bool) : Bool :=
  s.notifier = .postgres && !succeeds

/-- `next_event` up to the next point where it stands; `succeeds` is the outcome of what it has
waited for, and `signalled` whether a tick is due or a notification has come. -/
def resume (s : EventStreamState) (events : EventTable) (signalled succeeds : Bool) :
    Option StreamItem × EventStreamState :=
  match s.point with
  | .top =>
    match s.pending with
    | record :: rest =>
      (some (.event record), { s with pending := rest, cursor := some record.id })
    | [] =>
      if s.initialQuery then (none, { s with initialQuery := false, point := .querying })
      else (none, { s with point := .waiting })
  | .waiting =>
    if s.waitFails succeeds then
      (some (.error "event notification temporarily failed; polling enabled"),
        { s with notifier := .poll, point := .top })
    else if signalled then (none, { s with point := .querying })
    else (none, s)
  | .querying =>
    if succeeds then
      (none, { s with
        pending := s.pending ++ listEvents events s.organizationId s.cursor 100
        point := .top })
    else (some (.error "event query temporarily failed"), { s with point := .top })

end EventStreamState

/-! ### Writers and a stream -/

/-- The committed events, those of the transactions that are open, the stream, the ticks that are
due or the notifications that have come for it, whether an event was committed since the last of
these, what was delivered, and the cursor and the events of the last query if that has succeeded. -/
structure EventSystem (ι : Type) where
  events : EventTable
  writing : ι → List EventRecord
  stream : EventStreamState
  signals : ℕ
  unannounced : Bool
  items : List StreamItem
  queried : Option (Option Uuid × EventTable)

/-- A commit may notify the stream, as those of the workspaces' events do; `append_event` does so
in a statement of its own.  A signal is that, or any other notification, or a second that passes. -/
inductive EventAction (ι : Type)
  | write (i : ι) (event : EventWrite) (id : Uuid) (now : ℤ)
  | commit (i : ι) (notifies : Bool)
  | rollback (i : ι)
  | signal
  | resume (succeeds : Bool)

namespace EventSystem

variable {ι : Type} {s s' : EventSystem ι} {start : Option Uuid}

/-- A stream from a cursor on, with events that are there or being written.  The first tick of an
interval is due at once. -/
def opened (events : EventTable) (writing : ι → List EventRecord) (organizationId : Uuid)
    (start : Option Uuid) (notifier : EventNotifier) : EventSystem ι where
  events := events
  writing := writing
  stream := ⟨organizationId, start, [], notifier, true, .top⟩
  signals := if notifier = .poll then 1 else 0
  unannounced := false
  items := []
  queried := none

def delivered (s : EventSystem ι) : List EventRecord := s.items.filterMap StreamItem.record

/-- What the stream has read so far. -/
def read (s : EventSystem ι) : List EventRecord := s.delivered ++ s.stream.pending

def resumed (s : EventSystem ι) (succeeds : Bool) : EventSystem ι :=
  { s with
    stream := (s.stream.resume s.events (0 < s.signals) succeeds).2
    signals :=
      if s.stream.point = .waiting then
        if s.stream.waitFails succeeds then 1 else s.signals - 1
      else s.signals
    items := s.items ++ (s.stream.resume s.events (0 < s.signals) succeeds).1.toList
    queried :=
      if s.stream.point = .querying then
        if succeeds then some (s.stream.cursor, s.events) else none
      else s.queried }

def perform [DecidableEq ι] (s : EventSystem ι) : EventAction ι → EventSystem ι
  | .write i event id now =>
    match event.record id now with
    | .ok record => { s with writing := Function.update s.writing i (s.writing i ++ [record]) }
    | .error _ => s
  | .commit i notifies =>
    { s with
      events := (insertEvents s.events (s.writing i)).getD s.events
      writing := Function.update s.writing i []
      signals := if s.stream.notifier = .postgres && notifies then s.signals + 1 else s.signals
      unannounced := !notifies &&
        (s.unannounced || (s.writing i).any (EventRecord.concerns s.stream.organizationId)) }
  | .rollback i => { s with writing := Function.update s.writing i [] }
  | .signal => { s with signals := s.signals + 1, unannounced := false }
  | .resume succeeds => s.resumed succeeds

/-- The runs whose actions are all allowed. -/
def Steps [DecidableEq ι] (allowed : EventSystem ι → EventAction ι → Prop) :
    EventSystem ι → EventSystem ι → Prop :=
  Relation.ReflTransGen fun s s' => ∃ action, allowed s action ∧ s' = s.perform action

/-! ### What a step does -/

/-- **What the stream does** in one step: it delivers an event, reads a page, or does neither. -/
inductive Resumes (s s' : EventSystem ι) : Prop
  | delivers (record : EventRecord) (rest : List EventRecord)
      (pending : s.stream.pending = record :: rest) (point : s.stream.point = .top)
      (delivered : s'.delivered = s.delivered ++ [record])
      (stream : s'.stream = { s.stream with pending := rest, cursor := some record.id })
      (queried : s'.queried = s.queried)
  | reads (point : s.stream.point = .querying) (delivered : s'.delivered = s.delivered)
      (stream : s'.stream = { s.stream with
        pending := s.stream.pending ++
          listEvents s.events s.stream.organizationId s.stream.cursor 100
        point := .top })
      (queried : s'.queried = some (s.stream.cursor, s.events))
  | moves (delivered : s'.delivered = s.delivered)
      (organization : s'.stream.organizationId = s.stream.organizationId)
      (cursor : s'.stream.cursor = s.stream.cursor)
      (pending : s'.stream.pending = s.stream.pending)
      (point : s'.stream.point ≠ .top → s.stream.point ≠ .top ∨ s.stream.pending = [])
      (queried : s'.queried = s.queried ∨ s'.queried = none)

theorem resumes_resumed (s : EventSystem ι) (succeeds : Bool) : Resumes s (s.resumed succeeds) := by
  cases hpoint : s.stream.point with
  | top =>
    cases hpending : s.stream.pending with
    | cons record rest =>
      refine .delivers record rest hpending hpoint ?_ ?_ ?_
      · simp [delivered, resumed, EventStreamState.resume, hpoint, hpending,
          StreamItem.record]
      · simp [resumed, EventStreamState.resume, hpoint, hpending]
      · simp [resumed, hpoint]
    | nil =>
      by_cases hinitial : s.stream.initialQuery = true <;>
        refine .moves ?_ ?_ ?_ ?_ (fun _ => .inr hpending) ?_ <;>
          simp [delivered, resumed, EventStreamState.resume, hpoint, hpending, hinitial]
  | waiting =>
    have hwaits : s.stream.point ≠ .top := by simp [hpoint]
    by_cases hfails : s.stream.waitFails succeeds = true <;>
      by_cases hsignals : 0 < s.signals <;>
        refine .moves ?_ ?_ ?_ ?_ (fun _ => .inl hwaits) ?_ <;>
          simp [delivered, resumed, EventStreamState.resume, hpoint, hfails, hsignals,
            StreamItem.record]
  | querying =>
    cases succeeds with
    | true =>
      refine .reads hpoint ?_ ?_ ?_ <;>
        simp [delivered, resumed, EventStreamState.resume, hpoint]
    | false =>
      refine .moves ?_ ?_ ?_ ?_ (fun _ => .inl (by simp [hpoint])) ?_ <;>
        simp [delivered, resumed, EventStreamState.resume, hpoint, StreamItem.record]

theorem rows_subset_of_insertEvents {events events' : EventTable} {records : List EventRecord}
    (h : insertEvents events records = some events') :
    ∀ record, record ∈ events'.rows ↔ record ∈ events.rows ∨ record ∈ records := by
  induction records generalizing events with
  | nil =>
    obtain rfl := Option.some_inj.1 h
    simp
  | cons record records ih =>
    obtain ⟨inserted, hinsert, hrest⟩ := Option.bind_eq_some_iff.1 h
    intro other
    rw [ih hrest, (Table.rows_of_insertNew hinsert).2]
    simp [or_assoc]

variable {action : EventAction ι} {allowed : EventSystem ι → EventAction ι → Prop}

/-- **What another action does**: the stream is as it was, and the events of one transaction may
have been committed. -/
theorem perform_writer [DecidableEq ι] (s : EventSystem ι)
    (h : ∀ succeeds, action ≠ .resume succeeds) :
    (s.perform action).stream = s.stream ∧ (s.perform action).items = s.items ∧
      (s.perform action).queried = s.queried ∧ s.events.rows ⊆ (s.perform action).events.rows ∧
      ∀ record ∈ (s.perform action).events.rows,
        record ∈ s.events.rows ∨
          ∃ i notifies, action = .commit i notifies ∧ record ∈ s.writing i := by
  cases action with
  | resume succeeds => exact absurd rfl (h succeeds)
  | rollback i => exact ⟨rfl, rfl, rfl, fun _ => id, fun _ => .inl⟩
  | signal => exact ⟨rfl, rfl, rfl, fun _ => id, fun _ => .inl⟩
  | write i event id now =>
    cases hrecord : event.record id now with
    | ok | error =>
      simp only [perform, hrecord]
      exact ⟨trivial, trivial, trivial, fun _ h => h, fun _ => .inl⟩
  | commit i notifies =>
    cases hinsert : insertEvents s.events (s.writing i) with
    | none =>
      simp only [perform, hinsert, Option.getD_none]
      exact ⟨trivial, trivial, trivial, fun _ h => h, fun _ => .inl⟩
    | some events =>
      simp only [perform, hinsert, Option.getD_some]
      have hrows := rows_subset_of_insertEvents hinsert
      refine ⟨trivial, trivial, trivial, fun r hr => (hrows r).2 (.inl hr), fun r hr => ?_⟩
      exact ((hrows r).1 hr).imp_right fun hnew => ⟨i, notifies, rfl, hnew⟩

/-! ### What holds in every run -/

/-- **The stream reads on from its cursor**: what it has read is in order, the cursor is at the last
event that was delivered, and nothing is pending while it waits or queries. -/
structure Sound (organizationId : Uuid) (start : Option Uuid) (s : EventSystem ι) : Prop where
  organization : s.stream.organizationId = organizationId
  follows : s.events.Follows (EventRecord.concerns organizationId) start s.read
  cursor : s.stream.cursor = Table.lastKey EventRecord.id start s.delivered
  idle : s.stream.point ≠ .top → s.stream.pending = []

variable {organizationId : Uuid}

theorem sound_opened (events : EventTable) (writing : ι → List EventRecord) (organizationId : Uuid)
    (start : Option Uuid) (notifier : EventNotifier) :
    (opened events writing organizationId start notifier).Sound organizationId start :=
  ⟨rfl, Table.follows_nil, rfl, fun _ => rfl⟩

/-- The page that is read follows what was read before. -/
theorem Sound.read_of_reads (h : s.Sound organizationId start) (hpoint : s.stream.point = .querying)
    (hdelivered : s'.delivered = s.delivered) (hpending : s'.stream.pending =
      s.stream.pending ++ listEvents s.events s.stream.organizationId s.stream.cursor 100) :
    s'.read = s.read ++ s.events.page (EventRecord.concerns organizationId)
      (Table.lastKey EventRecord.id start s.read) 100 := by
  have hnone : s.stream.pending = [] := h.idle (by simp [hpoint])
  have hread : s.read = s.delivered := by rw [read, hnone, List.append_nil]
  rw [read, hdelivered, hpending, hnone, List.nil_append, hread, ← h.cursor, h.organization]
  rfl

/-- What was read stays as it is, or a page is added to it. -/
theorem Sound.read_resumed (h : s.Sound organizationId start) (succeeds : Bool) :
    (s.resumed succeeds).read = s.read ∨ (s.resumed succeeds).read = s.read ++
      s.events.page (EventRecord.concerns organizationId)
        (Table.lastKey EventRecord.id start s.read) 100 := by
  cases s.resumes_resumed succeeds with
  | delivers record rest hpending _ hdelivered hstream =>
    left
    rw [read, read, hdelivered, hstream, hpending, List.append_assoc, List.singleton_append]
  | reads hpoint hdelivered hstream =>
    exact .inr (h.read_of_reads hpoint hdelivered (congrArg EventStreamState.pending hstream))
  | moves hdelivered _ _ hpending =>
    left
    rw [read, read, hdelivered, hpending]

theorem Sound.resumed (h : s.Sound organizationId start) (succeeds : Bool) :
    (s.resumed succeeds).Sound organizationId start ∧ s.read <+: (s.resumed succeeds).read := by
  have hfollows : s.events.Follows (EventRecord.concerns organizationId) start
      (s.resumed succeeds).read ∧ s.read <+: (s.resumed succeeds).read := by
    rcases h.read_resumed succeeds with hread | hread
    · rw [hread]
      exact ⟨h.follows, List.prefix_refl _⟩
    · rw [hread]
      exact ⟨h.follows.append_page 100, List.prefix_append _ _⟩
  refine ⟨?_, hfollows.2⟩
  cases s.resumes_resumed succeeds with
  | delivers record rest _ hpoint hdelivered hstream =>
    refine ⟨by rw [hstream, ← h.organization], hfollows.1, ?_, ?_⟩
    · rw [hstream, hdelivered, Table.lastKey_concat]
    · rw [hstream]
      exact fun hne => absurd hpoint hne
  | reads _ hdelivered hstream =>
    refine ⟨by rw [hstream, ← h.organization], hfollows.1, ?_, ?_⟩
    · rw [hstream, hdelivered]
      exact h.cursor
    · rw [hstream]
      exact fun hne => absurd rfl hne
  | moves hdelivered horganization hcursor hpending hpoint =>
    refine ⟨horganization.trans h.organization, hfollows.1, ?_, fun hne => ?_⟩
    · rw [hcursor, hdelivered, h.cursor]
    · rw [hpending]
      exact (hpoint hne).elim h.idle id

theorem Sound.perform [DecidableEq ι] (h : s.Sound organizationId start) (action : EventAction ι) :
    (s.perform action).Sound organizationId start ∧ s.read <+: (s.perform action).read := by
  by_cases haction : ∃ succeeds, action = .resume succeeds
  · obtain ⟨succeeds, rfl⟩ := haction
    exact h.resumed succeeds
  · obtain ⟨hstream, hitems, -, hrows, -⟩ :=
      s.perform_writer fun succeeds heq => haction ⟨succeeds, heq⟩
    have hdelivered : (s.perform action).delivered = s.delivered := by rw [delivered, hitems]; rfl
    have hread : (s.perform action).read = s.read := by rw [read, hdelivered, hstream]; rfl
    refine ⟨⟨hstream ▸ h.organization, ?_, ?_, hstream ▸ h.idle⟩, hread ▸ List.prefix_refl _⟩
    · rw [hread]
      exact h.follows.mono hrows
    · rw [hstream, hdelivered]
      exact h.cursor

theorem Sound.steps [DecidableEq ι] (h : s.Sound organizationId start) (hrun : Steps allowed s s') :
    s'.Sound organizationId start ∧ s.read <+: s'.read := by
  induction hrun with
  | refl => exact ⟨h, List.prefix_refl _⟩
  | tail _ hstep ih =>
    obtain ⟨action, -, rfl⟩ := hstep
    have hnext := ih.1.perform action
    exact ⟨hnext.1, ih.2.trans hnext.2⟩

theorem Steps.perform [DecidableEq ι] (h : Steps allowed s s') (action : EventAction ι)
    (haction : allowed s' action) :
    Steps allowed s (s'.perform action) :=
  h.tail ⟨action, haction, rfl⟩

/-- **An event that was passed over is never delivered.** -/
theorem Sound.not_delivered [DecidableEq ι] (h : s.Sound organizationId start)
    {record passed : EventRecord} (hrecord : record ∉ s.read) (hpassed : passed ∈ s.read)
    (hle : record.id ≤ passed.id) (hrun : Steps allowed s s') :
    record ∉ s'.delivered := by
  obtain ⟨hs', more, hmore⟩ := h.steps hrun
  intro hdelivered
  have hread : record ∈ s.read ++ more := hmore ▸ List.mem_append_left _ hdelivered
  have hlater : record ∈ more := (List.mem_append.1 hread).resolve_left hrecord
  have hpairwise := hs'.follows.pairwise
  rw [← hmore, List.pairwise_append] at hpairwise
  exact absurd hle (not_le.2 (hpairwise.2.2 passed hpassed record hlater))

/-- **A client that reconnects goes on behind the last event it has received**: whatever part of
what the first stream sent has come through, no event comes twice or out of order. -/
theorem reconnected_stream_continues [DecidableEq ι] {events events' : EventTable}
    {writing writing' : ι → List EventRecord} {notifier notifier' : EventNotifier}
    {received : List EventRecord}
    (hrun : Steps allowed (opened events writing organizationId start notifier) s)
    (hreceived : received <+: s.delivered)
    (hrun' : Steps allowed (opened events' writing' organizationId
      (Table.lastKey EventRecord.id start received) notifier') s') :
    (received ++ s'.delivered).Pairwise fun a b => a.id < b.id := by
  have hs := ((sound_opened ..).steps hrun).1.follows
  have hs' := ((sound_opened ..).steps hrun').1.follows
  have hread : received <+: s.read := hreceived.trans (List.prefix_append _ _)
  have hfollows : s.events.Follows (EventRecord.concerns organizationId) start received :=
    ⟨hs.pairwise.sublist hread.sublist, fun r hr => hs.sound r (hread.subset hr)⟩
  refine List.pairwise_append.2
    ⟨hfollows.pairwise, (List.pairwise_append.1 hs'.pairwise).1, fun x hx r hr => ?_⟩
  have hbeyond := hs'.sound r (List.mem_append_left _ hr)
  exact (hfollows.lt_of_lastKey (Table.mem_beyond.1 hbeyond).2).1 x hx

/-! ### Late events -/

/-- **No event is late**: one that commits has an id above all that the stream has read. -/
def NotLate (s : EventSystem ι) : EventAction ι → Prop
  | .commit i _ => ∀ record ∈ s.writing i, record.concerns s.stream.organizationId = true →
      ∀ x ∈ s.read, x.id < record.id
  | _ => True

/-- No event below one that was read is missing. -/
def Complete (organizationId : Uuid) (start : Option Uuid) (s : EventSystem ι) : Prop :=
  s.events.Closed (EventRecord.concerns organizationId) start s.read

theorem Sound.complete_resumed (h : s.Sound organizationId start)
    (hcomplete : s.Complete organizationId start) (succeeds : Bool) :
    (s.resumed succeeds).Complete organizationId start := by
  change s.events.Closed _ _ (s.resumed succeeds).read
  rcases h.read_resumed succeeds with hread | hread
  · rw [hread]
    exact hcomplete
  · rw [hread]
    exact hcomplete.append_page h.follows 100

theorem Sound.complete_perform [DecidableEq ι] (h : s.Sound organizationId start)
    (hcomplete : s.Complete organizationId start) (hlate : NotLate s action) :
    (s.perform action).Complete organizationId start := by
  by_cases haction : ∃ succeeds, action = .resume succeeds
  · obtain ⟨succeeds, rfl⟩ := haction
    exact h.complete_resumed hcomplete succeeds
  · obtain ⟨hstream, hitems, -, -, hrows⟩ :=
      s.perform_writer fun succeeds heq => haction ⟨succeeds, heq⟩
    have hread : (s.perform action).read = s.read := by
      rw [read, delivered, hitems, hstream]
      rfl
    rw [Complete, hread]
    refine hcomplete.grow fun record hrecord => (hrows record hrecord).imp_right ?_
    rintro ⟨i, notifies, rfl, hwriting⟩ hconcerns
    exact hlate record hwriting (h.organization ▸ hconcerns)

/-! ### What the stream is told -/

theorem resumed_waits (hpoint : s.stream.point = .top) (hpending : s.stream.pending = [])
    (hinitial : s.stream.initialQuery = false) (succeeds : Bool) :
    s.resumed succeeds = { s with stream := { s.stream with point := .waiting } } := by
  simp [EventSystem.resumed, EventStreamState.resume, hpoint, hpending, hinitial]

theorem resumed_querying (hpoint : s.stream.point = .waiting) (hsignals : 0 < s.signals) :
    s.resumed true =
      { s with stream := { s.stream with point := .querying }, signals := s.signals - 1 } := by
  simp [EventSystem.resumed, EventStreamState.resume, EventStreamState.waitFails, hpoint, hsignals]

/-- **A notification is answered**: on PostgreSQL a query succeeds and meets no more than a page. -/
def Answers (s : EventSystem ι) : EventAction ι → Prop
  | .resume succeeds => s.stream.notifier = .postgres → s.stream.point = .querying →
      succeeds = true ∧ (s.events.beyond (EventRecord.concerns s.stream.organizationId)
        s.stream.cursor).length ≤ 100
  | _ => True

/-- On PostgreSQL the stream is about to query, or a notification has come or is to come, or it has
read everything. -/
def Awake (organizationId : Uuid) (start : Option Uuid) (s : EventSystem ι) : Prop :=
  s.stream.notifier = .postgres →
    s.stream.point = .querying ∨ (s.stream.initialQuery = true ∧ s.stream.point = .top) ∨
      0 < s.signals ∨ s.unannounced = true ∨
      ∀ record ∈ s.events.beyond (EventRecord.concerns organizationId) start, record ∈ s.read

/-- The page of a query that is not cut off is all that there is. -/
theorem Sound.mem_read_of_reads (h : s.Sound organizationId start)
    (hcomplete : s.Complete organizationId start) (hpoint : s.stream.point = .querying)
    (hsmall : (s.events.beyond (EventRecord.concerns s.stream.organizationId)
      s.stream.cursor).length ≤ 100) :
    ∀ record ∈ s.events.beyond (EventRecord.concerns organizationId) start,
      record ∈ (s.resumed true).read := by
  intro record hrecord
  have hread : s.read = s.delivered := by rw [read, h.idle (by simp [hpoint]), List.append_nil]
  have hpage : (s.resumed true).read = s.read ++
      s.events.beyond (EventRecord.concerns organizationId) s.stream.cursor := by
    rw [h.read_of_reads hpoint (by simp [delivered, EventSystem.resumed, EventStreamState.resume,
      hpoint]) (by simp [EventSystem.resumed, EventStreamState.resume, hpoint]), hread, ← h.cursor,
      Table.page_eq_beyond (h.organization ▸ hsmall)]
  rw [hpage, List.mem_append]
  rw [h.cursor, ← hread]
  exact hcomplete.mem_or_beyond hrecord

theorem Sound.awake_resumed (h : s.Sound organizationId start)
    (hcomplete : s.Complete organizationId start) (hawake : s.Awake organizationId start)
    {succeeds : Bool} (hanswers : Answers s (.resume succeeds)) :
    (s.resumed succeeds).Awake organizationId start := by
  intro hpostgres
  cases hpoint : s.stream.point with
  | top =>
    cases hpending : s.stream.pending with
    | cons record rest =>
      have hread : (s.resumed succeeds).read = s.read := by
        simp [read, delivered, EventSystem.resumed, EventStreamState.resume, hpoint, hpending,
          StreamItem.record]
      rw [hread]
      revert hpostgres
      simpa [Awake, EventSystem.resumed, EventStreamState.resume, hpoint, hpending] using hawake
    | nil =>
      by_cases hinitial : s.stream.initialQuery = true
      · exact .inl (by simp [EventSystem.resumed, EventStreamState.resume, hpoint, hpending, hinitial])
      · rw [resumed_waits hpoint hpending (Bool.eq_false_iff.2 hinitial)] at hpostgres ⊢
        rcases hawake hpostgres with hquery | hfirst | hrest
        · cases hpoint.symm.trans hquery
        · exact absurd hfirst.1 hinitial
        · exact .inr (.inr hrest)
  | waiting =>
    by_cases hfails : s.stream.waitFails succeeds = true
    · simp [EventSystem.resumed, EventStreamState.resume, hpoint, hfails] at hpostgres
    · by_cases hsignals : 0 < s.signals
      · exact .inl (by simp [EventSystem.resumed, EventStreamState.resume, hpoint, hfails, hsignals])
      · -- nothing has come: the stream still waits
        have hsame : s.resumed succeeds = s := by
          have hnone : s.signals - 1 = s.signals := by omega
          simp [EventSystem.resumed, EventStreamState.resume, hpoint, hfails, hsignals, hnone]
        rw [hsame] at hpostgres ⊢
        exact hawake hpostgres
  | querying =>
    have hnotifier : s.stream.notifier = .postgres := by
      cases succeeds <;>
        simpa [EventSystem.resumed, EventStreamState.resume, hpoint] using hpostgres
    obtain ⟨rfl, hsmall⟩ := hanswers hnotifier hpoint
    exact .inr (.inr (.inr (.inr (h.mem_read_of_reads hcomplete hpoint hsmall))))

theorem Sound.awake_perform [DecidableEq ι] (h : s.Sound organizationId start)
    (hcomplete : s.Complete organizationId start) (hawake : s.Awake organizationId start)
    (hanswers : Answers s action) : (s.perform action).Awake organizationId start := by
  cases action with
  | resume succeeds => exact h.awake_resumed hcomplete hawake hanswers
  | rollback i => exact hawake
  | signal => exact fun _ => .inr (.inr (.inl (Nat.succ_pos _)))
  | write i event id now =>
    cases hrecord : event.record id now with
    | ok | error =>
      simp only [EventSystem.perform, hrecord]
      exact hawake
  | commit i notifies =>
    intro hpostgres
    cases notifies with
    | true =>
      have hsignals : (s.perform (.commit i true)).signals = s.signals + 1 := by
        simp only [EventSystem.perform]
        exact if_pos (by simp [show s.stream.notifier = .postgres from hpostgres])
      exact .inr (.inr (.inl (hsignals ▸ Nat.succ_pos _)))
    | false =>
      by_cases hnew : (s.writing i).any (EventRecord.concerns s.stream.organizationId) = true
      · -- the commit is to be announced
        exact .inr (.inr (.inr (.inl (by simp [EventSystem.perform, hnew]))))
      · rcases hawake hpostgres with hquery | hfirst | hsignals | hcommitted | hall
        · exact .inl hquery
        · exact .inr (.inl hfirst)
        · exact .inr (.inr (.inl (by simpa [EventSystem.perform] using hsignals)))
        · exact .inr (.inr (.inr (.inl (by simp [EventSystem.perform, hcommitted]))))
        · refine .inr (.inr (.inr (.inr fun record hrecord => hall record ?_)))
          obtain ⟨⟨hmem, hconcerns⟩, hafter⟩ := Table.mem_beyond.1 hrecord
          refine Table.mem_beyond.2 ⟨⟨?_, hconcerns⟩, hafter⟩
          refine ((s.perform_writer (fun _ h => by cases h)).2.2.2.2 record hmem).resolve_right ?_
          rintro ⟨_, _, heq, hwriting⟩
          cases heq
          exact hnew (List.any_eq_true.2 ⟨record, hwriting, h.organization ▸ hconcerns⟩)

theorem Sound.awake_steps [DecidableEq ι] (h : s.Sound organizationId start)
    (hcomplete : s.Complete organizationId start) (hawake : s.Awake organizationId start)
    (hrun : Steps (fun s action => NotLate s action ∧ Answers s action) s s') :
    s'.Complete organizationId start ∧ s'.Awake organizationId start := by
  induction hrun with
  | refl => exact ⟨hcomplete, hawake⟩
  | tail hrun hstep ih =>
    obtain ⟨action, ⟨hlate, hanswers⟩, rfl⟩ := hstep
    have hsound := (h.steps hrun).1
    exact ⟨hsound.complete_perform ih.1 hlate, hsound.awake_perform ih.1 ih.2 hanswers⟩

/-! ### The stream left alone -/

/-- A second passes: the next tick of an interval is due. -/
def ticked (s : EventSystem ι) : EventSystem ι :=
  { s with
    signals := if s.stream.notifier = .poll then s.signals + 1 else s.signals
    unannounced := s.stream.notifier ≠ .poll && s.unannounced }

/-- So many steps in which only time passes, and what the stream waits for does not fail. -/
def resumedTimes (s : EventSystem ι) (n : ℕ) : EventSystem ι :=
  (fun s => s.ticked.resumed true)^[n] s

theorem signals_le_ticked (s : EventSystem ι) : s.signals ≤ s.ticked.signals := by
  simp only [ticked]
  split <;> omega

theorem resumedTimes_succ (s : EventSystem ι) (n : ℕ) :
    s.resumedTimes (n + 1) = (s.ticked.resumed true).resumedTimes n := rfl

theorem resumedTimes_add (s : EventSystem ι) (m n : ℕ) :
    s.resumedTimes (m + n) = (s.resumedTimes m).resumedTimes n := by
  rw [resumedTimes, Nat.add_comm, Function.iterate_add_apply]
  rfl

theorem steps_ticked [DecidableEq ι] (h : ∀ s, allowed s .signal) (s : EventSystem ι) :
    Steps allowed s s.ticked := by
  by_cases hpoll : s.stream.notifier = .poll
  · refine .single ⟨.signal, h s, ?_⟩
    simp [ticked, perform, hpoll]
  · have hsame : s.ticked = s := by simp [ticked, hpoll]
    rw [hsame]
    exact .refl

theorem steps_resumedTimes [DecidableEq ι] {s : EventSystem ι} (hsignal : ∀ s, allowed s .signal)
    (h : ∀ n, allowed (s.resumedTimes n).ticked (.resume true)) (n : ℕ) :
    Steps allowed s (s.resumedTimes n) := by
  induction n generalizing s with
  | zero => exact .refl
  | succ n ih =>
    exact (steps_ticked hsignal s).trans
      ((ih fun m => h (m + 1)).head ⟨.resume true, h 0, rfl⟩)

@[simp] theorem events_resumedTimes (s : EventSystem ι) (n : ℕ) :
    (s.resumedTimes n).events = s.events := by
  induction n generalizing s with
  | zero => rfl
  | succ n ih => rw [resumedTimes_succ, ih]; rfl

@[simp] theorem notifier_resumedTimes (s : EventSystem ι) (n : ℕ) :
    (s.resumedTimes n).stream.notifier = s.stream.notifier := by
  induction n generalizing s with
  | zero => rfl
  | succ n ih =>
    rw [resumedTimes_succ, ih]
    simp only [resumed, EventStreamState.resume, EventStreamState.waitFails, Bool.not_true,
      Bool.and_false, Bool.false_eq_true, if_false]
    split
    · split
      · rfl
      · split <;> rfl
    · split <;> rfl
    · rfl

theorem Sound.ticked (h : s.Sound organizationId start) : s.ticked.Sound organizationId start :=
  ⟨h.organization, h.follows, h.cursor, h.idle⟩

theorem Sound.resumedTimes (h : s.Sound organizationId start) (n : ℕ) :
    (s.resumedTimes n).Sound organizationId start := by
  induction n generalizing s with
  | zero => exact h
  | succ n ih => exact ih (h.ticked.resumed true).1

/-- What is pending is delivered one by one. -/
theorem resumedTimes_pending (s : EventSystem ι) (hpoint : s.stream.point = .top) :
    (s.resumedTimes s.stream.pending.length).delivered = s.read ∧
      (s.resumedTimes s.stream.pending.length).stream =
        { s.stream with
          pending := []
          cursor := Table.lastKey EventRecord.id s.stream.cursor s.stream.pending } ∧
      (s.resumedTimes s.stream.pending.length).queried = s.queried ∧
      s.signals ≤ (s.resumedTimes s.stream.pending.length).signals := by
  generalize hpending : s.stream.pending = pending
  induction pending generalizing s with
  | nil =>
    refine ⟨?_, ?_, rfl, le_rfl⟩
    · rw [read, hpending, List.append_nil]
      rfl
    · change s.stream = _
      rw [Table.lastKey_nil, ← hpending]
  | cons record rest ih =>
    have hstream : (s.ticked.resumed true).stream =
        { s.stream with pending := rest, cursor := some record.id } := by
      simp [ticked, EventSystem.resumed, EventStreamState.resume, hpoint, hpending]
    have hdelivered : (s.ticked.resumed true).delivered = s.delivered ++ [record] := by
      simp [delivered, ticked, EventSystem.resumed, EventStreamState.resume, hpoint, hpending,
        StreamItem.record]
    have hqueried : (s.ticked.resumed true).queried = s.queried := by
      simp [ticked, EventSystem.resumed, hpoint]
    have hsignals : s.signals ≤ (s.ticked.resumed true).signals := by
      rw [show (s.ticked.resumed true).signals = s.ticked.signals from
        if_neg (by simp [ticked, hpoint])]
      exact s.signals_le_ticked
    obtain ⟨hread', hstream', hqueried', hsignals'⟩ :=
      ih (s.ticked.resumed true) (by rw [hstream]; exact hpoint) (by rw [hstream])
    rw [List.length_cons, resumedTimes_succ]
    refine ⟨?_, ?_, hqueried'.trans hqueried, hsignals.trans hsignals'⟩
    · rw [hread', read, read, hdelivered, hstream, hpending]
      simp
    · rw [hstream', hstream]
      simp [Table.lastKey, List.getLast?_cons]

/-- Wherever the stream stands, what it has read is delivered. -/
theorem Sound.exists_drained (h : s.Sound organizationId start) :
    ∃ n, (s.resumedTimes n).delivered = s.read ∧ (s.resumedTimes n).stream.pending = [] ∧
      (s.resumedTimes n).stream.point = s.stream.point ∧
      (s.resumedTimes n).stream.initialQuery = s.stream.initialQuery ∧
      s.signals ≤ (s.resumedTimes n).signals := by
  by_cases hpoint : s.stream.point = .top
  · obtain ⟨hread, hstream, -, hsignals⟩ := s.resumedTimes_pending hpoint
    exact ⟨_, hread, by rw [hstream], by rw [hstream], by rw [hstream], hsignals⟩
  · refine ⟨0, ?_, h.idle hpoint, rfl, rfl, le_rfl⟩
    rw [read, h.idle hpoint, List.append_nil]
    rfl

theorem Sound.complete_resumedTimes (h : s.Sound organizationId start)
    (hcomplete : s.Complete organizationId start) (n : ℕ) :
    (s.resumedTimes n).Complete organizationId start := by
  induction n generalizing s with
  | zero => exact hcomplete
  | succ n ih => exact ih (h.ticked.resumed true).1 (h.ticked.complete_resumed hcomplete true)

/-- The stream comes to its next query by itself: the first query does not wait, a tick will be
due, or a notification has come. -/
def Woken (s : EventSystem ι) : Prop :=
  (s.stream.initialQuery = true ∧ s.stream.point = .top) ∨ 0 < s.ticked.signals

/-- With nothing pending, a stream that is woken comes to its next query. -/
theorem exists_querying (s : EventSystem ι) (hpoint : s.stream.point ≠ .querying)
    (hpending : s.stream.pending = []) (hwoken : s.Woken) :
    ∃ n, (s.resumedTimes n).stream.point = .querying ∧
      (s.resumedTimes n).delivered = s.delivered := by
  cases hat : s.stream.point with
  | querying => exact absurd hat hpoint
  | waiting =>
    have hsignals : 0 < s.ticked.signals := hwoken.resolve_left fun h => by simp [hat] at h
    refine ⟨1, ?_⟩
    rw [resumedTimes_succ, resumed_querying (s := s.ticked) hat hsignals]
    exact ⟨rfl, rfl⟩
  | top =>
    by_cases hinitial : s.stream.initialQuery = true
    · refine ⟨1, ?_, ?_⟩ <;>
        simp [resumedTimes, ticked, EventSystem.resumed, EventStreamState.resume, delivered, hat,
          hpending, hinitial]
    · have hsignals : 0 < s.ticked.signals := hwoken.resolve_left fun h => hinitial h.1
      refine ⟨2, ?_⟩
      rw [resumedTimes_succ, resumed_waits (s := s.ticked) hat hpending
        (Bool.eq_false_iff.2 hinitial), resumedTimes_succ]
      generalize hwaits : ({ s.ticked with
        stream := { s.ticked.stream with point := .waiting } } : EventSystem ι) = s'
      have hpoint' : s'.ticked.stream.point = .waiting := by rw [← hwaits]; rfl
      have hsignals' : 0 < s'.ticked.signals :=
        (hwaits ▸ hsignals : 0 < s'.signals).trans_le s'.signals_le_ticked
      rw [resumed_querying hpoint' hsignals']
      exact ⟨rfl, by rw [← hwaits]; rfl⟩

/-- One query and the delivery of its page. -/
theorem Sound.exists_page_delivered (h : s.Sound organizationId start)
    (hpoint : s.stream.point = .querying) :
    ∃ n, (s.resumedTimes n).stream.point = .top ∧ (s.resumedTimes n).stream.pending = [] ∧
      (s.resumedTimes n).stream.initialQuery = s.stream.initialQuery ∧
      (s.resumedTimes n).queried = some (s.stream.cursor, s.events) ∧
      (s.resumedTimes n).delivered = s.delivered ++
        s.events.page (EventRecord.concerns organizationId) s.stream.cursor 100 := by
  have hnone : s.stream.pending = [] := h.idle (by simp [hpoint])
  have hstream : (s.ticked.resumed true).stream = { s.stream with
      pending := s.events.page (EventRecord.concerns organizationId) s.stream.cursor 100
      point := .top } := by
    simp [EventSystem.ticked, EventSystem.resumed, EventStreamState.resume, hpoint, hnone,
      ← h.organization, listEvents]
  have hdelivered : (s.ticked.resumed true).delivered = s.delivered := by
    simp [delivered, EventSystem.ticked, EventSystem.resumed, EventStreamState.resume, hpoint]
  have hqueried : (s.ticked.resumed true).queried = some (s.stream.cursor, s.events) := by
    simp [EventSystem.ticked, EventSystem.resumed, hpoint]
  obtain ⟨hread, hdrained, hkept, -⟩ :=
    (s.ticked.resumed true).resumedTimes_pending (by rw [hstream])
  refine ⟨(s.ticked.resumed true).stream.pending.length + 1, ?_⟩
  rw [resumedTimes_succ, hdrained, hread, read, hdelivered, hkept, hqueried, hstream]
  exact ⟨rfl, rfl, rfl, rfl, rfl⟩

/-- **The stream that is left alone delivers what is committed**, if it polls or has no more than a
page before it.  The induction is on the number of events that it has not read. -/
theorem Sound.exists_delivered (h : s.Sound organizationId start)
    (hcomplete : s.Complete organizationId start) (hpoint : s.stream.point = .querying)
    (hend : s.stream.notifier = .poll ∨
      (s.events.beyond (EventRecord.concerns organizationId) s.stream.cursor).length ≤ 100) :
    ∃ n, (s.resumedTimes n).delivered =
      s.events.beyond (EventRecord.concerns organizationId) start := by
  generalize hrest : (s.events.beyond (EventRecord.concerns organizationId) s.stream.cursor).length
    = rest at hend
  induction rest using Nat.strong_induction_on generalizing s with
  | _ rest ih =>
    have hall := hcomplete.beyond_eq_append h.follows
    have hread : s.read = s.delivered := by
      rw [read, h.idle (by simp [hpoint]), List.append_nil]
    rw [hread, ← h.cursor] at hall
    obtain ⟨n, htop, hpending, -, -, hdelivered⟩ := h.exists_page_delivered hpoint
    by_cases hlast : rest ≤ 100
    · refine ⟨n, ?_⟩
      rw [hdelivered, hall, Table.page_eq_beyond (hrest.trans_le hlast)]
    · -- the next query has fewer events before it
      have hpoll := hend.resolve_right hlast
      obtain ⟨m, hquerying, hdelivered'⟩ :=
        (s.resumedTimes n).exists_querying (by simp [htop]) hpending
          (.inr (by simp [EventSystem.ticked, hpoll]))
      rw [← resumedTimes_add] at hquerying hdelivered'
      have hnext := h.resumedTimes (n + m)
      have hcompleteNext := h.complete_resumedTimes hcomplete (n + m)
      have hallNext := hcompleteNext.beyond_eq_append hnext.follows
      rw [read, hnext.idle (by simp [hquerying]), List.append_nil, ← hnext.cursor, hdelivered',
        hdelivered, events_resumedTimes, hall, List.append_assoc, List.append_cancel_left_eq]
        at hallNext
      have hlength := congrArg List.length hallNext
      rw [List.length_append, Table.page, List.length_take] at hlength
      have hfewer : ((s.resumedTimes (n + m)).events.beyond (EventRecord.concerns organizationId)
          (s.resumedTimes (n + m)).stream.cursor).length < rest := by
        rw [events_resumedTimes]
        omega
      obtain ⟨k, hk⟩ := ih _ hfewer hnext hcompleteNext hquerying rfl (.inl (by simp [hpoll]))
      rw [← resumedTimes_add, events_resumedTimes] at hk
      exact ⟨_, hk⟩

/-- A stream that is awake comes to a query, unless it has read everything. -/
theorem Sound.exists_query (h : s.Sound organizationId start) (hawake : s.Awake organizationId start)
    (hannounced : s.stream.notifier = .postgres → s.unannounced = false)
    (hread : ¬∀ record ∈ s.events.beyond (EventRecord.concerns organizationId) start,
      record ∈ s.read) : ∃ m, (s.resumedTimes m).stream.point = .querying := by
  by_cases hat : s.stream.point = .querying
  · exact ⟨0, hat⟩
  · -- what was read before is delivered first
    obtain ⟨n, -, hpending, hpoint, hinitial, hsignals⟩ := h.exists_drained
    have hwoken : (s.resumedTimes n).Woken := by
      cases hnotifier : s.stream.notifier with
      | poll => exact .inr (by simp [EventSystem.ticked, hnotifier])
      | postgres =>
        rcases hawake hnotifier with hquerying | hfirst | hsignalled | hcommitted | hall
        · exact absurd hquerying hat
        · exact .inl ⟨hinitial.trans hfirst.1, hpoint.trans hfirst.2⟩
        · exact .inr ((hsignalled.trans_le hsignals).trans_le (signals_le_ticked _))
        · exact absurd hcommitted (by simp [hannounced hnotifier])
        · exact absurd hall hread
    obtain ⟨m, hm, -⟩ := (s.resumedTimes n).exists_querying (by rwa [hpoint]) hpending hwoken
    exact ⟨_, resumedTimes_add s n m ▸ hm⟩

/-- **From any state of a run the stream that is left alone delivers everything.** -/
theorem Sound.exists_all_delivered (h : s.Sound organizationId start)
    (hcomplete : s.Complete organizationId start) (hawake : s.Awake organizationId start)
    (hanswers : ∀ n, Answers (s.resumedTimes n) (.resume true))
    (hannounced : s.stream.notifier = .postgres → s.unannounced = false) :
    ∃ n, (s.resumedTimes n).delivered =
      s.events.beyond (EventRecord.concerns organizationId) start := by
  by_cases hread : ∀ record ∈ s.events.beyond (EventRecord.concerns organizationId) start,
      record ∈ s.read
  · obtain ⟨n, hdelivered, -⟩ := h.exists_drained
    refine ⟨n, hdelivered.trans ?_⟩
    rw [hcomplete.beyond_eq_append h.follows, List.self_eq_append_right,
      List.eq_nil_iff_forall_not_mem]
    intro record hrecord
    have hbefore := (h.follows.lt_of_lastKey (Table.mem_beyond.1 hrecord).2).1
    exact lt_irrefl _ (hbefore record (hread record (h.follows.mem_beyond_start hrecord)))
  · obtain ⟨m, hm⟩ := h.exists_query hawake hannounced hread
    have hend : (s.resumedTimes m).stream.notifier = .poll ∨
        ((s.resumedTimes m).events.beyond (EventRecord.concerns organizationId)
          (s.resumedTimes m).stream.cursor).length ≤ 100 := by
      cases hnotifier : (s.resumedTimes m).stream.notifier with
      | poll => exact .inl rfl
      | postgres => exact .inr ((h.resumedTimes m).organization ▸ (hanswers m hnotifier hm).2)
    obtain ⟨k, hk⟩ := (h.resumedTimes m).exists_delivered (h.complete_resumedTimes hcomplete m) hm hend
    rw [← resumedTimes_add, events_resumedTimes] at hk
    exact ⟨_, hk⟩

/-! ### The backlog -/

/-- **The backlog is small**: a query meets at most as many events as a page has. -/
def SmallBacklog (s : EventSystem ι) : EventAction ι → Prop
  | .resume _ => s.stream.point = .querying →
      (s.events.beyond (EventRecord.concerns s.stream.organizationId) s.stream.cursor).length ≤ 100
  | _ => True

/-- The events that the last query could see were read. -/
def Answered (organizationId : Uuid) (s : EventSystem ι) : Prop :=
  ∀ after events, s.queried = some (after, events) →
    ∀ record ∈ events.beyond (EventRecord.concerns organizationId) after, record ∈ s.read

theorem Sound.answered_perform [DecidableEq ι] (h : s.Sound organizationId start)
    (hanswered : s.Answered organizationId) (hsmall : SmallBacklog s action) :
    (s.perform action).Answered organizationId := by
  have hread := (h.perform action).2
  by_cases haction : ∃ succeeds, action = .resume succeeds
  · obtain ⟨succeeds, rfl⟩ := haction
    intro after events hqueried record hrecord
    change (s.resumed succeeds).queried = _ at hqueried
    cases s.resumes_resumed succeeds with
    | delivers _ _ _ _ _ _ hsame =>
      exact hread.subset (hanswered after events (hsame ▸ hqueried) record hrecord)
    | reads hpoint hdelivered hstream hnew =>
      obtain ⟨rfl, rfl⟩ := Prod.mk.inj (Option.some_inj.1 (hnew.symm.trans hqueried))
      have hsmall := hsmall hpoint
      rw [h.organization] at hsmall
      change record ∈ (s.resumed succeeds).read
      rw [EventSystem.read, hstream, h.organization]
      refine List.mem_append_right _ (List.mem_append_right _ ?_)
      change record ∈ s.events.page _ _ 100
      rwa [Table.page_eq_beyond hsmall]
    | moves _ _ _ _ _ hsame =>
      rcases hsame with hsame | hnone
      · exact hread.subset (hanswered after events (hsame ▸ hqueried) record hrecord)
      · rw [hnone] at hqueried
        cases hqueried
  · obtain ⟨-, -, hsame, -, -⟩ := s.perform_writer fun succeeds heq => haction ⟨succeeds, heq⟩
    intro after events hqueried record hrecord
    exact hread.subset (hanswered after events (hsame ▸ hqueried) record hrecord)

theorem Sound.answered_steps [DecidableEq ι] (h : s.Sound organizationId start)
    (hanswered : s.Answered organizationId) (hrun : Steps SmallBacklog s s') :
    s'.Answered organizationId := by
  induction hrun with
  | refl => exact hanswered
  | tail hrun hstep ih =>
    obtain ⟨action, hsmall, rfl⟩ := hstep
    exact (h.steps hrun).1.answered_perform ih hsmall

/-- A stream that is opened before more than a page of events delivers the page and waits. -/
theorem exists_withheld [DecidableEq ι] (writing : ι → List EventRecord) (organizationId : Uuid)
    (start : Option Uuid) (notifier : EventNotifier) {events : EventTable}
    (h : 100 < (events.beyond (EventRecord.concerns organizationId) start).length) :
    ∃ s, Steps (fun _ _ => True) (opened events writing organizationId start notifier) s ∧
      s.stream.point = .waiting ∧ s.queried = some (start, events) ∧
        ∃ record ∈ events.beyond (EventRecord.concerns organizationId) start,
          record ∉ s.delivered ∧ ∀ k ∈ s.stream.cursor, k < record.id := by
  have hopened := sound_opened events writing organizationId start notifier
  obtain ⟨n, htop, hpending, hinitial, hqueried, hdelivered⟩ :=
    (hopened.ticked.resumed true).1.exists_page_delivered rfl
  obtain ⟨record, hrecord, hpage⟩ := Table.exists_mem_beyond_of_lt h
  have hcursor := (hopened.resumedTimes (n + 1)).cursor
  rw [resumedTimes_succ, hdelivered] at hcursor
  have hsteps : Steps (fun _ _ => True) (opened events writing organizationId start notifier) _ :=
    (steps_resumedTimes (fun _ => trivial) (fun _ => trivial) (n + 1)).perform (.resume true) trivial
  rw [resumedTimes_succ, EventSystem.perform, resumed_waits htop hpending hinitial] at hsteps
  refine ⟨_, hsteps, rfl, hqueried, record, hrecord, fun hmem => ?_, fun k hk => ?_⟩
  · change record ∈ EventSystem.delivered (EventSystem.resumedTimes _ n) at hmem
    rw [hdelivered] at hmem
    exact lt_irrefl _ (hpage record hmem)
  · exact Table.lt_of_mem_lastKey hpage (Table.mem_beyond.1 hrecord).2 k (hcursor ▸ hk)

end EventSystem

/-! ### Samples -/

def sampleEventText (n : ℕ) : List Char :=
  List.replicate 8 '0' ++ '-' :: List.replicate 4 '0' ++ '-' :: List.replicate 4 '0' ++ '-' ::
    List.replicate 4 '0' ++ '-' :: List.replicate 9 '0' ++
      [Nat.digitChar (n / 100), Nat.digitChar (n / 10 % 10), Nat.digitChar (n % 10)]

theorem canonical_sampleEventText (n : Fin 101) :
    canonicalUuid (String.ofList (sampleEventText n)) = true := by
  simp only [canonicalUuid, String.toList_ofList]
  revert n
  decide +kernel

def sampleEventId (n : Fin 101) : Uuid :=
  ⟨String.ofList (sampleEventText n), canonical_sampleEventText n⟩

theorem sampleEventId_injective : Function.Injective sampleEventId := by
  have hdecode : ∀ n : Fin 101, ((sampleEventText n).drop 33).foldl
      (fun value c => 10 * value + (c.toNat - 48)) 0 = n.val := by
    decide +kernel
  intro m n h
  have htext : sampleEventText m = sampleEventText n :=
    String.ofList_injective (congrArg Uuid.text h)
  exact Fin.ext (by rw [← hdecode m, htext, hdecode n])

def sampleEvent (n : Fin 101) : EventRecord :=
  ⟨sampleEventId n, sampleUserId, none, "sample", .object [], 0⟩

def sampleBacklog : EventTable :=
  ⟨(List.finRange 101).map sampleEvent, by
    rw [List.map_map]
    exact (List.nodup_finRange 101).map sampleEventId_injective⟩

open EventSystem

/-- **Every committed event is delivered, in order and once**, when no event commits below one that
the stream has read, and no query of a stream that is notified meets more than a page: what was
delivered is at all times a beginning of the committed events beyond the cursor that the stream was
opened with, and the stream that is left alone goes on to deliver them all. -/
theorem stream_delivers_committed_events {ι : Type} [DecidableEq ι] {events : EventTable}
    {writing : ι → List EventRecord} {organizationId : Uuid} {start : Option Uuid}
    {notifier : EventNotifier} {s : EventSystem ι}
    (hrun : Steps (fun s action => NotLate s action ∧ Answers s action)
      (opened events writing organizationId start notifier) s) :
    s.delivered.Pairwise (fun a b => a.id < b.id) ∧
      s.delivered <+: s.events.beyond (EventRecord.concerns organizationId) start ∧
      ((∀ n, Answers (s.resumedTimes n) (.resume true)) →
        (s.stream.notifier = .postgres → s.unannounced = false) →
        ∃ n, (s.resumedTimes n).delivered =
          s.events.beyond (EventRecord.concerns organizationId) start) := by
  have hopened := sound_opened events writing organizationId start notifier
  have hsound := (hopened.steps hrun).1
  obtain ⟨hcomplete, hawake⟩ :=
    hopened.awake_steps Table.closed_nil (fun _ => .inr (.inl ⟨rfl, rfl⟩)) hrun
  have hall := hcomplete.beyond_eq_append hsound.follows
  refine ⟨(List.pairwise_append.1 hsound.follows.pairwise).1, ?_,
    hsound.exists_all_delivered hcomplete hawake⟩
  rw [hall, EventSystem.read, List.append_assoc]
  exact List.prefix_append _ _

def sampleAppend : EventWrite := .append ⟨sampleUserId, none, "sample", .object []⟩

def sampleStream (notifier : EventNotifier) : EventSystem Unit :=
  opened ⟨[sampleEvent 0], by simp⟩ (fun _ => []) sampleUserId none notifier

theorem sampleStream_small {notifier : EventNotifier} (n : ℕ) :
    let s := ((sampleStream notifier).resumedTimes n).ticked
    (s.events.beyond (EventRecord.concerns s.stream.organizationId) s.stream.cursor).length ≤
      100 := by
  intro s
  have hevents : s.events = (sampleStream notifier).events := events_resumedTimes _ n
  rw [hevents, Table.beyond, List.length_insertionSort]
  exact (List.length_filter_le _ _).trans (show 1 ≤ 100 by decide)

/-- A second event commits, and the stream is notified, which has delivered the first and waits. -/
def sampleSecondEvent : EventSystem Unit :=
  ((((sampleStream .postgres).resumedTimes 4).perform
    (.write () sampleAppend (sampleEventId 1) 0)).perform (.commit () false)).perform .signal

theorem stream_delivers_committed_events_sample :
    sampleSecondEvent.delivered = [sampleEvent 0] ∧
      ∃ n, (sampleSecondEvent.resumedTimes n).delivered =
        sampleSecondEvent.events.beyond (EventRecord.concerns sampleUserId) none := by
  have hrun : Steps (fun s action => NotLate s action ∧ Answers s action) (sampleStream .postgres)
      sampleSecondEvent := by
    refine ((steps_resumedTimes (fun _ => ⟨trivial, trivial⟩) (fun n => ⟨trivial, fun _ _ =>
      ⟨rfl, sampleStream_small n⟩⟩) 4).perform _ ⟨trivial, trivial⟩).perform _ ⟨?_, trivial⟩ |>.perform
        _ ⟨trivial, trivial⟩
    have hlater : ∀ record ∈ [sampleEvent 1], record.concerns sampleUserId = true →
        ∀ x ∈ [sampleEvent 0], x.id < record.id := by
      decide +kernel
    exact hlater
  refine ⟨by decide +kernel,
    (stream_delivers_committed_events hrun).2.2 (fun n _ _ => ⟨rfl, ?_⟩) fun _ => by decide +kernel⟩
  rw [events_resumedTimes, Table.beyond, List.length_insertionSort]
  exact (List.length_filter_le _ _).trans (by decide +kernel)

theorem reconnected_stream_continues_sample :
    ([sampleEvent 0] ++ ((opened sampleBacklog (fun _ : Unit => []) sampleUserId
      (some (sampleEventId 0)) .poll).resumedTimes 3).delivered).Pairwise fun a b => a.id < b.id :=
  have hrun : Steps NotLate (sampleStream .poll) _ :=
    steps_resumedTimes (fun _ => trivial) (fun _ => trivial) 3
  reconnected_stream_continues hrun (by decide +kernel)
    (steps_resumedTimes (fun _ => trivial) (fun _ => trivial) 3)

/-- The first event is drawn, then the second; the second commits and is delivered before the first
commits. -/
def sampleLateEvent : EventSystem Bool :=
  (((((opened (.empty _) (fun _ => []) sampleUserId none .postgres).perform
    (.write false sampleAppend (sampleEventId 0) 0)).perform
    (.write true sampleAppend (sampleEventId 1) 0)).perform (.commit true true)).resumedTimes
    3).perform (.commit false true)

/-- **An event that commits late is skipped for good.** -/
theorem late_event_never_delivered :
    ∃ (s : EventSystem Bool) (record : EventRecord),
      Steps (fun _ _ => True) (opened (.empty _) (fun _ => []) sampleUserId none .postgres) s ∧
        record ∈ s.events.rows ∧ record.organizationId = sampleUserId ∧
        ∀ s', Steps (fun _ _ => True) s s' → record ∉ s'.delivered := by
  have hsteps : Steps (fun _ _ => True) (opened (.empty _) (fun _ => []) sampleUserId none
      .postgres) sampleLateEvent :=
    Steps.perform ((Steps.perform (Steps.perform (Steps.perform .refl _ trivial) _ trivial) _
      trivial).trans (steps_resumedTimes (fun _ => trivial) (fun _ => trivial) 3)) _ trivial
  have hsound := ((sound_opened _ _ _ _ _).steps hsteps).1
  have hevents : sampleEvent 0 ∈ sampleLateEvent.events.rows ∧
      sampleLateEvent.read = [sampleEvent 1] := by
    decide +kernel
  refine ⟨sampleLateEvent, sampleEvent 0, hsteps, hevents.1, rfl, fun s' hrun => ?_⟩
  have hpassed : sampleEvent 1 ∈ sampleLateEvent.read := by
    rw [hevents.2]
    exact List.mem_singleton_self _
  refine hsound.not_delivered ?_ hpassed ?_ hrun
  · rw [hevents.2]
    decide +kernel
  · decide +kernel

/-- **A stream that waits after a query has delivered what the query could see**, when no query
meets more events than a page has. -/
theorem blocked_stream_has_delivered {ι : Type} [DecidableEq ι] {events queriedEvents : EventTable}
    {writing : ι → List EventRecord} {organizationId : Uuid} {start after : Option Uuid}
    {notifier : EventNotifier} {s : EventSystem ι}
    (hrun : Steps SmallBacklog (opened events writing organizationId start notifier) s)
    (hwaiting : s.stream.point = .waiting) (hqueried : s.queried = some (after, queriedEvents)) :
    ∀ record ∈ queriedEvents.rows, record.organizationId = organizationId →
      (∀ k ∈ after, k < record.id) → record ∈ s.delivered := by
  intro record hrecord horganization hafter
  have hopened := sound_opened events writing organizationId start notifier
  have hanswered := hopened.answered_steps (fun _ _ hnone => by cases hnone) hrun
  have hread := hanswered after queriedEvents hqueried record
    (Table.mem_beyond.2 ⟨⟨hrecord, decide_eq_true horganization⟩, hafter⟩)
  rwa [EventSystem.read, (hopened.steps hrun).1.idle (by simp [hwaiting]), List.append_nil] at hread

/-- The event of the sample is delivered, and the stream waits again. -/
theorem blocked_stream_has_delivered_sample :
    ((sampleStream .postgres).resumedTimes 4).stream.point = .waiting ∧
      sampleEvent 0 ∈ ((sampleStream .postgres).resumedTimes 4).delivered := by
  have hrun : Steps SmallBacklog (sampleStream .postgres)
      ((sampleStream .postgres).resumedTimes 4) :=
    steps_resumedTimes (fun _ => trivial) (fun n _ => sampleStream_small n) 4
  have hqueried : ((sampleStream .postgres).resumedTimes 4).queried =
      some (none, (sampleStream .postgres).events) := rfl
  exact ⟨by decide +kernel, blocked_stream_has_delivered hrun (by decide +kernel) hqueried
    (sampleEvent 0) List.mem_cons_self rfl fun _ hk => by cases hk⟩

/-- **A backlog is withheld**: with 101 events before it, the stream waits after the first hundred,
although its query ran when all were committed. -/
theorem backlog_withheld :
    ∃ (s : EventSystem Unit) (record : EventRecord),
      Steps (fun _ _ => True) (opened sampleBacklog (fun _ => []) sampleUserId none .postgres) s ∧
        s.stream.point = .waiting ∧ s.queried = some (none, sampleBacklog) ∧
        record ∈ sampleBacklog.rows ∧ record.organizationId = sampleUserId ∧
        (∀ k ∈ s.stream.cursor, k < record.id) ∧ record ∉ s.delivered := by
  have hlength : 100 < (sampleBacklog.beyond (EventRecord.concerns sampleUserId) none).length := by
    rw [Table.beyond, List.length_insertionSort, List.filter_eq_self.2]
    · simp [sampleBacklog]
    · simp [sampleBacklog, sampleEvent, EventRecord.concerns]
  obtain ⟨s, hsteps, hwaiting, hqueried, record, hrecord, hnot, hcursor⟩ :=
    exists_withheld (fun _ : Unit => []) sampleUserId none .postgres hlength
  obtain ⟨⟨hmem, horganization⟩, -⟩ := Table.mem_beyond.1 hrecord
  exact ⟨s, record, hsteps, hwaiting, hqueried, hmem, of_decide_eq_true horganization, hcursor,
    hnot⟩

end WorkspaceControl
