/-
**Port mappings, their tickets and sessions.**

`src/src/storage/port_mappings.rs` and `src/src/api/port_mappings/auth.rs`: a port of a workspace is
published under a host name of its own.  A user is issued a ticket for the mapping; the gateway,
which asks about every request to that host, exchanges the ticket for a session, and admits the
requests that carry one.

Every statement is a step of its own.  The exchange is a transaction that locks the ticket, so that
its two statements take effect at once.

Main definitions:

* `PortMapping`, `PortTables` — the tables;
* `PortTables.insertTicket`, `PortTables.exchangePortMappingTicket`,
  `PortTables.portMappingSessionValid` — the statements;
* `PortRequests.authorize`, `issuePortMappingTicket`, `createPortMapping` — the requests;
* `PortRun`, `PortSystem` — the tables with what has happened to tickets and sessions, and any
  number of requests at once.

Main results:

* `PortRun.Sound` and `PortSystem.sound_of_steps` — what holds in every run;
* `tickets_and_sessions` — **a ticket yields at most one session, for its mapping and before it
  expires; and a request is admitted only with a session that is valid at that moment**.
-/
import WorkspaceControl.Directory
import WorkspaceControl.WebShell

set_option autoImplicit false

namespace WorkspaceControl

open Fallible MachineInt Relational Interaction

/-! ### Mappings -/

structure PortMapping where
  id : Uuid
  organizationId : Uuid
  workspaceId : Uuid
  internalPort : ℕ
  displayName : Option String
  createdBy : Uuid
  createdAt : ℤ

structure PortMappingTicket where
  id : Uuid
  mappingId : Uuid
  userId : Uuid
  ticketHash : String
  expiresAt : ℤ
  consumedAt : Option ℤ
  createdAt : ℤ
deriving DecidableEq

structure PortMappingSession where
  id : Uuid
  mappingId : Uuid
  userId : Uuid
  sessionHash : String
  expiresAt : ℤ
  revokedAt : Option ℤ
  createdAt : ℤ

def validateHttpPort (port : ℕ) : Except StorageError Unit :=
  ensure ((port = 80 || port = 443 || (1024 ≤ port && port ≤ 65535)) &&
    !isPlatformReservedPort port) .invalidPortMappingPort

/-- `validate_display_name`: a name of blanks is none. -/
def validateMappingName (value : Option String) : Except StorageError (Option String) :=
  let trimmed := value.map fun value => Text.trim value.toList
  match trimmed.filter fun value => !value.isEmpty with
  | none => .ok none
  | some value => do
    ensure (Text.len value ≤ 80 && !value.any Text.isControl) .invalidPortMappingDisplayName
    pure (some (String.ofList value))

/-! ### Statements -/

/-- The tables that the statements read; workspaces and users are written elsewhere. -/
structure PortTables where
  database : Database
  directory : Directory
  mappings : Table PortMapping.id
  tickets : Table PortMappingTicket.ticketHash
  sessions : Table PortMappingSession.sessionHash

variable {mappingId sessionId : Uuid} {sessionHash ticketHash : String} {expiresAt now : ℤ}
  {result : Option (PortMappingTicket × PortMappingSession)} {t t' : PortTables}

namespace PortTables

variable (t : PortTables)

/-- `ON CONFLICT (installation_id, workspace_id, internal_port) DO NOTHING`. -/
def insertMapping (row : PortMapping) : Except StorageError PortTables := do
  if t.mappings.rows.any fun other =>
    other.workspaceId = row.workspaceId && other.internalPort = row.internalPort then pure t
  else do
    ensure ((t.database.workspaces.find row.workspaceId).isSome &&
      (t.directory.users.find row.createdBy).isSome) (.database "FOREIGN KEY constraint failed")
    let mappings ← okOr (t.mappings.insertNew row)
      (.database "UNIQUE constraint failed: workspace_port_mappings.id")
    pure { t with mappings }

def portMappingByWorkspacePort (workspaceId : Uuid) (internalPort : ℕ) :
    Except StorageError PortMapping :=
  okOr (t.mappings.rows.find? fun row =>
    row.workspaceId = workspaceId && row.internalPort = internalPort) .portMappingNotFound

def getPortMapping (mappingId : Uuid) : Except StorageError PortMapping :=
  okOr (t.mappings.find mappingId) .portMappingNotFound

/-- The tickets and the sessions of a mapping go with it. -/
def deletePortMapping (workspaceId mappingId : Uuid) : Bool × PortTables :=
  let selected (row : PortMapping) : Bool := row.workspaceId = workspaceId && row.id = mappingId
  if t.mappings.rows.any selected then
    (true, { t with
      mappings := t.mappings.delete selected
      tickets := t.tickets.delete fun row => row.mappingId = mappingId
      sessions := t.sessions.delete fun row => row.mappingId = mappingId })
  else (false, t)

def pruneSessions (now : ℤ) : PortTables :=
  { t with sessions := t.sessions.delete fun row => row.expiresAt < now }

def pruneTickets (now : ℤ) : PortTables :=
  { t with tickets := t.tickets.delete fun row => row.expiresAt < now }

def insertTicket (row : PortMappingTicket) : Except StorageError PortTables := do
  ensure ((t.mappings.find row.mappingId).isSome && (t.directory.users.find row.userId).isSome)
    (.database "FOREIGN KEY constraint failed")
  ensure (t.tickets.rows.all fun other => other.id ≠ row.id)
    (.database "UNIQUE constraint failed: workspace_port_mapping_tickets.id")
  let tickets ← okOr (t.tickets.insertNew row)
    (.database "UNIQUE constraint failed: workspace_port_mapping_tickets.ticket_hash")
  pure { t with tickets }

/-- The ticket that the statement of an exchange selects. -/
def exchangeable (mappingId : Uuid) (ticketHash : String) (now : ℤ) (row : PortMappingTicket) :
    Bool :=
  row.mappingId = mappingId && row.ticketHash = ticketHash && row.consumedAt.isNone &&
    now ≤ row.expiresAt

/-- The transaction: the ticket that was consumed, and the session. -/
def exchangePortMappingTicket (mappingId : Uuid) (ticketHash sessionHash : String)
    (sessionId : Uuid) (now expiresAt : ℤ) :
    Except StorageError (Option (PortMappingTicket × PortMappingSession) × PortTables) :=
  match t.tickets.rows.find? (exchangeable mappingId ticketHash now) with
  | none => .ok (none, t)
  | some ticket => do
    let session : PortMappingSession :=
      ⟨sessionId, mappingId, ticket.userId, sessionHash, expiresAt, none, now⟩
    ensure ((t.mappings.find mappingId).isSome && (t.directory.users.find ticket.userId).isSome)
      (.database "FOREIGN KEY constraint failed")
    ensure (t.sessions.rows.all fun other => other.id ≠ sessionId)
      (.database "UNIQUE constraint failed: workspace_port_mapping_sessions.id")
    let sessions ← okOr (t.sessions.insertNew session)
      (.database "UNIQUE constraint failed: workspace_port_mapping_sessions.session_hash")
    pure (some (ticket, session), { t with
      tickets := t.tickets.update (exchangeable mappingId ticketHash now)
        (fun row => { row with consumedAt := some now }) fun _ => rfl
      sessions })

/-- The query of `port_mapping_session_valid`. -/
def portMappingSessionValid (mappingId : Uuid) (sessionHash : String) (now : ℤ) : Bool :=
  t.sessions.rows.any fun session => t.mappings.rows.any fun mapping =>
    t.directory.users.rows.any fun user =>
      mapping.id = session.mappingId && user.id = session.userId &&
      session.mappingId = mappingId && session.sessionHash = sessionHash &&
      session.revokedAt.isNone && now ≤ session.expiresAt && !user.disabled &&
      (user.systemAdmin || t.directory.memberships.rows.any fun membership =>
        membership.organizationId = mapping.organizationId && membership.userId = user.id)

/-- **What admits a request**: the mapping exists, the session is unexpired and unrevoked, and its
user is enabled and belongs to the organization of the mapping or administers the system. -/
def Admits (mappingId : Uuid) (sessionHash : String) (now : ℤ) : Prop :=
  ∃ session ∈ t.sessions.rows, ∃ mapping ∈ t.mappings.rows, ∃ user ∈ t.directory.users.rows,
    mapping.id = mappingId ∧ session.mappingId = mappingId ∧ session.sessionHash = sessionHash ∧
    now ≤ session.expiresAt ∧ session.revokedAt = none ∧ user.id = session.userId ∧
    user.disabled = false ∧ (user.systemAdmin = true ∨
      ∃ membership ∈ t.directory.memberships.rows,
        membership.organizationId = mapping.organizationId ∧ membership.userId = user.id)

variable {t}

theorem admits_of_sessionValid (h : t.portMappingSessionValid mappingId sessionHash now = true) :
    t.Admits mappingId sessionHash now := by
  simp only [portMappingSessionValid, List.any_eq_true, Bool.and_eq_true, Bool.or_eq_true,
    decide_eq_true_eq, Option.isNone_iff_eq_none, Bool.not_eq_true'] at h
  obtain ⟨session, hsession, mapping, hmapping, user, huser, ⟨⟨⟨⟨⟨⟨⟨hmap, hid⟩, hsm⟩, hhash⟩,
    hrevoked⟩, hexpires⟩, henabled⟩, hmember⟩⟩ := h
  exact ⟨session, hsession, mapping, hmapping, user, huser, hmap.trans hsm, hsm, hhash, hexpires,
    hrevoked, hid, henabled, hmember⟩

/-- **What an exchange does**: nothing, or it consumes one ticket, which is neither consumed nor
expired, and adds a session of the same mapping and user. -/
theorem exchange_cases
    (h : t.exchangePortMappingTicket mappingId ticketHash sessionHash sessionId now expiresAt =
      .ok (result, t')) :
    (result = none ∧ t' = t) ∨ ∃ ticket ∈ t.tickets.rows, ∃ session : PortMappingSession,
      result = some (ticket, session) ∧ ticket.mappingId = mappingId ∧ ticket.consumedAt = none ∧
      now ≤ ticket.expiresAt ∧ session.mappingId = mappingId ∧ session.userId = ticket.userId ∧
      session.createdAt = now ∧ session.revokedAt = none ∧
      t'.tickets.rows = t.tickets.rows.map (Table.change (fun row => row = ticket)
        fun row => { row with consumedAt := some now }) ∧
      t'.sessions.rows = t.sessions.rows ++ [session] := by
  unfold exchangePortMappingTicket at h
  split at h
  · obtain ⟨rfl, rfl⟩ := Prod.mk.inj (Except.ok.inj h)
    exact .inl ⟨rfl, rfl⟩
  · rename_i ticket hfind
    simp only [bind_eq_ok, okOr_eq_ok, pure_eq_ok, Prod.mk.injEq] at h
    obtain ⟨-, -, -, -, sessions, hinsert, rfl, rfl⟩ := h
    have hticket := List.mem_of_find?_eq_some hfind
    have hselected := List.find?_some hfind
    simp only [exchangeable, Bool.and_eq_true, decide_eq_true_eq,
      Option.isNone_iff_eq_none] at hselected
    obtain ⟨⟨⟨hmapping, hhash⟩, hconsumed⟩, hexpires⟩ := hselected
    refine .inr ⟨ticket, hticket, _, rfl, hmapping, hconsumed, hexpires, rfl, rfl, rfl, rfl, ?_,
      (Table.rows_of_insertNew hinsert).2⟩
    -- The hash is unique, so that the statement selects this ticket only.
    refine List.map_congr_left fun row hrow => ?_
    by_cases hsame : row = ticket
    · subst hsame
      have hchosen : exchangeable mappingId ticketHash now row = true := by
        simp [exchangeable, hmapping, hhash, hconsumed, hexpires]
      rw [Table.change_of_pos hchosen, Table.change_of_pos (by simp)]
    · have hother : exchangeable mappingId ticketHash now row = false := by
        simp only [exchangeable, Bool.and_eq_false_iff, decide_eq_false_iff_not]
        exact .inl (.inl (.inr fun h =>
          hsame (t.tickets.eq_of_key hrow hticket (h.trans hhash.symm))))
      rw [Table.change_of_neg hother, Table.change_of_neg (by simpa using hsame)]

theorem rows_of_insertTicket {row : PortMappingTicket} (h : t.insertTicket row = .ok t') :
    t'.tickets.rows = t.tickets.rows ++ [row] ∧ t'.sessions = t.sessions := by
  simp only [insertTicket, bind_eq_ok, okOr_eq_ok, pure_eq_ok] at h
  obtain ⟨-, -, -, -, tickets, hinsert, rfl⟩ := h
  exact ⟨(Table.rows_of_insertNew hinsert).2, rfl⟩

theorem rows_of_insertMapping {row : PortMapping} (h : t.insertMapping row = .ok t') :
    t'.tickets = t.tickets ∧ t'.sessions = t.sessions := by
  unfold insertMapping at h
  split at h
  · obtain rfl := pure_eq_ok.1 h
    exact ⟨rfl, rfl⟩
  · simp only [bind_eq_ok, okOr_eq_ok, pure_eq_ok] at h
    obtain ⟨-, -, mappings, -, rfl⟩ := h
    exact ⟨rfl, rfl⟩

end PortTables

/-! ### Requests -/

/-- A request that the gateway asks about: whether the gateway asks, the host, the URI and the
cookies, as far as they are text. -/
structure GatewayRequest where
  internalCaller : Bool
  host : Option (List Char)
  uri : Option (List Char)
  cookies : Option (List Char)

/-- The request passes, or the browser is sent to the start page with a new session. -/
inductive GatewayResponse
  | admitted
  | redirect (session : List Char)

inductive PortCall
  | insertMapping (row : PortMapping)
  | mappingByPort (workspaceId : Uuid) (internalPort : ℕ)
  | deleteMapping (workspaceId mappingId : Uuid)
  | getMapping (mappingId : Uuid)
  | getWorkspace (workspaceId : Uuid)
  | clock
  | random
  | pruneSessions (now : ℤ)
  | pruneTickets (now : ℤ)
  | insertTicket (mappingId userId : Uuid) (ticketHash : String) (expiresAt now : ℤ)
  | exchange (mappingId : Uuid) (ticketHash sessionHash : String) (now expiresAt : ℤ)
  | sessionValid (mappingId : Uuid) (sessionHash : String) (now : ℤ)
  | respond (request : GatewayRequest) (response : Except ApiError GatewayResponse)

abbrev portSignature : Signature where
  Call := PortCall
  Response
    | .insertMapping _ | .pruneSessions _ | .pruneTickets _ | .insertTicket .. =>
      Except StorageError Unit
    | .mappingByPort .. | .getMapping _ => Except StorageError PortMapping
    | .deleteMapping .. | .sessionValid .. => Except StorageError Bool
    | .getWorkspace _ => Except StorageError Workspace
    | .clock => Except ApiError ℤ
    | .random => Option (List Char)
    | .exchange .. => Except StorageError (Option Uuid)
    | .respond .. => Unit

abbrev PortRoutine (ε α : Type) : Type := Routine portSignature Unit ε α

/-- What the requests are configured with: the domain of the mappings, the parser of identifiers and
`hash_secret`. -/
structure PortRequests where
  publicDomain : Option (List Char)
  parseUuid : List Char → Option Uuid
  hashSecret : List Char → String

open Routine in
/-- The identifier is drawn by the caller. -/
def createPortMapping (newId organizationId workspaceId : Uuid) (internalPort : ℕ)
    (displayName : Option String) (createdBy : Uuid) (createdAt : ℤ) :
    PortRoutine StorageError PortMapping := do
  attempt id (validateHttpPort internalPort)
  let displayName ← attempt id (validateMappingName displayName)
  let inserted ← perform (S := portSignature) (.insertMapping
    ⟨newId, organizationId, workspaceId, internalPort, displayName, createdBy, createdAt⟩)
  attempt id inserted
  let mapping ← perform (S := portSignature) (.mappingByPort workspaceId internalPort)
  attempt id mapping

namespace PortRequests

variable (config : PortRequests)

/-- `str::strip_suffix`. -/
def stripEnd (last s : List Char) : Option (List Char) :=
  (stripStart last.reverse s.reverse).map List.reverse

/-- A port is taken off the host; a dot at its end is then taken off too. -/
def mappingIdFromHost (host : Option (List Char)) : Option Uuid := do
  let host ← host
  let suffix ← config.publicDomain
  let hostname := match Text.splitOnce [':'] (trimEndMatches '.' host) with
    | some (hostname, _) => hostname
    | none => host
  let value ← stripEnd ('.' :: suffix) (trimEndMatches '.' (hostname.map Char.toLower))
  let value ← stripStart ['p', '-'] value
  config.parseUuid value

/-- The value of the session cookie. -/
def sessionCookie (cookies : Option (List Char)) : Option (List Char) := do
  let cookies ← cookies
  (Text.split ';' cookies).findSome? fun part =>
    stripStart "__Host-mwc-port-session=".toList (Text.trim part)

/-- The ticket of a request for the page that begins a session. -/
def bootstrapTicket (uri : Option (List Char)) : Option (List Char) := do
  let uri ← uri
  if "/_mwc/bootstrap?".toList.isPrefixOf uri then ticketFromUri uri else none

def sessionTtlSeconds : ℤ := 8 * 60 * 60

open Routine in
/-- The identifier of the ticket is drawn by the statement. -/
def issuePortMappingTicket (mapping : PortMapping) (userId : Uuid) (now : ℤ) :
    PortRoutine StorageError (List Char × ℤ) := do
  let pruned ← perform (S := portSignature) (.pruneSessions now)
  attempt id pruned
  let pruned ← perform (S := portSignature) (.pruneTickets now)
  attempt id pruned
  let expiresAt ← attempt id (okOr (I64.checkedAdd now 60) .invalidTicketTtl)
  let drawn ← perform (S := portSignature) .random
  let ticket ← attempt id (okOr drawn .randomSource)
  let inserted ← perform (S := portSignature)
    (.insertTicket mapping.id userId (config.hashSecret ticket) expiresAt now)
  attempt id inserted
  pure (ticket, expiresAt)

open Routine in
def exchangeTicket (mappingId : Uuid) (ticket : List Char) (now : ℤ) :
    PortRoutine ApiError GatewayResponse := do
  let drawn ← perform (S := portSignature) .random
  let session ← attempt id (okOr drawn .unauthorized)
  let expiresAt ← attempt id (okOr (I64.checkedAdd now sessionTtlSeconds) .unauthorized)
  if Text.len ticket < 32 then throw .unauthorized
  else do
    let exchanged ← perform (S := portSignature) (.exchange mappingId (config.hashSecret ticket)
      (config.hashSecret session) now expiresAt)
    let exchanged ← attempt .storage exchanged
    attempt id (ensure exchanged.isSome .unauthorized)
    pure (.redirect session)

open Routine in
/-- Whether a session that the request carries is valid. -/
def sessionAdmits (mappingId : Uuid) (cookie : Option (List Char)) (now : ℤ) :
    PortRoutine ApiError Bool :=
  match cookie with
  | some cookie => do
    let valid ← perform (S := portSignature)
      (.sessionValid mappingId (config.hashSecret cookie) now)
    attempt .storage valid
  | none => pure false

open Routine in
def authorize (request : GatewayRequest) : PortRoutine ApiError GatewayResponse := do
  attempt id (ensure request.internalCaller .unauthorized)
  let mappingId ← attempt id (okOr (config.mappingIdFromHost request.host) .unauthorized)
  let mapping ← perform (S := portSignature) (.getMapping mappingId)
  let mapping ← attempt (fun _ => .unauthorized) mapping
  let workspace ← perform (S := portSignature) (.getWorkspace mapping.workspaceId)
  let workspace ← attempt (fun _ => .unauthorized) workspace
  attempt id (ensure (workspace.state = .ready) .unauthorized)
  let now ← perform (S := portSignature) .clock
  let now ← attempt id now
  let admitted ← config.sessionAdmits mappingId (sessionCookie request.cookies) now
  if admitted then pure .admitted
  else match bootstrapTicket request.uri with
    | some ticket => config.exchangeTicket mappingId ticket now
    | none => throw .unauthorized

/-- A request of the gateway and its answer. -/
def serve (request : GatewayRequest) : Program portSignature Unit := do
  let (response, _) ← config.authorize request ()
  Program.perform (S := portSignature) (.respond request response)

end PortRequests

/-! ### Runs -/

/-- A session that was found valid: by whom, and the tables at that moment. -/
structure Admission (ι : Type) where
  actor : ι
  tables : PortTables
  mappingId : Uuid
  sessionHash : String
  now : ℤ

/-- The tables, and what has happened: the tickets that were issued, those that were exchanged with
their sessions, the sessions that were found valid, the answers, and what the requests have read off
their clocks. -/
structure PortRun (ι : Type) where
  tables : PortTables
  issued : List PortMappingTicket
  exchanged : List (PortMappingTicket × PortMappingSession)
  admissions : List (Admission ι)
  answers : List (ι × GatewayRequest × Except ApiError GatewayResponse)
  readings : List (ι × ℤ)

/-- A statement that fails does nothing. -/
def PortCall.failure (e : StorageError) : (c : PortCall) → Option (portSignature.Response c)
  | .insertMapping _ | .pruneSessions _ | .pruneTickets _ | .insertTicket .. => some (.error e)
  | .mappingByPort .. | .getMapping _ => some (.error e)
  | .deleteMapping .. | .sessionValid .. => some (.error e)
  | .getWorkspace _ => some (.error e)
  | .exchange .. => some (.error e)
  | .clock | .random | .respond .. => none

variable {c : PortCall} {p : Program portSignature Unit}

section Semantics

variable {ι : Type}

/-- What a statement does.  Clocks and random texts are arbitrary; the identifier of a ticket was
never used before. -/
inductive PortSemantics (i : ι) : Semantics portSignature (PortRun ι)
  | failed {s c e r} (h : c.failure e = some r) : PortSemantics i s c r s
  | insertMapping {s row t} (h : s.tables.insertMapping row = .ok t) :
      PortSemantics i s (.insertMapping row) (.ok ()) { s with tables := t }
  | mappingByPort {s workspaceId internalPort} :
      PortSemantics i s (.mappingByPort workspaceId internalPort)
        (s.tables.portMappingByWorkspacePort workspaceId internalPort) s
  | deleteMapping {s workspaceId mappingId} :
      PortSemantics i s (.deleteMapping workspaceId mappingId)
        (.ok (s.tables.deletePortMapping workspaceId mappingId).1)
        { s with tables := (s.tables.deletePortMapping workspaceId mappingId).2 }
  | getMapping {s mappingId} :
      PortSemantics i s (.getMapping mappingId) (s.tables.getPortMapping mappingId) s
  | getWorkspace {s workspaceId} :
      PortSemantics i s (.getWorkspace workspaceId)
        (s.tables.database.getWorkspace workspaceId) s
  | clock {s} (r : Except ApiError ℤ) :
      PortSemantics i s .clock r
        { s with readings := r.toOption.toList.map (Prod.mk i) ++ s.readings }
  | random {s} (r : Option (List Char)) : PortSemantics i s .random r s
  | pruneSessions {s now} :
      PortSemantics i s (.pruneSessions now) (.ok ())
        { s with tables := s.tables.pruneSessions now }
  | pruneTickets {s now} :
      PortSemantics i s (.pruneTickets now) (.ok ()) { s with tables := s.tables.pruneTickets now }
  | insertTicket {s mappingId userId newId ticketHash expiresAt now t}
      (hnew : ∀ ticket ∈ s.issued, ticket.id ≠ newId)
      (h : s.tables.insertTicket ⟨newId, mappingId, userId, ticketHash, expiresAt, none, now⟩ =
        .ok t) :
      PortSemantics i s (.insertTicket mappingId userId ticketHash expiresAt now) (.ok ())
        { s with
          tables := t
          issued := ⟨newId, mappingId, userId, ticketHash, expiresAt, none, now⟩ :: s.issued }
  | exchange {s mappingId sessionId ticketHash sessionHash now expiresAt result t}
      (h : s.tables.exchangePortMappingTicket mappingId ticketHash sessionHash
        sessionId now expiresAt = .ok (result, t)) :
      PortSemantics i s (.exchange mappingId ticketHash sessionHash now expiresAt)
        (.ok (result.map fun pair => pair.2.id))
        { s with tables := t, exchanged := result.toList ++ s.exchanged }
  | sessionValid {s mappingId sessionHash now} :
      PortSemantics i s (.sessionValid mappingId sessionHash now)
        (.ok (s.tables.portMappingSessionValid mappingId sessionHash now))
        { s with admissions :=
            (if s.tables.portMappingSessionValid mappingId sessionHash now then
              [⟨i, s.tables, mappingId, sessionHash, now⟩] else []) ++ s.admissions }
  | respond {s request response} :
      PortSemantics i s (.respond request response) ()
        { s with answers := (i, request, response) :: s.answers }

/-- Whatever else happens: tickets may go, sessions may go or be revoked, and mappings, workspaces,
users and memberships change in any way. -/
structure PortSurroundings (s s' : PortRun ι) : Prop where
  tickets : s'.tables.tickets.rows ⊆ s.tables.tickets.rows
  sessions : ∀ session ∈ s'.tables.sessions.rows, ∃ old ∈ s.tables.sessions.rows,
    session = old ∨ ∃ revokedAt, session = { old with revokedAt }
  issued : s'.issued = s.issued
  exchanged : s'.exchanged = s.exchanged
  admissions : s'.admissions = s.admissions
  answers : s'.answers = s.answers
  readings : s'.readings = s.readings

end Semantics

/-! ### What holds in every run -/

namespace PortRun

variable {ι : Type} (config : PortRequests)

/-- The request passes with a session that was found valid for it. -/
def Shown (actor : ι) (request : GatewayRequest) (s : PortRun ι) : Prop :=
  ∃ admission ∈ s.admissions, admission.actor = actor ∧
    config.mappingIdFromHost request.host = some admission.mappingId ∧
    ∃ cookie, PortRequests.sessionCookie request.cookies = some cookie ∧
      admission.sessionHash = config.hashSecret cookie

structure Sound (s : PortRun ι) : Prop where
  issued : (s.issued.map PortMappingTicket.id).Nodup
  tickets : ∀ ticket ∈ s.tables.tickets.rows, { ticket with consumedAt := none } ∈ s.issued
  spent : (s.exchanged.map fun pair => pair.1.id).Nodup
  exchanged : ∀ pair ∈ s.exchanged, pair.1 ∈ s.issued ∧ pair.2.mappingId = pair.1.mappingId ∧
    pair.2.userId = pair.1.userId ∧ pair.2.createdAt ≤ pair.1.expiresAt ∧
    ∃ reader, (reader, pair.2.createdAt) ∈ s.readings
  fresh : ∀ ticket ∈ s.tables.tickets.rows, ticket.consumedAt = none →
    ∀ pair ∈ s.exchanged, pair.1.id ≠ ticket.id
  sessions : ∀ session ∈ s.tables.sessions.rows, ∃ pair ∈ s.exchanged,
    pair.2 = { session with revokedAt := none }
  admissions : ∀ admission ∈ s.admissions,
    admission.tables.Admits admission.mappingId admission.sessionHash admission.now ∧
      (admission.actor, admission.now) ∈ s.readings
  answers : ∀ actor request, (actor, request, .ok .admitted) ∈ s.answers →
    s.Shown config actor request

/-- The beginning: no ticket has been issued. -/
def start (database : Database) (directory : Directory) (mappings : Table PortMapping.id) :
    PortRun ι :=
  ⟨⟨database, directory, mappings, .empty _, .empty _⟩, [], [], [], [], []⟩

variable {config}

theorem sound_start (database : Database) (directory : Directory)
    (mappings : Table PortMapping.id) :
    (start database directory mappings : PortRun ι).Sound config := by
  constructor <;> simp [start]

variable {s s' : PortRun ι}

/-- What has been found valid and what has been read stays so. -/
structure Extends (s s' : PortRun ι) : Prop where
  admissions : s.admissions ⊆ s'.admissions
  readings : s.readings ⊆ s'.readings

theorem Extends.of_eq (hadmissions : s'.admissions = s.admissions)
    (hreadings : s'.readings = s.readings) : s.Extends s' :=
  ⟨by simp [hadmissions], by simp [hreadings]⟩

theorem Extends.trans {s₁ s₂ s₃ : PortRun ι} (h₁ : s₁.Extends s₂) (h₂ : s₂.Extends s₃) :
    s₁.Extends s₃ :=
  ⟨fun _ hmem => h₂.admissions (h₁.admissions hmem), fun _ hread => h₂.readings (h₁.readings hread)⟩

/-- What a request owes when it makes a call: it has read the time that it passes on off its clock,
and an answer has to be shown. -/
def Backed (config : PortRequests) (i : ι) (s : PortRun ι) : PortCall → Prop
  | .exchange _ _ _ now _ | .sessionValid _ _ now => (i, now) ∈ s.readings
  | .respond request (.ok .admitted) => s.Shown config i request
  | _ => True

/-- Tickets and sessions that go, or are revoked, change nothing. -/
theorem Sound.of_fewer (h : s.Sound config)
    (htickets : t.tickets.rows ⊆ s.tables.tickets.rows)
    (hsessions : ∀ session ∈ t.sessions.rows, ∃ old ∈ s.tables.sessions.rows,
      session = old ∨ ∃ revokedAt, session = { old with revokedAt }) :
    ({ s with tables := t } : PortRun ι).Sound config where
  issued := h.issued
  tickets ticket hticket := h.tickets ticket (htickets hticket)
  spent := h.spent
  exchanged := h.exchanged
  fresh ticket hticket := h.fresh ticket (htickets hticket)
  sessions session hsession := by
    obtain ⟨old, hold, rfl | ⟨revokedAt, rfl⟩⟩ := hsessions session hsession
    · exact h.sessions session hold
    · exact h.sessions old hold
  admissions := h.admissions
  answers := h.answers

theorem Sound.insertTicket (h : s.Sound config) {row : PortMappingTicket}
    (hnew : ∀ ticket ∈ s.issued, ticket.id ≠ row.id) (hconsumed : row.consumedAt = none)
    (hinsert : s.tables.insertTicket row = .ok t) :
    ({ s with tables := t, issued := row :: s.issued } : PortRun ι).Sound config := by
  obtain ⟨htickets, hsessions⟩ := PortTables.rows_of_insertTicket hinsert
  have hrow : { row with consumedAt := none } = row := by rw [← hconsumed]
  refine ⟨?_, ?_, h.spent, ?_, ?_, ?_, h.admissions, h.answers⟩
  · refine List.nodup_cons.2 ⟨fun hmem => ?_, h.issued⟩
    obtain ⟨ticket, hticket, hid⟩ := List.mem_map.1 hmem
    exact hnew ticket hticket hid
  · intro ticket hticket
    rw [htickets] at hticket
    rcases List.mem_append.1 hticket with hold | hlast
    · exact List.mem_cons_of_mem _ (h.tickets ticket hold)
    · obtain rfl := List.mem_singleton.1 hlast
      exact hrow ▸ List.mem_cons_self
  · intro pair hpair
    obtain ⟨hissued, hrest⟩ := h.exchanged pair hpair
    exact ⟨List.mem_cons_of_mem _ hissued, hrest⟩
  · intro ticket hticket hnone pair hpair
    rw [htickets] at hticket
    rcases List.mem_append.1 hticket with hold | hlast
    · exact h.fresh ticket hold hnone pair hpair
    · obtain rfl := List.mem_singleton.1 hlast
      exact hnew pair.1 (h.exchanged pair hpair).1
  · intro session hsession
    exact h.sessions session (by simpa [hsessions] using hsession)

/-- **An exchange**: the ticket was not spent before, and is now. -/
theorem Sound.exchange (h : s.Sound config) {i : ι} (hread : (i, now) ∈ s.readings)
    (hexchange : s.tables.exchangePortMappingTicket mappingId ticketHash sessionHash sessionId now
      expiresAt = .ok (result, t)) :
    ({ s with tables := t, exchanged := result.toList ++ s.exchanged } : PortRun ι).Sound
      config := by
  rcases PortTables.exchange_cases hexchange with ⟨rfl, rfl⟩ | ⟨ticket, hticket, session, rfl,
    hmapping, hnone, hexpires, hsm, hsu, hcreated, hrevoked, htickets, hsessions⟩
  · exact h
  have hissued : ticket ∈ s.issued := by
    have hfresh : { ticket with consumedAt := none } = ticket := by rw [← hnone]
    exact hfresh ▸ h.tickets ticket hticket
  have hunspent : ∀ pair ∈ s.exchanged, pair.1.id ≠ ticket.id := h.fresh ticket hticket hnone
  -- A row after the statement is one from before, or the ticket, which is now consumed.
  have hrows : ∀ row ∈ t.tickets.rows, (row ∈ s.tables.tickets.rows ∧ row ≠ ticket) ∨
      row = { ticket with consumedAt := some now } := by
    intro row hrow
    rw [htickets] at hrow
    obtain ⟨old, hold, rfl⟩ := List.mem_map.1 hrow
    by_cases hsame : old = ticket
    · subst hsame
      exact .inr (Table.change_of_pos (by simp))
    · rw [Table.change_of_neg (by simpa using hsame)]
      exact .inl ⟨hold, hsame⟩
  refine ⟨h.issued, ?_, ?_, ?_, ?_, ?_, h.admissions, h.answers⟩
  · intro row hrow
    rcases hrows row hrow with ⟨hold, -⟩ | rfl
    · exact h.tickets row hold
    · exact h.tickets ticket hticket
  · refine List.nodup_cons.2 ⟨fun hmem => ?_, h.spent⟩
    obtain ⟨pair, hpair, hid⟩ := List.mem_map.1 hmem
    exact hunspent pair hpair hid
  · intro pair hpair
    rcases List.mem_cons.1 hpair with rfl | hold
    · exact ⟨hissued, hsm.trans hmapping.symm, hsu, hcreated ▸ hexpires, i, hcreated ▸ hread⟩
    · exact h.exchanged pair hold
  · intro row hrow hunconsumed pair hpair
    rcases hrows row hrow with ⟨hold, hother⟩ | rfl
    · rcases List.mem_cons.1 hpair with rfl | hpair
      · -- Two tickets of one identifier are one ticket.
        intro hid
        have hsame : { row with consumedAt := none } = { ticket with consumedAt := none } :=
          List.inj_on_of_nodup_map h.issued (h.tickets row hold) (h.tickets ticket hticket) hid.symm
        have hrow : { row with consumedAt := none } = row := by rw [← hunconsumed]
        have hticket : { ticket with consumedAt := none } = ticket := by rw [← hnone]
        exact hother (hrow.symm.trans (hsame.trans hticket))
      · exact h.fresh row hold hunconsumed pair hpair
    · cases hunconsumed
  · intro row hrow
    rw [hsessions] at hrow
    rcases List.mem_append.1 hrow with hold | hlast
    · obtain ⟨pair, hpair, hsame⟩ := h.sessions row hold
      exact ⟨pair, List.mem_cons_of_mem _ hpair, hsame⟩
    · obtain rfl := List.mem_singleton.1 hlast
      exact ⟨(ticket, row), List.mem_cons_self, by rw [← hrevoked]⟩

/-- What each call does to the records, and to the invariant. -/
theorem Sound.call {i : ι} {r : portSignature.Response c} (h : s.Sound config)
    (hcall : PortSemantics i s c r s') (hbacked : s.Backed config i c) :
    s'.Sound config ∧ s.Extends s' := by
  cases hcall with
  | failed _ | mappingByPort | getMapping | getWorkspace | random => exact ⟨h, .of_eq rfl rfl⟩
  | clock =>
    refine ⟨⟨h.issued, h.tickets, h.spent, fun pair hpair => ?_, h.fresh, h.sessions,
      fun admission hadmission => ?_, h.answers⟩, List.Subset.refl _, List.subset_append_right _ _⟩
    · obtain ⟨hissued, hmapping, huser, hexpires, reader, hread⟩ := h.exchanged pair hpair
      exact ⟨hissued, hmapping, huser, hexpires, reader, List.mem_append_right _ hread⟩
    · obtain ⟨hadmits, hread⟩ := h.admissions admission hadmission
      exact ⟨hadmits, List.mem_append_right _ hread⟩
  | insertMapping hinsert =>
    obtain ⟨htickets, hsessions⟩ := PortTables.rows_of_insertMapping hinsert
    refine ⟨h.of_fewer (by simp [htickets]) fun session hsession => ?_, .of_eq rfl rfl⟩
    exact ⟨session, by simpa [hsessions] using hsession, .inl rfl⟩
  | deleteMapping =>
    refine ⟨?_, .of_eq rfl rfl⟩
    unfold PortTables.deletePortMapping
    dsimp only
    split
    · exact h.of_fewer (fun _ hrow => (Table.mem_delete.1 hrow).1) fun session hsession =>
        ⟨session, (Table.mem_delete.1 hsession).1, .inl rfl⟩
    · exact h
  | pruneSessions =>
    exact ⟨h.of_fewer (List.Subset.refl _) fun session hsession =>
      ⟨session, (Table.mem_delete.1 hsession).1, .inl rfl⟩, .of_eq rfl rfl⟩
  | pruneTickets =>
    exact ⟨h.of_fewer (fun _ hrow => (Table.mem_delete.1 hrow).1) fun session hsession =>
      ⟨session, hsession, .inl rfl⟩, .of_eq rfl rfl⟩
  | insertTicket hnew hinsert => exact ⟨h.insertTicket hnew rfl hinsert, .of_eq rfl rfl⟩
  | exchange hexchange => exact ⟨h.exchange hbacked hexchange, .of_eq rfl rfl⟩
  | @sessionValid _ mappingId sessionHash now =>
    refine ⟨⟨h.issued, h.tickets, h.spent, h.exchanged, h.fresh, h.sessions, ?_, ?_⟩,
      List.subset_append_right _ _, List.Subset.refl _⟩
    · intro admission hadmission
      rcases List.mem_append.1 hadmission with hnew | hold
      · split at hnew
        · rename_i hvalid
          obtain rfl := List.mem_singleton.1 hnew
          exact ⟨PortTables.admits_of_sessionValid hvalid, hbacked⟩
        · cases hnew
      · exact h.admissions admission hold
    · intro actor request hanswer
      obtain ⟨admission, hadmission, hshown⟩ := h.answers actor request hanswer
      exact ⟨admission, List.mem_append_right _ hadmission, hshown⟩
  | @respond _ request response =>
    refine ⟨⟨h.issued, h.tickets, h.spent, h.exchanged, h.fresh, h.sessions, h.admissions, ?_⟩,
      .of_eq rfl rfl⟩
    intro actor request' hanswer
    rcases List.mem_cons.1 hanswer with hnew | hold
    · obtain ⟨rfl, rfl, rfl⟩ : actor = i ∧ request' = request ∧ .ok .admitted = response := by
        simpa using hnew
      exact hbacked
    · exact h.answers actor request' hold

theorem Sound.surroundings (h : s.Sound config) (hs : PortSurroundings s s') :
    s'.Sound config ∧ s.Extends s' := by
  have hfewer := h.of_fewer hs.tickets hs.sessions
  have hsame : { s with tables := s'.tables } = s' := by
    cases s'
    simp [← hs.issued, ← hs.exchanged, ← hs.admissions, ← hs.answers, ← hs.readings]
  exact ⟨hsame ▸ hfewer, .of_eq hs.admissions hs.readings⟩

theorem Shown.mono {actor : ι} {request : GatewayRequest} (h : s.Shown config actor request)
    (hextends : s.Extends s') : s'.Shown config actor request := by
  obtain ⟨admission, hadmission, hshown⟩ := h
  exact ⟨admission, hextends.admissions hadmission, hshown⟩

end PortRun

/-! ### Any number of requests -/

namespace PortSystem

variable {ι : Type} {config : PortRequests} {i : ι}

/-- The requests that run: of the gateway, for a ticket, for a mapping and for its removal. -/
inductive Starts (config : PortRequests) : Program portSignature Unit → Prop
  | serve (request : GatewayRequest) : Starts config (config.serve request)
  | issue (mapping : PortMapping) (userId : Uuid) (now : ℤ) :
      Starts config (config.issuePortMappingTicket mapping userId now () >>= fun _ => .done ())
  | create (newId organizationId workspaceId : Uuid) (internalPort : ℕ)
      (displayName : Option String) (createdBy : Uuid) (createdAt : ℤ) :
      Starts config (createPortMapping newId organizationId workspaceId internalPort displayName
        createdBy createdAt () >>= fun _ => .done ())
  | delete (workspaceId mappingId : Uuid) :
      Starts config (Program.perform (S := portSignature) (.deleteMapping workspaceId mappingId)
        >>= fun _ => .done ())

def system (ι : Type) (config : PortRequests) : System portSignature (PortRun ι) ι where
  semantics := PortSemantics
  environment := PortSurroundings
  start _ := Starts config

/-- What others leave of a run. -/
def Kept (config : PortRequests) (s s' : PortRun ι) : Prop :=
  s.Extends s' ∧ s'.Sound config

/-- What a call leaves. -/
def Keeps (config : PortRequests) : Semantics portSignature (PortRun ι) :=
  fun s _ _ s' => s'.Sound config ∧ s.Extends s'

/-- The calls that owe nothing. -/
def Statement : PortCall → Prop
  | .exchange .. | .sessionValid .. | .respond .. => False
  | _ => True

variable {s : PortRun ι}

theorem backed_of_statement (hc : Statement c) : s.Backed config i c := by
  cases c with
  | exchange | sessionValid | respond => exact hc.elim
  | _ => trivial

theorem meets_of_yields (h : p.Yields Statement fun _ => True) :
    p.Meets (PortSemantics i) (Kept config) (Keeps config) (fun _ _ => True) s :=
  h.meets_keeping trivial
    (fun _ _ _ _ _ _ hkept hc hcall => ⟨hkept.2.call hcall (backed_of_statement hc), trivial⟩)
    fun _ _ _ _ => trivial

section Routines

open Routine

variable {α β ε : Type}

theorem yields_statement (hc : Statement c) :
    Yields Statement (fun _ => True) (perform (S := portSignature) c : PortRoutine ε _) :=
  fun _ => ⟨hc, fun _ => trivial⟩

variable {post : Except ε β → Unit → PortRun ι → Prop} {s : PortRun ι} {w : Unit}

/-- The precondition of a routine that keeps the tables. -/
abbrev Upholds (config : PortRequests) (i : ι) (x : PortRoutine ε β)
    (post : Except ε β → Unit → PortRun ι → Prop) : Unit → PortRun ι → Prop :=
  Holds (PortSemantics i) (Kept config) (Keeps config) x post

theorem holds_call {next : portSignature.Response c → PortRoutine ε β}
    (h : ∀ s₁ r s₂, s.Extends s₂ → PortSemantics i s₁ c r s₂ →
      Upholds config i (next r) post w s₂)
    (hbacked : ∀ s₁, s.Extends s₁ → s₁.Backed config i c) :
    Upholds config i
      (perform (S := portSignature) c >>= next) post w s := by
  refine (holds_bind _ _ _).2 fun s₁ hkept r s₂ hcall => ?_
  have hkeeps := hkept.2.call hcall (hbacked s₁ hkept.1)
  exact ⟨hkeeps, h s₁ r s₂ (hkept.1.trans hkeeps.2) hcall⟩

theorem holds_statement {next : portSignature.Response c → PortRoutine ε β}
    (h : ∀ s₁ r s₂, s.Extends s₂ → PortSemantics i s₁ c r s₂ →
      Upholds config i (next r) post w s₂) (hc : Statement c) :
    Upholds config i
      (perform (S := portSignature) c >>= next) post w s :=
  holds_call h fun _ _ => backed_of_statement hc

variable {next : α → PortRoutine ε β}

theorem holds_attempt {ε' : Type} {f : ε' → ε} {x : Except ε' α}
    (h : ∀ a, x = .ok a → Upholds config i (next a) post w s)
    (herror : ∀ e, post (.error e) w s) :
    Upholds config i (attempt f x >>= next) post w s := by
  cases x with
  | ok a => exact (holds_bind _ _ _).2 (h a rfl)
  | error e => exact (holds_bind _ _ _).2 (herror _)

theorem yields_check (x : Except StorageError α) :
    Yields Statement (fun _ => True) (attempt id x : PortRoutine StorageError α) :=
  yields_attempt trivial

theorem yields_then {x : PortRoutine ε α} (hx : Yields Statement (fun _ => True) x)
    (h : ∀ a, Yields Statement (fun _ => True) (next a)) :
    Yields Statement (fun _ => True) (x >>= next) :=
  yields_bind hx (fun a _ => h a) fun _ _ => trivial

theorem yields_issue (mapping : PortMapping) (userId : Uuid) (now : ℤ) :
    Yields Statement (fun _ => True) (config.issuePortMappingTicket mapping userId now) := by
  refine yields_then (yields_statement trivial) fun _ => ?_
  refine yields_then (yields_check _) fun _ => ?_
  refine yields_then (yields_statement trivial) fun _ => ?_
  refine yields_then (yields_check _) fun _ => ?_
  refine yields_then (yields_check _) fun _ => ?_
  refine yields_then (yields_statement trivial) fun _ => ?_
  refine yields_then (yields_check _) fun _ => ?_
  refine yields_then (yields_statement trivial) fun _ => ?_
  refine yields_then (yields_check _) fun _ => ?_
  exact yields_pure trivial

theorem yields_create (newId organizationId workspaceId : Uuid) (internalPort : ℕ)
    (displayName : Option String) (createdBy : Uuid) (createdAt : ℤ) :
    Yields Statement (fun _ => True) (createPortMapping newId organizationId workspaceId
      internalPort displayName createdBy createdAt) := by
  refine yields_then (yields_check _) fun _ => ?_
  refine yields_then (yields_check _) fun _ => ?_
  refine yields_then (yields_statement trivial) fun _ => ?_
  refine yields_then (yields_check _) fun _ => ?_
  refine yields_then (yields_statement trivial) fun _ => ?_
  exact yields_check _

/-- An exchange never passes the request itself. -/
theorem holds_exchangeTicket {ticket : List Char} (hread : (i, now) ∈ s.readings) :
    Upholds config i
      (config.exchangeTicket mappingId ticket now)
      (fun r _ _ => r ≠ .ok .admitted) w s := by
  refine holds_statement (fun _ drawn _ hextends _ => ?_) trivial
  refine holds_attempt (fun session _ => ?_) fun _ => nofun
  refine holds_attempt (fun expiresAt _ => ?_) fun _ => nofun
  split
  · exact (holds_throw _ _).2 nofun
  · refine holds_call (fun _ exchanged _ _ _ => ?_)
      fun _ hlater => hlater.readings (hextends.readings hread)
    refine holds_attempt (fun _ _ => ?_) fun _ => nofun
    refine holds_attempt (fun _ _ => ?_) fun _ => nofun
    exact (holds_pure _ _).2 nofun

theorem holds_sessionAdmits {cookie : Option (List Char)} (hread : (i, now) ∈ s.readings) :
    Upholds config i
      (config.sessionAdmits mappingId cookie now)
      (fun r _ s' => (i, now) ∈ s'.readings ∧ (r = .ok true →
        ∃ admission ∈ s'.admissions, admission.actor = i ∧
          admission.mappingId = mappingId ∧ ∃ text, cookie = some text ∧
            admission.sessionHash = config.hashSecret text)) w s := by
  cases cookie with
  | none => exact (holds_pure _ _).2 ⟨hread, nofun⟩
  | some text =>
    refine holds_call (fun s₁ r s₂ hextends hcall => ?_) fun _ hlater => hlater.readings hread
    have hread := hextends.readings hread
    cases hcall with
    | failed h =>
      obtain rfl := Option.some.inj h
      exact (holds_attempt_error _ _ _).2 ⟨hread, nofun⟩
    | sessionValid =>
      refine (holds_attempt_ok _ _ _).2 ⟨hread, fun hvalid => ?_⟩
      have hvalid := Except.ok.inj hvalid
      exact ⟨⟨i, s₁.tables, mappingId, config.hashSecret text, now⟩,
        List.mem_append_left _ (by simp [hvalid]), rfl, rfl, text, rfl, rfl⟩

/-- **A request passes only with a session that was found valid for it.** -/
theorem holds_authorize (request : GatewayRequest) :
    Upholds config i (config.authorize request)
      (fun r _ s' => r = .ok .admitted → s'.Shown config i request) w s := by
  refine holds_attempt (fun _ _ => ?_) fun _ => nofun
  refine holds_attempt (fun mappingId hid => ?_) fun _ => nofun
  refine holds_statement (fun _ mapping _ _ _ => ?_) trivial
  refine holds_attempt (fun mapping _ => ?_) fun _ => nofun
  refine holds_statement (fun _ workspace _ _ _ => ?_) trivial
  refine holds_attempt (fun workspace _ => ?_) fun _ => nofun
  refine holds_attempt (fun _ _ => ?_) fun _ => nofun
  refine holds_statement (fun _ clock s₂ _ hclock => ?_) trivial
  refine holds_attempt (fun now hnow => ?_) fun _ => nofun
  have hread : (i, now) ∈ s₂.readings := by
    subst hnow
    cases hclock with
    | failed h => cases h
    | clock => exact List.mem_cons_self
  refine (holds_bind _ _ _).2 ((holds_sessionAdmits hread).mono fun r _ s' ⟨hread, hadmits⟩ => ?_)
  cases r with
  | error e => exact nofun
  | ok admitted =>
    rw [continues_ok]
    split
    · rename_i hadmitted
      refine (holds_pure _ _).2 fun _ => ?_
      obtain ⟨admission, hadmission, hactor, hmapping, text, hcookie, hhash⟩ :=
        hadmits (by rw [hadmitted])
      refine ⟨admission, hadmission, hactor, ?_, text, hcookie, hhash⟩
      rw [hmapping]
      exact okOr_eq_ok.1 hid
    · split
      · exact (holds_exchangeTicket hread).mono fun _ _ _ hnot hpass => absurd hpass hnot
      · exact (holds_throw _ _).2 nofun

end Routines

theorem meets_serve (request : GatewayRequest) :
    (config.serve request).Meets (PortSemantics i) (Kept config) (Keeps config)
      (fun _ _ => True) s := by
  refine (Program.meets_bind _ _ _ _).2 (Program.Meets.mono (holds_authorize request) ?_)
  rintro ⟨response, w⟩ s' hshown s₁ hkept r s₂ hcall
  refine ⟨hkept.2.call hcall ?_, trivial⟩
  rcases response with e | _ | session
  · trivial
  · exact (hshown rfl).mono hkept.1
  · trivial

theorem relyGuarantee (config : PortRequests) :
    (system ι config).RelyGuarantee (PortRun.Sound config) fun _ => PortRun.Extends where
  refl _ _ := .of_eq rfl rfl
  trans _ _ _ _ := .trans
  environment s s' hsound hs := by
    obtain ⟨hsound', hextends⟩ := hsound.surroundings hs
    exact ⟨hsound', fun _ => hextends⟩
  start i p s _ hstart := by
    have hmeets : p.Meets (PortSemantics i) (Kept config) (Keeps config) (fun _ _ => True) s := by
      cases hstart with
      | serve request => exact meets_serve request
      | issue mapping userId now =>
        refine meets_of_yields ?_
        exact Program.yields_bind (yields_issue mapping userId now ()) fun _ _ => trivial
      | create newId organizationId workspaceId internalPort displayName createdBy createdAt =>
        refine meets_of_yields ?_
        exact Program.yields_bind (yields_create newId organizationId workspaceId internalPort
          displayName createdBy createdAt ()) fun _ _ => trivial
      | delete workspaceId mappingId =>
        refine meets_of_yields ?_
        exact ⟨trivial, fun _ => trivial⟩
    exact hmeets.mono_guar fun _ _ _ _ hkeeps => ⟨hkeeps.1, fun _ _ => hkeeps.2⟩

theorem sound_of_steps [DecidableEq ι] {C : Configuration portSignature (PortRun ι) ι}
    (hsound : s.Sound config) (hsteps : (system ι config).Steps ⟨s, fun _ => none⟩ C) :
    C.store.Sound config :=
  (relyGuarantee config).invariant_of_steps hsound hsteps

end PortSystem

/-- **Tickets and sessions.**  In every run of any number of requests, with every change to
mappings, workspaces, users and memberships in between, from a time when no ticket had been issued:
every session comes from an exchange of a ticket that was issued; no ticket is exchanged twice, and
each one is exchanged for a session of its own mapping and user, no later than it expires by the
clock of a request; and a request that passes does so with a session for its mapping that was found
valid at a moment when the mapping existed, the session was unexpired by the clock of that request
and unrevoked, and its user was enabled and a system administrator or a member of the mapping's
organization. -/
theorem tickets_and_sessions {ι : Type} [DecidableEq ι] (config : PortRequests)
    (database : Database) (directory : Directory) (mappings : Table PortMapping.id)
    (C : Configuration portSignature (PortRun ι) ι)
    (hsteps : (PortSystem.system ι config).Steps
      ⟨.start database directory mappings, fun _ => none⟩ C) :
    (∀ session ∈ C.store.tables.sessions.rows, ∃ pair ∈ C.store.exchanged,
      pair.2 = { session with revokedAt := none }) ∧
    (C.store.exchanged.map fun pair => pair.1.id).Nodup ∧
    (∀ pair ∈ C.store.exchanged, pair.1 ∈ C.store.issued ∧
      pair.2.mappingId = pair.1.mappingId ∧ pair.2.userId = pair.1.userId ∧
      pair.2.createdAt ≤ pair.1.expiresAt ∧
      ∃ reader, (reader, pair.2.createdAt) ∈ C.store.readings) ∧
    ∀ actor request, (actor, request, .ok .admitted) ∈ C.store.answers →
      ∃ admission ∈ C.store.admissions, ∃ cookie, admission.actor = actor ∧
        (actor, admission.now) ∈ C.store.readings ∧
        config.mappingIdFromHost request.host = some admission.mappingId ∧
        PortRequests.sessionCookie request.cookies = some cookie ∧
        admission.tables.Admits admission.mappingId (config.hashSecret cookie) admission.now := by
  have hstart : (PortRun.start database directory mappings : PortRun ι).Sound config :=
    PortRun.sound_start database directory mappings
  have hsound := PortSystem.sound_of_steps hstart hsteps
  refine ⟨hsound.sessions, hsound.spent, hsound.exchanged, fun actor request hanswer => ?_⟩
  obtain ⟨admission, hadmission, rfl, hhost, cookie, hcookie, hhash⟩ :=
    hsound.answers actor request hanswer
  obtain ⟨hadmits, hread⟩ := hsound.admissions admission hadmission
  rw [hhash] at hadmits
  exact ⟨admission, hadmission, cookie, rfl, hread, hhost, hcookie, hadmits⟩

/-! #### A mapping that is opened -/

def samplePortRequests : PortRequests where
  publicDomain := some "ports".toList
  parseUuid _ := some sampleOperationId
  hashSecret := String.ofList

def sampleMapping : PortMapping :=
  ⟨sampleOperationId, sampleUserId, sampleWorkspaceId, 3000, none, sampleUserId, 0⟩

def samplePortRun : PortRun Unit :=
  .start (sampleDatabase .ready)
    ⟨.empty _, ⟨[⟨sampleUserId, "user", true, false, 0⟩], List.nodup_singleton _⟩, .empty _⟩
    ⟨[sampleMapping], by simp⟩

/-- The answers of tables at rest, at time zero and with one random text. -/
def portAnswer (s : PortRun Unit) : (c : PortCall) → portSignature.Response c × PortRun Unit
  | .getMapping mappingId => (s.tables.getPortMapping mappingId, s)
  | .getWorkspace workspaceId => (s.tables.database.getWorkspace workspaceId, s)
  | .clock => (.ok 0, { s with readings := ((), 0) :: s.readings })
  | .random => (some sampleTicket, s)
  | .insertTicket mappingId userId ticketHash expiresAt now =>
    if s.issued.all fun ticket => ticket.id ≠ sampleJobId then
      match s.tables.insertTicket
        ⟨sampleJobId, mappingId, userId, ticketHash, expiresAt, none, now⟩ with
      | .ok t => (.ok (), { s with
          tables := t
          issued := ⟨sampleJobId, mappingId, userId, ticketHash, expiresAt, none, now⟩ ::
            s.issued })
      | .error e => (.error e, s)
    else (.error .randomSource, s)
  | .exchange mappingId ticketHash sessionHash now expiresAt =>
    match s.tables.exchangePortMappingTicket mappingId ticketHash sessionHash sampleJobId now
      expiresAt with
    | .ok (result, t) => (.ok (result.map fun pair => pair.2.id),
        { s with tables := t, exchanged := result.toList ++ s.exchanged })
    | .error e => (.error e, s)
  | .sessionValid mappingId sessionHash now =>
    (.ok (s.tables.portMappingSessionValid mappingId sessionHash now),
      { s with admissions :=
        (if s.tables.portMappingSessionValid mappingId sessionHash now then
          [⟨(), s.tables, mappingId, sessionHash, now⟩] else []) ++ s.admissions })
  | .respond request response => ((), { s with answers := ((), request, response) :: s.answers })
  | .pruneSessions now => (.ok (), { s with tables := s.tables.pruneSessions now })
  | .pruneTickets now => (.ok (), { s with tables := s.tables.pruneTickets now })
  | .insertMapping _ | .mappingByPort .. | .deleteMapping .. => (.error .randomSource, s)

theorem semantics_portAnswer (s : PortRun Unit) (c : PortCall) :
    PortSemantics () s c (portAnswer s c).1 (portAnswer s c).2 := by
  cases c with
  | getMapping mappingId => exact .getMapping
  | getWorkspace workspaceId => exact .getWorkspace
  | clock => exact .clock (.ok 0)
  | random => exact .random _
  | insertTicket mappingId userId ticketHash expiresAt now =>
    unfold portAnswer
    dsimp only
    split
    · rename_i hnew
      split
      · rename_i t hinsert
        exact .insertTicket (by simpa using hnew) hinsert
      · exact .failed rfl
    · exact .failed rfl
  | exchange mappingId ticketHash sessionHash now expiresAt =>
    unfold portAnswer
    dsimp only
    split
    · rename_i result t hexchange
      exact .exchange hexchange
    · exact .failed rfl
  | sessionValid mappingId sessionHash now => exact .sessionValid
  | respond request response => exact .respond
  | pruneSessions now => exact .pruneSessions
  | pruneTickets now => exact .pruneTickets
  | insertMapping | mappingByPort | deleteMapping => exact .failed rfl

/-- A request that begins a session, and one that carries it. -/
def sampleGatewayRequest (uri cookies : String) : GatewayRequest :=
  ⟨true, some "p-a.ports".toList, some uri.toList, some cookies.toList⟩

/-- The requests of a run: for a ticket, for its exchange, and with the session. -/
def sampleIssue : Program portSignature Unit :=
  samplePortRequests.issuePortMappingTicket sampleMapping sampleUserId 0 () >>= fun _ => .done ()

def sampleExchange : Program portSignature Unit :=
  samplePortRequests.serve
    (sampleGatewayRequest ("/_mwc/bootstrap?ticket=" ++ String.ofList sampleTicket) "")

def sampleOpening : Program portSignature Unit :=
  samplePortRequests.serve
    (sampleGatewayRequest "/" ("__Host-mwc-port-session=" ++ String.ofList sampleTicket))

def sampleOpened : PortRun Unit :=
  (sampleOpening.advance portAnswer 10
    (sampleExchange.advance portAnswer 10 (sampleIssue.advance portAnswer 10 samplePortRun).2
      ).2).2

theorem steps_portAnswer (hstart : PortSystem.Starts samplePortRequests p) (s : PortRun Unit) :
    (PortSystem.system Unit samplePortRequests).Steps ⟨s, fun _ => none⟩
      ⟨(p.advance portAnswer 10 s).2, fun _ => none⟩ :=
  System.steps_run semantics_portAnswer 10 hstart s rfl

/-- One ticket, one session, and a request that passes with it. -/
theorem tickets_and_sessions_sample : ∃ C : Configuration portSignature (PortRun Unit) Unit,
    (PortSystem.system Unit samplePortRequests).Steps ⟨samplePortRun, fun _ => none⟩ C ∧
    C.store.exchanged.length = 1 ∧ ∃ actor request,
      (actor, request, .ok .admitted) ∈ C.store.answers ∧
      ∃ admission ∈ C.store.admissions, ∃ cookie,
        PortRequests.sessionCookie request.cookies = some cookie ∧
        admission.tables.Admits admission.mappingId (samplePortRequests.hashSecret cookie)
          admission.now := by
  have hsteps : (PortSystem.system Unit samplePortRequests).Steps ⟨samplePortRun, fun _ => none⟩
      ⟨sampleOpened, fun _ => none⟩ :=
    ((steps_portAnswer (.issue sampleMapping sampleUserId 0) _).trans
      (steps_portAnswer (.serve _) _)).trans (steps_portAnswer (.serve _) _)
  have hadmitted : (sampleOpened.answers.any fun answer => match answer.2.2 with
      | .ok .admitted => true
      | .ok (.redirect _) | .error _ => false) = true := by decide +kernel
  obtain ⟨⟨actor, request, response⟩, hanswer, hresponse⟩ := List.any_eq_true.1 hadmitted
  obtain rfl : response = .ok .admitted := by
    revert hresponse
    rcases response with e | _ | session <;> simp
  obtain ⟨admission, hadmission, cookie, -, -, -, hcookie, hadmits⟩ :=
    (tickets_and_sessions samplePortRequests _ _ _ _ hsteps).2.2.2 actor request hanswer
  exact ⟨⟨sampleOpened, fun _ => none⟩, hsteps, by decide +kernel, actor, request, hanswer,
    admission, hadmission, cookie, hcookie, hadmits⟩

end WorkspaceControl
