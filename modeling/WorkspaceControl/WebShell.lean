/-
**Web shell tickets.**

A browser reaches the terminal of a workspace through a gateway, which asks
`/api/v1/internal/web-shell/authorize` (`src/src/api/web_shell.rs`) about each request.  The page
and its assets pass without a ticket; the WebSocket endpoint takes one ticket, which
`src/src/storage/web_shell.rs` consumes in a single statement.  Whether a request is for the
endpoint and for which workspace is read off the forwarded URI as it stands; the upstream decodes
the path and resolves its dot segments.

Main definitions:

* `isTtydWebsocketUri`, `workspaceShortIdFromUri`, `ticketFromUri` — what is read off the URI;
* `upstreamPath`, `terminalEndpoint` — how the upstream reads a path, and the path of a terminal;
* `TicketRow`, `issueWebShellTicket`, `consumeWebShellTicket` — the tickets;
* `AuthorizeRequest`, `AuthorizeRequest.authorize` — the endpoint;
* `AuthorizeRequest.ReadAs`, `AuthorizeRequest.Addresses` — for which terminal the upstream and the
  endpoint read a request;
* `TicketRun`, `TicketRun.Step` — the tickets along a run, with the ones that were consumed.

Main results:

* `authorized_spends_ticket` — **a request for the terminal of a workspace that is authorized
  consumes one fresh ticket of that workspace, exactly if the endpoint reads it as one for that
  terminal, too**;
* `AuthorizeRequest.ReadAs.addresses` — it does so if the URI is a text, its path is as the upstream
  reads it and no header names another workspace;
* `authorized_without_ticket` — an encoded path and a URI that is no text pass without a ticket, a
  path with dot segments and a header pass with the ticket of another workspace.
-/
import WorkspaceControl.Access
import WorkspaceControl.Calls

set_option autoImplicit false

namespace WorkspaceControl

open Fallible Relational

/-! ### The URI -/

/-- `HeaderValue::to_str`: a header, which has a character for each of its bytes, is a text if they
are visible ASCII. -/
def headerStr (value : List Char) : Option (List Char) :=
  if value.all fun c => (32 ≤ c.toNat && c.toNat < 127) || c = '\t' then some value else none

/-- The part before the query. -/
def uriPath (uri : List Char) : List Char :=
  match Text.splitOnce ['?'] uri with
  | some (path, _) => path
  | none => uri

/-- `str::trim_end_matches`. -/
def trimEndMatches (c : Char) (s : List Char) : List Char :=
  (s.reverse.dropWhile fun x => x = c).reverse

/-- `str::trim_matches`. -/
def trimMatches (c : Char) (s : List Char) : List Char :=
  trimEndMatches c (s.dropWhile fun x => x = c)

/-- `is_ttyd_websocket_uri`. -/
def isTtydWebsocketUri (uri : List Char) : Bool :=
  ['/', 'w', 's'].isSuffixOf (trimEndMatches '/' (uriPath uri))

/-- `ticket_from_uri`. -/
def ticketFromUri (uri : List Char) : Option (List Char) := do
  let (_, query) ← Text.splitOnce ['?'] uri
  (Text.split '&' query).findSome? fun part => do
    let (key, value) ← Text.splitOnce ['='] part
    if key = "ticket".toList && !value.isEmpty then some value else none

/-- A DNS label. -/
def isInstallationId (text : List Char) : Bool :=
  !text.isEmpty && text.length ≤ 20 &&
    (text.all fun c => Text.isLowercaseOrDigit c || c = '-') &&
    text.head?.any Text.isLowercaseOrDigit && text.getLast?.any Text.isLowercaseOrDigit

structure InstallationId where
  text : List Char
  valid : isInstallationId text = true

/-- What may stand after the installation in a route key. -/
def isShortId (text : List Char) : Bool :=
  !text.isEmpty && Text.len text ≤ 40 && text.all Text.isLowercaseOrDigit &&
    text.head?.any Text.isAlphanumeric && text.getLast?.any Text.isAlphanumeric

/-- `str::strip_prefix`. -/
def stripStart (start s : List Char) : Option (List Char) :=
  if start.isPrefixOf s then some (s.drop start.length) else none

/-- `workspace_short_id_from_uri`. -/
def workspaceShortIdFromUri (uri : List Char) (installation : InstallationId) :
    Option (List Char) :=
  match Text.split '/' (trimMatches '/' (uriPath uri)) with
  | head :: routeKey :: _ =>
    if head = ['s', 'h', 'e', 'l', 'l'] then
      (stripStart (installation.text ++ ['-']) routeKey).filter isShortId
    else none
  | _ => none

/-! ### How the upstream reads a path -/

/-- The value of a hexadecimal digit. -/
def hexValue (c : Char) : Option ℕ :=
  if '0' ≤ c ∧ c ≤ '9' then some (c.toNat - '0'.toNat)
  else if 'a' ≤ c ∧ c ≤ 'f' then some (c.toNat - 'a'.toNat + 10)
  else if 'A' ≤ c ∧ c ≤ 'F' then some (c.toNat - 'A'.toNat + 10)
  else none

/-- The digits after a percent sign stand for a character; anything else stands for itself. -/
def percentDecode : List Char → List Char
  | '%' :: a :: b :: rest =>
    match hexValue a, hexValue b with
    | some high, some low => Char.ofNat (16 * high + low) :: percentDecode rest
    | _, _ => '%' :: percentDecode (a :: b :: rest)
  | c :: rest => c :: percentDecode rest
  | [] => []

/-- The segments that remain; a dot segment at the end leaves an empty one. -/
def resolveSegments (kept : List (List Char)) : List (List Char) → List (List Char)
  | [] => kept.reverse
  | segment :: rest =>
    if segment = ['.'] then
      if rest.isEmpty then ([] :: kept).reverse else resolveSegments kept rest
    else if segment = ['.', '.'] then
      if rest.isEmpty then ([] :: kept.tail).reverse else resolveSegments kept.tail rest
    else resolveSegments (segment :: kept) rest

/-- The removal of the dot segments of an absolute path. -/
def removeDotSegments (path : List Char) : List Char :=
  match Text.split '/' path with
  | [] => []
  | start :: segments => List.intercalate ['/'] (start :: resolveSegments [] segments)

def upstreamPath (path : List Char) : List Char := removeDotSegments (percentDecode path)

/-- `WorkspaceRuntimeNames::web_shell_path`. -/
def webShellPath (installation : InstallationId) (shortId : String) : List Char :=
  ['/', 's', 'h', 'e', 'l', 'l', '/'] ++ installation.text ++ ['-'] ++ shortId.toList ++ ['/']

/-- The WebSocket endpoint of the terminal of a workspace. -/
def terminalEndpoint (installation : InstallationId) (workspaceId : Uuid) : List Char :=
  webShellPath installation (workspaceShortIdFor workspaceId) ++ ['w', 's']

/-! ### Tickets -/

structure TicketRow where
  id : Uuid
  ticketHash : String
  organizationId : Uuid
  workspaceId : Uuid
  userId : Uuid
  expiresAt : ℤ
  consumedAt : Option ℤ
  createdAt : ℤ
deriving DecidableEq

/-- `web_shell_tickets`, with its unique hashes. -/
abbrev TicketTable : Type := Table TicketRow.ticketHash

structure IssuedWebShellTicket where
  ticket : List Char
  workspaceId : Uuid
  expiresAt : ℤ

/-- The owner of a consumed ticket. -/
structure WebShellIdentity where
  organizationId : Uuid
  workspaceId : Uuid
  userId : Uuid
deriving DecidableEq

section

variable (hashTicket : List Char → String)

/-- The identifier and the ticket are drawn by the caller. -/
def issueWebShellTicket (tickets : TicketTable) (newId : Uuid)
    (drawn : Except StorageError (List Char)) (organizationId workspaceId userId : Uuid)
    (now ttlSeconds : ℤ) : Except StorageError (IssuedWebShellTicket × TicketTable) := do
  ensure (1 ≤ ttlSeconds && ttlSeconds ≤ 300) .invalidTicketTtl
  let expiresAt ← okOr (MachineInt.I64.checkedAdd now ttlSeconds) .invalidTicketTtl
  let ticket ← drawn
  ensure (tickets.rows.all fun row => row.id ≠ newId)
    (.database "UNIQUE constraint failed: web_shell_tickets.id")
  let tickets ← okOr (tickets.insertNew
      ⟨newId, hashTicket ticket, organizationId, workspaceId, userId, expiresAt, none, now⟩)
    (.database "UNIQUE constraint failed: web_shell_tickets.ticket_hash")
  pure (⟨ticket, workspaceId, expiresAt⟩, tickets)

/-- The rows that the statement for a ticket selects. -/
def TicketRow.selected (ticket : List Char) (workspaceId : Uuid) (now : ℤ) (row : TicketRow) :
    Bool :=
  row.ticketHash = hashTicket ticket && row.workspaceId = workspaceId && row.consumedAt.isNone &&
    now ≤ row.expiresAt

/-- `SET consumed_at`. -/
def TicketRow.consume (now : ℤ) (row : TicketRow) : TicketRow := { row with consumedAt := some now }

/-- One statement, `UPDATE ... RETURNING`. -/
def consumeWebShellTicket (tickets : TicketTable) (ticket : List Char) (workspaceId : Uuid)
    (now : ℤ) : Option WebShellIdentity × TicketTable :=
  if Text.len ticket < 32 then (none, tickets)
  else
    ((tickets.rows.find? (TicketRow.selected hashTicket ticket workspaceId now)).map fun row =>
        ⟨row.organizationId, row.workspaceId, row.userId⟩,
      tickets.update (TicketRow.selected hashTicket ticket workspaceId now) (TicketRow.consume now)
        fun _ => rfl)

end

/-! ### The requests -/

/-- The workspaces as a request sees them; a short identifier belongs to one row. -/
structure WorkspaceView where
  database : Database
  shortIds : ∀ a ∈ database.workspaces.rows, ∀ b ∈ database.workspaces.rows,
    a.shortId = b.shortId → a = b

variable {row : TicketRow} {tickets : TicketTable}

namespace WorkspaceView

def getWorkspaceByShortId (view : WorkspaceView) (shortId : String) :
    Except StorageError Workspace := do
  let row ← okOr (view.database.workspaces.rows.find? fun row => row.shortId = shortId)
    .workspaceNotFound
  decodeWorkspace row

/-- The view has a workspace of this identifier. -/
def Has (view : WorkspaceView) (workspaceId : Uuid) : Prop :=
  ∃ row ∈ view.database.workspaces.rows, row.id = workspaceId ∧
    row.shortId = workspaceShortIdFor workspaceId

/-- The short identifier of a workspace finds that workspace. -/
theorem id_of_getWorkspaceByShortId {view : WorkspaceView} {workspaceId : Uuid}
    (hhas : view.Has workspaceId) {workspace : Workspace}
    (h : view.getWorkspaceByShortId (workspaceShortIdFor workspaceId) = .ok workspace) :
    workspace.id = workspaceId := by
  simp only [getWorkspaceByShortId, okOr_bind_eq_ok] at h
  obtain ⟨row, hfind, hdecode⟩ := h
  obtain ⟨document, hdecodes⟩ := decodeWorkspace_eq_ok.1 hdecode
  obtain ⟨other, hother, hid, hshort⟩ := hhas
  have hfound : row.shortId = workspaceShortIdFor workspaceId := by
    have hselected := List.find?_some hfind
    exact of_decide_eq_true hselected
  have hsame := view.shortIds row (List.mem_of_find?_eq_some hfind) other hother
    (hfound.trans hshort.symm)
  rw [hdecodes.id, hsame, hid]

end WorkspaceView

def ticketTtlSeconds : ℤ := 60

/-- A request for a ticket. -/
structure IssueRequest where
  actor : Principal
  workspaceId : Uuid
  view : WorkspaceView
  now : ℤ
  newId : Uuid
  drawn : Except StorageError (List Char)
  publicOrigin : Option (List Char)

structure WebShellTicketResponse where
  issued : IssuedWebShellTicket
  webShellUrl : List Char

/-- A request of the gateway: the headers of the client's request as their bytes (a workspace header
that is a text as what it parses to), the clock, and the workspaces when they are looked up and when
they are checked. -/
structure AuthorizeRequest where
  internalCaller : Bool
  forwardedUri : Option (List Char)
  workspaceId : Option (Option Uuid)
  ticket : Option (List Char)
  now : ℤ
  looked : WorkspaceView
  checked : WorkspaceView

namespace IssueRequest

variable (hashTicket : List Char → String) (installation : InstallationId) (request : IssueRequest)

def check : Except ApiError Workspace := do
  let workspace ← (request.view.database.getWorkspace request.workspaceId).mapError .storage
  ensure (request.actor.allows .connectWorkspace workspace.organizationId &&
    request.actor.mayAccessWorkspaceTemplate workspace.templateId) .forbidden
  ensure (workspace.state = .ready) .workspaceNotConnectable
  pure workspace

/-- The link that the response carries. -/
def webShellUrl (workspace : Workspace) (ticket : List Char) : List Char :=
  request.publicOrigin.getD [] ++ webShellPath installation workspace.shortId ++
    "?ticket=".toList ++ ticket

def issue (tickets : TicketTable) : Except ApiError WebShellTicketResponse × TicketTable :=
  match request.check with
  | .error e => (.error e, tickets)
  | .ok workspace =>
    match issueWebShellTicket hashTicket tickets request.newId request.drawn
      workspace.organizationId workspace.id request.actor.userId request.now ticketTtlSeconds with
    | .error e => (.error (.storage e), tickets)
    | .ok (issued, tickets) =>
      (.ok ⟨issued, request.webShellUrl installation workspace issued.ticket⟩, tickets)

end IssueRequest

namespace AuthorizeRequest

variable (hashTicket : List Char → String) (installation : InstallationId)
  (request : AuthorizeRequest)

/-- The forwarded URI, if it is a text. -/
def uri : Option (List Char) := request.forwardedUri.bind headerStr

/-- The workspace that the header or the URI names. -/
def workspace : Except ApiError Uuid :=
  match request.workspaceId with
  | some parsed => okOr parsed .unauthorized
  | none => do
    let shortId ← okOr (request.uri.bind fun uri => workspaceShortIdFromUri uri installation)
      .unauthorized
    let workspace ← (request.looked.getWorkspaceByShortId (String.ofList shortId)).mapError
      .storage
    pure workspace.id

/-- The workspace and the ticket of a request for the endpoint; other requests need none. -/
def route : Except ApiError (Option (Uuid × List Char)) := do
  ensure request.internalCaller .unauthorized
  if request.uri.any isTtydWebsocketUri then do
    let workspaceId ← request.workspace installation
    let ticket ← okOr (request.ticket.bind headerStr <|> request.uri.bind ticketFromUri)
      .unauthorized
    pure (some (workspaceId, ticket))
  else pure none

/-- What is checked once the ticket is consumed. -/
def admitCaller (workspaceId : Uuid) (identity : Option WebShellIdentity) :
    Except ApiError (Option WebShellIdentity) := do
  let identity ← okOr identity .unauthorized
  let workspace ← (request.checked.database.getWorkspace workspaceId).mapError .storage
  ensure (workspace.state = .ready && workspace.organizationId = identity.organizationId)
    .unauthorized
  pure (some identity)

def authorize (tickets : TicketTable) :
    Except ApiError (Option WebShellIdentity) × TicketTable :=
  match request.route installation with
  | .error e => (.error e, tickets)
  | .ok none => (.ok none, tickets)
  | .ok (some (workspaceId, ticket)) =>
    let (identity, tickets) :=
      consumeWebShellTicket hashTicket tickets ticket workspaceId request.now
    (request.admitCaller workspaceId identity, tickets)

/-- The tickets that the request consumes. -/
def consumed (tickets : TicketTable) : List TicketRow :=
  match request.route installation with
  | .ok (some (workspaceId, ticket)) =>
    if Text.len ticket < 32 then []
    else tickets.rows.filter (TicketRow.selected hashTicket ticket workspaceId request.now)
  | _ => []

/-- The upstream reads the request as one for the terminal of a workspace. -/
def ReadAs (workspaceId : Uuid) : Prop :=
  request.looked.Has workspaceId ∧ ∃ uri ∈ request.forwardedUri,
    upstreamPath (uriPath uri) = terminalEndpoint installation workspaceId

/-- The endpoint reads the request as one for the terminal of a workspace: the URI as it stands is
one of a WebSocket, and it or the header names the workspace. -/
structure Addresses (workspaceId : Uuid) : Prop where
  websocket : request.uri.any isTtydWebsocketUri = true
  workspace : ∀ found, request.workspace installation = .ok found → found = workspaceId

end AuthorizeRequest

/-! ### Reading the path of a terminal -/

variable {c : Char} {installation : InstallationId} {uri : List Char} {workspaceId : Uuid}

theorem isLowercaseOrDigit_of_isHexDigit (h : Text.isHexDigit c = true) :
    Text.isLowercaseOrDigit c = true := by
  simp only [Text.isHexDigit, Text.isLowercaseOrDigit, Bool.or_eq_true, Bool.and_eq_true,
    decide_eq_true_eq] at h ⊢
  rcases h with h | ⟨hlow, hhigh⟩
  · exact .inr h
  · exact .inl ⟨hlow, hhigh.trans (by decide)⟩

theorem utf8Size_of_isHexDigit (h : Text.isHexDigit c = true) : c.utf8Size = 1 := by
  simp only [Text.isHexDigit, Bool.or_eq_true, Bool.and_eq_true, decide_eq_true_eq] at h
  have hascii : c.val ≤ 0x7f := by
    rcases h with ⟨-, h⟩ | ⟨-, h⟩
    · exact UInt32.le_trans h (by decide)
    · exact UInt32.le_trans h (by decide)
  exact if_pos hascii

/-- The part of a path that names a workspace. -/
def routeKey (installation : InstallationId) (workspaceId : Uuid) : List Char :=
  installation.text ++ ['-'] ++ (workspaceShortIdFor workspaceId).toList

theorem terminalEndpoint_eq (installation : InstallationId) (workspaceId : Uuid) :
    terminalEndpoint installation workspaceId
      = '/' :: (['s', 'h', 'e', 'l', 'l'] ++ '/' :: (routeKey installation workspaceId ++
        '/' :: ['w', 's'])) := by
  simp [terminalEndpoint, webShellPath, routeKey]

theorem slash_not_mem_routeKey (installation : InstallationId) (workspaceId : Uuid) :
    '/' ∉ routeKey installation workspaceId := by
  have hvalid := installation.valid
  simp only [isInstallationId, Bool.and_eq_true, List.all_eq_true] at hvalid
  have hinstallation : '/' ∉ installation.text := fun hslash =>
    absurd (hvalid.1.1.2 _ hslash) (by decide)
  have hshort : '/' ∉ (workspaceShortIdFor workspaceId).toList := fun hslash =>
    absurd (isHexDigit_of_mem_workspaceShortIdFor hslash) (by decide)
  simp [routeKey, hinstallation, hshort]

/-- Sixteen hexadecimal digits pass as a short identifier. -/
theorem isShortId_of_isHexDigit {digits : List Char} (hlength : digits.length = 16)
    (hhex : ∀ c ∈ digits, Text.isHexDigit c = true) : isShortId digits = true := by
  have hlen : Text.len digits = 16 := by
    have hsizes : digits.map Char.utf8Size = List.replicate 16 1 := by
      refine List.eq_replicate_iff.2 ⟨by simp [hlength], fun n hn => ?_⟩
      obtain ⟨c, hc, rfl⟩ := List.mem_map.1 hn
      exact utf8Size_of_isHexDigit (hhex c hc)
    rw [Text.len, hsizes]
    rfl
  have hne : digits ≠ [] := by
    rintro rfl
    cases hlength
  have hdigit : ∀ c ∈ digits, Text.isLowercaseOrDigit c = true :=
    fun c hc => isLowercaseOrDigit_of_isHexDigit (hhex c hc)
  have hedge : ∀ c ∈ digits, Text.isAlphanumeric c = true := fun c hc => by
    simp [Text.isAlphanumeric, hdigit c hc]
  simp only [isShortId, Bool.and_eq_true, List.all_eq_true, decide_eq_true_eq, hlen,
    List.head?_eq_some_head hne, List.getLast?_eq_some_getLast hne, Option.any_some]
  exact ⟨⟨⟨⟨by simpa using hne, by decide⟩, hdigit⟩, hedge _ (List.head_mem hne)⟩,
    hedge _ (List.getLast_mem hne)⟩

/-- Nothing is trimmed off a path that ends like the endpoint. -/
theorem trimEndMatches_ws (s : List Char) :
    trimEndMatches '/' (s ++ '/' :: ['w', 's']) = s ++ '/' :: ['w', 's'] := by
  simp [trimEndMatches]

theorem isTtydWebsocketUri_endpoint (h : uriPath uri = terminalEndpoint installation workspaceId) :
    isTtydWebsocketUri uri = true := by
  have hassoc : terminalEndpoint installation workspaceId
      = ('/' :: (['s', 'h', 'e', 'l', 'l'] ++ '/' :: routeKey installation workspaceId)) ++
        '/' :: ['w', 's'] := by
    simp [terminalEndpoint_eq]
  rw [isTtydWebsocketUri, h, hassoc, trimEndMatches_ws, List.isSuffixOf_iff_suffix]
  exact List.suffix_append _ _

/-- The path of a terminal names its workspace. -/
theorem workspaceShortIdFromUri_endpoint
    (h : uriPath uri = terminalEndpoint installation workspaceId) :
    workspaceShortIdFromUri uri installation = some (workspaceShortIdFor workspaceId).toList := by
  have htrim : trimMatches '/' (uriPath uri)
      = ['s', 'h', 'e', 'l', 'l'] ++
        '/' :: (routeKey installation workspaceId ++ '/' :: ['w', 's']) := by
    rw [h, terminalEndpoint_eq, trimMatches]
    exact trimEndMatches_ws (['s', 'h', 'e', 'l', 'l'] ++ '/' :: routeKey installation workspaceId)
  have hsplit : Text.split '/' (trimMatches '/' (uriPath uri))
      = [['s', 'h', 'e', 'l', 'l'], routeKey installation workspaceId, ['w', 's']] := by
    rw [htrim, Text.split_append_cons, Text.split_append_cons,
      Text.split_eq_singleton (slash_not_mem_routeKey installation workspaceId)]
    rfl
  have hstrip : stripStart (installation.text ++ ['-']) (routeKey installation workspaceId)
      = some (workspaceShortIdFor workspaceId).toList := by
    rw [stripStart, routeKey, if_pos (List.isPrefixOf_iff_prefix.2 (List.prefix_append _ _)),
      List.drop_left]
  rw [workspaceShortIdFromUri, hsplit]
  simp [hstrip, isShortId_of_isHexDigit (length_workspaceShortIdFor workspaceId) fun _ hc =>
    isHexDigit_of_mem_workspaceShortIdFor hc]

/-! ### Consumption -/

section

variable {hashTicket : List Char → String} {installation : InstallationId}
  {request : AuthorizeRequest}

/-- The hashes are unique, so the statement selects one row at most. -/
theorem filter_selected {ticket : List Char} {workspaceId : Uuid} {now : ℤ}
    (hrow : row ∈ tickets.rows)
    (hselected : row.selected hashTicket ticket workspaceId now = true) :
    tickets.rows.filter (TicketRow.selected hashTicket ticket workspaceId now) = [row] := by
  have hone : ∀ other ∈ tickets.rows.filter (TicketRow.selected hashTicket ticket workspaceId now),
      other = row := by
    intro other hother
    obtain ⟨hmem, hother⟩ := List.mem_filter.1 hother
    simp only [TicketRow.selected, Bool.and_eq_true, decide_eq_true_eq] at hselected hother
    exact tickets.eq_of_key hmem hrow (hother.1.1.1.trans hselected.1.1.1.symm)
  have hnodup : (tickets.rows.filter
      (TicketRow.selected hashTicket ticket workspaceId now)).Nodup :=
    (List.Nodup.of_map _ tickets.nodup).filter _
  have hmem := List.mem_filter.2 ⟨hrow, hselected⟩
  generalize tickets.rows.filter (TicketRow.selected hashTicket ticket workspaceId now) = found
    at hone hnodup hmem
  match found with
  | [] => cases hmem
  | [other] => rw [hone other (List.mem_singleton_self other)]
  | first :: second :: rest =>
    have hsame : first = second :=
      (hone first List.mem_cons_self).trans
        (hone second (List.mem_cons_of_mem _ List.mem_cons_self)).symm
    exact absurd (hsame ▸ List.mem_cons_self) (List.nodup_cons.1 hnodup).1

theorem consumed_sublist :
    (request.consumed hashTicket installation tickets).Sublist tickets.rows := by
  unfold AuthorizeRequest.consumed
  split
  · split
    · exact List.nil_sublist _
    · exact List.filter_sublist
  · exact List.nil_sublist _

/-- What a request consumes was neither consumed nor expired. -/
theorem mem_consumed (h : row ∈ request.consumed hashTicket installation tickets) :
    row ∈ tickets.rows ∧ row.consumedAt = none ∧ request.now ≤ row.expiresAt := by
  unfold AuthorizeRequest.consumed at h
  split at h
  · split at h
    · cases h
    · obtain ⟨hrow, hselected⟩ := List.mem_filter.1 h
      simp only [TicketRow.selected, Bool.and_eq_true, decide_eq_true_eq,
        Option.isNone_iff_eq_none] at hselected
      exact ⟨hrow, hselected.1.2, hselected.2⟩
  · cases h

/-- The rows after a request: those that it has consumed are marked, the others are as before. -/
theorem rows_authorize :
    (request.authorize hashTicket installation tickets).2.rows
      = tickets.rows.map (Table.change (fun row =>
          row ∈ request.consumed hashTicket installation tickets)
          (TicketRow.consume request.now)) := by
  have hnothing : ∀ rows : List TicketRow, rows = rows.map
      (Table.change (fun row => decide (row ∈ ([] : List TicketRow)))
        (TicketRow.consume request.now)) := by
    intro rows
    have hid : Table.change (fun row => decide (row ∈ ([] : List TicketRow)))
        (TicketRow.consume request.now) = id := funext fun row => Table.change_of_neg (by simp)
    rw [hid, List.map_id]
  unfold AuthorizeRequest.authorize AuthorizeRequest.consumed
  cases hroute : request.route installation with
  | error e => exact hnothing _
  | ok routed =>
    cases routed with
    | none => exact hnothing _
    | some target =>
      obtain ⟨workspaceId, ticket⟩ := target
      simp only [consumeWebShellTicket]
      split
      · exact hnothing _
      · refine List.map_congr_left fun row hrow => ?_
        cases hselected : row.selected hashTicket ticket workspaceId request.now with
        | true =>
          rw [Table.change_of_pos hselected,
            Table.change_of_pos (by simp [hrow, hselected])]
        | false =>
          rw [Table.change_of_neg hselected,
            Table.change_of_neg (by simp [hselected])]

end

/-! ### Runs -/

/-- The tickets, the hashes of all that were ever drawn, and of those that were consumed. -/
structure TicketRun where
  tickets : TicketTable
  drawn : List String
  spent : List String

namespace TicketRun

/-- The beginning of a run: nothing has been consumed in it. -/
def start (tickets : TicketTable) : TicketRun :=
  ⟨tickets, tickets.rows.map TicketRow.ticketHash, []⟩

variable (hashTicket : List Char → String) (installation : InstallationId)

/-- The run after a request of the gateway. -/
def after (run : TicketRun) (request : AuthorizeRequest) : TicketRun where
  tickets := (request.authorize hashTicket installation run.tickets).2
  drawn := run.drawn
  spent := (request.consumed hashTicket installation run.tickets).map TicketRow.ticketHash ++
    run.spent

/-- A ticket is issued, which was never drawn before; the gateway makes a request; or the tickets of
a workspace are deleted with it. -/
inductive Step : TicketRun → TicketRun → Prop
  | issue {run : TicketRun} (request : IssueRequest)
      (hnew : ∀ ticket, request.drawn = .ok ticket → hashTicket ticket ∉ run.drawn) :
      Step run ⟨(request.issue hashTicket installation run.tickets).2,
        (request.drawn.toOption.map hashTicket).toList ++ run.drawn, run.spent⟩
  | authorize {run : TicketRun} (request : AuthorizeRequest) :
      Step run (run.after hashTicket installation request)
  | scrub {run : TicketRun} (workspaceId : Uuid) :
      Step run { run with tickets := run.tickets.delete fun row => row.workspaceId = workspaceId }

/-- A ticket that may still be consumed has not been. -/
structure Sound (run : TicketRun) : Prop where
  drawn : ∀ row ∈ run.tickets.rows, row.ticketHash ∈ run.drawn
  spent : ∀ hash ∈ run.spent, hash ∈ run.drawn
  fresh : ∀ row ∈ run.tickets.rows, row.consumedAt = none → row.ticketHash ∉ run.spent
  nodup : run.spent.Nodup

theorem sound_start (tickets : TicketTable) : (start tickets).Sound where
  drawn _ hrow := List.mem_map_of_mem hrow
  spent _ h := absurd h (by simp [start])
  fresh _ _ _ := by simp [start]
  nodup := List.nodup_nil

variable {hashTicket : List Char → String} {installation : InstallationId} {run run' : TicketRun}

variable {request : IssueRequest}

/-- The rows after an issue: those before, and at most the drawn ticket. -/
theorem mem_issue (h : row ∈ (request.issue hashTicket installation tickets).2.rows) :
    row ∈ tickets.rows ∨
      ∃ ticket, request.drawn = .ok ticket ∧ row.ticketHash = hashTicket ticket := by
  unfold IssueRequest.issue at h
  split at h
  · exact .inl h
  · split at h
    · exact .inl h
    · rename_i issued tickets' hissue
      simp only [issueWebShellTicket, bind_eq_ok, okOr_eq_ok, pure_eq_ok, Prod.mk.injEq] at hissue
      obtain ⟨_, -, _, -, ticket, hdrawn, _, -, _, hinsert, -, rfl⟩ := hissue
      rw [(Table.rows_of_insertNew hinsert).2] at h
      rcases List.mem_append.1 h with hold | hnew
      · exact .inl hold
      · obtain rfl := List.mem_singleton.1 hnew
        exact .inr ⟨ticket, hdrawn, rfl⟩

theorem Sound.issue (h : run.Sound)
    (hnew : ∀ ticket, request.drawn = .ok ticket → hashTicket ticket ∉ run.drawn) :
    Sound ⟨(request.issue hashTicket installation run.tickets).2,
      (request.drawn.toOption.map hashTicket).toList ++ run.drawn, run.spent⟩ where
  drawn row hrow := by
    rcases mem_issue hrow with hold | ⟨ticket, hdrawn, hhash⟩
    · exact List.mem_append_right _ (h.drawn row hold)
    · refine List.mem_append_left _ ?_
      simp [hdrawn, Except.toOption, hhash]
  spent hash hhash := List.mem_append_right _ (h.spent hash hhash)
  fresh row hrow hnone := by
    rcases mem_issue hrow with hold | ⟨ticket, hdrawn, hhash⟩
    · exact h.fresh row hold hnone
    · rw [hhash]
      exact fun hspent => hnew ticket hdrawn (h.spent _ hspent)
  nodup := h.nodup

theorem Sound.authorize (h : run.Sound) (request : AuthorizeRequest) :
    (run.after hashTicket installation request).Sound := by
  have hconsumed : ∀ hash ∈ (request.consumed hashTicket installation run.tickets).map
      TicketRow.ticketHash, ∃ row ∈ run.tickets.rows, row.ticketHash = hash ∧
        row.consumedAt = none := by
    intro hash hhash
    obtain ⟨row, hrow, rfl⟩ := List.mem_map.1 hhash
    exact ⟨row, (mem_consumed hrow).1, rfl, (mem_consumed hrow).2.1⟩
  have hrows : ∀ row ∈ (run.after hashTicket installation request).tickets.rows,
      ∃ old ∈ run.tickets.rows, row = Table.change (fun row =>
        decide (row ∈ request.consumed hashTicket installation run.tickets))
        (TicketRow.consume request.now) old := by
    intro row hrow
    change row ∈ (request.authorize hashTicket installation run.tickets).2.rows at hrow
    rw [rows_authorize] at hrow
    obtain ⟨old, hold, rfl⟩ := List.mem_map.1 hrow
    exact ⟨old, hold, rfl⟩
  refine ⟨?_, ?_, ?_, ?_⟩
  · intro row hrow
    obtain ⟨old, hold, rfl⟩ := hrows row hrow
    rw [Table.apply_change (f := TicketRow.consume request.now) TicketRow.ticketHash
      fun _ _ => rfl]
    exact h.drawn old hold
  · intro hash hhash
    rcases List.mem_append.1 hhash with hnew | hold
    · obtain ⟨row, hrow, rfl, -⟩ := hconsumed hash hnew
      exact h.drawn row hrow
    · exact h.spent hash hold
  · intro row hrow hnone hspent
    obtain ⟨old, hold, rfl⟩ := hrows row hrow
    by_cases hmem : old ∈ request.consumed hashTicket installation run.tickets
    · rw [Table.change_of_pos (by simpa using hmem)] at hnone
      cases hnone
    · rw [Table.change_of_neg (by simpa using hmem)] at hnone hspent
      rcases List.mem_append.1 hspent with hnew | hspent
      · -- a row with the hash of a consumed row is that row
        obtain ⟨other, hother, hhash⟩ := List.mem_map.1 hnew
        exact hmem (run.tickets.eq_of_key (mem_consumed hother).1 hold hhash ▸ hother)
      · exact h.fresh old hold hnone hspent
  · refine List.nodup_append.2 ⟨?_, h.nodup, ?_⟩
    · exact (consumed_sublist.map _).nodup run.tickets.nodup
    · intro hash hnew other hold heq
      obtain ⟨row, hrow, rfl, hnone⟩ := hconsumed hash hnew
      exact h.fresh row hrow hnone (heq ▸ hold)

theorem Sound.step (h : run.Sound) (hstep : Step hashTicket installation run run') :
    run'.Sound := by
  cases hstep with
  | issue request hnew => exact h.issue hnew
  | authorize request => exact h.authorize request
  | scrub workspaceId =>
    exact ⟨fun row hrow => h.drawn row (Table.mem_delete.1 hrow).1, h.spent,
      fun row hrow => h.fresh row (Table.mem_delete.1 hrow).1, h.nodup⟩

theorem Sound.of_run (h : run.Sound)
    (hrun : Relation.ReflTransGen (Step hashTicket installation) run run') : run'.Sound := by
  induction hrun with
  | refl => exact h
  | tail _ hstep ih => exact ih.step hstep

theorem spent_subset (hrun : Relation.ReflTransGen (Step hashTicket installation) run run') :
    run.spent ⊆ run'.spent := by
  induction hrun with
  | refl => exact fun _ h => h
  | tail _ hstep ih =>
    cases hstep with
    | issue | scrub => exact ih
    | authorize request => exact fun _ h => List.mem_append_right _ (ih h)

end TicketRun

namespace AuthorizeRequest

variable {hashTicket : List Char → String} {request : AuthorizeRequest}

/-- The endpoint and the upstream agree on a URI that is a text and whose path is as the upstream
reads it, if no header names another workspace. -/
theorem ReadAs.addresses (h : request.ReadAs installation workspaceId)
    (huri : request.uri = some uri) (hnormal : upstreamPath (uriPath uri) = uriPath uri)
    (hheader : ∀ named ∈ request.workspaceId, named = some workspaceId) :
    request.Addresses installation workspaceId := by
  obtain ⟨hhas, raw, hraw, hread⟩ := h
  have hsame : raw = uri := by
    rw [AuthorizeRequest.uri, hraw, Option.bind_some, headerStr] at huri
    split at huri
    · exact Option.some_inj.1 huri
    · cases huri
  have hpath : uriPath uri = terminalEndpoint installation workspaceId :=
    hnormal.symm.trans (hsame ▸ hread)
  refine ⟨by rw [huri, Option.any_some, isTtydWebsocketUri_endpoint hpath], fun found hfound => ?_⟩
  unfold AuthorizeRequest.workspace at hfound
  split at hfound
  · rename_i parsed hparsed
    rw [hheader parsed hparsed] at hfound
    exact (Option.some_inj.1 (okOr_eq_ok.1 hfound)).symm
  · simp only [huri, Option.bind_some, workspaceShortIdFromUri_endpoint hpath, bind_eq_ok,
      okOr_eq_ok, mapError_eq_ok, pure_eq_ok, Option.some_inj, exists_eq_left',
      String.ofList_toList] at hfound
    obtain ⟨workspace, hlookup, rfl⟩ := hfound
    exact WorkspaceView.id_of_getWorkspaceByShortId hhas hlookup

/-- What an authorized request consumes: nothing if its URI is not one of a WebSocket, otherwise one
ticket of the workspace that it names. -/
theorem consumed_of_authorize {response : Option WebShellIdentity}
    (hok : (request.authorize hashTicket installation tickets).1 = .ok response) :
    (request.uri.any isTtydWebsocketUri = false ∧
        request.consumed hashTicket installation tickets = []) ∨
      request.uri.any isTtydWebsocketUri = true ∧ ∃ ticket ∈ tickets.rows,
        request.workspace installation = .ok ticket.workspaceId ∧
        request.consumed hashTicket installation tickets = [ticket] := by
  unfold authorize at hok
  cases hroute : request.route installation with
  | error e =>
    rw [hroute] at hok
    cases hok
  | ok routed =>
    have hrouted := hroute
    simp only [route, bind_eq_ok] at hrouted
    obtain ⟨_, -, hrouted⟩ := hrouted
    split at hrouted
    · rename_i hwebsocket
      simp only [bind_eq_ok, pure_eq_ok] at hrouted
      obtain ⟨found, hfound, text, -, rfl⟩ := hrouted
      simp only [hroute, admitCaller, consumeWebShellTicket] at hok
      split at hok
      · -- a ticket that is too short opens nothing
        cases hok
      · rename_i hlong
        simp only [bind_eq_ok, okOr_eq_ok, Option.map_eq_some_iff] at hok
        obtain ⟨_, ⟨ticket, hfind, -⟩, -⟩ := hok
        have hrow := List.mem_of_find?_eq_some hfind
        have hselected := List.find?_some hfind
        have hconsumed : request.consumed hashTicket installation tickets = [ticket] := by
          rw [consumed, hroute]
          simp only [if_neg hlong]
          exact filter_selected hrow hselected
        simp only [TicketRow.selected, Bool.and_eq_true, decide_eq_true_eq] at hselected
        obtain ⟨⟨⟨-, hworkspace⟩, -⟩, -⟩ := hselected
        exact .inr ⟨hwebsocket, ticket, hrow, hworkspace ▸ hfound, hconsumed⟩
    · -- no WebSocket: authorized without a ticket
      rename_i hother
      obtain rfl := pure_eq_ok.1 hrouted
      exact .inl ⟨Bool.not_eq_true _ ▸ hother, by rw [consumed, hroute]⟩

end AuthorizeRequest

/-- **One ticket for each terminal.**  In every run of issued tickets, requests of the gateway and
deleted workspaces: a request that is authorized and that the upstream reads as one for the terminal
of a workspace consumes exactly one ticket, which was issued for that workspace, was neither expired
nor consumed, and is never consumed by another request, if and only if the endpoint reads the request
as one for the terminal of that workspace, too. -/
theorem authorized_spends_ticket {hashTicket : List Char → String} {installation : InstallationId}
    {tickets : TicketTable} {run : TicketRun}
    (hrun : Relation.ReflTransGen (TicketRun.Step hashTicket installation) (.start tickets) run)
    {request : AuthorizeRequest} {response : Option WebShellIdentity}
    (hok : (request.authorize hashTicket installation run.tickets).1 = .ok response) :
    (∀ workspaceId, request.ReadAs installation workspaceId → ∃ ticket ∈ run.tickets.rows,
      request.consumed hashTicket installation run.tickets = [ticket] ∧
      ticket.workspaceId = workspaceId ∧ ticket.consumedAt = none ∧
      request.now ≤ ticket.expiresAt ∧ ticket.ticketHash ∉ run.spent ∧
      ∀ later, Relation.ReflTransGen (TicketRun.Step hashTicket installation)
        (run.after hashTicket installation request) later →
          ticket.ticketHash ∈ later.spent ∧ later.spent.Nodup) ↔
    ∀ workspaceId, request.ReadAs installation workspaceId →
      request.Addresses installation workspaceId := by
  have hsound := (TicketRun.sound_start tickets).of_run hrun
  refine forall₂_congr fun workspaceId _ => ?_
  rcases request.consumed_of_authorize hok with ⟨hother, hnothing⟩ | ⟨hwebsocket, ticket, hrow,
    hfound, hconsumed⟩
  · constructor
    · rintro ⟨ticket, -, hconsumed, -⟩
      rw [hnothing] at hconsumed
      cases hconsumed
    · intro haddresses
      rw [haddresses.websocket] at hother
      cases hother
  · constructor
    · rintro ⟨other, -, hother, hworkspace, -⟩
      obtain rfl := List.singleton_inj.1 (hconsumed.symm.trans hother)
      refine ⟨hwebsocket, fun found hfound' => ?_⟩
      rw [hfound] at hfound'
      exact (Except.ok.inj hfound').symm.trans hworkspace
    · intro haddresses
      obtain ⟨-, hnone, hexpiry⟩ := mem_consumed (hconsumed ▸ List.mem_singleton_self ticket)
      refine ⟨ticket, hrow, hconsumed, haddresses.workspace _ hfound, hnone, hexpiry,
        hsound.fresh ticket hrow hnone, fun later hlater => ⟨TicketRun.spent_subset hlater ?_,
          ((hsound.authorize request).of_run hlater).nodup⟩⟩
      simp [TicketRun.after, hconsumed]

/-! ### A sample -/

def sampleInstallationId : InstallationId := ⟨['a'], by decide⟩

def sampleOtherRow : WorkspaceRow :=
  { sampleRow .ready with
    id := sampleOperationId
    shortId := workspaceShortIdFor sampleOperationId
    name := "other" }

def sampleView : WorkspaceView where
  database :=
    { sampleDatabase .ready with workspaces := ⟨[sampleRow .ready, sampleOtherRow], by decide⟩ }
  shortIds := by decide +kernel

def sampleTicket : List Char := "00000000000000000000000000000001".toList

/-- One ticket, of the given workspace; a ticket is its own hash. -/
def sampleTickets (workspaceId : Uuid) : TicketTable :=
  ⟨[⟨sampleJobId, String.ofList sampleTicket, sampleUserId, workspaceId, sampleUserId, 100, none,
    40⟩], by simp⟩

/-- A request with the sample ticket in its header. -/
def sampleAuthorize (uri : List Char) (workspaceId : Option (Option Uuid)) : AuthorizeRequest where
  internalCaller := true
  forwardedUri := some uri
  workspaceId := workspaceId
  ticket := some sampleTicket
  now := 50
  looked := sampleView
  checked := sampleView

def sampleEndpoint : List Char := terminalEndpoint sampleInstallationId sampleWorkspaceId

theorem authorized_spends_ticket_sample :
    ∃ ticket ∈ (sampleTickets sampleWorkspaceId).rows,
      ticket.workspaceId = sampleWorkspaceId ∧ ticket.consumedAt = none ∧
      ∀ later, Relation.ReflTransGen (TicketRun.Step String.ofList sampleInstallationId)
        ((TicketRun.start (sampleTickets sampleWorkspaceId)).after String.ofList
          sampleInstallationId (sampleAuthorize sampleEndpoint none)) later →
        ticket.ticketHash ∈ later.spent ∧ later.spent.Nodup := by
  have hnormal : upstreamPath (uriPath sampleEndpoint) = uriPath sampleEndpoint := by
    decide +kernel
  have hread : (sampleAuthorize sampleEndpoint none).ReadAs sampleInstallationId
      sampleWorkspaceId :=
    ⟨⟨sampleRow .ready, List.mem_cons_self, rfl, rfl⟩, _, rfl, by decide +kernel⟩
  obtain ⟨ticket, hticket, -, hworkspace, hnone, -, -, hlater⟩ :=
    (@authorized_spends_ticket String.ofList sampleInstallationId (sampleTickets sampleWorkspaceId)
      _ .refl (sampleAuthorize sampleEndpoint none)
      (some ⟨sampleUserId, sampleWorkspaceId, sampleUserId⟩) (by decide +kernel)).2
      (fun _ h => h.addresses (by decide +kernel) hnormal (by simp [sampleAuthorize]))
      sampleWorkspaceId hread
  exact ⟨ticket, hticket, hworkspace, hnone, hlater⟩

/-- The request is authorized, the upstream reads its path as the terminal of the sample workspace,
and it consumes no ticket of that workspace. -/
def Slips (request : AuthorizeRequest) (tickets : TicketTable) : Bool :=
  (request.forwardedUri.any fun uri =>
      upstreamPath (uriPath uri) = sampleEndpoint) &&
    (request.authorize String.ofList sampleInstallationId tickets).1.isOk &&
    (request.consumed String.ofList sampleInstallationId tickets).all fun ticket =>
      ticket.workspaceId ≠ sampleWorkspaceId

/-- An encoded path and a URI with a byte beyond ASCII pass without a ticket; a path with dot segments
and a header pass with the ticket of another workspace. -/
theorem authorized_without_ticket :
    sampleView.Has sampleWorkspaceId ∧
      Slips (sampleAuthorize (webShellPath sampleInstallationId
        (workspaceShortIdFor sampleWorkspaceId) ++ "%77s".toList) none)
        (sampleTickets sampleWorkspaceId) = true ∧
      Slips (sampleAuthorize (sampleEndpoint ++ ['?', Char.ofNat 0xff]) none)
        (sampleTickets sampleWorkspaceId) = true ∧
      Slips (sampleAuthorize (webShellPath sampleInstallationId
        (workspaceShortIdFor sampleOperationId) ++ "../".toList ++
          routeKey sampleInstallationId sampleWorkspaceId ++ "/ws".toList) none)
        (sampleTickets sampleOperationId) = true ∧
      Slips (sampleAuthorize sampleEndpoint (some (some sampleOperationId)))
        (sampleTickets sampleOperationId) = true :=
  ⟨⟨sampleRow .ready, List.mem_cons_self, rfl, rfl⟩, by decide +kernel, by decide +kernel,
    by decide +kernel, by decide +kernel⟩

end WorkspaceControl
