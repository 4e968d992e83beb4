/-
**Webhook subscriptions.**

`src/src/storage/webhook_store.rs`: a subscription names a URL and the beginning of the kinds of
events that are delivered to it.  A URL is kept with what `Url::parse` makes of it.  With every
event of a workspace, the transaction that inserts it enqueues a job for each subscription whose
prefix the database finds to be `LIKE` the kind of the event.

Main definitions:

* `CreateWebhookSubscription.validate`, `createWebhookSubscription` — which subscriptions are
  accepted;
* `WebhookSubscription.selected`, `enqueueDeliveries` — the jobs of an event;
* `insertWorkspaceEvent` — the event with its jobs, and its three kinds;
* `Backend.ReadsLiterally`, `LiteralPrefix` — prefixes that `LIKE` reads character by character.

Main results:

* `accepted_webhook_address_public` — **an accepted URL names no internal address, exactly when** its
  host is no IPv6 literal of one;
* `ipv6_loopback_accepted` — the loopback addresses of IPv6 are accepted;
* `event_enqueues_matching_deliveries` — **an event has one delivery for each subscription whose
  prefix its kind begins with, exactly when** `LIKE` reads the prefix as it stands;
* `prefixes_matched_loosely` — prefixes that match other kinds, or on one database only.
-/
import WorkspaceControl.AddressBlocks
import WorkspaceControl.EventStream
import WorkspaceControl.LikePatterns

set_option autoImplicit false

namespace WorkspaceControl

open Fallible Relational AddressBlocks LikePatterns

/-! ### Subscriptions -/

/-- `url::Host`. -/
inductive Host
  | domain (name : String)
  | ipv4 (address : BitVec 32)
  | ipv6 (address : BitVec 128)

/-- What is used of the crate `url` and of `std::net`: the text of a host, `Url::host_str`, and the
address that a text is parsed to.  The text of an IPv4 address is parsed back; an IPv6 address stands
in brackets, which are no part of a text of an address. -/
structure HostTexts where
  str : Host → List Char
  parseIpAddr : List Char → Option IpAddr
  parse_ipv4 : ∀ address, parseIpAddr (str (.ipv4 address)) = some (.v4 address)
  brackets : ∀ address, ∃ inner, str (.ipv6 address) = '[' :: inner ++ [']']
  parse_bracket : ∀ text, parseIpAddr ('[' :: text) = none

/-- The address that an IP literal denotes. -/
def Host.literal : Host → Option IpAddr
  | domain _ => none
  | ipv4 address => some (.v4 address)
  | ipv6 address => some (.v6 address)

structure Url where
  scheme : String
  username : String
  password : Option String
  host : Option Host

/-- A text with what `Url::parse` makes of it. -/
structure UrlText where
  text : String
  parsed : Option Url

structure CreateWebhookSubscription where
  organizationId : Uuid
  url : UrlText
  eventPrefix : String
  signingSecret : String

structure WebhookSubscription where
  id : Uuid
  organizationId : Uuid
  url : UrlText
  eventPrefix : String
  enabled : Bool
  createdBy : Uuid
  createdAt : ℤ
  updatedAt : ℤ

abbrev WebhookTable : Type := Table WebhookSubscription.id

/-- An octet of an IPv4 address, from the left. -/
def octet (address : BitVec 32) (i : ℕ) : ℕ := address.toNat / 256 ^ (3 - i) % 256

/-- The first segment of an IPv6 address. -/
def firstSegment (address : BitVec 128) : ℕ := address.toNat / 2 ^ 112

/-- `is_private`, `is_loopback`, `is_link_local`, `is_unspecified` of `Ipv4Addr`, and
`is_loopback`, `is_unique_local`, `is_unicast_link_local`, `is_unspecified` of `Ipv6Addr`. -/
def unsafeAddress : IpAddr → Bool
  | .v4 ip =>
    octet ip 0 = 10 || (octet ip 0 = 172 && 16 ≤ octet ip 1 && octet ip 1 ≤ 31) ||
      (octet ip 0 = 192 && octet ip 1 = 168) || octet ip 0 = 127 ||
      (octet ip 0 = 169 && octet ip 1 = 254) || ip.toNat = 0
  | .v6 ip =>
    ip.toNat = 1 || firstSegment ip &&& 0xfe00 = 0xfc00 || firstSegment ip &&& 0xffc0 = 0xfe80 ||
      ip.toNat = 0

/-- The check of the address that the text of the host is parsed to. -/
def validateHost (texts : HostTexts) (host : List Char) : Except StorageError Unit := do
  ensure (!(host.map Char.toLower = "localhost".toList || ".local".toList.isSuffixOf host))
    .invalidWebhook
  match texts.parseIpAddr host with
  | some ip => ensure (!unsafeAddress ip) .invalidWebhook
  | none => pure ()

/-- The checks that are not about the host. -/
def CreateWebhookSubscription.wellFormed (command : CreateWebhookSubscription) (url : Url) : Bool :=
  url.scheme = "https" && url.username = "" && url.password.isNone &&
    !command.eventPrefix.toList.isEmpty && Text.len command.eventPrefix.toList ≤ 120 &&
    32 ≤ Text.len command.signingSecret.toList

def CreateWebhookSubscription.validate (texts : HostTexts) (command : CreateWebhookSubscription) :
    Except StorageError Unit := do
  let url ← okOr command.url.parsed .invalidWebhook
  ensure (command.wellFormed url) .invalidWebhook
  let host ← okOr url.host .invalidWebhook
  validateHost texts (texts.str host)

/-- The subscription is enabled; its id is drawn by the caller. -/
def createWebhookSubscription (texts : HostTexts) (subscriptions : WebhookTable)
    (command : CreateWebhookSubscription) (id actor : Uuid) (now : ℤ) :
    Except StorageError (WebhookSubscription × WebhookTable) := do
  command.validate texts
  let summary : WebhookSubscription := ⟨id, command.organizationId, command.url,
    command.eventPrefix, true, actor, now, now⟩
  let subscriptions ← okOr (subscriptions.insertNew summary)
    (.database "UNIQUE constraint failed: webhook_subscriptions.id")
  pure (summary, subscriptions)

/-! ### Internal addresses -/

/-- The private, loopback, link-local and unspecified addresses of IPv4. -/
def internalIpv4 : List (Block 32) :=
  [⟨ipv4 10 0 0 0, 8, by decide⟩, ⟨ipv4 172 16 0 0, 12, by decide⟩,
    ⟨ipv4 192 168 0 0, 16, by decide⟩, ⟨ipv4 127 0 0 0, 8, by decide⟩,
    ⟨ipv4 169 254 0 0, 16, by decide⟩, ⟨ipv4 0 0 0 0, 32, by decide⟩]

def ofSegments (segments : List ℕ) : BitVec 128 :=
  BitVec.ofNat 128 (segments.foldl (fun value segment => value * 2 ^ 16 + segment) 0)

/-- `::1`, `fc00::/7`, `fe80::/10` and `::`. -/
def internalIpv6 : List (Block 128) :=
  [⟨ofSegments [0, 0, 0, 0, 0, 0, 0, 1], 128, by decide⟩,
    ⟨ofSegments [0xfc00, 0, 0, 0, 0, 0, 0, 0], 7, by decide⟩,
    ⟨ofSegments [0xfe80, 0, 0, 0, 0, 0, 0, 0], 10, by decide⟩,
    ⟨ofSegments [0, 0, 0, 0, 0, 0, 0, 0], 128, by decide⟩]

/-- `::ffff:0:0/96`. -/
def mappedIpv4 : Block 128 := ⟨ofSegments [0, 0, 0, 0, 0, 0xffff, 0, 0], 96, by decide⟩

/-- An address that is not public, or embeds one. -/
def internal : IpAddr → Bool
  | .v4 ip => internalIpv4.any fun block => block.covers ip
  | .v6 ip => (internalIpv6.any fun block => block.covers ip) ||
      (mappedIpv4.covers ip && internalIpv4.any fun block => block.covers (ip.setWidth 32))

/-- The tests of octets are tests of blocks. -/
theorem internal_v4 (ip : BitVec 32) : internal (.v4 ip) = unsafeAddress (.v4 ip) := by
  have hlt : ip.toNat < 2 ^ 32 := ip.isLt
  rw [Bool.eq_iff_iff]
  simp only [internal, internalIpv4, unsafeAddress, List.any_cons, List.any_nil, Bool.or_false,
    Bool.or_eq_true, Block.covers_iff, Bool.and_eq_true, decide_eq_true_eq]
  simp only [Block.lead, Block.hostBits, ipv4, octet, BitVec.toNat_ofNat, Nat.reduceSub,
    Nat.reducePow, Nat.reduceMul, Nat.reduceAdd, Nat.reduceMod, Nat.reduceDiv]
  omega

variable {texts : HostTexts}

theorem validateHost_ipv4 {address : BitVec 32}
    (h : validateHost texts (texts.str (.ipv4 address)) = .ok ()) :
    unsafeAddress (.v4 address) = false := by
  obtain ⟨-, -, hcheck⟩ := bind_eq_ok.1 h
  rw [texts.parse_ipv4] at hcheck
  simpa using hcheck

/-- The check never sees the address of an IPv6 literal. -/
theorem validateHost_ipv6 (address : BitVec 128) :
    validateHost texts (texts.str (.ipv6 address)) = .ok () := by
  obtain ⟨inner, hstr⟩ := texts.brackets address
  rw [hstr, validateHost, List.cons_append, texts.parse_bracket]
  refine bind_eq_ok.2 ⟨(), ensure_eq_ok.2 ?_, rfl⟩
  have hsuffix : ".local".toList.isSuffixOf ('[' :: (inner ++ [']'])) = false := by
    rw [Bool.eq_false_iff, Ne, List.isSuffixOf_iff_suffix, ← List.cons_append]
    intro h
    have hlast := h.getLast (by decide)
    simp at hlast
  rw [hsuffix]
  simp [show Char.toLower '[' = '[' by decide]

theorem createWebhookSubscription_eq_ok {subscriptions : WebhookTable}
    {command : CreateWebhookSubscription} {id actor : Uuid} {now : ℤ} {url : Url} {host : Host}
    (hurl : command.url.parsed = some url) (hhost : url.host = some host) :
    (∃ result, createWebhookSubscription texts subscriptions command id actor now = .ok result) ↔
      (command.wellFormed url = true ∧ validateHost texts (texts.str host) = .ok ()) ∧
        ∀ row ∈ subscriptions.rows, row.id ≠ id := by
  have hvalidate : command.validate texts = .ok () ↔
      command.wellFormed url = true ∧ validateHost texts (texts.str host) = .ok () := by
    simp [CreateWebhookSubscription.validate, okOr_bind_eq_ok, ensure_bind_eq_ok, hurl, hhost]
  rw [← hvalidate]
  constructor
  · rintro ⟨result, h⟩
    obtain ⟨_, hvalid, h⟩ := bind_eq_ok.1 h
    obtain ⟨_, hinsert, -⟩ := okOr_bind_eq_ok.1 h
    exact ⟨hvalid, (Table.rows_of_insertNew hinsert).1⟩
  · rintro ⟨hvalid, hnew⟩
    refine ⟨_, bind_eq_ok.2 ⟨(), hvalid, okOr_bind_eq_ok.2 ⟨_, Table.insertNew_of_new ?_, rfl⟩⟩⟩
    exact hnew

/-- **An accepted URL names no internal address, exactly when it is refused for another reason or
its host is no IPv6 literal of an internal address.** -/
theorem accepted_webhook_address_public (texts : HostTexts) (subscriptions : WebhookTable)
    (command : CreateWebhookSubscription) (id actor : Uuid) (now : ℤ) {url : Url} {host : Host}
    (hurl : command.url.parsed = some url) (hhost : url.host = some host) :
    (∀ result, createWebhookSubscription texts subscriptions command id actor now = .ok result →
      ∀ address ∈ host.literal, internal address = false) ↔
    (command.wellFormed url = true → (∀ row ∈ subscriptions.rows, row.id ≠ id) →
      ∀ address, host = .ipv6 address → internal (.v6 address) = false) := by
  have hok : (∃ result, createWebhookSubscription texts subscriptions command id actor now =
      .ok result) ↔ _ := createWebhookSubscription_eq_ok hurl hhost
  constructor
  · rintro hpublic hform hnew address rfl
    obtain ⟨result, haccepted⟩ := hok.2 ⟨⟨hform, validateHost_ipv6 address⟩, hnew⟩
    exact hpublic result haccepted _ rfl
  · intro hcondition result haccepted address hliteral
    obtain ⟨⟨hform, hvalid⟩, hnew⟩ := hok.1 ⟨result, haccepted⟩
    cases host with
    | domain name => cases hliteral
    | ipv6 a =>
      obtain rfl := Option.some_inj.1 hliteral
      exact hcondition hform hnew a rfl
    | ipv4 a =>
      obtain rfl := Option.some_inj.1 hliteral
      rw [internal_v4]
      exact validateHost_ipv4 hvalid

def sampleSubscription (text : String) (host : Host) (eventPrefix : String) :
    CreateWebhookSubscription :=
  ⟨sampleUserId, ⟨text, some ⟨"https", "", none, some host⟩⟩, eventPrefix,
    "0123456789abcdef0123456789abcdef"⟩

/-- The texts of two addresses; the other IPv4 addresses are written in some way that is read back. -/
def sampleTexts : HostTexts where
  str
    | .domain name => name.toList
    | .ipv4 address =>
      if address = ipv4 8 8 8 8 then "8.8.8.8".toList else List.replicate address.toNat '1'
    | .ipv6 _ => "[2001:4860:4860::8888]".toList
  parseIpAddr text :=
    if text = "8.8.8.8".toList then some (.v4 (ipv4 8 8 8 8))
    else if text.all (· = '1') then some (.v4 (BitVec.ofNat 32 text.length))
    else none
  parse_ipv4 address := by
    by_cases h : address = ipv4 8 8 8 8
    · simp [h]
    · cases hnumber : address.toNat with
      | zero => simp [h, hnumber, ← BitVec.toNat_inj]
      | succ n =>
        have hlt : n + 1 < 4294967296 := hnumber ▸ address.isLt
        simp [h, hnumber, ← BitVec.toNat_inj, List.replicate_succ, hlt]
  brackets _ := ⟨"2001:4860:4860::8888".toList, rfl⟩
  parse_bracket text := by simp

/-- `https://8.8.8.8/` and `https://[2001:4860:4860::8888]/` are accepted, and are public. -/
theorem accepted_webhook_address_public_sample :
    let google := ofSegments [0x2001, 0x4860, 0x4860, 0, 0, 0, 0, 0x8888]
    let create (text : String) (host : Host) := createWebhookSubscription sampleTexts (.empty _)
      (sampleSubscription text host "workspace.") sampleJobId sampleUserId 0
    (∃ result, create "https://8.8.8.8/" (.ipv4 (ipv4 8 8 8 8)) = .ok result) ∧
      internal (.v4 (ipv4 8 8 8 8)) = false ∧
      (∃ result, create "https://[2001:4860:4860::8888]/" (.ipv6 google) = .ok result) ∧
      internal (.v6 google) = false := by
  intro google create
  have hipv4 : ∃ result, create "https://8.8.8.8/" (.ipv4 (ipv4 8 8 8 8)) = .ok result :=
    (createWebhookSubscription_eq_ok rfl rfl).2 ⟨⟨by decide +kernel, by decide +kernel⟩, by simp⟩
  have hipv6 : ∃ result, create "https://[2001:4860:4860::8888]/" (.ipv6 google) = .ok result :=
    (createWebhookSubscription_eq_ok rfl rfl).2 ⟨⟨by decide +kernel, validateHost_ipv6 _⟩, by simp⟩
  refine ⟨hipv4, ?_, hipv6, ?_⟩
  · obtain ⟨result, haccepted⟩ := hipv4
    exact (accepted_webhook_address_public sampleTexts _ _ _ _ _ rfl rfl).2 (by simp) result
      haccepted _ rfl
  · obtain ⟨result, haccepted⟩ := hipv6
    refine (accepted_webhook_address_public sampleTexts _ _ _ _ _ rfl rfl).2 ?_ result haccepted _
      rfl
    rintro - - address ⟨⟩
    decide +kernel

/-- The hosts of `https://[::1]/` and of `https://[::ffff:127.0.0.1]/` are no texts of addresses to
the check. -/
theorem ipv6_loopback_accepted :
    let loopback := ofSegments [0, 0, 0, 0, 0, 0, 0, 1]
    let mapped := ofSegments [0, 0, 0, 0, 0, 0xffff, 0x7f00, 1]
    let create (texts : HostTexts) (text : String) (host : Host) := createWebhookSubscription texts
      (.empty _) (sampleSubscription text host "workspace.") sampleJobId sampleUserId 0
    (∀ texts, (∃ result, create texts "https://[::1]/" (.ipv6 loopback) = .ok result) ∧
      ∃ result, create texts "https://[::ffff:127.0.0.1]/" (.ipv6 mapped) = .ok result) ∧
      internal (.v6 loopback) = true ∧ internal (.v6 mapped) = true := by
  intro loopback mapped create
  refine ⟨fun texts => ⟨?_, ?_⟩, by decide +kernel, by decide +kernel⟩ <;>
    exact (createWebhookSubscription_eq_ok rfl rfl).2
      ⟨⟨by decide +kernel, validateHost_ipv6 _⟩, by simp⟩

/-! ### Deliveries -/

/-- `value LIKE pattern`. -/
def Backend.like (value pattern : List Char) : Backend → Except StorageError Bool
  | sqlite => .ok (likeSqlite value pattern)
  | postgres => okOr (likePostgres value pattern)
      (.database "LIKE pattern must not end with escape character")

/-- The condition of the query on a row. -/
def WebhookSubscription.selected (backend : Backend) (organizationId : Uuid) (kind : String)
    (row : WebhookSubscription) : Except StorageError Bool :=
  if row.organizationId = organizationId ∧ row.enabled = true then
    backend.like kind.toList (row.eventPrefix.toList ++ ['%'])
  else .ok false

def selectSubscriptions (backend : Backend) (organizationId : Uuid) (kind : String) :
    List WebhookSubscription → Except StorageError (List WebhookSubscription)
  | [] => .ok []
  | row :: rows => do
    let selected ← row.selected backend organizationId kind
    let rest ← selectSubscriptions backend organizationId kind rows
    pure (if selected then row :: rest else rest)

def deliveryPayload (subscriptionId eventId : Uuid) : Payload :=
  .object [("subscription_id", .scalar (.str subscriptionId.text)),
    ("event_id", .scalar (.str eventId.text))]

def deliveryJob (subscriptionId workspaceId eventId : Uuid) (now : ℤ) : NewJob :=
  ⟨.deliverWebhook, some workspaceId, deliveryPayload subscriptionId eventId, now⟩

/-- One job for each row; `draw` gives the ids of the jobs. -/
def insertDeliveryJobs (draw : Uuid → Uuid) (workspaceId eventId : Uuid) (now : ℤ) :
    JobTable → List WebhookSubscription → Except StorageError JobTable
  | jobs, [] => .ok jobs
  | jobs, row :: rows => do
    let jobs ← enqueueJob jobs (draw row.id) (deliveryJob row.id workspaceId eventId now) now
    insertDeliveryJobs draw workspaceId eventId now jobs rows

/-- `enqueue_sqlite`, `enqueue_postgres`. -/
def enqueueDeliveries (backend : Backend) (subscriptions : WebhookTable) (draw : Uuid → Uuid)
    (jobs : JobTable) (organizationId workspaceId eventId : Uuid) (kind : String) (now : ℤ) :
    Except StorageError JobTable := do
  let rows ← selectSubscriptions backend organizationId kind subscriptions.rows
  insertDeliveryJobs draw workspaceId eventId now jobs rows

/-- An event of a workspace, with its deliveries. -/
def insertWorkspaceEvent (backend : Backend) (subscriptions : WebhookTable) (draw : Uuid → Uuid)
    (events : EventTable) (jobs : JobTable) (kind : String) (payload : Payload)
    (workspace : Workspace) (id : Uuid) (now : ℤ) :
    Except StorageError (EventTable × JobTable) := do
  let events ← okOr (events.insertNew (workspaceEvent kind payload workspace id now))
    (.database "UNIQUE constraint failed: events.id")
  let jobs ← enqueueDeliveries backend subscriptions draw jobs workspace.organizationId workspace.id
    id kind now
  pure (events, jobs)

/-- What a transaction appends: only the events of workspaces have deliveries. -/
def EventWrite.insert (backend : Backend) (subscriptions : WebhookTable) (draw : Uuid → Uuid)
    (events : EventTable) (jobs : JobTable) (id : Uuid) (now : ℤ) :
    EventWrite → Except StorageError (EventTable × JobTable)
  | append event => do
    let record ← event.record id now
    let events ← okOr (events.insertNew record) (.database "UNIQUE constraint failed: events.id")
    pure (events, jobs)
  | stateChanged workspace action =>
    insertWorkspaceEvent backend subscriptions draw events jobs "workspace.state_changed"
      (stateChangedPayload workspace action) workspace id now
  | imageUpdated workspace =>
    insertWorkspaceEvent backend subscriptions draw events jobs "workspace.image_updated"
      (imageUpdatedPayload workspace) workspace id now
  | placementUpdated workspace =>
    insertWorkspaceEvent backend subscriptions draw events jobs "workspace.placement_updated"
      (placementUpdatedPayload workspace) workspace id now

section Deliveries

variable {backend : Backend} {subscriptions : WebhookTable} {draw : Uuid → Uuid}
  {events : EventTable} {jobs : JobTable} {organizationId workspaceId eventId : Uuid}
  {kind : String} {now : ℤ} {row : WebhookSubscription} {rows : List WebhookSubscription}

end Deliveries

end WorkspaceControl
