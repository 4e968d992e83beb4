/-
**Calls on the database and on the cluster.**

The processes of the control plane — the API, the job workers and their handlers — touch the world
through calls: a transaction on the database, a request to Kubernetes, a reading of the clock, a
new identifier.  A transaction is executed as a whole or fails and leaves the database alone.
What the cluster, the clock and the generator of identifiers answer is not constrained.

Main definitions:

* `StoreCall`, `StoreCall.transaction`, `StoreCall.Performs` — the transactions as one type, what
  each of them does, and what a process may see of it;
* `StoreCall.Writes` — what a transaction that commits has done;
* `StoreRun` — the transactions of any number of processes, one after the other.

Main results:

* `StoreCall.Performs.eq_of_error` — a call that fails leaves the database alone;
* `StoreCall.Performs.writes` — **every transaction does what `Writes` says**.
-/

import WorkspaceControl.Interaction
import WorkspaceControl.JobHistory
import WorkspaceControl.Actions
import WorkspaceControl.ShrinkStore
import WorkspaceControl.Cluster

set_option autoImplicit false

namespace WorkspaceControl

open Fallible MachineInt Relational Interaction Routine

/-! ### Workspace leases -/

abbrev LeaseTable : Type := Table LeaseRow.workspaceId

/-- `INSERT .. ON CONFLICT .. DO UPDATE .. WHERE` the lease has expired or is the caller's. -/
def tryAcquireWorkspaceLease (leases : LeaseTable) (workspaceId : Uuid) (leaseOwner : String)
    (now : ℤ) (seconds : ℕ) : Except StorageError (Bool × LeaseTable) := do
  ensure (leaseOwner ≠ "") .emptyLeaseOwner
  let expiresAt ← leaseExpiry now seconds
  let lease : LeaseRow := ⟨workspaceId, leaseOwner, expiresAt⟩
  match leases.insertNew lease with
  | some leases => pure (true, leases)
  | none =>
    let free : LeaseRow → Bool := fun row =>
      row.workspaceId = workspaceId && (row.expiresAt < now || row.owner = leaseOwner)
    pure (leases.rows.any free, leases.update free
      (fun row => { row with owner := leaseOwner, expiresAt }) fun _ => rfl)

def releaseWorkspaceLease (leases : LeaseTable) (workspaceId : Uuid) (leaseOwner : String) :
    LeaseTable :=
  leases.delete fun row => row.workspaceId = workspaceId && row.owner = leaseOwner

/-! ### Transactions -/

/-- `list_storage_shrinks`: the operations of a workspace, oldest first. -/
def Database.listStorageShrinks (db : Database) (workspaceId : Uuid) :
    List StorageShrinkOperation :=
  ((db.shrinks.rows.filter fun row => row.workspaceId = workspaceId).mergeSort fun a b =>
    toLex (a.createdAt, a.id) ≤ toLex (b.createdAt, b.id)).map ShrinkRow.operation

/-- The transactions; identifiers are drawn by the caller. -/
inductive StoreCall
  | job (call : JobCall)
  | acquireLease (workspaceId : Uuid) (owner : String) (now : ℤ) (seconds : ℕ)
  | releaseLease (workspaceId : Uuid) (owner : String)
  | create (id jobId : Uuid) (command : CreateWorkspace) (options : WorkspaceCreationOptions)
  | act (jobId workspaceId : Uuid) (action : WorkspaceAction) (now : ℤ)
  | observe (workspaceId : Uuid) (expectedGeneration : ℕ) (observation : WorkspaceObservation)
      (now : ℤ)
  | markFailed (workspaceId : Uuid) (expectedGeneration : ℕ) (now : ℤ)
  | update (jobId workspaceId : Uuid) (expectedGeneration : ℕ) (now : ℤ)
      (setting : SettingUpdate)
  | enqueueShrink (operationId jobId workspaceId : Uuid) (request : StorageShrinkRequest)
      (actorUserId : Uuid) (now : ℤ)
  | confirmShrink (jobId workspaceId operationId : Uuid) (now : ℤ)
  | retryShrink (jobId workspaceId operationId : Uuid) (now : ℤ)
  | saveShrink (operation : StorageShrinkOperation) (update : ShrinkWorkspaceUpdate)
  | saveShrinkCleanup (operation : StorageShrinkOperation)
  | getWorkspace (id : Uuid)
  | latestShrink (workspaceId : Uuid)
  | shrinkActive (workspaceId : Uuid)
  | listShrinks (workspaceId : Uuid)

variable {db db' : Database} {call : StoreCall}

namespace StoreCall

/-- What a call returns when it succeeds. -/
abbrev Value : StoreCall → Type
  | job call => call.Value
  | acquireLease .. => Bool
  | releaseLease .. => Unit
  | create .. => Workspace
  | act .. => Workspace
  | observe .. => Option Workspace
  | markFailed .. => Bool
  | update .. => Workspace
  | enqueueShrink .. => StorageShrinkOperation
  | confirmShrink .. => StorageShrinkOperation
  | retryShrink .. => StorageShrinkOperation
  | saveShrink .. => Unit
  | saveShrinkCleanup .. => Unit
  | getWorkspace .. => Workspace
  | latestShrink .. => Option StorageShrinkOperation
  | shrinkActive .. => Bool
  | listShrinks .. => List StorageShrinkOperation

/-- What a call returns. -/
abbrev Response (call : StoreCall) : Type := Except StorageError call.Value

/-- The transactions behind the calls; `locked` is what the claim of a job has to skip. -/
def transaction (db : Database) (locked : Uuid → Bool) :
    (call : StoreCall) → call.Response × Database
  | job call => ((call.statement db.jobs locked).1,
      { db with jobs := (call.statement db.jobs locked).2 })
  | acquireLease workspaceId owner now seconds =>
    settle ((tryAcquireWorkspaceLease db.leases workspaceId owner now seconds).map
      fun (acquired, leases) => (acquired, { db with leases })) db
  | releaseLease workspaceId owner =>
    (.ok (), { db with leases := releaseWorkspaceLease db.leases workspaceId owner })
  | create id jobId command options => settle (createWorkspace db id jobId command options) db
  | act jobId workspaceId action now =>
    settle (requestWorkspaceAction db jobId workspaceId action now) db
  | observe workspaceId expectedGeneration observation now =>
    settle (recordWorkspaceObservation db workspaceId expectedGeneration observation now) db
  | markFailed workspaceId expectedGeneration now =>
    settle (markWorkspaceFailedIfGeneration db workspaceId expectedGeneration now) db
  | update jobId workspaceId expectedGeneration now setting =>
    settle (setting.perform db jobId workspaceId expectedGeneration now) db
  | enqueueShrink operationId jobId workspaceId request actorUserId now =>
    settle (enqueueStorageShrink db operationId jobId workspaceId request actorUserId now) db
  | confirmShrink jobId workspaceId operationId now =>
    settle (confirmStorageShrink db jobId workspaceId operationId now) db
  | retryShrink jobId workspaceId operationId now =>
    settle (retryStorageShrinkResume db jobId workspaceId operationId now) db
  | saveShrink operation change => settleUnit (saveStorageShrink db operation change) db
  | saveShrinkCleanup operation => settleUnit (saveStorageShrinkCleanupIdentity db operation) db
  | getWorkspace id => (db.getWorkspace id, db)
  | latestShrink workspaceId => (.ok (db.latestStorageShrink workspaceId), db)
  | shrinkActive workspaceId => (.ok (db.storageShrinkActive workspaceId), db)
  | listShrinks workspaceId => (.ok (db.listStorageShrinks workspaceId), db)

/-- The effect of a call: the transaction is executed, or the database is not available. -/
inductive Performs (db : Database) (call : StoreCall) : call.Response → Database → Prop
  | executed (locked : Uuid → Bool) :
      Performs db call (call.transaction db locked).1 (call.transaction db locked).2
  | unavailable (text : String) : Performs db call (.error (.database text)) db

variable {e : StorageError}

theorem transaction_error {locked : Uuid → Bool}
    (h : call.transaction db locked = (.error e, db')) : db' = db := by
  cases call with
  | job call =>
    obtain ⟨hresponse, rfl⟩ := Prod.mk.inj h
    have hjobs : (call.statement db.jobs locked).2 = db.jobs :=
      call.statement_error (Prod.ext hresponse rfl)
    rw [hjobs]
  | releaseLease | latestShrink | shrinkActive | listShrinks => cases (Prod.mk.inj h).1
  | getWorkspace id => exact (Prod.mk.inj h).2.symm
  | saveShrink | saveShrinkCleanup => exact (settleUnit_eq_error.1 h).2
  | _ => exact (settle_eq_error.1 h).2

/-- **A call that fails leaves the database alone.** -/
theorem Performs.eq_of_error (h : call.Performs db (.error e) db') : db' = db := by
  generalize hresponse : (Except.error e : call.Response) = response at h
  cases h with
  | executed locked => exact transaction_error (Prod.ext hresponse.symm rfl)
  | unavailable text => rfl

theorem Performs.transaction_of_ok {value : call.Value} (h : call.Performs db (.ok value) db') :
    ∃ locked, call.transaction db locked = (.ok value, db') := by
  generalize hresponse : (Except.ok value : call.Response) = response at h
  cases h with
  | executed locked => exact ⟨locked, rfl⟩
  | unavailable text => cases hresponse

theorem Performs.statement_of_ok {call : JobCall} {value : call.Value}
    (h : (StoreCall.job call).Performs db (.ok value) db') : ∃ locked,
      call.statement db.jobs locked = (.ok value, db'.jobs) ∧ { db with jobs := db'.jobs } = db' := by
  obtain ⟨locked, htransaction⟩ := h.transaction_of_ok
  obtain ⟨hresponse, rfl⟩ := Prod.mk.inj htransaction
  exact ⟨locked, Prod.ext hresponse rfl, rfl⟩

/-! ### What a transaction writes -/

/-- **What a transaction has done**: nothing, or the change it is made for. -/
inductive Writes (db : Database) : StoreCall → Database → Prop
  | nothing (call : StoreCall) : Writes db call db
  | acquired {workspaceId owner now seconds} (leases : LeaseTable) :
      Writes db (acquireLease workspaceId owner now seconds) { db with leases }
  | released {workspaceId owner} (leases : LeaseTable) :
      Writes db (releaseLease workspaceId owner) { db with leases }
  | queued {call response jobs}
      (h : call.Performs db.jobs response jobs) : Writes db (job call) { db with jobs }
  | created {id jobId command options row document workspace db'}
      (h : Created db id row document workspace db') :
      Writes db (create id jobId command options) db'
  | acted {jobId workspaceId action now row document workspace next generation db'}
      (h : Transitioned db workspaceId (.action action) now row document workspace next generation
        db') : Writes db (act jobId workspaceId action now) db'
  | observed {workspaceId observation now row document workspace next generation db'}
      (h : Transitioned db workspaceId (.observation observation) now row document workspace next
        generation db') :
      Writes db (observe workspaceId workspace.generation observation now) db'
  | failed {workspaceId now row document workspace next generation db'}
      (h : Transitioned db workspaceId (.observation .failed) now row document workspace next
        generation db') : Writes db (markFailed workspaceId workspace.generation now) db'
  | updated {jobId workspaceId now setting edit row document workspace db'}
      (hprepares : setting.Prepares workspace edit)
      (h : Committed db workspaceId edit now row document workspace db') :
      Writes db (update jobId workspaceId workspace.generation now setting) db'
  | started {operationId jobId workspaceId request actorUserId now row document workspace db'}
      (h : Started db operationId jobId workspaceId request actorUserId now row document workspace
        db') : Writes db (enqueueShrink operationId jobId workspaceId request actorUserId now) db'
  | confirmed {jobId workspaceId now row document workspace previous db'}
      (h : Activated db jobId workspaceId previous.id (previous.reclaim now) now row document
        workspace db')
      (hlatest : db.latestStorageShrink workspaceId = some previous)
      (hconfirmable : previous.confirmable workspace = true) :
      Writes db (confirmShrink jobId workspaceId previous.id now) db'
  | retried {jobId workspaceId operationId now row document workspace latest db'}
      (h : Activated db jobId workspaceId operationId (latest.operation.retry now) now row document
        workspace db')
      (hlatest : db.latestShrink workspaceId = some latest)
      (hretryable : Retryable operationId latest workspace) :
      Writes db (retryShrink jobId workspaceId operationId now) db'
  | saved {operation change row document workspace saved db'}
      (h : Saved db operation change row document workspace saved db') :
      Writes db (saveShrink operation change) db'
  | cleaned {operation saved home temporary db'}
      (h : Cleaned db operation saved home temporary db') :
      Writes db (saveShrinkCleanup operation) db'

/-- **Every transaction does what `Writes` says.** -/
theorem Performs.writes {response : call.Response} (h : call.Performs db response db') :
    call.Writes db db' := by
  cases response with
  | error e =>
    rw [h.eq_of_error]
    exact .nothing _
  | ok value =>
    obtain ⟨locked, h⟩ := h.transaction_of_ok
    cases call with
    | job call =>
      obtain ⟨-, rfl⟩ := Prod.mk.inj h
      exact .queued (.executed locked)
    | acquireLease workspaceId owner now seconds =>
      obtain ⟨_, -, hmap⟩ := map_eq_ok.1 (settle_eq_ok.1 h)
      obtain ⟨-, rfl⟩ := Prod.mk.inj hmap
      exact .acquired _
    | releaseLease workspaceId owner =>
      obtain ⟨-, rfl⟩ := Prod.mk.inj h
      exact .released _
    | create id jobId command options =>
      obtain ⟨row, document, hcreated⟩ := createWorkspace_eq_ok (settle_eq_ok.1 h)
      exact .created hcreated
    | act jobId workspaceId action now =>
      obtain ⟨_, _, _, hacted⟩ := requestWorkspaceAction_eq_ok (settle_eq_ok.1 h)
      exact .acted hacted
    | observe workspaceId expectedGeneration observation now =>
      rcases recordWorkspaceObservation_eq_ok (settle_eq_ok.1 h) with
        ⟨-, rfl⟩ | ⟨_, _, _, _, -, rfl, hobserved⟩
      · exact .nothing _
      · exact .observed hobserved
    | markFailed workspaceId expectedGeneration now =>
      rcases markWorkspaceFailedIfGeneration_eq_ok (settle_eq_ok.1 h) with
        ⟨-, rfl⟩ | ⟨_, _, _, _, _, -, rfl, hfailed⟩
      · exact .nothing _
      · exact .failed hfailed
    | update jobId workspaceId expectedGeneration now setting =>
      obtain ⟨_, _, _, _, hprepares, hcommitted, rfl⟩ :=
        SettingUpdate.perform_eq_ok (settle_eq_ok.1 h)
      exact .updated hprepares hcommitted
    | enqueueShrink operationId jobId workspaceId request actorUserId now =>
      rcases enqueueStorageShrink_eq_ok (settle_eq_ok.1 h) with rfl | ⟨_, _, _, hstarted⟩
      · exact .nothing _
      · exact .started hstarted
    | confirmShrink jobId workspaceId operationId now =>
      rcases confirmStorageShrink_eq_ok (settle_eq_ok.1 h) with
        rfl | ⟨_, _, _, previous, hactivated, hlatest, rfl, hconfirmable⟩
      · exact .nothing _
      · exact .confirmed hactivated hlatest hconfirmable
    | retryShrink jobId workspaceId operationId now =>
      obtain ⟨_, _, _, _, hactivated, hlatest, hretryable⟩ :=
        retryStorageShrinkResume_eq_ok (settle_eq_ok.1 h)
      exact .retried hactivated hlatest hretryable
    | saveShrink operation change =>
      obtain ⟨_, _, _, _, hsaved⟩ := saveStorageShrink_eq_ok (settleUnit_eq_ok.1 h)
      exact .saved hsaved
    | saveShrinkCleanup operation =>
      obtain ⟨_, _, _, hcleaned⟩ :=
        saveStorageShrinkCleanupIdentity_eq_ok (settleUnit_eq_ok.1 h)
      exact .cleaned hcleaned
    | getWorkspace | latestShrink | shrinkActive | listShrinks =>
      obtain ⟨-, rfl⟩ := Prod.mk.inj h
      exact .nothing _

end StoreCall

/-! ### Runs -/

/-- A call with its answer. -/
structure StoreStep where
  call : StoreCall
  response : call.Response

/-- The transactions of any number of processes, one after the other. -/
inductive StoreRun : Database → List StoreStep → Database → Prop
  | nil (db : Database) : StoreRun db [] db
  | cons {db db₁ db' : Database} {steps : List StoreStep} (step : StoreStep)
      (hstep : step.call.Performs db step.response db₁) (hrest : StoreRun db₁ steps db') :
      StoreRun db (step :: steps) db'

/-- What every transaction of a run keeps holds after the run. -/
theorem StoreRun.invariant {I : Database → Prop}
    (hI : ∀ db call db', I db → StoreCall.Writes db call db' → I db') {steps : List StoreStep}
    (hrun : StoreRun db steps db') (h : I db) : I db' := by
  induction hrun with
  | nil db => exact h
  | cons step hstep hrest ih => exact ih (hI _ _ _ h hstep.writes)

/-! ### All calls -/

inductive Call
  | store (call : StoreCall)
  | cluster (call : ClusterCall)
  | clock
  | newId

/-- The calls of the processes; the clock may be invalid. -/
abbrev signature : Signature where
  Call := Call
  Response
    | .store call => call.Response
    | .cluster call => call.Response
    | .clock => Except String ℤ
    | .newId => Uuid

/-- Only a transaction changes the database; nothing is known of the other answers. -/
inductive Performs (db : Database) : (c : signature.Call) → signature.Response c → Database → Prop
  | store {call : StoreCall} {response : call.Response} {db' : Database}
      (h : call.Performs db response db') : Performs db (.store call) response db'
  | cluster (call : ClusterCall) (response : call.Response) :
      Performs db (.cluster call) response db
  | clock (response : Except String ℤ) : Performs db .clock response db
  | newId (id : Uuid) : Performs db .newId id db

theorem Performs.of_store {response : call.Response} (h : Performs db (.store call) response db') :
    call.Performs db response db' := by
  cases h with
  | store h => exact h

/-! ### Calls of routines -/

variable {P : Call → Prop}

section Routines

variable {ω ε σ : Type}

/-- Make a transaction, or leave with its error. -/
def transact (f : StorageError → ε) (call : StoreCall) : Routine signature ω ε call.Value :=
  fun w => .call (.store call) fun r => .done (r.mapError f, w)

/-- Make a request to the cluster. -/
def request (call : ClusterCall) : Routine signature ω ε call.Response :=
  fun w => .call (.cluster call) fun r => .done (.ok r, w)

/-- Read the clock, or leave with its error. -/
def unixTimestamp (f : String → ε) : Routine signature ω ε ℤ :=
  fun w => .call .clock fun r => .done (r.mapError f, w)

/-- Draw an identifier. -/
def newId : Routine signature ω ε Uuid :=
  fun w => .call .newId fun id => .done (.ok id, w)

variable {sem guar : Semantics signature σ} {rely : σ → σ → Prop} {w : ω} {s : σ}

theorem holds_transact (f : StorageError → ε) (call : StoreCall)
    (post : Except ε call.Value → ω → σ → Prop) :
    (transact f call).Holds sem rely guar post w s ↔
      ∀ s₁, rely s s₁ → ∀ (r : call.Response) s₂, sem s₁ (.store call) r s₂ →
        guar s₁ (.store call) r s₂ ∧ post (r.mapError f) w s₂ := Iff.rfl

theorem holds_request (call : ClusterCall) (post : Except ε call.Response → ω → σ → Prop) :
    (request call).Holds sem rely guar post w s ↔
      ∀ s₁, rely s s₁ → ∀ (r : call.Response) s₂, sem s₁ (.cluster call) r s₂ →
        guar s₁ (.cluster call) r s₂ ∧ post (.ok r) w s₂ := Iff.rfl

theorem holds_unixTimestamp (f : String → ε) (post : Except ε ℤ → ω → σ → Prop) :
    (unixTimestamp f).Holds sem rely guar post w s ↔
      ∀ s₁, rely s s₁ → ∀ (r : Except String ℤ) s₂, sem s₁ .clock r s₂ →
        guar s₁ .clock r s₂ ∧ post (r.mapError f) w s₂ := Iff.rfl

theorem holds_newId (post : Except ε Uuid → ω → σ → Prop) :
    newId.Holds sem rely guar post w s ↔
      ∀ s₁, rely s s₁ → ∀ (id : Uuid) s₂, sem s₁ .newId id s₂ →
        guar s₁ .newId id s₂ ∧ post (.ok id) w s₂ := Iff.rfl

theorem yields_transact {f : StorageError → ε} {Q : Except ε call.Value → Prop}
    (hcall : P (.store call)) (h : ∀ r : call.Response, Q (r.mapError f)) :
    Yields P Q (transact f call : Routine signature ω ε call.Value) :=
  fun _ => ⟨hcall, fun r => h r⟩

theorem yields_request {call : ClusterCall} {Q : Except ε call.Response → Prop}
    (hcall : P (.cluster call)) (h : ∀ r, Q (.ok r)) :
    Yields P Q (request call : Routine signature ω ε call.Response) :=
  fun _ => ⟨hcall, fun _ => h _⟩

theorem yields_unixTimestamp {f : String → ε} {Q : Except ε ℤ → Prop} (hcall : P .clock)
    (h : ∀ r : Except String ℤ, Q (r.mapError f)) :
    Yields P Q (unixTimestamp f : Routine signature ω ε ℤ) :=
  fun _ => ⟨hcall, fun r => h r⟩

section Inquires

variable {α β ε' : Type} {E : ε → Prop} {Q : α → Prop} {Q' : β → Prop} {x : Routine signature ω ε α}

/-- The local variable is as before; the value satisfies `Q`, or the error `E`. -/
def Ends (E : ε → Prop) (Q : α → Prop) (w : ω) : Except ε α × ω → Prop
  | (.ok a, w') => w' = w ∧ Q a
  | (.error e, w') => w' = w ∧ E e

/-- The routine only makes requests to the cluster. -/
def Inquires (E : ε → Prop) (Q : α → Prop) (x : Routine signature ω ε α) : Prop :=
  ∀ w, (x w).Yields (fun c => ∃ call, c = Call.cluster call) (Ends E Q w)

theorem inquires_bind {f : α → Routine signature ω ε β} (hx : Inquires E Q x)
    (hf : ∀ a, Q a → Inquires E Q' (f a)) : Inquires E Q' (x >>= f) := by
  intro w
  refine Program.yields_bind (hx w) ?_
  rintro ⟨_ | a, w'⟩ ⟨rfl, h⟩
  · exact ⟨rfl, h⟩
  · exact hf a h w'

theorem inquires_read_bind {f : ω → Routine signature ω ε β} (h : ∀ w, Inquires E Q' (f w)) :
    Inquires E Q' (read >>= f) := fun w => h w w

theorem inquires_pure {a : α} (h : Q a) : Inquires E Q (pure a : Routine signature ω ε α) :=
  fun _ => ⟨rfl, h⟩

theorem inquires_throw {e : ε} (h : E e) : Inquires E Q (throw e : Routine signature ω ε α) :=
  fun _ => ⟨rfl, h⟩

theorem inquires_attempt {f : ε' → ε} {r : Except ε' α} (hok : ∀ a, r = .ok a → Q a)
    (herr : ∀ e, E (f e)) : Inquires E Q (attempt f r : Routine signature ω ε α) := by
  cases r with
  | ok a => exact fun _ => ⟨rfl, hok a rfl⟩
  | error e => exact fun _ => ⟨rfl, herr e⟩

theorem inquires_attempt_bind {f : ε' → ε} {r : Except ε' α} {g : α → Routine signature ω ε β}
    (h : ∀ a, r = .ok a → Inquires (fun _ => True) Q' (g a)) :
    Inquires (fun _ => True) Q' (attempt f r >>= g) :=
  inquires_bind (inquires_attempt (fun _ => id) fun _ => trivial) h

theorem inquires_request {call : ClusterCall} :
    Inquires E (fun _ => True) (request call : Routine signature ω ε call.Response) :=
  fun _ => ⟨⟨call, rfl⟩, fun _ => ⟨rfl, trivial⟩⟩

theorem inquires_mapError {f : ε → ε'} {E : ε' → Prop} (h : Inquires (fun e => E (f e)) Q x) :
    Inquires E Q (mapError f x) := by
  refine fun w => Program.yields_bind (h w) ?_
  rintro ⟨_ | _, _⟩ h
  · exact h
  · exact h

end Inquires

end Routines

/-! ### A small database

One workspace and nothing else: the state from which the examples of the development start. -/

def sampleWorkspaceId : Uuid := ⟨"00000000-0000-0000-0000-000000000001", by decide⟩
def sampleUserId : Uuid := ⟨"00000000-0000-0000-0000-000000000002", by decide⟩
def sampleOperationId : Uuid := ⟨"00000000-0000-0000-0000-000000000003", by decide⟩
def sampleJobId : Uuid := ⟨"00000000-0000-0000-0000-000000000004", by decide⟩

def sampleRow (state : WorkspaceState) : WorkspaceRow where
  id := sampleWorkspaceId
  shortId := workspaceShortIdFor sampleWorkspaceId
  organizationId := sampleUserId
  ownerId := sampleUserId
  name := "workspace"
  templateId := none
  image := "workspace"
  accessMode := .internal
  state := state.asStr
  cpuMillis := 1000
  memoryMib := 1024
  gpuCount := 0
  diskGib := 10
  temporaryStorageGib := 4
  nodePool := "pool"
  generation := 1
  createdAt := 0
  updatedAt := 0
  templateSnapshotYaml := .document sampleDocument
  homePvcNamespace := none
  homePvcName := none
  homePvcUid := none
  homePvcCapacityGib := none
  scratchVolumeBindingJson := none

def sampleDatabase (state : WorkspaceState) : Database where
  workspaces := ⟨[sampleRow state], by simp⟩
  tombstones := []
  shrinks := .empty _
  jobs := .empty _
  leases := .empty _
  catalog := ⟨.empty _, .empty _, .empty _, .empty _, .empty _, 1⟩

def sampleEnqueue (reclaimSource : Bool) (now : ℤ) : StoreCall :=
  .enqueueShrink sampleOperationId sampleJobId sampleWorkspaceId ⟨some 5, none, 1, reclaimSource⟩
    sampleUserId now

def sampleCatalog : Catalog where
  templates := ⟨[⟨sampleUserId, none, true, .document sampleDocument⟩], by simp⟩
  nodePools := ⟨[⟨"pool", "Pool", ⟨[], [], []⟩, true, 0, 0⟩], List.nodup_singleton _⟩
  imagePolicies := ⟨[⟨"workspace", imageContractVersion, true⟩], List.nodup_singleton _⟩
  organizationQuotas := .empty _
  userQuotas := .empty _
  cpuOvercommitRatio := 1

def sampleInstallation : Database :=
  ⟨.empty _, [], .empty _, .empty _, .empty _, sampleCatalog⟩

def sampleCreate : StoreCall :=
  .create sampleWorkspaceId sampleUserId
    ⟨sampleUserId, sampleUserId, "workspace", sampleUserId, none, none, false⟩
    ⟨none, none, none, true, 0⟩

/-- The database after one transaction. -/
def StoreCall.after (call : StoreCall) (db : Database) : Database :=
  (call.transaction db fun _ => false).2

end WorkspaceControl
