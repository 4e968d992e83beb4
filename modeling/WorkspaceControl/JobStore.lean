/-
**The job queue.**

The table of `src/src/storage/job_store.rs` and its statements.  Seven of them are guarded by the
lease: they write the row of a job only while it is running under the caller's name.  That guard
is `heldBy`, and `updateHeld` is the one shape the seven share.

Main definitions:

* `JobRow`, `JobTable` — the rows, unique by id;
* `enqueueJob`, `claimJob`, `renewJobLease`, `completeJob`, `failJob`, `deferJob`,
  `deferJobWithoutAttempt`, `parkWorkspaceJob`, `wakeParkedWorkspaceJobs` — the statements;
* `getParkedWorkspaceJob` — the descriptor of a parked job, as a later wake presents it;
* `JobTransition` — the eight ways in which a statement can write a row.

Main results:

* `updateHeld_eq_ok`, `claimJob_eq_ok`, `enqueueJob_eq_ok`, `parkWorkspaceJob_eq_ok`,
  `wakeParkedWorkspaceJobs_eq` — what a statement that succeeds does.
-/
import WorkspaceControl.Fallible
import WorkspaceControl.Table
import WorkspaceControl.Payload

set_option autoImplicit false

namespace WorkspaceControl

open MachineInt Fallible Relational

/-! ### Rows -/

inductive JobStatus
  | pending
  | running
  | completed
  | failed
deriving DecidableEq

/-- The kinds of jobs the control plane runs; a kind it does not know is refused by its handler. -/
inductive JobKind
  | reconcileWorkspace
  | workspaceStorageShrink
  | deliverWebhook
  | other (name : String)
deriving DecidableEq

/-- A row of the table `jobs`. -/
structure JobRow where
  id : Uuid
  kind : JobKind
  workspaceId : Option Uuid
  payload : Payload
  status : JobStatus
  availableAt : ℤ
  leaseOwner : Option String
  leaseExpiresAt : Option ℤ
  attempts : ℤ
  createdAt : ℤ
  updatedAt : ℤ

abbrev JobTable : Type := Table JobRow.id

structure NewJob where
  kind : JobKind
  workspaceId : Option Uuid
  payload : Payload
  availableAt : ℤ

/-- What a worker is given of a job it has claimed. -/
structure ClaimedJob where
  id : Uuid
  kind : JobKind
  workspaceId : Option Uuid
  payload : Payload
  attempts : ℤ
  leaseExpiresAt : ℤ

/-! ### Transitions of a row -/

/-- The ways in which a statement writes the row of an existing job. -/
inductive JobTransition
  | claim (owner : String) (expiresAt now : ℤ)
  | renew (owner : String) (expiresAt now : ℤ)
  | complete (owner : String) (now : ℤ)
  | fail (owner : String) (now : ℤ)
  | defer (owner : String) (availableAt now : ℤ)
  | deferWithoutAttempt (owner : String) (availableAt now : ℤ)
  | park (owner : String) (payload : Payload) («until» now : ℤ) (nonce : Uuid)
  | wake (now : ℤ)

/-- `CASE WHEN attempts > 0 THEN attempts - 1 ELSE 0 END`. -/
def returnAttempt (attempts : ℤ) : ℤ := if attempts > 0 then attempts - 1 else 0

/-- The payload that a park stores. -/
def parkedPayload (payload : Payload) («until» : ℤ) (nonce : Uuid) : Payload :=
  payload.insert "runtime_wait" (runtimeWait nonce «until»)

/-- The status of a row changes and its lease is cleared. -/
def JobRow.release (row : JobRow) (status : JobStatus) (now : ℤ) : JobRow :=
  { row with status, leaseOwner := none, leaseExpiresAt := none, updatedAt := now }

/-- The columns a transition writes. -/
def JobTransition.apply : JobTransition → JobRow → JobRow
  | claim owner expiresAt now, row =>
    { row with
      status := .running
      leaseOwner := some owner
      leaseExpiresAt := some expiresAt
      attempts := row.attempts + 1
      updatedAt := now }
  | renew _ expiresAt now, row => { row with leaseExpiresAt := some expiresAt, updatedAt := now }
  | complete _ now, row => row.release .completed now
  | fail _ now, row => row.release .failed now
  | defer _ availableAt now, row =>
    { row.release .pending now with
      availableAt
      payload := row.payload.remove "runtime_wait" }
  | deferWithoutAttempt _ availableAt now, row =>
    { row.release .pending now with
      availableAt
      attempts := returnAttempt row.attempts
      payload := row.payload.remove "runtime_wait" }
  | park _ payload t now nonce, row =>
    { row.release .pending now with
      availableAt := t
      attempts := returnAttempt row.attempts
      payload := parkedPayload payload t nonce }
  | wake now, row => { row with availableAt := now, updatedAt := now }

@[simp] theorem JobTransition.id_apply (t : JobTransition) (row : JobRow) :
    (t.apply row).id = row.id := by cases t <;> rfl

@[simp] theorem JobTransition.kind_apply (t : JobTransition) (row : JobRow) :
    (t.apply row).kind = row.kind := by cases t <;> rfl

@[simp] theorem JobTransition.workspaceId_apply (t : JobTransition) (row : JobRow) :
    (t.apply row).workspaceId = row.workspaceId := by cases t <;> rfl

/-- The job is running under this owner's lease. -/
def JobRow.heldBy (owner : String) (row : JobRow) : Bool :=
  row.status = .running && row.leaseOwner = some owner

/-- A pending job that is due, or a running one whose lease has run out. -/
def JobRow.claimable (now : ℤ) (row : JobRow) : Bool :=
  (row.status = .pending && row.availableAt ≤ now) ||
    (row.status = .running && row.leaseExpiresAt.any (· < now))

/-- The rows in which a transition is enabled. -/
def JobTransition.enabled : JobTransition → JobRow → Bool
  | claim _ _ now, row => row.claimable now
  | renew owner _ _, row => row.heldBy owner
  | complete owner _, row => row.heldBy owner
  | fail owner _, row => row.heldBy owner
  | defer owner _ _, row => row.heldBy owner
  | deferWithoutAttempt owner _ _, row => row.heldBy owner
  | park owner payload _ _ _, row => payload.isObject && row.heldBy owner
  | wake now, row => row.kind = .reconcileWorkspace && row.status = .pending && now < row.availableAt

variable {id jobId : Uuid} {jobs jobs' : JobTable} {now : ℤ} {owner : String} {row : JobRow}
  {t : JobTransition} {workspaces : Uuid → Option (ℤ × WorkspaceState)}

theorem JobRow.heldBy_iff :
    row.heldBy owner = true ↔ row.status = .running ∧ row.leaseOwner = some owner := by
  simp [heldBy]

theorem JobRow.claimable_iff :
    row.claimable now = true ↔ (row.status = .pending ∧ row.availableAt ≤ now) ∨
      (row.status = .running ∧ ∃ e, row.leaseExpiresAt = some e ∧ e < now) := by
  simp [claimable, Option.any_eq_true]

/-! ### Statements -/

/-- `INSERT INTO jobs`: a pending job that was never claimed. -/
def newJobRow (id : Uuid) (newJob : NewJob) (now : ℤ) : JobRow where
  id := id
  kind := newJob.kind
  workspaceId := newJob.workspaceId
  payload := newJob.payload
  status := .pending
  availableAt := newJob.availableAt
  leaseOwner := none
  leaseExpiresAt := none
  attempts := 0
  createdAt := now
  updatedAt := now

/-- The identifier is drawn by the caller; a repeated one violates the primary key. -/
def enqueueJob (jobs : JobTable) (id : Uuid) (newJob : NewJob) (now : ℤ) :
    Except StorageError JobTable :=
  okOr (jobs.insertNew (newJobRow id newJob now)) (.database "UNIQUE constraint failed: jobs.id")

/-- The end of a lease taken now: both the duration and the sum must be an `i64`. -/
def leaseExpiry (now : ℤ) (leaseSeconds : ℕ) : Except StorageError ℤ := do
  let seconds ← okOr (U64.toI64 leaseSeconds) .leaseDurationOverflow
  okOr (I64.checkedAdd now seconds) .leaseDurationOverflow

def JobRow.toClaimed (row : JobRow) (leaseExpiresAt : ℤ) : ClaimedJob where
  id := row.id
  kind := row.kind
  workspaceId := row.workspaceId
  payload := row.payload
  attempts := row.attempts
  leaseExpiresAt := leaseExpiresAt

/-- The row a claim selects: the first claimable one which no concurrent statement has locked
(`FOR UPDATE SKIP LOCKED`; nothing is ever locked with SQLite). -/
def claimCandidate (jobs : JobTable) (locked : Uuid → Bool) (now : ℤ) : Option JobRow :=
  jobs.first (fun row => row.claimable now && !locked row.id)
    fun row => toLex (row.availableAt, row.id)

def claimJob (jobs : JobTable) (locked : Uuid → Bool) (leaseOwner : String) (now : ℤ)
    (leaseSeconds : ℕ) : Except StorageError (Option ClaimedJob × JobTable) := do
  ensure (leaseOwner ≠ "") .emptyLeaseOwner
  let expiresAt ← leaseExpiry now leaseSeconds
  match claimCandidate jobs locked now with
  | none => pure (none, jobs)
  | some row =>
    let t := JobTransition.claim leaseOwner expiresAt now
    pure (some ((t.apply row).toClaimed expiresAt),
      jobs.update (fun r => r.id = row.id) t.apply t.id_apply)

/-- `UPDATE jobs SET ... WHERE id = .. AND status = 'running' AND lease_owner = ..`. -/
def updateHeld (jobs : JobTable) (jobId : Uuid) (leaseOwner : String) (t : JobTransition) :
    Except StorageError JobTable := do
  ensure (jobs.rows.any fun row => row.id = jobId && row.heldBy leaseOwner) (.leaseNotOwned jobId)
  pure (jobs.update (fun row => row.id = jobId && row.heldBy leaseOwner) t.apply t.id_apply)

def completeJob (jobs : JobTable) (jobId : Uuid) (leaseOwner : String) (now : ℤ) :
    Except StorageError JobTable :=
  updateHeld jobs jobId leaseOwner (.complete leaseOwner now)

def failJob (jobs : JobTable) (jobId : Uuid) (leaseOwner : String) (now : ℤ) :
    Except StorageError JobTable :=
  updateHeld jobs jobId leaseOwner (.fail leaseOwner now)

/-- The new expiry is computed before the statement, so its overflow is reported first. -/
def renewJobLease (jobs : JobTable) (jobId : Uuid) (leaseOwner : String) (now : ℤ)
    (leaseSeconds : ℕ) : Except StorageError JobTable := do
  let expiresAt ← leaseExpiry now leaseSeconds
  updateHeld jobs jobId leaseOwner (.renew leaseOwner expiresAt now)

def deferJob (jobs : JobTable) (jobId : Uuid) (leaseOwner : String) (availableAt now : ℤ) :
    Except StorageError JobTable :=
  updateHeld jobs jobId leaseOwner (.defer leaseOwner availableAt now)

def deferJobWithoutAttempt (jobs : JobTable) (jobId : Uuid) (leaseOwner : String)
    (availableAt now : ℤ) : Except StorageError JobTable :=
  updateHeld jobs jobId leaseOwner (.deferWithoutAttempt leaseOwner availableAt now)

/-- A park stores the payload under a new nonce and releases the lease; a payload that is not an
object is refused before the statement. -/
def parkWorkspaceJob (jobs : JobTable) (jobId : Uuid) (leaseOwner : String) (payload : Payload)
    («until» now : ℤ) (nonce : Uuid) : Except StorageError (Payload × JobTable) := do
  ensure payload.isObject .json
  let jobs ← updateHeld jobs jobId leaseOwner (.park leaseOwner payload «until» now nonce)
  pure (parkedPayload payload «until» nonce, jobs)

/-! ### Parked jobs -/

/-- The descriptor of a parked job. -/
structure ParkedWorkspaceJob where
  id : Uuid
  workspaceId : Uuid
  payload : Payload
  «until» : ℤ
  generation : ℕ
  reconciledAt : ℤ
  desiredReplicas : ℤ
deriving DecidableEq

/-- The number of Pods that a workspace waits for. -/
def desiredReplicas : WorkspaceState → Option ℤ
  | .provisioning | .starting | .restarting => some 1
  | .stopping => some 0
  | _ => none

/-- `decode_parked_job_fields`: the descriptor of a row, with the generation and the state of its
workspace. -/
def decodeParkedJobFields (id workspaceId : Uuid) (payload : Payload) («until» : ℤ)
    (workspaceGeneration : ℤ) (state : WorkspaceState) : Option ParkedWorkspaceJob := do
  let generation ← (payload.get "reconciled_generation").bind JsonValue.asU64
  let reconciledAt ← (payload.get "reconciled_at").bind JsonValue.asI64
  let wait ← (payload.get "runtime_wait").bind JsonValue.asObject
  if I64.toU64 workspaceGeneration ≠ some generation then none
  else if (wait.lookup "until").bind JsonScalar.asI64 ≠ some «until» then none
  else if ((wait.lookup "nonce").bind JsonScalar.asStr).bind Uuid.parse = none then none
  else
    let replicas ← desiredReplicas state
    pure ⟨id, workspaceId, payload, «until», generation, reconciledAt, replicas⟩

/-- The rows of jobs parked in the future, joined with their workspaces. -/
def parkedJoin (workspaces : Uuid → Option (ℤ × WorkspaceState)) (now : ℤ) (row : JobRow) :
    Option (Uuid × ℤ × WorkspaceState) := do
  let workspaceId ← row.workspaceId
  let (generation, state) ← workspaces workspaceId
  if row.kind = .reconcileWorkspace ∧ row.status = .pending ∧ now < row.availableAt ∧
      state ∈ [.provisioning, .starting, .restarting, .stopping] ∧
      (row.payload.get "runtime_wait").isSome ∧
      (row.payload.get "reconciled_generation").bind JsonValue.asI64 = some generation then
    some (workspaceId, generation, state)
  else none

/-- The descriptor of a row, when the row is selected and its marker is well formed. -/
def decodeParkedJob (workspaces : Uuid → Option (ℤ × WorkspaceState)) (now : ℤ) (row : JobRow) :
    Option ParkedWorkspaceJob :=
  (parkedJoin workspaces now row).bind fun (workspaceId, generation, state) =>
    decodeParkedJobFields row.id workspaceId row.payload row.availableAt generation state

def getParkedWorkspaceJob (jobs : JobTable) (workspaces : Uuid → Option (ℤ × WorkspaceState))
    (jobId : Uuid) (now : ℤ) : Option ParkedWorkspaceJob :=
  (jobs.find jobId).bind (decodeParkedJob workspaces now)

/-- A row that a descriptor still describes, and whose park is still in the future. -/
def ParkedWorkspaceJob.matches (parked : ParkedWorkspaceJob) (now : ℤ) (row : JobRow) : Bool :=
  row.id = parked.id && row.kind = .reconcileWorkspace && row.status = .pending &&
    now < row.availableAt && row.payload = parked.payload && row.availableAt = parked.until

/-- One statement for the whole batch; it returns the identifiers of the rows it wrote. -/
def wakeParkedWorkspaceJobs (jobs : JobTable) (parked : List ParkedWorkspaceJob) (now : ℤ) :
    List Uuid × JobTable :=
  let matched := fun row => parked.any fun job => job.matches now row
  ((jobs.rows.filter matched).map JobRow.id,
    jobs.update matched (JobTransition.wake now).apply (JobTransition.wake now).id_apply)

def wakeParkedWorkspaceJob (jobs : JobTable) (parked : ParkedWorkspaceJob) (now : ℤ) :
    Bool × JobTable :=
  let (woken, jobs) := wakeParkedWorkspaceJobs jobs [parked] now
  (woken.contains parked.id, jobs)

/-! ### What the statements do -/

/-- A transition of one job. -/
def writeJob (jobs : JobTable) (id : Uuid) (t : JobTransition) : JobTable :=
  jobs.update (fun row => row.id = id) t.apply t.id_apply

variable {parked : ParkedWorkspaceJob}

theorem mem_writeJob (h : row ∈ (writeJob jobs id t).rows) :
    (row ∈ jobs.rows ∧ row.id ≠ id) ∨ ∃ old ∈ jobs.rows, old.id = id ∧ row = t.apply old := by
  rcases Table.mem_update_cases h with ⟨hrow, hid⟩ | ⟨old, hold, hid, rfl⟩
  · exact .inl ⟨hrow, by simpa using hid⟩
  · exact .inr ⟨old, hold, by simpa using hid, rfl⟩

theorem updateHeld_eq_ok : updateHeld jobs jobId owner t = .ok jobs' ↔
      (∃ row ∈ jobs.rows, row.id = jobId ∧ row.heldBy owner = true) ∧
        jobs' = writeJob jobs jobId t := by
  simp only [updateHeld, ensure_bind_eq_ok, pure_eq_ok, List.any_eq_true, Bool.and_eq_true,
    decide_eq_true_eq]
  refine and_congr_right fun ⟨row, hrow, hid, hheld⟩ => ?_
  have hcongr : jobs.update (fun row => decide (row.id = jobId) && row.heldBy owner) t.apply
      t.id_apply = writeJob jobs jobId t := by
    refine Table.update_congr fun r hr => ?_
    -- the key decides: the only row with this id is held
    by_cases hr' : r.id = jobId
    · obtain rfl := jobs.eq_of_key hr hrow (hr'.trans hid.symm)
      simp [hheld]
    · simp [hr']
  rw [hcongr]
  exact eq_comm

theorem updateHeld_error (h : ∀ row ∈ jobs.rows, row.id = jobId → row.heldBy owner = false) :
    updateHeld jobs jobId owner t = .error (.leaseNotOwned jobId) := by
  have hany : (jobs.rows.any fun row => decide (row.id = jobId) && row.heldBy owner) = false := by
    rw [List.any_eq_false]
    intro row hrow
    by_cases hid : row.id = jobId
    · simp [hid, h row hrow hid]
    · simp [hid]
  simp [updateHeld, ensure, hany, bind, Except.bind]

theorem enqueueJob_eq_ok {newJob : NewJob} (h : enqueueJob jobs id newJob now = .ok jobs') :
    (∀ row ∈ jobs.rows, row.id ≠ id) ∧ jobs'.rows = jobs.rows ++ [newJobRow id newJob now] := by
  unfold enqueueJob at h
  exact Table.rows_of_insertNew (okOr_eq_ok.1 h)

/-- A claim that finds nothing leaves the table alone; one that finds a job has selected a
claimable row. -/
theorem claimJob_eq_ok {locked : Uuid → Bool} {seconds : ℕ} {claimed : Option ClaimedJob}
    (h : claimJob jobs locked owner now seconds = .ok (claimed, jobs')) :
    (claimed = none ∧ jobs' = jobs) ∨
      ∃ row ∈ jobs.rows, ∃ expiresAt, row.claimable now = true ∧
        leaseExpiry now seconds = .ok expiresAt ∧
        claimed = some (((JobTransition.claim owner expiresAt now).apply row).toClaimed
          expiresAt) ∧
        jobs' = writeJob jobs row.id (.claim owner expiresAt now) := by
  simp only [claimJob, ensure_bind_eq_ok] at h
  simp only [bind_eq_ok] at h
  obtain ⟨-, expiresAt, hexpiry, h⟩ := h
  cases hrow : claimCandidate jobs locked now with
  | none =>
    rw [hrow] at h
    simp only [pure_eq_ok, Prod.mk.injEq] at h
    exact .inl ⟨h.1.symm, h.2.symm⟩
  | some row =>
    rw [hrow] at h
    simp only [pure_eq_ok, Prod.mk.injEq] at h
    obtain ⟨hmem, hselected⟩ := Table.mem_first hrow
    simp only [Bool.and_eq_true] at hselected
    exact .inr ⟨row, hmem, expiresAt, hselected.1, hexpiry, h.1.symm, h.2.symm⟩

theorem parkWorkspaceJob_eq_ok {payload stored : Payload} {t now : ℤ} {nonce : Uuid} :
    parkWorkspaceJob jobs jobId owner payload t now nonce = .ok (stored, jobs') ↔
      payload.isObject = true ∧ stored = parkedPayload payload t nonce ∧
        updateHeld jobs jobId owner (.park owner payload t now nonce) = .ok jobs' := by
  simp only [parkWorkspaceJob, ensure_bind_eq_ok]
  simp only [bind_eq_ok, pure_eq_ok, Prod.mk.injEq]
  constructor
  · rintro ⟨hobject, jobs₁, hheld, rfl, rfl⟩
    exact ⟨hobject, rfl, hheld⟩
  · rintro ⟨hobject, rfl, hheld⟩
    exact ⟨hobject, jobs', hheld, rfl, rfl⟩

theorem wakeParkedWorkspaceJobs_eq (jobs : JobTable) (parked : List ParkedWorkspaceJob)
    (now : ℤ) : (wakeParkedWorkspaceJobs jobs parked now).2 =
      (wakeParkedWorkspaceJobs jobs parked now).1.foldl
        (fun jobs id => writeJob jobs id (.wake now)) jobs :=
  Table.update_eq_writeAll jobs

/-- What a descriptor says of the row it was read from. -/
theorem decodeParkedJob_eq_some (h : decodeParkedJob workspaces now row = some parked) :
    parked.id = row.id ∧ parked.payload = row.payload ∧ parked.until = row.availableAt ∧
      row.kind = .reconcileWorkspace ∧ row.status = .pending ∧
      ∃ wait, row.payload.get "runtime_wait" = some (.object wait) ∧
        (wait.lookup "until").bind JsonScalar.asI64 = some row.availableAt := by
  simp only [decodeParkedJob, parkedJoin, Option.bind_eq_bind, Option.bind_eq_some_iff] at h
  obtain ⟨⟨w, g, s⟩, ⟨w', -, ⟨g', s'⟩, -, hjoin⟩, hdecode⟩ := h
  simp only [Option.ite_none_right_eq_some] at hjoin
  obtain ⟨⟨hkind, hstatus, -⟩, -⟩ := hjoin
  simp only [decodeParkedJobFields, Option.bind_eq_bind, Option.bind_eq_some_iff,
    ite_not, Option.ite_none_right_eq_some, Option.ite_none_left_eq_some] at hdecode
  obtain ⟨generation, -, reconciledAt, -, wait, ⟨value, hvalue, hwait⟩, -, huntil, -, replicas, -,
    hparked⟩ := hdecode
  obtain rfl := Option.some_inj.1 hparked
  refine ⟨rfl, rfl, rfl, hkind, hstatus, wait, ?_, Option.bind_eq_some_iff.2 huntil⟩
  cases value with
  | scalar value => cases hwait
  | object fields =>
    obtain rfl := Option.some_inj.1 hwait
    exact hvalue

theorem ParkedWorkspaceJob.matches_iff :
    parked.matches now row = true ↔ row.id = parked.id ∧ row.kind = .reconcileWorkspace ∧
      row.status = .pending ∧ now < row.availableAt ∧ row.payload = parked.payload ∧
      row.availableAt = parked.until := by
  simp [ParkedWorkspaceJob.matches, and_assoc]

end WorkspaceControl
