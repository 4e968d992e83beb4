/-
**Runs of the handler, as transitions of the database.**

What a transaction does to the operations, and what a run of the handler (or of the last failure
of its job) does to the database: it may be cut off anywhere, other processes make transactions in
between, and as long as no two runs are at work at once the stored operation is only ever replaced
by one that it `Evolves` to.

Main definitions:

* `OperationWritten` — what a transaction leaves in the table of operations;
* `ShrinkRun`, `ShrinkStep` — one run, cut off anywhere, and the machine of runs, one after the
  other, and of the transactions of other processes;
* `ShrinkMoves` — one transition of the database in a run.

Main results:

* `StoreCall.Writes.operation` — every operation in the table was there before, or is written as
  `OperationWritten` says;
* `moves_of_steps` — **what the machine does is a sequence of transitions**;
* `OperationInvariant.moves` — the invariant rule for operations.
-/

import WorkspaceControl.ShrinkExclusion
import WorkspaceControl.ShrinkProgress

set_option autoImplicit false

namespace WorkspaceControl

open Fallible Interaction Relational

/-! ### What a transaction does to the operations -/

/-- **The operations after a transaction**: those from before, and the one that was written. -/
inductive OperationWritten (db : Database) : StoreCall → ShrinkRow → Prop
  | kept {call row} (h : row ∈ db.shrinks.rows) :
      OperationWritten db call row
  | started {operationId jobId workspaceId request actorUserId now row document workspace db'}
      (h : Started db operationId jobId workspaceId request actorUserId now row document workspace
        db') :
      OperationWritten db (.enqueueShrink operationId jobId workspaceId request actorUserId now)
        (newShrinkRow (startedOperation operationId workspace request actorUserId now) now)
  | confirmed {jobId workspaceId now old} (hold : old ∈ db.shrinks.rows)
      (hworkspace : old.workspaceId = workspaceId)
      (hphase : old.operation.phase = .completed) (hreclaimable : old.operation.reclaimable = true) :
      OperationWritten db (.confirmShrink jobId workspaceId old.id now)
        (old.activate (old.operation.reclaim now) now)
  | retried {jobId workspaceId now old} (hold : old ∈ db.shrinks.rows)
      (hworkspace : old.workspaceId = workspaceId)
      (hphase : old.operation.phase = .failed) (hswitched : old.operation.switched = true)
      (hreclaimable : old.operation.reclaimable = false) :
      OperationWritten db (.retryShrink jobId workspaceId old.id now)
        (old.activate (old.operation.retry now) now)
  | saved {operation change saved} (hmem : saved ∈ db.shrinks.rows) (hid : saved.id = operation.id)
      (hworkspace : saved.workspaceId = operation.workspaceId) (hactive : saved.active = true) :
      OperationWritten db (.saveShrink operation change) (saved.save operation)
  | cleaned {operation saved home temporary db'}
      (h : Cleaned db operation saved home temporary db') :
      OperationWritten db (.saveShrinkCleanup operation)
        { saved with operation := { saved.operation with home, temporary } }

variable {P : StorageShrinkOperation → Prop} {S : Surroundings} {call : StoreCall}
  {db db' : Database} {f : ShrinkRow → ShrinkRow} {old row : ShrinkRow}

variable {hf : ∀ row, (f row).id = row.id}

/-- A transaction that writes the row of one operation. -/
theorem operationWritten_of_write (hold : old ∈ db.shrinks.rows)
    (hshrinks : db'.shrinks = (db.writeShrink old.id f hf).shrinks)
    (hwritten : OperationWritten db call (f old)) (hrow : row ∈ db'.shrinks.rows) :
    OperationWritten db call row := by
  rw [hshrinks] at hrow
  rcases Database.mem_writeShrink hrow with ⟨hrow, -⟩ | ⟨r, hr, hid, rfl⟩
  · exact .kept hrow
  · obtain rfl := db.shrinks.eq_of_key hr hold hid
    exact hwritten

theorem StoreCall.Writes.operation (h : call.Writes db db') (hinvariant : ShrinkInvariant db)
    (hrow : row ∈ db'.shrinks.rows) : OperationWritten db call row := by
  cases h with
  | nothing | acquired | released | queued => exact .kept hrow
  | created h | updated _ h =>
    rw [h.result] at hrow
    exact .kept hrow
  | acted h | observed h | failed h => exact .kept (h.mem_shrinks hrow)
  | started h =>
    rw [h.mem_rows] at hrow
    rcases hrow with hrow | rfl
    · exact .kept hrow
    · exact .started h
  | confirmed h hlatest hconfirmable =>
    obtain ⟨old, hold, rfl, hid, hworkspace⟩ := hinvariant.latest hlatest
    obtain ⟨hphase, hreclaimable, -⟩ := StorageShrinkOperation.of_confirmable hconfirmable
    have hshrinks := h.shrinks_eq
    rw [← hid] at hshrinks ⊢
    exact operationWritten_of_write hold hshrinks
      (.confirmed hold hworkspace hphase hreclaimable) hrow
  | retried h hlatest hretryable =>
    obtain ⟨hmem, hworkspace, -⟩ := Database.mem_latestShrink hlatest
    obtain ⟨rfl, -, hphase, hswitched, hreclaimable, -⟩ :=
      validateRetryOperation_eq_ok hretryable.operation
    exact operationWritten_of_write hmem h.shrinks_eq
      (.retried hmem hworkspace hphase hswitched hreclaimable) hrow
  | saved h =>
    exact operationWritten_of_write h.mem h.shrinks_eq (.saved h.mem h.id h.workspaceId h.active)
      hrow
  | cleaned h => exact operationWritten_of_write h.mem h.shrinks_eq (.cleaned h) hrow

/-- The row of an operation, up to what deletion adds to its volumes. -/
structure ShrinkRow.Follows (old row : ShrinkRow) : Prop where
  id : row.id = old.id
  workspaceId : row.workspaceId = old.workspaceId
  active : row.active = old.active
  operation : row.operation = { old.operation with
    home := row.operation.home, temporary := row.operation.temporary }
  volume : ∀ role, VolumeCleaned (old.operation.volume role) (row.operation.volume role)

theorem ShrinkRow.Follows.refl (row : ShrinkRow) : row.Follows row :=
  ⟨rfl, rfl, rfl, rfl, fun _ => .refl _⟩

theorem Cleaned.follows {operation saved home temporary}
    (h : Cleaned db operation saved home temporary db') :
    saved.Follows { saved with operation := { saved.operation with home, temporary } } := by
  refine ⟨rfl, rfl, rfl, rfl, ?_⟩
  rintro (_ | _)
  · exact cleanupVolume_eq_ok h.homeVolume
  · exact cleanupVolume_eq_ok h.temporaryVolume

/-- The operations of a workspace after a transaction on another one. -/
theorem OperationWritten.of_not_concerns {workspaceId : Uuid} (h : OperationWritten db call row)
    (hcall : ¬ call.Concerns workspaceId) (hrow : row.workspaceId = workspaceId) :
    ∃ old ∈ db.shrinks.rows, old.Follows row := by
  cases h with
  | kept h => exact ⟨row, h, .refl row⟩
  | started h =>
    refine absurd ?_ hcall
    exact (Table.find_eq_some.1 h.found).2.symm.trans (h.decodes.id.symm.trans hrow)
  | confirmed _ hworkspace | retried _ hworkspace | saved _ _ hworkspace =>
    exact absurd (hworkspace.symm.trans hrow) hcall
  | cleaned h => exact ⟨_, h.mem, h.follows⟩

/-- The row of an operation after another operation's row was written. -/
theorem exists_follows_of_write (hshrinks : db'.shrinks = (db.writeShrink old.id f hf).shrinks)
    (hrow : row ∈ db.shrinks.rows) (hworkspace : old.workspaceId ≠ row.workspaceId)
    (hold : old ∈ db.shrinks.rows) :
    ∃ row' ∈ db'.shrinks.rows, row.Follows row' := by
  refine ⟨row, ?_, .refl row⟩
  rw [hshrinks]
  refine Database.mem_writeShrink_of_ne hrow fun hid => hworkspace ?_
  rw [db.shrinks.eq_of_key hrow hold hid]

/-- **No transaction on another workspace takes an operation away.** -/
theorem StoreCall.Writes.exists_follows (h : call.Writes db db') (hinvariant : ShrinkInvariant db)
    (hrow : row ∈ db.shrinks.rows) (hcall : ¬ call.Concerns row.workspaceId) :
    ∃ row' ∈ db'.shrinks.rows, row.Follows row' := by
  cases h with
  | nothing | acquired | released | queued => exact ⟨row, hrow, .refl row⟩
  | created h | acted h | failed h | updated _ h =>
    rw [h.result]
    exact ⟨row, hrow, .refl row⟩
  | observed h =>
    rw [h.result]
    split
    · exact ⟨row, Table.mem_delete.2 ⟨hrow, by simpa using Ne.symm hcall⟩, .refl row⟩
    · exact ⟨row, hrow, .refl row⟩
  | started h =>
    rw [h.rows]
    exact ⟨row, List.mem_append_left _ hrow, .refl row⟩
  | confirmed h hlatest hconfirmable =>
    obtain ⟨old, hold, rfl, hid, hworkspace⟩ := hinvariant.latest hlatest
    have hshrinks := h.shrinks_eq
    rw [← hid] at hshrinks
    exact exists_follows_of_write hshrinks hrow (fun heq => hcall (hworkspace.symm.trans heq)) hold
  | retried h hlatest hretryable =>
    obtain ⟨hmem, hworkspace, -⟩ := Database.mem_latestShrink hlatest
    obtain ⟨rfl, -⟩ := validateRetryOperation_eq_ok hretryable.operation
    exact exists_follows_of_write h.shrinks_eq hrow (fun heq => hcall (hworkspace.symm.trans heq))
      hmem
  | saved h =>
    exact exists_follows_of_write h.shrinks_eq hrow
      (fun heq => hcall (h.workspaceId.symm.trans heq)) h.mem
  | @cleaned operation saved home temporary db' h =>
    rw [h.shrinks_eq]
    by_cases hid : row.id = saved.id
    · obtain rfl := db.shrinks.eq_of_key hrow h.mem hid
      exact ⟨_, Database.mem_writeShrink_self hrow, h.follows⟩
    · exact ⟨row, Database.mem_writeShrink_of_ne hrow hid, .refl row⟩

/-! ### Runs -/

/-- The transactions of other processes: none of them saves a phase. -/
def StoreCall.Foreign : StoreCall → Prop
  | saveShrink .. => False
  | _ => True

/-- One transaction of another process. -/
def Surroundings.Others (S : Surroundings) (db db' : Database) : Prop :=
  ∃ (call : StoreCall) (response : call.Response), call.Foreign ∧ S.others db call ∧
    call.Performs db response db'

/-- The database, with what the run at work knows of it; before each of its calls other processes
make transactions. -/
def Recording (S : Surroundings) : Semantics signature (Database × Ledger) :=
  fun s c r s' => ∃ db, Relation.ReflTransGen S.Others s.1 db ∧ Performs db c r s'.1 ∧
    Ledger.semantics S s.2 c r s'.2

/-- **One run** of the handler, or of the last failure of its job, cut off anywhere. -/
inductive ShrinkRun (S : Surroundings) (db db' : Database) : Prop
  | handled (installation : Uuid) (job : ClaimedJob) (g : Ledger)
      (h : (handleStorageShrink installation job ()).Reaches (Recording S) (db, .blank) (db', g))
  | exhausted (job : ClaimedJob) (now : ℤ) (g : Ledger)
      (h : (storageShrinkTerminalFailure job now ()).Reaches (Recording S) (db, .blank) (db', g))

/-- **One step of the machine**: a run, or a transaction of another process. -/
inductive ShrinkStep (S : Surroundings) (db db' : Database) : Prop
  | run (h : ShrinkRun S db db')
  | other (h : S.Others db db')

/-- The transactions of a run that are neither saves nor observations. -/
def StoreCall.Attends : StoreCall → Prop
  | saveShrinkCleanup _ => True
  | job (.enqueue ..) => True
  | _ => False

/-- **One transition of the database in a run.** -/
inductive ShrinkMoves (S : Surroundings) (db : Database) : Database → Prop
  | other {call : StoreCall} {db' : Database} (hforeign : call.Foreign)
      (hothers : S.others db call) (h : call.Writes db db') : ShrinkMoves S db db'
  | attends {call : StoreCall} {db' : Database} (hcall : call.Attends) (h : call.Writes db db') :
      ShrinkMoves S db db'
  | observes {workspaceId generation observation now} {row : ShrinkRow} {db' : Database}
      (hrow : row ∈ db.shrinks.rows)
      (hworkspace : row.workspaceId = workspaceId) (hphase : row.operation.phase = .resuming)
      (h : (StoreCall.observe workspaceId generation observation now).Writes db db') :
      ShrinkMoves S db db'
  | saves {operation update} {row : WorkspaceRow} {document workspace saved} {db' : Database}
      (h : Saved db operation update row document workspace saved db')
      (hevolves : Evolves S saved.operation operation update)
      (hcommits : S.commits operation update) : ShrinkMoves S db db'

section Moves

variable {S : Surroundings} {db db' : Database}

theorem StoreCall.Attends.foreign (h : call.Attends) : call.Foreign := by
  cases call with
  | saveShrink operation update => exact h
  | _ => trivial

theorem StoreCall.Attends.not_concerns (h : call.Attends) {workspaceId : Uuid} :
    ¬ call.Concerns workspaceId := by
  cases call with
  | saveShrinkCleanup | job => exact id
  | _ => exact h.elim

/-- What writes the row of an operation that is not active leaves active operations alone. -/
theorem mem_of_write_inactive {hf : ∀ row, (f row).id = row.id} (hold : old ∈ db.shrinks.rows)
    (hinactive : old.active = false) (hshrinks : db'.shrinks = (db.writeShrink old.id f hf).shrinks)
    (hrow : row ∈ db.shrinks.rows) (hactive : row.active = true) : row ∈ db'.shrinks.rows := by
  rw [hshrinks]
  refine Database.mem_writeShrink_of_ne hrow fun hid => ?_
  obtain rfl := db.shrinks.eq_of_key hrow hold hid
  cases hinactive.symm.trans hactive

/-- **Only a save changes an active operation.** -/
theorem StoreCall.Writes.mem_of_foreign (h : call.Writes db db') (hcall : call.Foreign)
    (hinvariant : ShrinkInvariant db) (hrow : row ∈ db.shrinks.rows) (hactive : row.active = true) :
    row ∈ db'.shrinks.rows := by
  cases h with
  | nothing | acquired | released | queued => exact hrow
  | created h | acted h | failed h | updated hprepares h =>
    rw [h.result]
    exact hrow
  | @observed workspaceId observation now found document workspace next generation db' h =>
    rw [h.result]
    split
    · rename_i hdeleted
      -- the workspace of an active operation is not being deleted
      obtain rfl : observation = .deleted := by
        simpa [StoredTransition.confirmsDeletion] using hdeleted
      have hdeleting : workspace.state = .deleting := by
        have hnext := mapError_eq_ok.1 h.state
        cases hworkspace : workspace.state <;>
          simp [hworkspace, WorkspaceState.observe] at hnext ⊢
      have hne : row.workspaceId ≠ workspaceId := by
        intro heq
        rw [hinvariant.idle_of_deleting h.found h.decodes hdeleting row hrow heq] at hactive
        cases hactive
      exact Table.mem_delete.2 ⟨hrow, by simpa using hne⟩
    · exact hrow
  | started h =>
    rw [h.rows]
    exact List.mem_append_left _ hrow
  | confirmed h hlatest hconfirmable =>
    obtain ⟨old, hold, rfl, hid, hworkspace⟩ := hinvariant.latest hlatest
    have hshrinks := h.shrinks_eq
    rw [← hid] at hshrinks
    exact mem_of_write_inactive hold (h.idle old hold hworkspace) hshrinks hrow hactive
  | retried h hlatest hretryable =>
    obtain ⟨hmem, hworkspace, -⟩ := Database.mem_latestShrink hlatest
    obtain ⟨rfl, -⟩ := validateRetryOperation_eq_ok hretryable.operation
    exact mem_of_write_inactive hmem (h.idle _ hmem hworkspace) h.shrinks_eq hrow hactive
  | saved h => exact hcall.elim
  | cleaned h => exact mem_of_write_inactive h.mem h.inactive h.shrinks_eq hrow hactive

/-- **What a run knows is true** as long as the operation is active. -/
structure RunLink (db : Database) (g : Ledger) : Prop where
  invariant : ShrinkInvariant db
  stored : g.spoiled = false → ∀ o, g.base = some o → o.phase.active = true →
    ∃ row ∈ db.shrinks.rows, row.operation = o
  workspace : ∀ workspaceId o, g.reads = some workspaceId → g.base = some o →
    o.workspaceId = workspaceId

theorem RunLink.blank (h : ShrinkInvariant db) : RunLink db .blank :=
  ⟨h, fun _ _ ho => (nomatch ho), fun _ _ _ ho => (nomatch ho)⟩

theorem RunLink.foreign {g : Ledger} (h : RunLink db g) (hwrites : call.Writes db db')
    (hcall : call.Foreign) : RunLink db' g := by
  refine ⟨h.invariant.writes hwrites, fun hspoiled o ho hactive => ?_, h.workspace⟩
  obtain ⟨row, hrow, rfl⟩ := h.stored hspoiled o ho hactive
  refine ⟨row, hwrites.mem_of_foreign hcall h.invariant hrow ?_, rfl⟩
  exact (h.invariant.agrees row hrow).active.trans hactive

/-- The row that a save of a run replaces holds the version the run has last read or saved. -/
theorem RunLink.saved {g o operation update} {row : WorkspaceRow} {document workspace saved}
    (h : RunLink db g) (hsaved : Saved db operation update row document workspace saved db')
    (hspoiled : g.spoiled = false) (hbase : g.base = some o)
    (hevolves : Evolves S o operation update) : saved.operation = o := by
  obtain ⟨stored, hstored, rfl⟩ := h.stored hspoiled o hbase hevolves.active
  have hid : stored.id = saved.id := by
    rw [hsaved.id, hevolves.drifts.id, (h.invariant.agrees stored hstored).id]
  rw [db.shrinks.eq_of_key hstored hsaved.mem hid]

theorem StoreCall.Writes.eq_of_reads (h : call.Writes db db')
    (hcall : (∃ id, call = .getWorkspace id) ∨ (∃ id, call = .latestShrink id) ∨
      ∃ id, call = .listShrinks id) : db' = db := by
  rcases hcall with ⟨_, rfl⟩ | ⟨_, rfl⟩ | ⟨_, rfl⟩ <;> cases h <;> rfl

theorem RunLink.step {g g' : Ledger} {c r} (h : RunLink db g) (hperforms : Performs db c r db')
    (hledger : Ledger.semantics S g c r g') (hproper : Proper S g c r g') :
    (db' = db ∨ ShrinkMoves S db db') ∧ RunLink db' g' := by
  obtain ⟨hadmits, rfl⟩ := hledger
  cases hperforms with
  | cluster | clock | newId => exact ⟨.inl rfl, h⟩
  | @store call response db' hcall =>
    have hwrites := hcall.writes
    cases call with
    | getWorkspace id =>
      obtain rfl := hwrites.eq_of_reads (.inl ⟨id, rfl⟩)
      exact ⟨.inl rfl, h⟩
    | listShrinks workspaceId =>
      obtain rfl := hwrites.eq_of_reads (.inr (.inr ⟨workspaceId, rfl⟩))
      exact ⟨.inl rfl, h⟩
    | saveShrinkCleanup operation =>
      have hattends : (StoreCall.saveShrinkCleanup operation).Attends := trivial
      exact ⟨.inr (.attends hattends hwrites), h.foreign hwrites trivial⟩
    | observe workspaceId generation observation now =>
      obtain ⟨hspoiled, hreads, o, hbase, hphase⟩ := hproper
      obtain ⟨row, hrow, rfl⟩ := h.stored hspoiled o hbase (by rw [hphase]; rfl)
      have hworkspace : row.workspaceId = workspaceId :=
        (h.invariant.agrees row hrow).workspaceId.symm.trans (h.workspace _ _ hreads hbase)
      exact ⟨.inr (.observes hrow hworkspace hphase hwrites), h.foreign hwrites trivial⟩
    | job call =>
      cases call with
      | enqueue id newJob now =>
        have hattends : (StoreCall.job (.enqueue id newJob now)).Attends := trivial
        have hlink := h.foreign hwrites hattends.foreign
        refine ⟨.inr (.attends hattends hwrites), hlink.invariant, ?_, ?_⟩
        · cases response <;> exact hlink.stored
        · cases response <;> exact hlink.workspace
      | _ => exact hproper.elim
    | latestShrink workspaceId =>
      obtain rfl := hwrites.eq_of_reads (.inr (.inl ⟨workspaceId, rfl⟩))
      refine ⟨.inl rfl, ?_⟩
      cases response with
      | error e => exact h
      | ok latest =>
        obtain ⟨locked, htransaction⟩ := hcall.transaction_of_ok
        have hlatest : ∀ o, latest = some o → ∃ row ∈ db'.shrinks.rows, row.operation = o ∧
            row.workspaceId = workspaceId := by
          rintro o rfl
          obtain ⟨row, hrow, hoperation, -, hworkspace⟩ :=
            h.invariant.latest (Except.ok.inj (Prod.mk.inj htransaction).1)
          exact ⟨row, hrow, hoperation, hworkspace⟩
        refine ⟨h.invariant, fun _ o ho _ => ?_, fun id o hreads ho => ?_⟩
        · obtain ⟨row, hrow, hoperation, -⟩ := hlatest o ho
          exact ⟨row, hrow, hoperation⟩
        · obtain ⟨row, hrow, rfl, hworkspace⟩ := hlatest o ho
          obtain rfl := Option.some_inj.1 hreads
          exact (h.invariant.agrees row hrow).workspaceId.trans hworkspace
    | saveShrink operation update =>
      cases response with
      | error e =>
        obtain rfl := hcall.eq_of_error
        refine ⟨.inl rfl, h.invariant, fun hspoiled => h.stored ?_, h.workspace⟩
        exact (Bool.or_eq_false_iff.1 hspoiled).1
      | ok _ =>
        obtain ⟨o, hbase, hevolves⟩ := hproper
        obtain ⟨locked, htransaction⟩ := hcall.transaction_of_ok
        obtain ⟨row, document, workspace, saved, hsaved⟩ :=
          saveStorageShrink_eq_ok (settleUnit_eq_ok.1 htransaction)
        obtain rfl := h.saved hsaved hadmits.1 hbase hevolves
        refine ⟨.inr (.saves hsaved hevolves hadmits.2), h.invariant.saved hsaved, ?_, ?_⟩
        · intro _ o ho _
          obtain rfl := Option.some_inj.1 ho
          refine ⟨saved.save operation, ?_, rfl⟩
          rw [hsaved.shrinks_eq]
          exact Database.mem_writeShrink_self hsaved.mem
        · intro id o hreads ho
          obtain rfl := Option.some_inj.1 ho
          exact hevolves.drifts.workspaceId.trans (h.workspace id _ hreads hbase)
    | _ => exact hproper.elim

/-- The transactions of other processes, between two calls of a run. -/
theorem RunLink.others {g : Ledger} (h : RunLink db g)
    (hothers : Relation.ReflTransGen S.Others db db') :
    Relation.ReflTransGen (ShrinkMoves S) db db' ∧ RunLink db' g := by
  induction hothers with
  | refl => exact ⟨.refl, h⟩
  | tail _ hstep ih =>
    obtain ⟨call, response, hforeign, hallowed, hperforms⟩ := hstep
    exact ⟨ih.1.tail (.other hforeign hallowed hperforms.writes),
      ih.2.foreign hperforms.writes hforeign⟩

/-- **A run is a sequence of transitions.** -/
theorem ShrinkRun.moves (h : ShrinkRun S db db') (hinvariant : ShrinkInvariant db) :
    Relation.ReflTransGen (ShrinkMoves S) db db' ∧ ShrinkInvariant db' := by
  -- what is reached from `db`, and what the ledger says of it
  let kept : Database × Ledger → Prop := fun s =>
    Relation.ReflTransGen (ShrinkMoves S) db s.1 ∧ RunLink s.1 s.2
  have hstart : kept (db, .blank) := ⟨.refl, .blank hinvariant⟩
  have hrun : ∀ {α : Type} {p : Program signature α} {post : α → Ledger → Prop} {g : Ledger},
      p.Meets (Ledger.semantics S) Eq (Proper S) post .blank →
      p.Reaches (Recording S) (db, .blank) (db', g) → kept (db', g) := by
    intro α p post g hmeets hreaches
    have himage : p.Meets (Recording S) Eq (fun s₁ c r s₂ => Proper S s₁.2 c r s₂.2)
        (fun a s => post a s.2) (db, .blank) :=
      Program.Meets.of_image Prod.snd hmeets (fun s₁ s₂ hs => congrArg _ hs)
        fun s₁ c r s₂ ⟨_, _, _, hledger⟩ => hledger
    have hkept := himage.and_invariant (I := kept) hstart (fun s₁ s₂ h₁ h₂ => h₂ ▸ h₁) ?_
    · exact (hkept.mono_guar fun _ _ _ _ hs => hs.2.2).invariant_of_reaches hstart hreaches
    · rintro s₁ c r s₂ ⟨hmoves, hlink⟩ ⟨db₁, hothers, hperforms, hledger⟩ hproper
      obtain ⟨hmoves', hlink'⟩ := hlink.others hothers
      obtain ⟨hmove, hlink''⟩ := hlink'.step hperforms hledger hproper
      refine ⟨(hmoves.trans hmoves').trans ?_, hlink''⟩
      rcases hmove with heq | hmove
      · rw [heq]
      · exact .single hmove
  cases h with
  | handled installation job g h =>
    have hkept := hrun (handleStorageShrink_proper S installation job) h
    exact ⟨hkept.1, hkept.2.invariant⟩
  | exhausted job now g h =>
    have hkept := hrun (storageShrinkTerminalFailure_proper S job now) h
    exact ⟨hkept.1, hkept.2.invariant⟩

/-- **What the machine does is a sequence of transitions.** -/
theorem moves_of_steps (h : Relation.ReflTransGen (ShrinkStep S) db db')
    (hinvariant : ShrinkInvariant db) :
    Relation.ReflTransGen (ShrinkMoves S) db db' ∧ ShrinkInvariant db' := by
  induction h with
  | refl => exact ⟨.refl, hinvariant⟩
  | tail _ hstep ih =>
    cases hstep with
    | run h =>
      obtain ⟨hmoves, hinvariant'⟩ := h.moves ih.2
      exact ⟨ih.1.trans hmoves, hinvariant'⟩
    | other h =>
      obtain ⟨call, response, hforeign, hallowed, hperforms⟩ := h
      exact ⟨ih.1.tail (.other hforeign hallowed hperforms.writes),
        ih.2.writes hperforms.writes⟩

theorem ShrinkMoves.invariant (h : ShrinkMoves S db db') (hinvariant : ShrinkInvariant db) :
    ShrinkInvariant db' := by
  cases h with
  | other _ _ h | attends _ h | observes _ _ _ h => exact hinvariant.writes h
  | saves h => exact hinvariant.saved h

end Moves

/-! ### Runs about which nothing is assumed -/

/-- A run of a program on the database alone, as a run that keeps a ledger. -/
theorem reaches_recording {α : Type} {p : Program signature α} {g : Ledger}
    (hspoiled : g.spoiled = false) (h : p.Reaches Performs db db') :
    ∃ g', p.Reaches (Recording .any) (db, g) (db', g') := by
  induction h generalizing g with
  | here p db => exact ⟨g, .here _ _⟩
  | @step c next r db db₁ db₂ hcall hrest ih =>
    obtain ⟨hadmits, hspoiled'⟩ := hcall.admits hspoiled
    obtain ⟨g', hrest'⟩ := ih hspoiled'
    exact ⟨g', .step ⟨db, .refl, hcall, hadmits, rfl⟩ hrest'⟩

/-- **Nothing is assumed**: whatever the handler does to the database on its own is a run. -/
theorem ShrinkRun.of_reaches {installation : Uuid} {job : ClaimedJob}
    (h : (handleStorageShrink installation job ()).Reaches Performs db db') :
    ShrinkRun .any db db' := by
  obtain ⟨g, hreaches⟩ := reaches_recording (g := .blank) rfl h
  exact .handled installation job g hreaches

/-! ### Properties of operations -/

/-- The requests for an operation. -/
def StoreCall.Requests : StoreCall → Prop
  | enqueueShrink .. => True
  | _ => False

theorem StoreCall.Attends.not_requests (h : call.Attends) : ¬ call.Requests := by
  cases call with
  | enqueueShrink => exact h.elim
  | _ => exact id

/-- **What has to be shown of a property of operations**: a new operation has it, and every
transition keeps it. -/
structure OperationInvariant (S : Surroundings) (P : StorageShrinkOperation → Prop) : Prop where
  started : ∀ db operationId jobId workspaceId request actorUserId now workspace,
    S.others db (.enqueueShrink operationId jobId workspaceId request actorUserId now) →
    P (startedOperation operationId workspace request actorUserId now)
  confirmed : ∀ o now, P o → o.phase = .completed → o.reclaimable = true → P (o.reclaim now)
  retried : ∀ o now, P o → o.phase = .failed → o.switched = true → o.reclaimable = false →
    P (o.retry now)
  evolves : ∀ o w u, P o → Evolves S o w u → P w
  cleaned : ∀ o home temporary, P o → VolumeCleaned o.home home →
    VolumeCleaned o.temporary temporary → P { o with home, temporary }

/-- The invariant rule for operations. -/
theorem OperationInvariant.move (h : OperationInvariant S P) (hmove : ShrinkMoves S db db')
    (hinvariant : ShrinkInvariant db) (hP : ∀ row ∈ db.shrinks.rows, P row.operation) :
    ∀ row ∈ db'.shrinks.rows, P row.operation := by
  have hforeign : ∀ {call : StoreCall}, call.Foreign → (call.Requests → S.others db call) →
      call.Writes db db' → ∀ row ∈ db'.shrinks.rows, P row.operation := by
    intro call hcall hothers hwrites row hrow
    cases hwrites.operation hinvariant hrow with
    | kept hrow => exact hP row hrow
    | started hstarted => exact h.started _ _ _ _ _ _ _ _ (hothers trivial)
    | confirmed hold _ hphase hreclaimable => exact h.confirmed _ _ (hP _ hold) hphase hreclaimable
    | retried hold _ hphase hswitched hreclaimable =>
      exact h.retried _ _ (hP _ hold) hphase hswitched hreclaimable
    | saved hmem => exact hcall.elim
    | cleaned hcleaned =>
      exact h.cleaned _ _ _ (hP _ hcleaned.mem) (cleanupVolume_eq_ok hcleaned.homeVolume)
        (cleanupVolume_eq_ok hcleaned.temporaryVolume)
  cases hmove with
  | other hcall hothers hwrites => exact hforeign hcall (fun _ => hothers) hwrites
  | attends hcall hwrites => exact hforeign hcall.foreign hcall.not_requests.elim hwrites
  | @observes workspaceId generation observation now _ _ _ _ _ hwrites =>
    have hcall : (StoreCall.observe workspaceId generation observation now).Foreign := trivial
    exact hforeign hcall False.elim hwrites
  | saves hsaved hevolves =>
    intro row hrow
    rw [hsaved.shrinks_eq] at hrow
    rcases Database.mem_writeShrink hrow with ⟨hrow, -⟩ | ⟨old, hold, hid, rfl⟩
    · exact hP row hrow
    · obtain rfl := db.shrinks.eq_of_key hold hsaved.mem hid
      exact h.evolves _ _ _ (hP old hold) hevolves

/-- What every operation has in a database without operations, it has in every state of the
machine. -/
theorem OperationInvariant.moves (h : OperationInvariant S P)
    (hmoves : Relation.ReflTransGen (ShrinkMoves S) db db') (hinvariant : ShrinkInvariant db)
    (hP : ∀ row ∈ db.shrinks.rows, P row.operation) :
    ∀ row ∈ db'.shrinks.rows, P row.operation := by
  suffices hboth : ShrinkInvariant db' ∧ ∀ row ∈ db'.shrinks.rows, P row.operation from hboth.2
  induction hmoves with
  | refl => exact ⟨hinvariant, hP⟩
  | tail _ hmove ih => exact ⟨hmove.invariant ih.1, h.move hmove ih.1 ih.2⟩

/-! ### A small cluster

The claims of the one workspace of the sample database, and helper Pods that succeed at once: what
the examples of the development ask. -/

def sampleClaim (name uid : String) (size : ℕ) : PersistentVolumeClaim where
  metadata :=
    { name := some name
      «namespace» := some workspaceNamespace
      uid := some uid
      labels := some [(workspaceIdLabel, sampleWorkspaceId.text),
        (ownerInstallationLabel, sampleUserId.text), (operationLabel, sampleOperationId.text)]
      deleting := false
      hasOwners := false }
  spec := some ⟨none, some (size * gib)⟩
  phase := some "Bound"
  capacity := some (size * gib)

def sampleSource : PersistentVolumeClaim :=
  sampleClaim (dataPvcOrdinalZero (workspaceShortIdFor sampleWorkspaceId)) "source" 10

def sampleDestination : PersistentVolumeClaim :=
  sampleClaim (shrinkClaimName sampleOperationId .home) "destination" 5

def sampleAnswer : (call : ClusterCall) → call.Response
  | .runtimeNames _ | .prepareRuntime _ | .reconcileInjections _ | .reconcileResources _
  | .reconcilePortMappings _ | .recoverScratchScheduling _ | .deliverWebhook _ => .ok ()
  | .requireClaim name =>
    .ok (if sampleSource.metadata.name = some name then sampleSource else sampleDestination)
  | .scratchClaim _ | .getClaim _ => .ok none
  | .createClaim .. => .ok sampleDestination
  | .volumeIdentity _ binding =>
    .ok ⟨binding.claimUid, binding.claimUid, "driver", binding.claimUid, "class", none, none⟩
  | .retainShrinkSources _ | .stopForStorageShrink _ | .removeShrinkHelpers _ | .deleteClaim ..
  | .hasObservedReplicas .. | .deleteStoppedScratch _ | .deleteShrinkStorage _ => .ok true
  | .helperPod name _ _ => .ok ⟨some name, some "Succeeded", .ok ⟨gib, 1⟩⟩
  | .captureCleanup operation => .ok (operation.home, operation.temporary)
  | .deleteOrConfirm _ => .ok .gone

def sampleShrinkJob : ClaimedJob where
  id := sampleJobId
  kind := .workspaceStorageShrink
  workspaceId := some sampleWorkspaceId
  payload := StorageShrinkOperation.payload sampleOperationId
  attempts := 1
  leaseExpiresAt := 60

section Sample

variable (S : Surroundings) (fails : StorageShrinkOperation → ShrinkWorkspaceUpdate → Bool)

/-- Some saves fail, and all of them after a critical one. -/
def sampleSave (s : Database × Ledger) (operation : StorageShrinkOperation)
    (update : ShrinkWorkspaceUpdate) : Except StorageError Unit × Database :=
  if s.2.spoiled || fails operation update then (.error (.database "unavailable"), s.1)
  else (StoreCall.saveShrink operation update).transaction s.1 fun _ => false

def sampleResponse (s : Database × Ledger) : (c : signature.Call) → signature.Response c × Database
  | .store (.saveShrink operation update) => sampleSave fails s operation update
  | .store call => call.transaction s.1 fun _ => false
  | .cluster call => (sampleAnswer call, s.1)
  | .clock => (.ok 20, s.1)
  | .newId => (sampleJobId, s.1)

def sampleStep (s : Database × Ledger) (c : signature.Call) :
    signature.Response c × (Database × Ledger) :=
  ((sampleResponse fails s c).1,
    (sampleResponse fails s c).2, s.2.after S c (sampleResponse fails s c).1)

def sampleRun (db : Database) : Database :=
  ((handleStorageShrink sampleUserId sampleShrinkJob ()).interpret (sampleStep S fails)
    (db, Ledger.blank)).2.1

def sampleRuns (n : ℕ) (db : Database) : Database := (sampleRun S fails)^[n] db

theorem sampleResponse_performs (s : Database × Ledger) (c : signature.Call) :
    Performs s.1 c (sampleResponse fails s c).1 (sampleResponse fails s c).2 := by
  cases c with
  | cluster call => exact .cluster _ _
  | clock => exact .clock _
  | newId => exact .newId _
  | store call =>
    cases call with
    | saveShrink operation update =>
      change Performs s.1 (.store (.saveShrink operation update))
        (sampleSave fails s operation update).1 (sampleSave fails s operation update).2
      unfold sampleSave
      split
      · exact .store (.unavailable _)
      · exact .store (.executed _)
    | _ => exact .store (.executed fun _ => false)

variable {S fails}
  (hcommits : ∀ operation update, fails operation update = false → S.commits operation update)
  (hanswers : ∀ call, S.answers call (sampleAnswer call))

include hcommits hanswers

theorem sampleResponse_admits (s : Database × Ledger) (c : signature.Call) :
    s.2.Admits S c (sampleResponse fails s c).1 := by
  have hperforms := sampleResponse_performs fails s c
  revert hperforms
  cases c with
  | cluster call => exact fun _ => hanswers call
  | clock | newId => exact fun _ => trivial
  | store call =>
    cases call with
    | saveShrink operation update =>
      intro _
      cases hrefused : s.2.spoiled || fails operation update with
      | true =>
        have hfails : (sampleResponse fails s (.store (.saveShrink operation update))).1 =
            .error (.database "unavailable") := by
          change (sampleSave fails s operation update).1 = _
          rw [sampleSave, if_pos hrefused]
        rw [hfails]
        trivial
      | false =>
        obtain ⟨hspoiled, hsaves⟩ := Bool.or_eq_false_iff.1 hrefused
        generalize (sampleResponse fails s (.store (.saveShrink operation update))).1 = r
        match r with
        | .ok _ => exact ⟨hspoiled, hcommits operation update hsaves⟩
        | .error _ => trivial
    | getWorkspace id =>
      generalize (sampleResponse fails s (.store (.getWorkspace id))).1 = r,
        (sampleResponse fails s (.store (.getWorkspace id))).2 = db
      intro hperforms
      match r with
      | .ok workspace =>
        cases hperforms with
        | store h =>
          obtain ⟨_, htransaction⟩ := h.transaction_of_ok
          exact Database.id_of_getWorkspace (Prod.mk.inj htransaction).1
      | .error _ => trivial
    | _ => exact fun _ => trivial

theorem shrinkRun_sampleRun (db : Database) :
    ShrinkRun S db (sampleRun S fails db) := by
  have hstep : ∀ s c, Recording S s c (sampleStep S fails s c).1 (sampleStep S fails s c).2 :=
    fun s c => ⟨s.1, .refl, sampleResponse_performs fails s c,
      sampleResponse_admits hcommits hanswers s c, rfl⟩
  exact .handled sampleUserId sampleShrinkJob _ (Program.reaches_interpret hstep _ (db, Ledger.blank))

theorem steps_sampleRuns (n : ℕ) (db : Database) :
    Relation.ReflTransGen (ShrinkStep S) db (sampleRuns S fails n db) := by
  induction n with
  | zero => exact .refl
  | succ n ih =>
    rw [sampleRuns, Function.iterate_succ_apply']
    exact ih.tail (.run (shrinkRun_sampleRun hcommits hanswers _))

/-- The sample database with a request that has just been accepted. -/
def sampleStart (reclaimSource : Bool) : Database :=
  (sampleEnqueue reclaimSource 10).after (sampleDatabase .stopped)

theorem steps_sampleStart {reclaimSource : Bool}
    (hothers : S.others (sampleDatabase .stopped) (sampleEnqueue reclaimSource 10)) (n : ℕ) :
    Relation.ReflTransGen (ShrinkStep S) (sampleDatabase .stopped)
      (sampleRuns S fails n (sampleStart reclaimSource)) :=
  .head (.other ⟨sampleEnqueue reclaimSource 10, _, trivial, hothers, .executed fun _ => false⟩)
    (steps_sampleRuns hcommits hanswers n _)

end Sample

end WorkspaceControl
