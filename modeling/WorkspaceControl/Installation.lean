/-
**An installation at work.**

The workers of an installation, with a note of what each of them has last seen: the job it has
claimed, and the version of a storage operation that it has last read or saved.  No program reads
the notes; they let a condition speak of what a run knows.  `Conditions` says which workers there
are, which of their calls happen, and which transactions other processes make.

A save of a storage operation replaces the whole operation, and is guarded only by the flag
`active` of its row.  The leases do not fence it: a worker that was paused may make the save after
its job was claimed by another one.  When a save is committed only over the version that its run has
last read or saved, every step of the installation is a transition of the storage operations, and
an operation that was switched stays switched.

Main definitions:

* `Station`, `Readers`, `Conditions`, `installation` — the workers, with notes and conditions;
* `Fenced` — saves meet the version that their run has seen.

Main results:

* `handle_moves`, `runOnce_moves` — the calls of a run are transitions when its saves are fenced;
* `switched_stays` — **nothing is switched back** by any interleaving of workers with fenced saves;
* `stale_save_unswitches` — without the fence it is.
-/

import WorkspaceControl.ShrinkOutcomes
import WorkspaceControl.WorkerRuns

set_option autoImplicit false

namespace WorkspaceControl

open Fallible MachineInt Relational Interaction Routine

/-! ### Workers with notes -/

/-- What a worker has last seen. -/
structure Station where
  job : Option ClaimedJob
  version : Option StorageShrinkOperation

/-- What a worker has seen after a call. -/
def Station.after (station : Station) : (c : signature.Call) → signature.Response c → Station
  | .store (.job (.claim ..)), .ok job => { station with job }
  | .store (.latestShrink _), .ok latest => { station with version := latest }
  | .store (.saveShrink operation _), .ok () => { station with version := some operation }
  | _, _ => station

/-- The control plane, with a note for each worker. -/
structure Readers where
  plane : ControlPlane
  stations : String → Station

abbrev Readers.database (s : Readers) : Database := s.plane.database

/-- What is assumed of an installation: of its workers, of their calls in a state, and of the
transactions of other processes. -/
structure Conditions where
  workers : Worker → Prop
  calls : Readers → String → (c : signature.Call) → signature.Response c → Prop
  others : Database → StoreCall → Prop

/-- Nothing is assumed. -/
def Conditions.none : Conditions := ⟨fun _ => True, fun _ _ _ _ => True, fun _ _ => True⟩

/-- A call of a worker, with its note. -/
def Readers.Performs (owner : String) : Semantics signature Readers := fun s c r s' =>
  ControlPlane.Performs s.plane c r s'.plane ∧
    s'.stations = Function.update s.stations owner ((s.stations owner).after c r)

/-- **An installation**: its workers, and around them other processes, which neither decide about
jobs nor save storage operations. -/
def installation (K : Conditions) : System signature Readers String where
  semantics owner s c r s' := K.calls s owner c r ∧ Readers.Performs owner s c r s'
  environment s s' := s'.stations = s.stations ∧ ∃ (call : StoreCall) (response : call.Response),
    call.Attendance ∧ call.Foreign ∧ K.others s.database call ∧
      ControlPlane.Performs s.plane (.store call) response s'.plane
  start owner p := ∃ (worker : Worker) (now : ℤ) (elapsed : ℕ), worker.leaseOwner = owner ∧
    K.workers worker ∧ p = (worker.runOnce now elapsed) () >>= fun _ => .done ()

/-- Nobody else writes the note of a worker. -/
def KeepsStation (owner : String) (s s' : Readers) : Prop := s'.stations owner = s.stations owner

variable {c : signature.Call} {owner : String} {row row' : ShrinkRow} {s s' : Readers}

variable {worker : Worker} {running : String → Option (Program signature Unit)} {K : Conditions}

variable {r : signature.Response c}

theorem Readers.Performs.keepsStation {other : String} (h : Readers.Performs owner s c r s')
    (hne : other ≠ owner) :
    KeepsStation other s s' := by
  rw [KeepsStation, h.2, Function.update_of_ne hne]

theorem Readers.Performs.station (h : Readers.Performs owner s c r s') :
    s'.stations owner = (s.stations owner).after c r := by
  rw [h.2, Function.update_self]

theorem installation_keepsStation (K : Conditions) :
    (installation K).RelyGuarantee (fun _ => True) KeepsStation where
  refl _ _ := rfl
  trans _ _ _ _ h h' := h'.trans h
  environment s s' _ henv := ⟨trivial, fun owner => congrFun henv.1 owner⟩
  start owner p s _ hstart := by
    clear hstart
    induction p generalizing s with
    | done a => trivial
    | call c next ih =>
      intro s₁ _ r s₂ hcall
      exact ⟨⟨trivial, fun _ hne => hcall.2.keepsStation hne⟩, ih r s₂⟩

/-! ### Calls that are no saves -/

/-- The calls other than saves of storage operations. -/
def Foreign : Call → Prop
  | .store call => call.Foreign
  | _ => True

theorem ReconcileJobCall.foreign {c : Call} (h : ReconcileJobCall c) : Foreign c := by
  cases c with
  | store call =>
    cases call with
    | saveShrink => exact h.elim
    | _ => trivial
  | _ => trivial

/-- What a worker does besides the handlers: leases, and the outcome of its job. -/
def Housekeeping : Call → Prop
  | .store (.job _) => True
  | .store (.acquireLease ..) => True
  | .store (.releaseLease ..) => True
  | .newId => True
  | _ => False

theorem Housekeeping.foreign {c : Call} (h : Housekeeping c) : Foreign c := by
  cases c with
  | store call =>
    cases call with
    | saveShrink => exact h.elim
    | _ => trivial
  | _ => trivial

section Worker

variable {σ : Type} {sem guar : Semantics signature σ} {rely : σ → σ → Prop}

/-- **The rule of a worker**: what its handlers and its housekeeping do, a run does. -/
theorem Worker.runOnce_always (hhandle : ∀ job, Always sem rely guar (worker.handle job))
    (hterminal : ∀ job now, Always sem rely guar (worker.onTerminalFailure job now))
    (hkeeping : ∀ s c r s', Housekeeping c → sem s c r s' → guar s c r s') (now : ℤ)
    (elapsed : ℕ) : Always sem rely guar (worker.runOnce now elapsed) := by
  have htransact : ∀ {call : StoreCall}, Housekeeping (.store call) →
      Always sem rely guar (transact id call : Routine signature Unit StorageError call.Value) :=
    fun hcall => Yields.always (P := Housekeeping) (Q := fun _ => True)
      (yields_transact hcall fun _ => trivial) hkeeping
  have hpersist : ∀ job now outcome,
      Always sem rely guar (worker.persistJobResult job now outcome) := by
    intro job now outcome
    unfold Worker.persistJobResult
    split
    · exact htransact trivial
    · refine always_bind (Yields.always (P := Housekeeping) (Q := fun _ => True) ?_ hkeeping)
        fun nonce => always_bind (htransact trivial) fun _ => always_pure ()
      exact fun _ => ⟨trivial, fun _ => trivial⟩
    · exact htransact trivial
    · unfold Worker.persistFailedJob
      split
      · exact always_bind (hterminal job now) fun _ => htransact trivial
      · exact htransact trivial
  have hacquire : ∀ job, Always sem rely guar (worker.acquireLease job now) := by
    intro job
    unfold Worker.acquireLease
    split
    · exact always_pure true
    · exact htransact trivial
  have hrelease : ∀ job, Always sem rely guar (worker.releaseLease job) := by
    intro job
    unfold Worker.releaseLease
    split
    · exact always_pure ()
    · exact htransact trivial
  refine always_bind (htransact trivial) fun claimed => ?_
  match claimed with
  | none => exact always_pure false
  | some job =>
    refine always_bind (always_bind (hacquire job) fun acquired => ?_) fun _ => always_pure true
    split
    · refine always_bind (always_result (hhandle job)) fun outcome => ?_
      refine always_bind (always_result (hpersist job _ outcome)) fun persisted => ?_
      exact always_bind (hrelease job) fun _ => always_attempt id persisted
    · exact htransact trivial

end Worker

/-! ### Saves over the version that was seen -/

/-- A committed save replaces the version of the operation that the worker has last seen. -/
def Fenced (s : Readers) (owner : String) : (c : signature.Call) → signature.Response c → Prop
  | .store (.saveShrink operation _), .ok () => ∃ row ∈ s.database.shrinks.rows,
      row.id = operation.id ∧ (s.stations owner).version = some row.operation
  | _, _ => True

/-- The database is as before, or one transition further. -/
def Moved (s s' : Readers) : Prop :=
  s'.database = s.database ∨ ShrinkMoves .any s.database s'.database

theorem Readers.Performs.moved (h : Readers.Performs owner s c r s') (hc : Foreign c) :
    Moved s s' := by
  have hperforms : WorkspaceControl.Performs s.database c r s'.database := h.1.1
  unfold Moved
  generalize s.database = db, s'.database = db' at hperforms ⊢
  cases hperforms with
  | store hcall => exact .inr (.other hc trivial hcall.writes)
  | cluster | clock | newId => exact .inl rfl

section Fenced

/-- What a run knows of an operation is what its worker has noted. -/
def Noted (owner : String) (s : Readers) (g : Ledger) : Prop :=
  g.spoiled = false ∧ ∀ o, g.base = some o → (s.stations owner).version = some o

/-- A save over the version that was noted is a transition. -/
theorem Noted.saved {s s' g operation update response}
    (h : Noted owner s g) (hfenced : Fenced s owner (.store (.saveShrink operation update)) response)
    (hcall : (StoreCall.saveShrink operation update).Performs s.database response s'.database)
    (hproper : Proper .any g (.store (.saveShrink operation update)) response
      (g.after .any (.store (.saveShrink operation update)) response)) : Moved s s' := by
  cases response with
  | error e => exact .inl hcall.eq_of_error
  | ok _ =>
    obtain ⟨o, hbase, hevolves⟩ := hproper
    obtain ⟨row, hrow, hid, hversion⟩ := hfenced
    obtain rfl := Option.some_inj.1 ((h.2 o hbase).symm.trans hversion)
    obtain ⟨locked, htransaction⟩ := hcall.transaction_of_ok
    obtain ⟨_, _, _, saved, hsaved⟩ := saveStorageShrink_eq_ok (settleUnit_eq_ok.1 htransaction)
    obtain rfl := s.database.shrinks.eq_of_key hrow hsaved.mem (hid.trans hsaved.id.symm)
    exact .inr (.saves hsaved hevolves trivial)

/-- The note of a worker keeps up with what its run knows. -/
theorem Noted.after {g : Ledger} {c r}
    (h : Noted owner s g) (hperforms : Readers.Performs owner s c r s') :
    Noted owner s' (g.after .any c r) := by
  refine ⟨(hperforms.1.1.admits h.1).2, fun o ho => ?_⟩
  rw [hperforms.station]
  cases c with
  | cluster | clock | newId => exact h.2 o ho
  | store call =>
    cases call with
    | latestShrink workspaceId =>
      cases r with
      | ok latest => exact ho
      | error e => exact h.2 o ho
    | saveShrink operation update =>
      cases r with
      | ok _ => exact ho
      | error e => exact h.2 o ho
    | job call => cases call <;> cases r <;> exact h.2 o ho
    | _ => exact h.2 o ho

/-- One call of a run of the handler. -/
theorem Noted.step {s s' : Readers} {g : Ledger} {c r}
    (h : Noted owner s g) (hfenced : Fenced s owner c r)
    (hperforms : Readers.Performs owner s c r s') (hproper : Proper .any g c r (g.after .any c r)) :
    Moved s s' := by
  cases c with
  | cluster | clock | newId => exact hperforms.moved trivial
  | store call =>
    cases call with
    | saveShrink operation update =>
      refine h.saved hfenced ?_ hproper
      exact hperforms.1.1.of_store
    | _ => exact hperforms.moved trivial

variable {I : Readers → Prop} {α ε : Type}

/-- A routine that keeps a ledger, in an installation whose saves are fenced. -/
theorem always_moved_of_proper {x : Routine signature Unit ε α}
    {post : Except ε α → Unit → Ledger → Prop}
    (hK : ∀ s c r, K.calls s owner c r → Fenced s owner c r)
    (h : x.Holds (Ledger.semantics .any) Eq (Proper .any) post () .blank) :
    Always ((installation K).semantics owner) (fun s₁ s₂ => KeepsStation owner s₁ s₂ ∧ I s₂)
      (fun s₁ _ _ s₂ => Moved s₁ s₂) x := by
  intro _ s
  refine Program.Meets.of_link (L := Noted owner) (Ledger.after .any) h
    ⟨rfl, fun _ ho => (nomatch ho)⟩ ?_ ?_ fun _ _ _ _ _ => trivial
  · rintro s s₁ g ⟨hspoiled, hversion⟩ ⟨hstation, -⟩
    exact ⟨hspoiled, fun o ho => hstation ▸ hversion o ho⟩
  · rintro s c r s₁ g hnoted ⟨hcalls, hperforms⟩
    exact ⟨⟨(hperforms.1.1.admits hnoted.1).1, rfl⟩, fun hproper =>
      ⟨hnoted.step (hK s c r hcalls) hperforms hproper, hnoted.after hperforms⟩⟩

theorem handle_moves (hK : ∀ s c r, K.calls s owner c r → Fenced s owner c r) (job : ClaimedJob) :
    Always ((installation K).semantics owner) (fun s₁ s₂ => KeepsStation owner s₁ s₂ ∧ I s₂)
      (fun s₁ _ _ s₂ => Moved s₁ s₂) (worker.handle job) := by
  refine worker.handle_always job (fun _ _ _ _ hc hcall => hcall.2.moved hc.foreign) ?_
  exact always_moved_of_proper hK (handleStorageShrink_proper .any worker.installation job)

theorem onTerminalFailure_moves (hK : ∀ s c r, K.calls s owner c r → Fenced s owner c r)
    (job : ClaimedJob) (now : ℤ) :
    Always ((installation K).semantics owner) (fun s₁ s₂ => KeepsStation owner s₁ s₂ ∧ I s₂)
      (fun s₁ _ _ s₂ => Moved s₁ s₂) (worker.onTerminalFailure job now) := by
  refine worker.onTerminalFailure_always job now (P := Foreign) (fun _ _ => trivial)
    (fun _ _ _ _ hc hcall => hcall.2.moved hc) ?_
  exact always_moved_of_proper hK (storageShrinkTerminalFailure_proper .any job now)

/-- **Every step is a transition** when saves are fenced. -/
theorem installation_ensures_moved (hK : ∀ s owner c r, K.calls s owner c r → Fenced s owner c r) :
    (installation K).Ensures (fun _ => True) KeepsStation Moved where
  environment s s' _ henv := by
    obtain ⟨-, call, response, -, hforeign, -, hperforms⟩ := henv
    exact .inr (.other hforeign trivial hperforms.1.of_store.writes)
  start owner p s _ hstart := by
    obtain ⟨worker, now, elapsed, rfl, -, rfl⟩ := hstart
    refine (Program.meets_bind _ _ _ _).2 ?_
    refine Worker.runOnce_always (handle_moves (hK · _))
      (onTerminalFailure_moves (hK · _)) ?_ now elapsed () s
    exact fun s c r s' hkeeping hcall => hcall.2.moved hkeeping.foreign

theorem moved_of_step (hK : ∀ s owner c r, K.calls s owner c r → Fenced s owner c r)
    {C C' : Configuration signature Readers String} (hreached : (installation K).Steps ⟨s, idle⟩ C)
    (hstep : (installation K).Step C C') :
    Moved C.store C'.store := by
  rcases (installation_keepsStation K).ensures_of_step (installation_ensures_moved hK) trivial
    hreached hstep with heq | hmoved
  · exact .inl (congrArg Readers.database heq)
  · exact hmoved

/-- What the storage operations keep over all transitions they keep in an installation. -/
theorem OperationInvariant.installation {P : StorageShrinkOperation → Prop}
    (h : OperationInvariant .any P) (hK : ∀ s owner c r, K.calls s owner c r → Fenced s owner c r)
    {C : Configuration signature Readers String} (hreached : (installation K).Steps ⟨s, idle⟩ C)
    (hinvariant : ShrinkInvariant s.database)
    (hP : ∀ row ∈ s.database.shrinks.rows, P row.operation) :
    ShrinkInvariant C.store.database ∧ ∀ row ∈ C.store.database.shrinks.rows, P row.operation := by
  induction hreached with
  | refl => exact ⟨hinvariant, hP⟩
  | @tail C C' hsteps hstep ih =>
    rcases moved_of_step hK hsteps hstep with heq | hmove
    · rw [heq]
      exact ih
    · exact ⟨hmove.invariant ih.1, h.move hmove ih.1 ih.2⟩

end Fenced

/-! ### The flag of the switch -/

theorem Evolves.switched {S o w u} (h : Evolves S o w u) (hswitched : o.switched = true) :
    w.switched = true := by
  cases h with
  | stay hd hf | preflightFailed hd hf | stopping hd hf | forward hd hf | resume hd hf
  | rollBack hd hf | rolledBack hd hf | reclaimFailed hd hf | lostStop _ _ hd hf =>
    exact hf.switched.trans hswitched
  | switch _ _ _ h | lostSwitch _ _ _ _ h => exact h
  | complete _ _ _ h | reclaimed _ _ _ h | lostCompletion _ _ _ _ _ h | lostReclaim _ _ _ _ _ h =>
    exact h.trans hswitched

/-- A transaction that is no save keeps the flag. -/
theorem OperationWritten.switched {db : Database} {call : StoreCall}
    (h : OperationWritten db call row') (hcall : call.Foreign) (hrow : row ∈ db.shrinks.rows)
    (hid : row'.id = row.id) (hswitched : row.operation.switched = true) :
    row'.operation.switched = true := by
  cases h with
  | kept hrow' =>
    rw [db.shrinks.eq_of_key hrow' hrow hid]
    exact hswitched
  | @started operationId jobId workspaceId request actorUserId now _ _ workspace db' hstarted =>
    -- the identifier of a new operation is not in use
    have hnew : newShrinkRow (startedOperation operationId workspace request actorUserId now) now ∈
        db'.shrinks.rows := by
      rw [hstarted.rows]
      exact List.mem_append_right _ List.mem_cons_self
    have hkept : row ∈ db'.shrinks.rows := by
      rw [hstarted.rows]
      exact List.mem_append_left _ hrow
    rw [db'.shrinks.eq_of_key hnew hkept hid]
    exact hswitched
  | @confirmed _ _ _ old hold =>
    obtain rfl := db.shrinks.eq_of_key hold hrow hid
    exact hswitched
  | @retried _ _ _ old hold _ _ h => exact h
  | saved => exact hcall.elim
  | cleaned h =>
    obtain rfl := db.shrinks.eq_of_key h.mem hrow hid
    exact hswitched

theorem ShrinkMoves.switched {db db' : Database} (h : ShrinkMoves .any db db')
    (hinvariant : ShrinkInvariant db) (hrow : row ∈ db.shrinks.rows)
    (hrow' : row' ∈ db'.shrinks.rows) (hid : row'.id = row.id)
    (hswitched : row.operation.switched = true) : row'.operation.switched = true := by
  cases h with
  | other hforeign _ h => exact (h.operation hinvariant hrow').switched hforeign hrow hid hswitched
  | attends hcall h =>
    exact (h.operation hinvariant hrow').switched hcall.foreign hrow hid hswitched
  | observes _ _ _ h =>
    have hforeign : ∀ workspaceId generation observation now,
      (StoreCall.observe workspaceId generation observation now).Foreign := fun _ _ _ _ => trivial
    exact (h.operation hinvariant hrow').switched (hforeign _ _ _ _) hrow hid hswitched
  | saves hsaved hevolves =>
    rw [hsaved.shrinks_eq] at hrow'
    rcases Database.mem_writeShrink hrow' with ⟨hmem, -⟩ | ⟨old, hold, hkey, rfl⟩
    · rw [db.shrinks.eq_of_key hmem hrow hid]
      exact hswitched
    · obtain rfl := db.shrinks.eq_of_key hold hrow hid
      obtain rfl := db.shrinks.eq_of_key hold hsaved.mem hkey
      exact hevolves.switched hswitched

/-- Saves are committed only over the version that their worker has last read or saved. -/
def Conditions.fenced : Conditions := { Conditions.none with calls := Fenced }

/-- **Nothing is switched back.**  In an installation whose saves are fenced, over every
interleaving of its workers and of other processes: a step from a state that is reached leaves an
operation that was switched switched, and in a phase after the switch. -/
theorem switched_stays {s : Readers} (hempty : s.database.shrinks.rows = [])
    {C C' : Configuration signature Readers String}
    (hreached : (installation .fenced).Steps ⟨s, idle⟩ C)
    (hstep : (installation .fenced).Step C C') {row row' : ShrinkRow}
    (hrow : row ∈ C.store.database.shrinks.rows) (hrow' : row' ∈ C'.store.database.shrinks.rows)
    (hid : row'.id = row.id) (hswitched : row.operation.switched = true) :
    row'.operation.switched = true ∧ row'.operation.phase.settled = true := by
  have hfenced : ∀ s owner c r, Conditions.fenced.calls s owner c r → Fenced s owner c r :=
    fun _ _ _ _ h => h
  have hinvariant := ShrinkInvariant.of_no_shrinks hempty
  have hstart : ∀ row ∈ s.database.shrinks.rows, SwitchAgrees row.operation := by
    intro row hrow
    rw [hempty] at hrow
    cases hrow
  have hinvariant' := ((switched_agrees .any).installation hfenced hreached hinvariant hstart).1
  have hagrees := ((switched_agrees .any).installation hfenced (hreached.tail hstep) hinvariant
    hstart).2 row' hrow'
  have hkept : row'.operation.switched = true := by
    rcases moved_of_step hfenced hreached hstep with heq | hmove
    · rw [heq] at hrow'
      rw [C.store.database.shrinks.eq_of_key hrow' hrow hid]
      exact hswitched
    · exact hmove.switched hinvariant' hrow hrow' hid hswitched
  exact ⟨hkept, hagrees.settled hkept⟩

/-! ### Small runs of an installation -/

/-- Answers to the calls of a worker that may depend on its note. -/
abbrev Answering : Type :=
  Database × Station → (c : signature.Call) → signature.Response c × Database

/-- The answer in an installation. -/
def Readers.reply (answer : Answering) (owner : String) (s : Readers) (c : signature.Call) :
    signature.Response c × Readers :=
  ((answer (s.database, s.stations owner) c).1,
    ⟨⟨(answer (s.database, s.stations owner) c).2,
        s.plane.journal ++ records c (answer (s.database, s.stations owner) c).1⟩,
      Function.update s.stations owner
        ((s.stations owner).after c (answer (s.database, s.stations owner) c).1)⟩)

/-- The answers are possible ones, and meet the conditions. -/
def Answering.Meets (answer : Answering) (K : Conditions) (owner : String) : Prop :=
  ∀ s c, Performs s.database c (answer (s.database, s.stations owner) c).1
      (answer (s.database, s.stations owner) c).2 ∧
    K.calls s owner c (answer (s.database, s.stations owner) c).1

section Small

variable {answer : Answering}

theorem Answering.Meets.reply (h : answer.Meets K owner) (s : Readers) (c : signature.Call) :
    (installation K).semantics owner s c (s.reply answer owner c).1
      (s.reply answer owner c).2 :=
  ⟨(h s c).2, ⟨(h s c).1, rfl⟩, rfl⟩

/-- The state of an installation whose worker has made some calls. -/
def Readers.advanced (answer : Answering) (worker : Worker) (now : ℤ) (n : ℕ) (s : Readers) :
    Readers :=
  ((worker.program now).advance (Readers.reply answer worker.leaseOwner) n s).2

theorem steps_advanced (hworker : K.workers worker) (h : answer.Meets K worker.leaseOwner) (now : ℤ)
    (n : ℕ) (s : Readers) (hidle : running worker.leaseOwner = none) :
    (installation K).Steps ⟨s, running⟩ ⟨s.advanced answer worker now n, running⟩ :=
  System.steps_run (M := installation K) (i := worker.leaseOwner) h.reply n
    ⟨worker, now, 0, rfl, hworker, rfl⟩ s hidle

/-- A transaction of another process. -/
def Readers.requested (s : Readers) (call : StoreCall) : Readers :=
  ⟨s.plane.after call, s.stations⟩

theorem step_requested (s : Readers) {call : StoreCall} (hcall : call.Attendance)
    (hforeign : call.Foreign) (hothers : K.others s.database call)
    (running : String → Option (Program signature Unit)) :
    (installation K).Step ⟨s, running⟩ ⟨s.requested call, running⟩ :=
  .environment ⟨rfl, call, _, hcall, hforeign, hothers, .store (.executed fun _ => false), rfl⟩

end Small

/-- Nobody has done anything yet. -/
def Readers.fresh (db : Database) : Readers := ⟨⟨db, []⟩, fun _ => ⟨none, none⟩⟩

/-- The sample installation, whose transactions are executed. -/
def sampleAnswering (now : ℤ) : Answering := fun s => sampleReply sampleAnswer now s.1

theorem sampleAnswering_meets (now : ℤ) (owner : String) :
    (sampleAnswering now).Meets .none owner :=
  fun s c => ⟨sampleReply_performs sampleAnswer now s.database c, trivial⟩

/-- The worker has last seen the version that a save replaces. -/
def Station.admits (station : Station) (db : Database) (operation : StorageShrinkOperation) : Bool :=
  db.shrinks.rows.any fun row =>
    decide (row.id = operation.id ∧ station.version = some row.operation)

/-- The same, with saves that fail unless they are fenced. -/
def fencedAnswering (now : ℤ) : Answering := fun s c =>
  match c with
  | .store (.saveShrink operation update) =>
    if s.2.admits s.1 operation then
      (StoreCall.saveShrink operation update).transaction s.1 fun _ => false
    else (.error (.database "stale"), s.1)
  | c => sampleReply sampleAnswer now s.1 c

theorem fencedAnswering_meets (now : ℤ) (owner : String) :
    (fencedAnswering now).Meets .fenced owner := by
  intro s c
  cases c with
  | cluster | clock | newId => exact ⟨sampleReply_performs sampleAnswer now s.database _, trivial⟩
  | store call =>
    cases call with
    | saveShrink operation update =>
      unfold fencedAnswering
      dsimp only
      split
      · rename_i hadmits
        refine ⟨.store (.executed fun _ => false), ?_⟩
        generalize ((StoreCall.saveShrink operation update).transaction s.database
          fun _ => false).1 = response
        cases response with
        | error e => trivial
        | ok _ =>
          obtain ⟨row, hrow, hversion⟩ := List.any_eq_true.1 hadmits
          exact ⟨row, hrow, of_decide_eq_true hversion⟩
      · exact ⟨.store (.unavailable _), trivial⟩
    | _ => exact ⟨sampleReply_performs sampleAnswer now s.database _, trivial⟩

/-- The phase and the flag of the operation of the sample workspace. -/
def Database.sampleSwitch (db : Database) : List (StorageShrinkPhase × Bool) :=
  db.shrinks.rows.map fun row => (row.operation.phase, row.operation.switched)

/-- A request for a storage operation in the sample installation. -/
def sampleRequested : Readers :=
  (Readers.fresh (sampleDatabase .stopped)).requested (sampleEnqueue false 10)

theorem steps_sampleRequested
    (hothers : K.others (sampleDatabase .stopped) (sampleEnqueue false 10)) :
    (installation K).Steps ⟨Readers.fresh (sampleDatabase .stopped), idle⟩
      ⟨sampleRequested, idle⟩ :=
  have hcall : (sampleEnqueue false 10).Attendance := trivial
  have hforeign : (sampleEnqueue false 10).Foreign := trivial
  .single (step_requested _ hcall hforeign hothers _)

def firstWorker : Worker := ⟨"first", sampleUserId, true⟩
def secondWorker : Worker := ⟨"second", sampleUserId, true⟩

/-- Runs of the two workers in turn, with fenced saves. -/
def fencedRuns : ℕ → Readers
  | 0 => sampleRequested
  | n + 1 => (fencedRuns n).advanced (fencedAnswering (100 * (n + 1)))
      (if n % 2 = 0 then firstWorker else secondWorker) (100 * (n + 1)) 40

theorem steps_fencedRuns (n : ℕ) : (installation .fenced).Steps
    ⟨Readers.fresh (sampleDatabase .stopped), idle⟩ ⟨fencedRuns n, idle⟩ := by
  induction n with
  | zero => exact steps_sampleRequested trivial
  | succ n ih => exact ih.trans (steps_advanced trivial (fencedAnswering_meets _ _) _ _ _ rfl)

/-- The operation is confirmed: the old claim is to be reclaimed. -/
def sampleConfirm : StoreCall := .confirmShrink sampleUserId sampleWorkspaceId sampleOperationId 900

/-- Seven runs switch the sample workspace and complete the operation; it is switched still when it is
confirmed. -/
theorem switched_stays_sample :
    ((fencedRuns 7).requested sampleConfirm).database.sampleSwitch = [(.reclaiming, true)] ∧
      ∀ row ∈ ((fencedRuns 7).requested sampleConfirm).database.shrinks.rows,
        row.id = sampleOperationId →
          row.operation.switched = true ∧ row.operation.phase.settled = true := by
  have hcall : sampleConfirm.Attendance := trivial
  have hforeign : sampleConfirm.Foreign := trivial
  have hconfirmed : ((fencedRuns 7).requested sampleConfirm).database.sampleSwitch
      = [(.reclaiming, true)] := by decide +kernel
  have hswitched : ∃ row ∈ (fencedRuns 7).database.shrinks.rows, row.id = sampleOperationId ∧
      row.operation.switched = true := by decide +kernel
  have hsteps := steps_fencedRuns 7
  -- from here on nothing is computed
  generalize fencedRuns 7 = s at hconfirmed hswitched hsteps ⊢
  obtain ⟨row, hrow, hid, hswitched⟩ := hswitched
  exact ⟨hconfirmed, fun row' hrow' hid' => switched_stays rfl hsteps
    (step_requested s hcall hforeign trivial idle) hrow hrow' (hid'.trans hid.symm) hswitched⟩

/-! ### A save that comes too late -/

/-- Runs of the second worker, with saves that are not fenced. -/
def secondRun (now : ℤ) (s : Readers) : Readers :=
  s.advanced (sampleAnswering now) secondWorker now 40

theorem steps_secondRun (now : ℤ) (s : Readers) (hidle : running secondWorker.leaseOwner = none) :
    (installation .none).Steps ⟨s, running⟩ ⟨secondRun now s, running⟩ :=
  steps_advanced trivial (sampleAnswering_meets _ _) _ _ _ hidle

/-- The operation is about to be verified. -/
def copied : Readers :=
  secondRun 400 (secondRun 300 (secondRun 200 (secondRun 100 sampleRequested)))

/-- What is left of the run of the first worker, which has read the operation and is about to save
it, and the state it has left. -/
def paused : Program signature Unit × Readers :=
  (firstWorker.program 500).advance
    (Readers.reply (sampleAnswering 500) firstWorker.leaseOwner) 9 copied

/-- The leases of the first worker have expired; the second one has verified and switched. -/
def overtaken : Readers := secondRun 700 (secondRun 600 paused.2)

/-- The first worker goes on. -/
def resumed : Program signature Unit × Readers :=
  paused.1.advance (Readers.reply (sampleAnswering 500) firstWorker.leaseOwner) 1 overtaken

/-- **A stale save switches an operation back.**  The first worker has read the operation in its
phase `verifying` and pauses; its leases expire, the second worker claims the job, verifies and
switches; the save of the first worker then makes the operation one that is not switched. -/
theorem stale_save_unswitches : ∃ C C' : Configuration signature Readers String,
    (installation .none).Steps ⟨Readers.fresh (sampleDatabase .stopped), idle⟩ C ∧
      (installation .none).Steps C C' ∧
      C.store.database.sampleSwitch = [(.resuming, true)] ∧
      C'.store.database.sampleSwitch = [(.verifying, false)] := by
  let waiting : String → Option (Program signature Unit) :=
    Function.update idle firstWorker.leaseOwner (some paused.1)
  refine ⟨⟨overtaken, waiting⟩, ⟨resumed.2, Function.update idle firstWorker.leaseOwner
    (some resumed.1)⟩, ?_, ?_, by decide +kernel, by decide +kernel⟩
  · have hcopied : (installation .none).Steps ⟨Readers.fresh (sampleDatabase .stopped), idle⟩
        ⟨copied, idle⟩ :=
      (((steps_sampleRequested trivial).trans (steps_secondRun 100 _ rfl)).trans
        (steps_secondRun 200 _ rfl)).trans ((steps_secondRun 300 _ rfl).trans
          (steps_secondRun 400 _ rfl))
    have hpaused : (installation .none).Steps ⟨copied, idle⟩ ⟨paused.2, waiting⟩ :=
      .head (.start firstWorker.leaseOwner (firstWorker.program 500) rfl
          ⟨firstWorker, 500, 0, rfl, trivial, rfl⟩)
        (System.steps_advance (M := installation .none) (i := firstWorker.leaseOwner)
          (sampleAnswering_meets 500 _).reply 9 _ copied idle)
    have hidle : waiting secondWorker.leaseOwner = none :=
      Function.update_of_ne (by decide) _ _
    exact (hcopied.trans hpaused).trans
      ((steps_secondRun 600 _ hidle).trans (steps_secondRun 700 _ hidle))
  · exact System.steps_advance (M := installation .none) (i := firstWorker.leaseOwner)
      (sampleAnswering_meets 500 _).reply 1 paused.1 overtaken idle

end WorkspaceControl
