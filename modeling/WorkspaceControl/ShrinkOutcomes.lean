/-
**How a storage operation ends.**

The flags of an operation and its phase: which phases follow the switch of the volumes, which
operations may be marked as reclaimable, what can come after the sources are being reclaimed, and
what a failure before the workspace is stopped leaves behind.  All of it is read off the
transitions of an operation.

One defect runs through the machine.  A phase changes the operation in memory before it saves it;
when the save fails the error path of the driver saves what is in memory by then, in the phase
`rollingBack`.  Each result below is about one of these saves: it holds in every run in which the
failure of that save is the end of the run, as far as the database is concerned, and the run in
which it is not stands next to it.

Main definitions:

* `StorageShrinkPhase.settled` — the phases from the switch on;
* `SwitchAgrees`, `ReclaimAgrees` — the flags of an operation agree with its phase;
* `Reclaims` — a workspace of which at most one operation is active, to reclaim its sources;
* `Waits` — a workspace that has not been stopped for an operation.

Main results:

* `switched_agrees` — an operation is marked as switched in the settled phases only, and always
  once it is resumed;
* `finished_operations_leave_a_way` — an operation that has ended can be reclaimed, or another one
  can be requested;
* `reclaiming_is_final` — nothing but the end of the operation follows `reclaiming`;
* `preflight_failure_is_harmless` — a failure before the workspace was stopped leaves it alone.
-/

import WorkspaceControl.ShrinkRuns

set_option autoImplicit false

namespace WorkspaceControl

open Fallible Relational

/-! ### The phases from the switch on -/

/-- The phases in which an operation may be marked as switched. -/
def StorageShrinkPhase.settled : StorageShrinkPhase → Bool
  | resuming | rollingBack | completed | failed | reclaiming | reclaimed => true
  | _ => false

/-- The phases that only a switched operation has. -/
def StorageShrinkPhase.resumed : StorageShrinkPhase → Bool
  | resuming | completed | reclaiming | reclaimed => true
  | _ => false

/-- The flag of the switch agrees with the phase. -/
structure SwitchAgrees (o : StorageShrinkOperation) : Prop where
  settled : o.switched = true → o.phase.settled = true
  resumed : o.phase.resumed = true → o.switched = true

variable {u : ShrinkWorkspaceUpdate} {jobId operationId workspaceId : Uuid} {db db' : Database}
  {S : Surroundings} {o w : StorageShrinkOperation}

section Agrees

theorem SwitchAgrees.unswitched (h : SwitchAgrees o) (hphase : o.phase.settled = false) :
    o.switched = false := by
  by_contra hswitched
  rw [h.settled (by simpa using hswitched)] at hphase
  cases hphase

theorem Forward.unsettled {phase next : StorageShrinkPhase} (h : Forward phase next u) :
    phase.settled = false ∧ next.settled = false := by
  cases h <;> exact ⟨rfl, rfl⟩

/-- A version that is neither switched nor resumed. -/
theorem SwitchAgrees.of_unswitched (hswitched : w.switched = false)
    (hphase : w.phase.resumed = false) : SwitchAgrees w :=
  ⟨fun h => (Bool.false_ne_true (hswitched.symm.trans h)).elim,
    fun h => (Bool.false_ne_true (hphase.symm.trans h)).elim⟩

theorem SwitchAgrees.of_switched (hswitched : w.switched = true)
    (hphase : w.phase.settled = true) : SwitchAgrees w :=
  ⟨fun _ => hphase, fun _ => hswitched⟩

/-- A version in a phase that does not depend on the flag. -/
theorem SwitchAgrees.of_recovery (hsettled : w.phase.settled = true)
    (hphase : w.phase.resumed = false) : SwitchAgrees w :=
  ⟨fun _ => hsettled, fun h => (Bool.false_ne_true (hphase.symm.trans h)).elim⟩

theorem SwitchAgrees.evolves (h : SwitchAgrees o) (hevolves : Evolves S o w u) :
    SwitchAgrees w := by
  cases hevolves with
  | stay hd hf ho hw =>
    refine ⟨?_, ?_⟩
    · rw [hf.switched, hw]
      exact h.settled
    · rw [hf.switched, hw]
      exact h.resumed
  | preflightFailed _ _ _ hw | rollBack _ _ _ hw | rolledBack _ _ _ hw | lostStop _ _ _ _ _ _ hw
  | lostSwitch _ _ _ hw | lostCompletion _ _ _ _ hw | lostReclaim _ _ _ _ hw =>
    exact .of_recovery (by rw [hw]; rfl) (by rw [hw]; rfl)
  | stopping hd hf hfound ho hw =>
    refine .of_unswitched ?_ (by rw [hw]; rfl)
    rw [hf.switched, h.unswitched (by rw [ho]; rfl)]
  | forward hd hf hforward =>
    obtain ⟨hbefore, hnext⟩ := hforward.unsettled
    refine .of_unswitched (hf.switched.trans (h.unswitched hbefore)) ?_
    generalize w.phase = next at hnext
    cases next <;> first | rfl | cases hnext
  | switch hd ho hw hswitched => exact .of_switched hswitched (by rw [hw]; rfl)
  | resume hd hf ho hw | reclaimFailed hd hf ho hw =>
    exact .of_switched (hf.switched.trans (h.resumed (by rw [ho]; rfl))) (by rw [hw]; rfl)
  | complete hd ho hw hswitched =>
    refine .of_switched (hswitched.trans (h.resumed (by rw [ho]; rfl))) ?_
    rcases hw with hw | hw <;> rw [hw] <;> rfl
  | reclaimed hd ho hw hswitched =>
    exact .of_switched (hswitched.trans (h.resumed (by rw [ho]; rfl))) (by rw [hw]; rfl)

/-- **The flag of the switch agrees with the phase** in every state. -/
theorem switched_agrees (S : Surroundings) : OperationInvariant S SwitchAgrees where
  started _ _ _ _ _ _ _ _ _ := .of_unswitched rfl rfl
  confirmed o _ h hphase _ := .of_switched (h.resumed (by rw [hphase]; rfl)) rfl
  retried _ _ _ _ hswitched _ := .of_switched hswitched rfl
  evolves _ _ _ := SwitchAgrees.evolves
  cleaned _ _ _ h _ _ := ⟨h.settled, h.resumed⟩

end Agrees

/-! ### Operations that have ended -/

/-- The phases in which sources wait to be reclaimed. -/
def StorageShrinkPhase.reclaims : StorageShrinkPhase → Bool
  | completed | reclaiming => true
  | _ => false

/-- Sources are marked as reclaimable only after the operation was completed. -/
def ReclaimAgrees (o : StorageShrinkOperation) : Prop :=
  o.reclaimable = true → o.phase.reclaims = true

section Reclaim

theorem ReclaimAgrees.unreclaimable (h : ReclaimAgrees o) (hphase : o.phase.reclaims = false) :
    o.reclaimable = false := by
  by_contra hreclaimable
  rw [h (by simpa using hreclaimable)] at hphase
  cases hphase

theorem ReclaimAgrees.of_unreclaimable (h : w.reclaimable = false) : ReclaimAgrees w :=
  fun hw => (Bool.false_ne_true (h.symm.trans hw)).elim

/-- A version with the same flags as one in a phase in which nothing is reclaimable. -/
theorem ReclaimAgrees.of_same (h : ReclaimAgrees o) (hphase : o.phase.reclaims = false)
    (hsame : w.reclaimable = o.reclaimable) : ReclaimAgrees w :=
  .of_unreclaimable (hsame.trans (h.unreclaimable hphase))

theorem ReclaimAgrees.evolves
    (hcritical : ∀ lost : StorageShrinkOperation, lost.phase = .completed →
      S.critical lost .none = true) (h : ReclaimAgrees o) (hevolves : Evolves S o w u) :
    ReclaimAgrees w := by
  cases hevolves with
  | stay hd hf ho hw =>
    intro hreclaimable
    rw [hw]
    exact h (hf.reclaimable.symm.trans hreclaimable)
  | preflightFailed _ hf ho | stopping _ hf _ ho | resume _ hf ho | rolledBack _ hf ho
  | lostStop _ _ _ hf _ ho => exact h.of_same (by rw [ho]; rfl) hf.reclaimable
  | forward hd hf hforward =>
    refine h.of_same ?_ hf.reclaimable
    generalize o.phase = before, w.phase = next at hforward
    cases hforward <;> rfl
  | switch _ ho _ _ hreclaimable | lostSwitch _ _ ho _ _ hreclaimable =>
    exact h.of_same (by rw [ho]; rfl) hreclaimable
  | complete hd ho hw hswitched hreclaimable =>
    intro _
    rcases hw with hw | hw <;> rw [hw] <;> rfl
  | rollBack hd hf ho hw =>
    refine h.of_same ?_ hf.reclaimable
    generalize o.phase = before at ho
    cases before <;> first | rfl | cases ho
  | reclaimed _ _ _ _ hreclaimable | lostReclaim _ _ _ _ _ _ hreclaimable =>
    exact .of_unreclaimable hreclaimable
  | reclaimFailed hd hf ho hw =>
    intro _
    rw [hw]
    rfl
  | lostCompletion hlost hcompleted => cases hlost.symm.trans (hcritical _ hcompleted)

theorem reclaimable_agrees
    (hcritical : ∀ lost : StorageShrinkOperation, lost.phase = .completed →
      S.critical lost .none = true) : OperationInvariant S ReclaimAgrees where
  started _ _ _ _ _ _ _ _ _ := .of_unreclaimable rfl
  confirmed _ _ _ _ _ := fun _ => rfl
  retried _ _ _ _ _ hreclaimable := .of_unreclaimable hreclaimable
  evolves _ _ _ := ReclaimAgrees.evolves hcritical
  cleaned _ _ _ h _ _ := h

variable {document : WorkspaceTemplateDocument} {row : WorkspaceRow} {workspace : Workspace}

/-- Another operation may be requested when the latest one has nothing to reclaim. -/
theorem enqueueStorageShrink_of_unreclaimable (hfound : db.workspaces.find workspaceId = some row)
    (hdecodes : Decodes row document workspace) (hidle : db.Idle workspaceId)
    (hlatest : ∀ o ∈ db.latestStorageShrink workspaceId, o.reclaimable = false)
    {request : StorageShrinkRequest} (hvalid : request.validate workspace = .ok ())
    (hoperation : ∀ r ∈ db.shrinks.rows, r.id ≠ operationId)
    (hjob : ∀ r ∈ db.jobs.rows, r.id ≠ jobId) (actorUserId : Uuid) (now : ℤ) :
    ∃ result, enqueueStorageShrink db operationId jobId workspaceId request actorUserId now =
      .ok result := by
  have hid : workspace.id = workspaceId := hdecodes.id.trans (Table.find_eq_some.1 hfound).2
  have hfetch : db.fetchWorkspace workspaceId = .ok (row, workspace) :=
    Database.fetchWorkspace_eq_ok.2 ⟨hfound, document, hdecodes⟩
  have hnone : (db.activeShrinks workspaceId).head? = none := by
    rw [Database.activeShrinks_eq_nil.2 hidle]
    rfl
  have hany : (!(db.latestStorageShrink workspaceId).any (·.reclaimable)) = true := by
    rw [Bool.not_eq_true', Option.any_eq_false]
    exact fun o ho => by simpa using hlatest o ho
  let operation := startedOperation operationId workspace request actorUserId now
  let shrinks := db.shrinks.insert (newShrinkRow operation now) hoperation
  let inserted : Database := { db with shrinks }
  have hfresh : ∀ r ∈ inserted.jobs.rows, r.id ≠ jobId := hjob
  obtain ⟨db', hdispatch⟩ := dispatchShrink_of_new hfresh workspaceId operationId now
  rw [← hid] at hany hdispatch
  refine ⟨(operation, db'), ?_⟩
  simp only [enqueueStorageShrink, startStorageShrink, bind_eq_ok, hnone, Prod.exists]
  exact ⟨row, workspace, hfetch, (), ensure_eq_ok.2 hany, (), hvalid, shrinks,
    okOr_eq_ok.2 (Table.insertNew_of_new hoperation), db', hdispatch, rfl⟩

/-- The sources of a completed operation may be reclaimed in the state in which it was meant to
leave the workspace. -/
theorem confirmStorageShrink_of_completed (hfound : db.workspaces.find workspaceId = some row)
    (hdecodes : Decodes row document workspace) (hidle : db.Idle workspaceId)
    (hlatest : db.latestStorageShrink workspaceId = some o) (hphase : o.phase = .completed)
    (hreclaimable : o.reclaimable = true)
    (hstate : workspace.state = if o.resume then .ready else .stopped)
    (hjob : ∀ r ∈ db.jobs.rows, r.id ≠ jobId) (now : ℤ) :
    ∃ result, confirmStorageShrink db jobId workspaceId o.id now = .ok result := by
  have hfetch : db.fetchWorkspace workspaceId = .ok (row, workspace) :=
    Database.fetchWorkspace_eq_ok.2 ⟨hfound, document, hdecodes⟩
  have hconfirmable : o.confirmable workspace = true := by
    rw [StorageShrinkOperation.confirmable, hphase, hreclaimable, hstate]
    cases o.resume <;> rfl
  have hactive : (!db.storageShrinkActive workspaceId) = true := by
    rw [Bool.not_eq_true', Database.storageShrinkActive_eq_false]
    exact hidle
  let written : Database := db.writeShrink o.id (ShrinkRow.activate (o.reclaim now) now) fun _ => rfl
  have hfresh : ∀ r ∈ written.jobs.rows, r.id ≠ jobId := hjob
  obtain ⟨db', hdispatch⟩ := dispatchShrink_of_new hfresh workspaceId o.id now
  refine ⟨(o.reclaim now, db'), ?_⟩
  have hother : ¬ (o.phase = .reclaiming ∨ o.phase = .reclaimed) := by
    rw [hphase]
    decide
  simp only [confirmStorageShrink, bind_eq_ok, Prod.exists]
  refine ⟨row, workspace, hfetch, o, okOr_eq_ok.2 hlatest, (), ensure_eq_ok.2 (decide_eq_true rfl),
    ?_⟩
  rw [if_neg hother]
  exact bind_eq_ok.2 ⟨(), ensure_eq_ok.2 hconfirmable, bind_eq_ok.2 ⟨(), ensure_eq_ok.2 hactive,
    bind_eq_ok.2 ⟨db', hdispatch, rfl⟩⟩⟩

/-- **An operation that has ended leaves a way on.**  In every run in which a failed save of a
completed operation is the end of its run: an operation that is marked as reclaimable is switched
and completed or being reclaimed, and once the latest operation of a workspace has ended either
every valid request for another one is accepted, or its sources can be reclaimed. -/
theorem finished_operations_leave_a_way (S : Surroundings)
    (hcritical : ∀ lost : StorageShrinkOperation, lost.phase = .completed →
      S.critical lost .none = true)
    {db₀ db : Database} (hstart : db₀.shrinks.rows = [])
    (hrun : Relation.ReflTransGen (ShrinkStep S) db₀ db) :
    (∀ row ∈ db.shrinks.rows, row.operation.reclaimable = true →
      row.operation.switched = true ∧
        (row.operation.phase = .completed ∨ row.operation.phase = .reclaiming)) ∧
    ∀ workspaceId row document workspace o, db.workspaces.find workspaceId = some row →
      Decodes row document workspace → db.Idle workspaceId →
      db.latestStorageShrink workspaceId = some o → o.phase.active = false →
      (∀ operationId jobId request actorUserId now, request.validate workspace = .ok () →
        (∀ r ∈ db.shrinks.rows, r.id ≠ operationId) → (∀ r ∈ db.jobs.rows, r.id ≠ jobId) →
        ∃ result, enqueueStorageShrink db operationId jobId workspaceId request actorUserId now =
          .ok result) ∨
      (workspace.state = (if o.resume then .ready else .stopped) →
        ∀ jobId now, (∀ r ∈ db.jobs.rows, r.id ≠ jobId) →
          ∃ result, confirmStorageShrink db jobId workspaceId o.id now = .ok result) := by
  have hbefore : ShrinkInvariant db₀ := .of_no_shrinks hstart
  have hnone : ∀ {P : StorageShrinkOperation → Prop}, ∀ row ∈ db₀.shrinks.rows, P row.operation := by
    intro P row hrow
    rw [hstart] at hrow
    cases hrow
  obtain ⟨hmoves, hinvariant⟩ := moves_of_steps hrun hbefore
  have hswitched := (switched_agrees S).moves hmoves hbefore hnone
  have hreclaimable := (reclaimable_agrees hcritical).moves hmoves hbefore hnone
  have hagrees : ∀ row ∈ db.shrinks.rows, row.operation.reclaimable = true →
      row.operation.switched = true ∧
        (row.operation.phase = .completed ∨ row.operation.phase = .reclaiming) := by
    intro row hrow hmarked
    have hreclaims := hreclaimable row hrow hmarked
    refine ⟨(hswitched row hrow).resumed ?_, ?_⟩
    · generalize row.operation.phase = phase at hreclaims
      cases phase <;> first | rfl | cases hreclaims
    · generalize row.operation.phase = phase at hreclaims
      cases phase <;> first | exact .inl rfl | exact .inr rfl | cases hreclaims
  refine ⟨hagrees, ?_⟩
  intro workspaceId row document workspace o hfound hdecodes hidle hlatest hended
  by_cases hmarked : o.reclaimable = true
  · refine .inr fun hstate jobId now hjob => ?_
    obtain ⟨stored, hstored, rfl, -⟩ := hinvariant.latest hlatest
    have hphase : stored.operation.phase = .completed := by
      rcases (hagrees stored hstored hmarked).2 with hphase | hphase
      · exact hphase
      · rw [hphase] at hended
        cases hended
    exact confirmStorageShrink_of_completed hfound hdecodes hidle hlatest hphase hmarked hstate hjob
      now
  · refine .inl fun operationId jobId request actorUserId now hvalid hoperation hjob => ?_
    refine enqueueStorageShrink_of_unreclaimable hfound hdecodes hidle ?_ hvalid hoperation hjob
      actorUserId now
    intro latest hmem
    obtain rfl := Option.some_inj.1 (hlatest.symm.trans (Option.mem_def.1 hmem))
    simpa using hmarked

/-- A completed save is critical. -/
abbrev completionCritical : Surroundings :=
  .failing fun operation _ => operation.phase = .completed

theorem sampleRuns_completed :
    (sampleRuns completionCritical (fun _ _ => false) 7 (sampleStart false)).shrinks.rows.any
      (fun row => row.operation.reclaimable) = true := by
  decide +kernel

/-- A sample run in which nothing fails: the operation is completed, and its sources can be
reclaimed. -/
theorem finished_operations_leave_a_way_completed :
    ∃ row ∈ (sampleRuns completionCritical (fun _ _ => false) 7 (sampleStart false)).shrinks.rows,
      row.operation.reclaimable = true ∧ row.operation.switched = true ∧
        (row.operation.phase = .completed ∨ row.operation.phase = .reclaiming) := by
  obtain ⟨row, hrow, hreclaimable⟩ := List.any_eq_true.1 sampleRuns_completed
  exact ⟨row, hrow, hreclaimable, (finished_operations_leave_a_way completionCritical
    (fun lost hlost => decide_eq_true hlost) rfl (steps_sampleStart (fun _ _ _ => trivial)
      (fun _ => trivial) trivial 7)).1 row hrow hreclaimable⟩

/-- While the latest operation has failed with reclaimable sources nothing is started: a request
and a retry want none of them, a confirmation wants the operation completed. -/
theorem StoreCall.Writes.eq_of_stuck {call : StoreCall}
    (hlatest : db.latestStorageShrink workspaceId = some o) (hphase : o.phase = .failed)
    (hreclaimable : o.reclaimable = true) (hcall : call.Dispatches workspaceId)
    (h : call.Writes db db') : db' = db := by
  cases h with
  | nothing => rfl
  | started h =>
    obtain rfl := hcall
    rw [h.latest o hlatest] at hreclaimable
    cases hreclaimable
  | confirmed h hlatest' hconfirmable =>
    obtain rfl := hcall
    obtain rfl := Option.some_inj.1 (hlatest.symm.trans hlatest')
    cases hphase.symm.trans (StorageShrinkOperation.of_confirmable hconfirmable).1
  | retried h hlatest' hretryable =>
    obtain rfl := hcall
    obtain ⟨-, -, -, -, hunmarked, -⟩ := validateRetryOperation_eq_ok hretryable.operation
    rw [Database.latestStorageShrink, hlatest'] at hlatest
    obtain rfl := Option.some_inj.1 hlatest
    cases hunmarked.symm.trans hreclaimable
  | _ => exact hcall.elim

theorem sampleRuns_lost_completion :
    (fun db : Database => (db.latestStorageShrink sampleWorkspaceId).any (fun o =>
        decide (o.phase = .failed) && o.reclaimable) && !db.storageShrinkActive sampleWorkspaceId)
      (sampleRuns .any (fun operation _ => operation.phase = .completed) 8 (sampleStart false)) =
      true := by
  decide +kernel

/-- **The way on is lost when the save that completes an operation fails**: the error path saves
the operation with reclaimable sources as `rollingBack`, and it ends as `failed`.  From then on
every request, confirmation and retry is refused. -/
theorem lost_completion_leaves_no_way :
    ∃ db, Relation.ReflTransGen (ShrinkStep .any) (sampleDatabase .stopped) db ∧
      ∃ o, db.latestStorageShrink sampleWorkspaceId = some o ∧ o.phase = .failed ∧
        o.reclaimable = true ∧ db.Idle sampleWorkspaceId ∧
        ∀ (call : StoreCall) (response : call.Response) (db' : Database),
          call.Dispatches sampleWorkspaceId → call.Performs db response db' → db' = db := by
  obtain ⟨hstuck, hidle⟩ := Bool.and_eq_true_iff.1 sampleRuns_lost_completion
  obtain ⟨o, hlatest, hmarked⟩ := (Option.any_eq_true ..).1 hstuck
  obtain ⟨hphase, hreclaimable⟩ := Bool.and_eq_true_iff.1 hmarked
  refine ⟨_, steps_sampleStart (fun _ _ _ => trivial) (fun _ => trivial) trivial 8, o, hlatest,
    of_decide_eq_true hphase, hreclaimable,
    Database.storageShrinkActive_eq_false.1 (Bool.not_eq_true' _ ▸ hidle), ?_⟩
  intro call response db' hcall hperforms
  exact hperforms.writes.eq_of_stuck hlatest (of_decide_eq_true hphase) hreclaimable hcall

end Reclaim

/-! ### Reclamation -/

/-- The phases that follow the phase `reclaiming`. -/
def StorageShrinkPhase.final : StorageShrinkPhase → Bool
  | reclaiming | completed | reclaimed => true
  | _ => false

theorem StorageShrinkPhase.eq_reclaiming {phase : StorageShrinkPhase} (hfinal : phase.final = true)
    (hactive : phase.active = true) : phase = .reclaiming := by
  revert hfinal hactive
  cases phase <;> decide

section Final

/-- The transitions of an operation that reclaims its sources leave the workspace alone. -/
theorem Evolves.of_reclaiming (h : Evolves S o w u) (ho : o.phase = .reclaiming)
    (hcritical : ∀ lost : StorageShrinkOperation, lost.phase = .reclaimed →
      S.critical lost .none = true) : u = .none ∧ w.phase.final = true := by
  cases h with
  | stay hd hf _ hw => exact ⟨rfl, by rw [hw, ho]; rfl⟩
  | reclaimed _ _ hw | reclaimFailed _ _ _ hw => exact ⟨rfl, by rw [hw]; rfl⟩
  | lostReclaim hlost hreclaimed => cases hlost.symm.trans (hcritical _ hreclaimed)
  | forward _ _ h | rollBack _ _ h =>
    rw [ho] at h
    cases h
  | preflightFailed _ _ h | stopping _ _ _ h | switch _ h | resume _ _ h | complete _ h
  | rolledBack _ _ h | lostStop _ _ _ _ _ h | lostSwitch _ _ h | lostCompletion _ _ _ h =>
    cases ho.symm.trans h

/-- **The phases after `reclaiming`**, of an operation whose identifier is not used again. -/
theorem final_invariant
    (hcritical : ∀ lost : StorageShrinkOperation, lost.phase = .reclaimed →
      S.critical lost .none = true)
    (hnew : ∀ db id jobId workspaceId request actorUserId now,
      S.others db (.enqueueShrink id jobId workspaceId request actorUserId now) →
      id ≠ operationId) :
    OperationInvariant S fun o => o.id = operationId → o.phase.final = true where
  started db id jobId workspaceId request actorUserId now workspace hothers hid :=
    absurd hid (hnew db id jobId workspaceId request actorUserId now hothers)
  confirmed _ _ _ _ _ := fun _ => rfl
  retried o now h hphase _ _ := fun hid => by
    rw [hphase] at h
    cases h hid
  evolves o w u h hevolves := fun hid => by
    have hfinal := h (hevolves.drifts.id.symm.trans hid)
    exact (hevolves.of_reclaiming (StorageShrinkPhase.eq_reclaiming hfinal hevolves.active)
      hcritical).2
  cleaned _ _ _ h _ _ := h

/-- At most one operation of the workspace is active, and it reclaims its sources. -/
def Reclaims (workspaceId : Uuid) (db : Database) : Prop :=
  ∀ row ∈ db.shrinks.rows, row.workspaceId = workspaceId → row.active = true →
    row.operation.phase = .reclaiming

/-- While sources are reclaimed no run changes the workspace. -/
theorem ShrinkMoves.find_eq_of_reclaims (h : ShrinkMoves S db db')
    (hcritical : ∀ lost : StorageShrinkOperation, lost.phase = .reclaimed →
      S.critical lost .none = true)
    (halone : ∀ db call, ¬ S.others db call) (hinvariant : ShrinkInvariant db)
    (hreclaims : Reclaims workspaceId db) :
    db'.workspaces.find workspaceId = db.workspaces.find workspaceId ∧
      Reclaims workspaceId db' := by
  cases h with
  | other _ hothers => exact absurd hothers (halone _ _)
  | attends hcall h =>
    refine ⟨(h.row workspaceId).eq_of_not_concerns hcall.not_concerns, ?_⟩
    intro row hrow hworkspace hactive
    cases h.operation hinvariant hrow with
    | kept hrow => exact hreclaims row hrow hworkspace hactive
    | cleaned hcleaned => cases hcleaned.inactive.symm.trans hactive
    | _ => exact hcall.elim
  | @observes observed generation observation now row _ hrow hworkspace hphase h =>
    have hne : observed ≠ workspaceId := by
      rintro rfl
      have hactive : row.active = true := by
        rw [(hinvariant.agrees row hrow).active, hphase]
        rfl
      cases hphase.symm.trans (hreclaims row hrow hworkspace hactive)
    refine ⟨(h.row workspaceId).eq_of_not_concerns hne, ?_⟩
    intro row hrow hworkspace hactive
    cases h.operation hinvariant hrow with
    | kept hrow => exact hreclaims row hrow hworkspace hactive
  | @saves operation update _ _ _ saved _ h hevolves hcommits =>
    by_cases hworkspace : saved.workspaceId = workspaceId
    · have hphase := hreclaims saved h.mem hworkspace h.active
      obtain ⟨rfl, hfinal⟩ := hevolves.of_reclaiming hphase hcritical
      refine ⟨?_, ?_⟩
      · rcases h.find_eq with ⟨-, hsame⟩ | ⟨_, _, hchange, -⟩
        · exact hsame _
        · exact absurd rfl hchange
      · intro row hrow hworkspace' hactive
        rw [h.shrinks_eq] at hrow
        rcases Database.mem_writeShrink hrow with ⟨hrow, -⟩ | ⟨old, hold, hid, rfl⟩
        · exact hreclaims row hrow hworkspace' hactive
        · exact StorageShrinkPhase.eq_reclaiming hfinal hactive
    · refine ⟨?_, ?_⟩
      · refine (StoreCall.Writes.row (.saved h) workspaceId).eq_of_not_concerns fun heq => ?_
        exact hworkspace (h.workspaceId.trans heq)
      · intro row hrow hworkspace' hactive
        rw [h.shrinks_eq] at hrow
        rcases Database.mem_writeShrink hrow with ⟨hrow, -⟩ | ⟨old, hold, hid, rfl⟩
        · exact hreclaims row hrow hworkspace' hactive
        · obtain rfl := db.shrinks.eq_of_key hold h.mem hid
          exact absurd hworkspace' hworkspace

/-- **Nothing but the end of an operation follows `reclaiming`.**  In every run in which a failed
save of a reclaimed operation is the end of its run: an operation that has come to reclaim its
sources is being reclaimed, completed or reclaimed ever after, and unless another operation of the
workspace is active no run changes the row of the workspace. -/
theorem reclaiming_is_final (S : Surroundings)
    (hcritical : ∀ lost : StorageShrinkOperation, lost.phase = .reclaimed →
      S.critical lost .none = true)
    {db₀ db₁ db₂ : Database} (hstart : db₀.shrinks.rows = [])
    (hbefore : Relation.ReflTransGen (ShrinkStep .any) db₀ db₁) {row : ShrinkRow}
    (hrow : row ∈ db₁.shrinks.rows) (hphase : row.operation.phase = .reclaiming)
    (hnew : ∀ db id jobId workspaceId request actorUserId now,
      S.others db (.enqueueShrink id jobId workspaceId request actorUserId now) → id ≠ row.id)
    (hafter : Relation.ReflTransGen (ShrinkStep S) db₁ db₂) :
    (∀ row' ∈ db₂.shrinks.rows, row'.id = row.id →
      row'.operation.phase = .reclaiming ∨ row'.operation.phase = .completed ∨
        row'.operation.phase = .reclaimed) ∧
    ∀ db₃, (∀ r ∈ db₂.shrinks.rows, r.workspaceId = row.workspaceId → r.active = true →
        r.id = row.id) →
      ShrinkRun S.alone db₂ db₃ →
      db₃.workspaces.find row.workspaceId = db₂.workspaces.find row.workspaceId := by
  obtain ⟨-, hinvariant₁⟩ := moves_of_steps hbefore (.of_no_shrinks hstart)
  obtain ⟨hmoves, hinvariant₂⟩ := moves_of_steps hafter hinvariant₁
  have hfinal : ∀ r ∈ db₂.shrinks.rows, r.id = row.id → r.operation.phase.final = true := by
    have hnow : ∀ r ∈ db₁.shrinks.rows, r.operation.id = row.id → r.operation.phase.final = true := by
      intro r hr hid
      have hkey : r.id = row.id := (hinvariant₁.agrees r hr).id.symm.trans hid
      rw [db₁.shrinks.eq_of_key hr hrow hkey, hphase]
      rfl
    intro r hr hid
    exact (final_invariant hcritical hnew).moves hmoves hinvariant₁ hnow r hr
      ((hinvariant₂.agrees r hr).id.trans hid)
  refine ⟨?_, ?_⟩
  · intro r hr hid
    have hphase' := hfinal r hr hid
    generalize r.operation.phase = phase at hphase'
    cases phase <;> first | exact .inl rfl | exact .inr (.inl rfl) | exact .inr (.inr rfl) |
      cases hphase'
  · intro db₃ hsole hrun
    have hreclaims : Reclaims row.workspaceId db₂ := by
      intro r hr hworkspace hactive
      refine StorageShrinkPhase.eq_reclaiming (hfinal r hr (hsole r hr hworkspace hactive)) ?_
      exact (hinvariant₂.agrees r hr).active.symm.trans hactive
    obtain ⟨hmoves', -⟩ := hrun.moves hinvariant₂
    clear hrun
    -- every transition of the run leaves the row of the workspace alone
    suffices hall : db₃.workspaces.find row.workspaceId = db₂.workspaces.find row.workspaceId ∧
        Reclaims row.workspaceId db₃ ∧ ShrinkInvariant db₃ from hall.1
    induction hmoves' with
    | refl => exact ⟨rfl, hreclaims, hinvariant₂⟩
    | tail _ hmove ih =>
      obtain ⟨hsame, hreclaims', hinvariant'⟩ := ih
      obtain ⟨hsame', hreclaims''⟩ :=
        hmove.find_eq_of_reclaims hcritical (fun _ _ => id) hinvariant' hreclaims'
      exact ⟨hsame'.trans hsame, hreclaims'', hmove.invariant hinvariant'⟩

/-- A save of a reclaimed operation is critical, and nobody else is at work. -/
abbrev reclaimCritical : Surroundings :=
  (Surroundings.failing fun operation _ => operation.phase = .reclaimed).alone

/-- The sample run with consent to the reclamation, up to it. -/
def sampleReclaiming : Database := sampleRuns .any (fun _ _ => false) 7 (sampleStart true)

theorem steps_sampleReclaiming :
    Relation.ReflTransGen (ShrinkStep .any) (sampleDatabase .stopped) sampleReclaiming :=
  steps_sampleStart (fun _ _ _ => trivial) (fun _ => trivial) trivial 7

theorem exists_sampleReclaiming : ∃ row ∈ sampleReclaiming.shrinks.rows,
    row.id = sampleOperationId ∧ row.operation.phase = .reclaiming := by
  have hphase : sampleReclaiming.shrinks.rows.any (fun row =>
      row.id = sampleOperationId && row.operation.phase = .reclaiming) = true := by
    decide +kernel
  simpa using hphase

/-- The sample run goes on, and nothing fails. -/
theorem reclaiming_is_final_sample :
    (∃ row ∈ sampleReclaiming.shrinks.rows, row.id = sampleOperationId ∧
      row.operation.phase = .reclaiming) ∧
    ∀ row' ∈ (sampleRun reclaimCritical (fun _ _ => false) sampleReclaiming).shrinks.rows,
      row'.id = sampleOperationId → row'.operation.phase = .reclaiming ∨
        row'.operation.phase = .completed ∨ row'.operation.phase = .reclaimed := by
  obtain ⟨row, hrow, hid, hphase⟩ := exists_sampleReclaiming
  refine ⟨⟨row, hrow, hid, hphase⟩, ?_⟩
  rw [← hid]
  exact (reclaiming_is_final reclaimCritical (fun lost hlost => decide_eq_true hlost) rfl
    steps_sampleReclaiming hrow hphase (fun _ _ _ _ _ _ _ h => h.elim)
    (.single (.run (shrinkRun_sampleRun (fun _ _ _ => trivial) (fun _ => trivial) _)))).1

theorem sampleRun_lost_reclaim :
    (fun db : Database => db.shrinks.rows.any (fun row =>
        row.id = sampleOperationId && row.operation.phase = .rollingBack) &&
      (db.workspaces.find sampleWorkspaceId).any fun row =>
        row.state = WorkspaceState.stopping.asStr)
      (sampleRun .any (fun operation _ => operation.phase = .reclaimed) sampleReclaiming) =
      true := by
  decide +kernel

/-- **A workspace is stopped after its sources were reclaimed** when the last save of the operation
fails: the phase in memory is `reclaimed` by then, and the error path takes the operation back to
`rollingBack`. -/
theorem lost_reclaim_rolls_back :
    ∃ db₁ db₂, Relation.ReflTransGen (ShrinkStep .any) (sampleDatabase .stopped) db₁ ∧
      (∃ row ∈ db₁.shrinks.rows, row.id = sampleOperationId ∧
        row.operation.phase = .reclaiming) ∧
      ShrinkRun .any db₁ db₂ ∧
      (∃ row ∈ db₂.shrinks.rows, row.id = sampleOperationId ∧
        row.operation.phase = .rollingBack) ∧
      ∃ row, db₂.workspaces.find sampleWorkspaceId = some row ∧
        row.state = WorkspaceState.stopping.asStr := by
  obtain ⟨hrolling, hstate⟩ := Bool.and_eq_true_iff.1 sampleRun_lost_reclaim
  obtain ⟨row, hrow, hrolling⟩ := List.any_eq_true.1 hrolling
  obtain ⟨found, hfound, hstopping⟩ := (Option.any_eq_true ..).1 hstate
  simp only [Bool.and_eq_true, decide_eq_true_eq] at hrolling hstopping
  exact ⟨sampleReclaiming, sampleRun .any (fun operation _ => operation.phase = .reclaimed)
    sampleReclaiming, steps_sampleReclaiming, exists_sampleReclaiming,
    shrinkRun_sampleRun (fun _ _ _ => trivial) (fun _ => trivial) _, ⟨row, hrow, hrolling⟩, found,
    hfound, hstopping⟩

end Final

/-! ### Failures before the workspace is stopped -/

section Preflight

variable {found : WorkspaceRow}

/-- The transitions of a queued operation: unless the workspace is stopped for it, now or after a
save that was lost, it is left alone. -/
theorem Evolves.of_queued (h : Evolves S o w u) (ho : o.phase = .queued)
    (hcritical : ∀ lost : StorageShrinkOperation, lost.phase = .stopping →
      S.critical lost .stopping = true) (hstop : w.phase ≠ .stopping) :
    u = .none ∧ (w.phase = .queued ∨ w.phase = .failed) := by
  cases h with
  | stay hd hf _ hw => exact ⟨rfl, .inl (hw.trans ho)⟩
  | preflightFailed hd hf _ hw => exact ⟨rfl, .inr hw⟩
  | stopping hd hf hfound _ hw => exact absurd hw hstop
  | lostStop hlost hstopping => cases hlost.symm.trans (hcritical _ hstopping)
  | forward _ _ h | rollBack _ _ h =>
    rw [ho] at h
    cases h
  | switch _ h | resume _ _ h | complete _ h | rolledBack _ _ h | reclaimed _ h
  | reclaimFailed _ _ h | lostSwitch _ _ h | lostCompletion _ _ _ h | lostReclaim _ _ _ h =>
    cases ho.symm.trans h

/-- **The workspace waits for an operation**: it is as it was found, the operation is queued or has
failed, and no other operation is active. -/
structure Waits (workspaceId operationId : Uuid) (found : WorkspaceRow) (db : Database) : Prop where
  find : db.workspaces.find workspaceId = some found
  operation : ∃ row ∈ db.shrinks.rows, row.id = operationId ∧ row.workspaceId = workspaceId ∧
    (row.operation.phase = .queued ∨ row.operation.phase = .failed)
  sole : ∀ row ∈ db.shrinks.rows, row.workspaceId = workspaceId → row.active = true →
    row.id = operationId

theorem Waits.started {request actorUserId now document workspace}
    (h : Started db operationId jobId workspaceId request actorUserId now found document workspace
      db') : Waits workspaceId operationId (found.bumpGeneration now) db' := by
  have hid : workspace.id = workspaceId := h.decodes.id.trans (Table.find_eq_some.1 h.found).2
  refine ⟨by rw [h.find_eq, if_pos rfl], ?_, ?_⟩
  · refine ⟨newShrinkRow (startedOperation operationId workspace request actorUserId now) now, ?_,
      rfl, hid, .inl rfl⟩
    rw [h.rows]
    exact List.mem_append_right _ (List.mem_singleton.2 rfl)
  · intro row hrow hworkspace hactive
    rw [h.mem_rows] at hrow
    rcases hrow with hrow | rfl
    · cases (h.idle row hrow hworkspace).symm.trans hactive
    · rfl

theorem Waits.of_not_concerns {call : StoreCall} (h : Waits workspaceId operationId found db)
    (hwrites : call.Writes db db') (hinvariant : ShrinkInvariant db)
    (hcall : ¬ call.Concerns workspaceId) : Waits workspaceId operationId found db' := by
  refine ⟨((hwrites.row workspaceId).eq_of_not_concerns hcall).trans h.find, ?_, ?_⟩
  · obtain ⟨row, hrow, hid, hworkspace, hphase⟩ := h.operation
    obtain ⟨row', hrow', hfollows⟩ := hwrites.exists_follows hinvariant hrow (hworkspace ▸ hcall)
    refine ⟨row', hrow', hfollows.id.trans hid, hfollows.workspaceId.trans hworkspace, ?_⟩
    rw [hfollows.operation]
    exact hphase
  · intro row hrow hworkspace hactive
    obtain ⟨old, hold, hfollows⟩ :=
      (hwrites.operation hinvariant hrow).of_not_concerns hcall hworkspace
    rw [hfollows.id]
    exact h.sole old hold (hfollows.workspaceId.symm.trans hworkspace)
      (hfollows.active.symm.trans hactive)

/-- An active operation of a workspace that waits is queued. -/
theorem Waits.queued (h : Waits workspaceId operationId found db) (hinvariant : ShrinkInvariant db)
    {row : ShrinkRow} (hrow : row ∈ db.shrinks.rows) (hworkspace : row.workspaceId = workspaceId)
    (hactive : row.active = true) : row.id = operationId ∧ row.operation.phase = .queued := by
  have hid := h.sole row hrow hworkspace hactive
  obtain ⟨stored, hstored, hid', -, hphase⟩ := h.operation
  obtain rfl := db.shrinks.eq_of_key hrow hstored (hid.trans hid'.symm)
  refine ⟨hid, hphase.resolve_right fun hfailed => ?_⟩
  rw [(hinvariant.agrees row hrow).active, hfailed] at hactive
  cases hactive

theorem Waits.move (h : Waits workspaceId operationId found db) (hinvariant : ShrinkInvariant db)
    (hcritical : ∀ lost : StorageShrinkOperation, lost.phase = .stopping →
      S.critical lost .stopping = true)
    (hstop : ∀ operation update, S.commits operation update → operation.id = operationId →
      operation.phase ≠ .stopping)
    (hothers : ∀ db call, S.others db call → ¬ call.Concerns workspaceId)
    (hmove : ShrinkMoves S db db') : Waits workspaceId operationId found db' := by
  cases hmove with
  | other _ hallowed hwrites => exact h.of_not_concerns hwrites hinvariant (hothers _ _ hallowed)
  | attends hcall hwrites => exact h.of_not_concerns hwrites hinvariant hcall.not_concerns
  | @observes observed _ _ _ row _ hrow hworkspace hphase hwrites =>
    refine h.of_not_concerns hwrites hinvariant fun heq => ?_
    have hactive : row.active = true := by
      rw [(hinvariant.agrees row hrow).active, hphase]
      rfl
    cases hphase.symm.trans (h.queued hinvariant hrow (hworkspace.trans heq) hactive).2
  | @saves operation update _ _ _ saved _ hsaved hevolves hcommits =>
    by_cases hworkspace : operation.workspaceId = workspaceId
    · obtain ⟨hid, hqueued⟩ :=
        h.queued hinvariant hsaved.mem (hsaved.workspaceId.trans hworkspace) hsaved.active
      obtain ⟨rfl, hphase⟩ := hevolves.of_queued hqueued hcritical
        (hstop operation update hcommits (hsaved.id.symm.trans hid))
      refine ⟨?_, ?_, ?_⟩
      · rcases hsaved.find_eq with ⟨-, hsame⟩ | ⟨_, _, hchange, -⟩
        · exact (hsame workspaceId).trans h.find
        · exact absurd rfl hchange
      · refine ⟨saved.save operation, ?_, hid, hsaved.workspaceId.trans hworkspace, hphase⟩
        rw [hsaved.shrinks_eq]
        exact Database.mem_writeShrink_self hsaved.mem
      · intro row hrow hworkspace' hactive
        rw [hsaved.shrinks_eq] at hrow
        rcases Database.mem_writeShrink hrow with ⟨hrow, -⟩ | ⟨old, hold, hold', rfl⟩
        · exact h.sole row hrow hworkspace' hactive
        · exact hold'.trans hid
    · exact h.of_not_concerns (.saved hsaved) hinvariant hworkspace

/-- **A failure before the workspace was stopped leaves it alone.**  In every run in which a failed
save of the phase `stopping` is the end of its run: as long as the phase `stopping` of an operation
is not saved, and nobody else is at work on the workspace, the operation is queued or has failed,
and but for its generation the row of the workspace is the one at which the operation was
requested. -/
theorem preflight_failure_is_harmless (S : Surroundings)
    (hcritical : ∀ lost : StorageShrinkOperation, lost.phase = .stopping →
      S.critical lost .stopping = true)
    {db₀ db db₁ db₂ : Database} (hstart : db₀.shrinks.rows = [])
    (hbefore : Relation.ReflTransGen (ShrinkStep .any) db₀ db)
    {operationId jobId workspaceId actorUserId : Uuid} {request : StorageShrinkRequest} {now : ℤ}
    {row : WorkspaceRow} {document : WorkspaceTemplateDocument} {workspace : Workspace}
    (hstarted : Started db operationId jobId workspaceId request actorUserId now row document
      workspace db₁)
    (hstop : ∀ operation update, S.commits operation update → operation.id = operationId →
      operation.phase ≠ .stopping)
    (hothers : ∀ db call, S.others db call → ¬ call.Concerns workspaceId)
    (hafter : Relation.ReflTransGen (ShrinkStep S) db₁ db₂) :
    db₂.workspaces.find workspaceId = some (row.bumpGeneration now) ∧
      ∃ stored ∈ db₂.shrinks.rows, stored.id = operationId ∧ stored.workspaceId = workspaceId ∧
        (stored.operation.phase = .queued ∨ stored.operation.phase = .failed) := by
  obtain ⟨-, hinvariant⟩ := moves_of_steps hbefore (.of_no_shrinks hstart)
  have hinvariant₁ : ShrinkInvariant db₁ := hinvariant.writes (.started hstarted)
  obtain ⟨hmoves, -⟩ := moves_of_steps hafter hinvariant₁
  clear hafter
  suffices hwaits : Waits workspaceId operationId (row.bumpGeneration now) db₂ ∧
      ShrinkInvariant db₂ from ⟨hwaits.1.find, hwaits.1.operation⟩
  induction hmoves with
  | refl => exact ⟨.started hstarted, hinvariant₁⟩
  | tail _ hmove ih =>
    exact ⟨ih.1.move ih.2 hcritical hstop hothers hmove, hmove.invariant ih.2⟩

/-- The phase `stopping` is never saved, and nobody else is at work. -/
abbrev unstoppable : Surroundings where
  critical operation _ := operation.phase = .stopping
  commits operation _ := operation.phase ≠ .stopping
  answers _ _ := True
  others _ _ := False

/-- The saves that the sample run loses: that of the sources it has found, and that of the phase
`stopping`. -/
def preflightFails (operation : StorageShrinkOperation) (_ : ShrinkWorkspaceUpdate) : Bool :=
  operation.phase = .queued && operation.error.isNone || operation.phase = .stopping

theorem exists_started_sample : ∃ row document workspace,
    Started (sampleDatabase .stopped) sampleOperationId sampleJobId sampleWorkspaceId
      ⟨some 5, none, 1, false⟩ sampleUserId 10 row document workspace (sampleStart false) := by
  have hperforms : (sampleEnqueue false 10).Performs (sampleDatabase .stopped)
      ((sampleEnqueue false 10).transaction (sampleDatabase .stopped) fun _ => false).1
      (sampleStart false) := .executed fun _ => false
  cases hperforms.writes with
  | started h => exact ⟨_, _, _, h⟩

theorem sampleRun_preflight :
    (sampleRun unstoppable preflightFails (sampleStart false)).shrinks.rows.any
      (fun row => row.operation.phase = .failed) = true := by
  decide +kernel

/-- The sample run fails before the workspace was stopped. -/
theorem preflight_failure_is_harmless_sample : ∃ row : WorkspaceRow,
    (sampleDatabase .stopped).workspaces.find sampleWorkspaceId = some row ∧
    (sampleRun unstoppable preflightFails (sampleStart false)).workspaces.find sampleWorkspaceId =
      some (row.bumpGeneration 10) ∧
    (sampleRun unstoppable preflightFails (sampleStart false)).shrinks.rows.any
      (fun row => row.operation.phase = .failed) = true := by
  obtain ⟨row, document, workspace, hstarted⟩ := exists_started_sample
  refine ⟨row, hstarted.found, ?_, sampleRun_preflight⟩
  have hcommits : ∀ operation update, preflightFails operation update = false →
      unstoppable.commits operation update := by
    intro operation update hsaves
    simpa using (Bool.or_eq_false_iff.1 hsaves).2
  exact (preflight_failure_is_harmless unstoppable (fun lost hlost => decide_eq_true hlost) rfl
    .refl hstarted (fun operation _ hcommits _ => hcommits) (fun _ _ h => h.elim)
    (.single (.run (shrinkRun_sampleRun hcommits (fun _ => trivial) _)))).1

/-- The sample database with a request for a workspace that is running. -/
def sampleRunning : Database := (sampleEnqueue false 10).after (sampleDatabase .ready)

/-- The sample run that loses the save of the phase `stopping`. -/
def sampleLostStop (n : ℕ) : Database :=
  sampleRuns .any (fun operation _ => operation.phase = .stopping) n sampleRunning

/-- The phase of the sample operation and the state of its workspace. -/
def Database.sampleStatus (db : Database) : Option StorageShrinkPhase × Option String :=
  ((db.latestStorageShrink sampleWorkspaceId).map (·.phase),
    (db.workspaces.find sampleWorkspaceId).map (·.state))

/-- **A workspace is stopped by a failure of the preflight** when the save of the phase `stopping`
fails: the phase in memory is `stopping` by then, and the error path takes the operation, of which
nothing but the phase `queued` was ever saved, to `rollingBack`.  A workspace that was running is
left stopped. -/
theorem lost_stop_stops_workspace :
    Relation.ReflTransGen (ShrinkStep .any) (sampleDatabase .ready) (sampleLostStop 0) ∧
      (sampleLostStop 0).sampleStatus = (some .queued, some WorkspaceState.ready.asStr) ∧
      ShrinkRun .any (sampleLostStop 0) (sampleLostStop 1) ∧
      (sampleLostStop 1).sampleStatus = (some .rollingBack, some WorkspaceState.stopping.asStr) ∧
      ShrinkRun .any (sampleLostStop 1) (sampleLostStop 2) ∧
      (sampleLostStop 2).sampleStatus = (some .failed, some WorkspaceState.stopped.asStr) := by
  refine ⟨.single (.other ⟨sampleEnqueue false 10, _, trivial, trivial, .executed fun _ => false⟩),
    by decide +kernel, shrinkRun_sampleRun (fun _ _ _ => trivial) (fun _ => trivial) _,
    by decide +kernel, shrinkRun_sampleRun (fun _ _ _ => trivial) (fun _ => trivial) _,
    by decide +kernel⟩

end Preflight

end WorkspaceControl
