/-
**What the handler of storage operations saves.**

The driver of the handler, and the last failure of its job.  When a phase fails the driver makes
the transition that fits the version in memory.

Main results:

* `handleStorageShrink_proper` — **every committed save of a run of the handler is a transition**,
  and the run ends well only when there is nothing left for its job to do;
* `storageShrinkTerminalFailure_proper` — the same of the last failure, which may also leave a new
  job.
-/

import WorkspaceControl.ShrinkPhases

set_option autoImplicit false

namespace WorkspaceControl

open Fallible MachineInt Interaction Routine

variable {S : Surroundings} {installation : Uuid} {workspace : Workspace} {now : ℤ}
  {job : ClaimedJob}

/-! ### The driver -/

section Driver

/-- How a run may be left with an error. -/
abbrev Checkpointed {ω : Type} (job : ClaimedJob) (e : JobHandlerError) (_ : ω) (_ : Ledger) :
    Prop := Checkpoints job (.error e)

variable {α ε ω : Type}

theorem Keeps.checkpointed {x : ShrinkRoutine α} {C : StorageShrinkOperation → Prop}
    {D : α → StorageShrinkOperation → Prop} (h : Keeps S PlainError C x D) :
    Triple (shrinkContract S) (fun w g => Held S w g ∧ C w) x
      (fun a w g => Held S w g ∧ D a w) (Checkpointed job) :=
  Triple.conseq h (fun _ _ => id) (fun _ _ _ => id) fun _ _ _ he => he.2.checkpoints

theorem finishPreflightFailure_triple :
    Triple (shrinkContract S) (fun w g => Held S w g ∧ w.phase = .queued)
      (finishPreflightFailure now) (fun _ _ g => Rests g) (Checkpointed job) := by
  refine triple_bind (Keeps.checkpointed (inquires_removeHelpers _).still.keeps) fun _ => ?_
  refine Triple.weaken (triple_saveAs (D := fun w => w.phase = .failed) ?_
    (fun _ _ _ _ => trivial) fun _ _ _ => rfl) ?_
  · rintro w g ⟨hheld, hw⟩ hspoiled
    obtain ⟨o, hbase, ho⟩ := hheld hspoiled
    obtain ⟨hd, hf⟩ := ho.enter .failed now
    exact ⟨o, hbase, .preflightFailed hd hf (ho.phase_eq hw) rfl⟩
  · rintro _ w g ⟨hbase, -, hfailed⟩
    exact ⟨w, hbase, by rw [hfailed]; rfl⟩

variable {g : Ledger} {o w : StorageShrinkOperation} {workspaceId : Uuid}

/-- A failure while the sources are reclaimed leaves the operation complete. -/
theorem Strands.evolves_completed (h : Strands S o w) (hw : w.phase = .reclaiming) (text : String) :
    Evolves S o (w.failInto .completed text now) .none := by
  cases h with
  | near h =>
    exact .reclaimFailed { h.drifts with } { h.flags with } (h.phase_eq hw) rfl
  | entered hd hf ho hqueued hreclaiming => exact absurd hw hreclaiming
  | stopping hlost hd hf hfound ho hphase
  | switched hlost hd ho hphase | reclaimed hlost hd ho hphase => cases hphase.symm.trans hw
  | completed hlost hd ho hphase hswitched hreclaimable =>
    exact .complete { hd with } ho (.inl rfl) hswitched hreclaimable

/-- Only an operation that is still queued is queued in memory. -/
theorem Strands.near_of_queued (h : Strands S o w) (hw : w.phase = .queued) : Near S o w := by
  cases h with
  | near h => exact h
  | entered hd hf ho hqueued => exact absurd hw hqueued
  | stopping hlost hd hf hfound ho hphase
  | switched hlost hd ho hphase | reclaimed hlost hd ho hphase => cases hphase.symm.trans hw
  | completed hlost hd ho hphase => rcases hphase with hphase | hphase <;> cases hphase.symm.trans hw

theorem Near.recovers (h : Near S o w) (hqueued : w.phase ≠ .queued)
    (hreclaiming : w.phase ≠ .reclaiming) : o.phase.recovers = true := by
  have hactive := h.active
  rw [h.phase] at hqueued hreclaiming
  cases hphase : o.phase <;> simp_all [StorageShrinkPhase.recovers, StorageShrinkPhase.active]

/-- Any other failure leads to the recovery. -/
theorem Strands.evolves_rollingBack (h : Strands S o w) (hqueued : w.phase ≠ .queued)
    (hreclaiming : w.phase ≠ .reclaiming) (text : String) :
    Evolves S o (w.failInto .rollingBack text now) .stopping := by
  cases h with
  | near h =>
    exact .rollBack { h.drifts with } { h.flags with } (h.recovers hqueued hreclaiming) rfl
  | entered hd hf ho =>
    exact .rollBack { hd with } { hf with } ho rfl
  | stopping hlost hd hf hfound ho hphase =>
    exact .lostStop hlost hphase { hd with } { hf with } { hfound with } ho rfl
  | switched hlost hd ho hphase hswitched hreclaimable =>
    exact .lostSwitch hlost { hd with } ho rfl hswitched hreclaimable
  | completed hlost hd ho hphase hswitched hreclaimable =>
    exact .lostCompletion hlost (hphase.resolve_right hreclaiming)
      { hd with } ho rfl hswitched hreclaimable
  | reclaimed hlost hd ho hphase hswitched hreclaimable =>
    exact .lostReclaim hlost hphase { hd with } ho rfl hswitched hreclaimable

/-- The driver settles a failure by the phase that is in memory. -/
theorem failInPhase_triple (text : String) (w₀ : StorageShrinkOperation) :
    Triple (shrinkContract S) (fun w g => w = w₀ ∧ Stranded S w g) (failInPhase now text w₀)
      (fun _ _ g => Rests g) (Checkpointed job) := by
  unfold failInPhase
  split
  · rename_i hreclaiming
    refine Triple.weaken (triple_saveAs (D := fun w => w.phase = .completed) ?_
      (fun _ _ _ _ => trivial) fun _ _ _ => rfl) ?_
    · rintro w g ⟨rfl, hstranded⟩ hspoiled
      obtain ⟨o, hbase, ho⟩ := hstranded hspoiled
      exact ⟨o, hbase, ho.evolves_completed hreclaiming text⟩
    · rintro _ w g ⟨hbase, -, hcompleted⟩
      exact ⟨w, hbase, by rw [hcompleted]; rfl⟩
  · exact triple_throw fun _ _ _ => trivial
  · rename_i hqueued
    refine triple_bind (m := fun _ => Recorded fun w => w.phase = .queued)
      (triple_saveAs ?_ (fun _ _ _ _ => trivial) fun _ _ _ => rfl) fun _ =>
      Triple.strengthen finishPreflightFailure_triple ?_
    · rintro w g ⟨rfl, hstranded⟩ hspoiled
      obtain ⟨o, hbase, ho⟩ := hstranded hspoiled
      have hnear := ho.near_of_queued hqueued
      exact ⟨o, hbase, .stay { hnear.drifts with } { hnear.flags with } hnear.active
        (hnear.phase_eq hqueued).symm⟩
    · rintro w g ⟨hbase, -, hphase⟩
      refine ⟨fun _ => ⟨w, hbase, .refl S w, .refl w, rfl, ?_⟩, hphase⟩
      rw [hphase]
      rfl
  · rename_i hreclaiming _ hqueued
    refine triple_bind (m := fun _ => Recorded fun _ => True)
      (triple_saveAs ?_ (fun _ _ _ _ => trivial) fun _ _ _ => trivial) fun _ =>
      triple_throw fun _ _ _ => trivial
    rintro w g ⟨rfl, hstranded⟩ hspoiled
    obtain ⟨o, hbase, ho⟩ := hstranded hspoiled
    exact ⟨o, hbase, ho.evolves_rollingBack hqueued hreclaiming text⟩

theorem driveOperation_triple :
    Triple (shrinkContract S)
      (fun w g => (Held S w g ∧ w.phase.active = true) ∧ Fresh workspace g)
      (driveOperation installation workspace now job) (fun _ _ g => Rests g)
      (Checkpointed job) := by
  refine triple_read_bind fun w₀ => triple_ite (fun hpreflight => ?_) fun _ => ?_
  · refine Triple.strengthen finishPreflightFailure_triple ?_
    rintro w g ⟨rfl, ⟨hheld, -⟩, -⟩
    exact ⟨hheld, hpreflight.1⟩
  have hadvance : Triple (shrinkContract S)
      (fun w g => w = w₀ ∧ (Held S w g ∧ w.phase.active = true) ∧ Fresh workspace g)
      (result (advanceWithDeadline installation workspace now job) : ShrinkRoutine _)
      (Outcome (fun _ _ g => Rests g) (Leaves S job)) (Checkpointed job) :=
    triple_result (Triple.strengthen advances_withDeadline fun _ _ => And.right)
  refine triple_bind hadvance fun outcome => ?_
  unfold settleAdvance
  split
  · exact triple_read_bind fun w₁ => failInPhase_triple _ w₁
  · rename_i e hfailed
    refine triple_throw fun w g he => ?_
    match e, he with
    | .failed text, _ => exact absurd rfl (hfailed text)
    | .pending _, _ => trivial
    | .pendingWithCheckpoint .., he => exact he
  · exact triple_pure fun _ _ => id

theorem triple_transact {f : StorageError → ε} {call : StoreCall}
    {pre : ω → Ledger → Prop} {err : ε → ω → Ledger → Prop}
    {post : call.Value → ω → Ledger → Prop}
    (hproper : ∀ (r : call.Response) w g, pre w g →
      Proper S g (.store call) r (g.after S (.store call) r))
    (hok : ∀ (a : call.Value) w g, pre w g → g.Admits S (.store call) (.ok a) →
      post a w (g.after S (.store call) (.ok a)))
    (herr : ∀ e w g, pre w g → err (f e) w (g.after S (.store call) (.error e))) :
    Triple (shrinkContract S) pre (transact f call) post err := by
  intro w g hpre
  refine (holds_transact f call _).2 ?_
  rintro _ rfl r _ ⟨hadmits, rfl⟩
  refine ⟨hproper r w g hpre, ?_⟩
  cases r with
  | ok a => exact hok a w g hpre hadmits
  | error e => exact herr e w g hpre

/-- There is nothing left for the job to do: its workspace was read, and what the run has last
read or saved is not an active operation that the job names. -/
def Finished (job : ClaimedJob) (g : Ledger) : Prop :=
  g.reads = job.workspaceId ∧ ∀ o, g.base = some o → job.concerns o = false

theorem concerns_of_rests (h : Rests g) (ho : g.base = some o) : job.concerns o = false := by
  obtain ⟨o', hbase, hrests⟩ := h
  obtain rfl := Option.some_inj.1 (ho.symm.trans hbase)
  rw [ClaimedJob.concerns, hrests, Bool.false_and]

/-- A run reads one workspace. -/
theorem Proper.reads_eq {g g' : Ledger} {c r}
    (h : Proper S g c r g') (hreads : g.reads = some workspaceId) :
    (g.after S c r).reads = some workspaceId := by
  cases c with
  | store call =>
    cases call with
    | latestShrink id => cases (show g.reads = none from h).symm.trans hreads
    | saveShrink operation update => cases r <;> exact hreads
    | job call => cases call with
      | enqueue id newJob now => cases r <;> exact hreads
      | _ => exact h.elim
    | _ => exact hreads
  | _ => exact hreads

theorem holds_and_reads {x : Routine signature ω ε α} {post : Except ε α → ω → Ledger → Prop}
    {w : ω} (h : x.Holds (Ledger.semantics S) Eq (Proper S) post w g)
    (hreads : g.reads = some workspaceId) :
    x.Holds (Ledger.semantics S) Eq (Proper S)
      (fun r w' g' => post r w' g' ∧ g'.reads = some workspaceId) w g := by
  have hkept := Program.Meets.and_invariant (I := fun g' => g'.reads = some workspaceId) h hreads
    (fun g₁ g₂ h₁ h₂ => h₂ ▸ h₁) fun g₁ c r g₂ h₁ hsem hproper => by
      rw [hsem.2]
      exact hproper.reads_eq h₁
  exact hkept.mono_guar fun _ _ _ _ => And.left

theorem driveLatest_triple (workspaceId : Uuid) (latest : Option StorageShrinkOperation)
    (hjob : job.workspaceId = some workspaceId) :
    Triple (shrinkContract S)
      (fun _ g => g.reads = some workspaceId ∧ g.base = latest ∧ g.spoiled = false)
      (driveLatest installation workspaceId job latest) (fun _ _ g => Finished job g)
      (Checkpointed job) := by
  cases latest with
  | none =>
    refine triple_pure ?_
    rintro _ g ⟨hreads, hbase, -⟩
    exact ⟨hreads.trans hjob.symm, fun o ho => nomatch hbase.symm.trans ho⟩
  | some operation =>
    refine triple_ite (fun hconcerns => ?_) fun hconcerns => ?_
    · refine triple_bind (m := fun (workspace : Workspace) _ g => (g.reads = some workspaceId ∧
        g.base = some operation ∧ g.spoiled = false) ∧ workspace.id = workspaceId)
        (triple_transact (fun _ _ _ _ => trivial) (fun _ _ _ hpre hadmits => ⟨hpre, hadmits⟩)
        fun _ _ _ _ => trivial) fun workspace => ?_
      refine triple_bind (m := fun _ _ g => (g.reads = some workspaceId ∧
        g.base = some operation ∧ g.spoiled = false) ∧ workspace.id = workspaceId) ?_ fun now => ?_
      · intro w g hpre
        refine (holds_unixTimestamp _ _).2 ?_
        rintro _ rfl r _ ⟨-, rfl⟩
        cases r with
        | ok now => exact ⟨trivial, hpre⟩
        | error e => exact ⟨trivial, trivial⟩
      · refine triple_scope ?_
        rintro _ g ⟨⟨hreads, hbase, hspoiled⟩, hid⟩
        have hactive : operation.phase.active = true := (Bool.and_eq_true_iff.1 hconcerns).1
        have hheld : Held S operation g := fun _ =>
          ⟨operation, hbase, .refl S operation, .refl operation, rfl, hactive⟩
        refine (holds_and_reads (driveOperation_triple operation g
          ⟨⟨hheld, hactive⟩, hspoiled, hreads.trans (congrArg some hid.symm)⟩) hreads).mono ?_
        rintro (e | _) w g' ⟨hpost, hreads'⟩
        · exact hpost
        · exact ⟨hreads'.trans hjob.symm, fun o ho => concerns_of_rests hpost ho⟩
    · refine triple_pure ?_
      rintro _ g ⟨hreads, hbase, -⟩
      refine ⟨hreads.trans hjob.symm, fun o ho => ?_⟩
      obtain rfl := Option.some_inj.1 (hbase.symm.trans ho)
      exact Bool.eq_false_iff.2 hconcerns

/-- **Every committed save of a run of the handler is a transition** from what the run has last
read or saved, and the run ends well only when there is nothing left for its job to do. -/
theorem handleStorageShrink_proper (S : Surroundings) (installation : Uuid) (job : ClaimedJob) :
    (handleStorageShrink installation job).Holds (Ledger.semantics S) Eq (Proper S)
      (Outcome (fun _ _ g => Finished job g) (Checkpointed job)) () .blank := by
  have hhandle : Triple (shrinkContract S) (fun _ g => g.reads = none)
      (handleStorageShrink installation job) (fun _ _ g => Finished job g)
      (Checkpointed job) := by
    refine triple_bind (m := fun workspaceId _ g => g.reads = none ∧
      job.workspaceId = some workspaceId) (triple_attempt ?_ fun _ _ _ _ _ => trivial)
      fun workspaceId => ?_
    · intro workspaceId hsome w g hreads
      exact ⟨hreads, okOr_eq_ok.1 hsome⟩
    · refine triple_bind (m := fun latest _ g => (g.reads = some workspaceId ∧ g.base = latest ∧
        g.spoiled = false) ∧ job.workspaceId = some workspaceId) (triple_transact ?_ ?_ ?_) ?_
      · exact fun _ _ _ hpre => hpre.1
      · exact fun _ _ _ hpre _ => ⟨⟨rfl, rfl, rfl⟩, hpre.2⟩
      · exact fun _ _ _ _ => trivial
      · rintro latest w g ⟨hpre, hjob⟩
        exact driveLatest_triple workspaceId latest hjob w g hpre
  exact hhandle () .blank rfl

end Driver

/-! ### The last failure of a job -/

section Terminal

/-- The operation of a job that has failed too often is at rest, or it has a new job. -/
def Exhausted (job : ClaimedJob) (g : Ledger) : Prop :=
  g.reads = job.workspaceId ∧ ∀ o, g.base = some o → job.concerns o = false ∨
    ∃ workspaceId availableAt, shrinkJob workspaceId o.id availableAt ∈ g.enqueued

theorem Near.exhaust {o w : StorageShrinkOperation} (h : Near S o w) (now : ℤ) :
    Near S o (w.exhaust now) :=
  ⟨{ h.drifts with }, { h.flags with }, h.phase, h.active⟩

/-- The version in memory was read by a run, or saved by it. -/
def Reading (workspaceId : Uuid) (P : StorageShrinkOperation → Option StorageShrinkOperation → Prop)
    (w : StorageShrinkOperation) (g : Ledger) : Prop :=
  g.reads = some workspaceId ∧ P w g.base

variable {P : StorageShrinkOperation → Option StorageShrinkOperation → Prop} {workspaceId : Uuid}

theorem triple_exhaust {u : ShrinkWorkspaceUpdate}
    (h : ∀ w base, P w base → ∃ o, base = some o ∧ Evolves S o w u) :
    Triple (shrinkContract S) (Reading workspaceId P) (saveOperation id u)
      (fun _ => Reading workspaceId fun w base => base = some w ∧ ∃ base₀, P w base₀)
      fun _ _ _ => True := by
  rintro w g ⟨hreads, hP⟩
  refine (holds_transact id (.saveShrink w u) _).2 ?_
  rintro _ rfl r _ ⟨-, rfl⟩
  cases r with
  | ok _ => exact ⟨h w g.base hP, hreads, rfl, g.base, hP⟩
  | error e => exact ⟨trivial, trivial⟩

theorem enqueueSuccessor_triple (hP : ∀ w base, P w base → base = some w)
    (hjob : job.workspaceId = some workspaceId) :
    Triple (shrinkContract S) (Reading workspaceId P) (enqueueSuccessor workspaceId now)
      (fun _ _ g => Exhausted job g) fun _ _ _ => True := by
  refine triple_read_bind fun w₀ => triple_bind (m := fun _ w g =>
    w = w₀ ∧ Reading workspaceId P w g) ?_ fun jobId => triple_transact ?_ ?_ fun _ _ _ _ => trivial
  · intro w g hpre
    refine (holds_newId _).2 ?_
    rintro _ rfl r _ ⟨-, rfl⟩
    exact ⟨trivial, hpre⟩
  · rintro r w g ⟨rfl, hreads, hw⟩
    exact ⟨w, workspaceId, hP w _ hw, hreads, rfl⟩
  · rintro _ w g ⟨rfl, hreads, hw⟩ -
    refine ⟨hreads.trans hjob.symm, fun o ho => .inr ?_⟩
    obtain rfl := Option.some_inj.1 ((hP w _ hw).symm.trans ho)
    exact ⟨workspaceId, _, List.mem_cons_self⟩

/-- The operation in memory, of which nothing but the error and the time has changed. -/
theorem exhaustInPhase_triple (w₀ : StorageShrinkOperation)
    (hjob : job.workspaceId = some workspaceId) :
    Triple (shrinkContract S)
      (Reading workspaceId fun w base => w = w₀ ∧ ∃ o, base = some o ∧ Near S o w)
      (exhaustInPhase workspaceId now w₀) (fun _ _ g => Exhausted job g) fun _ _ _ => True := by
  unfold exhaustInPhase
  split
  · refine triple_bind (triple_exhaust ?_) fun _ => enqueueSuccessor_triple (fun _ _ => And.left) hjob
    rintro w base ⟨rfl, o, hbase, ho⟩
    exact ⟨o, hbase, .stay ho.drifts ho.flags ho.active ho.phase⟩
  · rename_i hreclaiming
    refine triple_bind (m := fun _ => Reading workspaceId fun w base =>
      w.phase = .completed ∧ ∃ o, base = some o ∧ Evolves S o w .none) (triple_modify ?_) fun _ => ?_
    · rintro w g ⟨hreads, rfl, o, hbase, ho⟩
      refine ⟨hreads, rfl, o, hbase, .reclaimFailed { ho.drifts with } { ho.flags with }
        (ho.phase_eq hreclaiming) rfl⟩
    · refine Triple.weaken (triple_exhaust fun _ _ => And.right) ?_
      rintro _ w g ⟨hreads, hbase, _, hcompleted, -⟩
      refine ⟨hreads.trans hjob.symm, fun o ho => .inl (concerns_of_rests ⟨w, hbase, ?_⟩ ho)⟩
      rw [hcompleted]
      rfl
  · rename_i hqueued hreclaiming
    refine triple_bind (m := fun _ => Reading workspaceId fun w base =>
      ∃ o, base = some o ∧ Evolves S o w .stopping) (triple_modify ?_) fun _ => ?_
    · rintro w g ⟨hreads, rfl, o, hbase, ho⟩
      exact ⟨hreads, o, hbase, .rollBack { ho.drifts with } { ho.flags with }
        (ho.recovers hqueued hreclaiming) rfl⟩
    · exact triple_bind (triple_exhaust fun _ _ => id) fun _ =>
        enqueueSuccessor_triple (fun _ _ => And.left) hjob

/-- **Every committed save of the terminal failure is a transition** too, and it ends well only
when the operation of its job is at rest or has a new job. -/
theorem storageShrinkTerminalFailure_proper (S : Surroundings) (job : ClaimedJob) (now : ℤ) :
    (storageShrinkTerminalFailure job now).Holds (Ledger.semantics S) Eq (Proper S)
      (Outcome (fun _ _ g => job.workspaceId = none ∨ Exhausted job g) fun _ _ _ => True) ()
      .blank := by
  have hfailure : Triple (shrinkContract S) (fun _ g => g.reads = none)
      (storageShrinkTerminalFailure job now)
      (fun _ _ g => job.workspaceId = none ∨ Exhausted job g) fun _ _ _ => True := by
    unfold storageShrinkTerminalFailure
    cases hjob : job.workspaceId with
    | none => exact triple_pure fun _ _ _ => .inl rfl
    | some workspaceId =>
      refine triple_bind (m := fun latest _ g => g.reads = some workspaceId ∧ g.base = latest)
        (triple_transact (fun _ _ _ => id) (fun _ _ _ _ _ => ⟨rfl, rfl⟩) fun _ _ _ _ => trivial)
        fun latest => ?_
      cases latest with
      | none =>
        refine triple_pure ?_
        rintro _ g ⟨hreads, hbase⟩
        exact .inr ⟨hreads.trans hjob.symm, fun o ho => nomatch hbase.symm.trans ho⟩
      | some operation =>
        refine triple_ite (fun hconcerns => triple_scope ?_) fun hconcerns => triple_pure ?_
        · rintro _ g ⟨hreads, hbase⟩
          have hnear : Near S operation operation := ⟨.refl S operation, .refl operation, rfl,
            (Bool.and_eq_true_iff.1 hconcerns).1⟩
          have hexhaust : Triple (shrinkContract S)
              (Reading workspaceId fun w base => base = some operation ∧ w = operation)
              (exhaustOperation workspaceId now) (fun _ _ g => Exhausted job g)
              fun _ _ _ => True := by
            refine triple_bind (m := fun _ => Reading workspaceId fun w base =>
              ∃ o, base = some o ∧ Near S o w) (triple_modify ?_) fun _ =>
              triple_read_bind fun w₀ => Triple.strengthen (exhaustInPhase_triple w₀ hjob) ?_
            · rintro w g ⟨hreads, hbase, rfl⟩
              exact ⟨hreads, w, hbase, hnear.exhaust now⟩
            · rintro w g ⟨rfl, hreads, hnear⟩
              exact ⟨hreads, rfl, hnear⟩
          refine (hexhaust operation g ⟨hreads, hbase, rfl⟩).mono ?_
          rintro (_ | _) w g' hpost
          · trivial
          · exact .inr hpost
        · rintro _ g ⟨hreads, hbase⟩
          refine .inr ⟨hreads.trans hjob.symm, fun o ho => .inl ?_⟩
          obtain rfl := Option.some_inj.1 (hbase.symm.trans ho)
          exact Bool.eq_false_iff.2 hconcerns
  exact hfailure () .blank rfl

end Terminal

end WorkspaceControl
