/-
**The transitions of a storage operation.**

A run of the handler reads the latest operation, changes it in memory and saves it, possibly
several times.  `Evolves o w u` relates the version `o` that a run has last read or saved, the
version `w` of its next committed save and the update `u` of the workspace that goes with it; what
is shown of storage operations elsewhere rests on it.

A save can fail.  The error path of the driver then saves the operation as it is in memory, which
may already carry the change that was not committed: the constructors `lost..` of `Evolves` are
these cases.  `Surroundings.critical` says for which saves a failure is assumed to be the end
of the run, as far as the database is concerned, and `Surroundings.answers` what the cluster is
assumed to answer; `Surroundings.any` assumes nothing.

Main definitions:

* `Drifts`, `SameFlags`, `Discovered`, `Near` — what changes in memory between two saves;
* `Evolves` — the transitions of an operation;
* `Strands` — the version in memory when a phase has failed;
* `Ledger`, `Proper` — what a run knows of the database, and the transactions it may make;
* `Keeps` — the routines that only change the operation in memory, or save it as it is.

Main results: the rules of `Keeps`, and `triple_saveAs`, the rule of a save that is a transition.
-/

import WorkspaceControl.Triples
import WorkspaceControl.ShrinkHandler

set_option autoImplicit false

namespace WorkspaceControl

open Fallible MachineInt Interaction Routine

/-! ### Surroundings -/

/-- What is assumed of the surroundings of a run: the saves that are not followed by another
committed save of the run when they fail, the saves that are committed at all, the answers of the
cluster, and the transactions that other processes make. -/
structure Surroundings where
  critical : StorageShrinkOperation → ShrinkWorkspaceUpdate → Bool
  commits : StorageShrinkOperation → ShrinkWorkspaceUpdate → Prop
  answers : (call : ClusterCall) → call.Response → Prop
  others : Database → StoreCall → Prop

/-- Nothing is assumed. -/
def Surroundings.any : Surroundings where
  critical _ _ := false
  commits _ _ := True
  answers _ _ := True
  others _ _ := True

/-- Some saves are critical. -/
def Surroundings.failing (critical : StorageShrinkOperation → ShrinkWorkspaceUpdate → Bool) :
    Surroundings := { Surroundings.any with critical }

/-- No other process is at work. -/
def Surroundings.alone (S : Surroundings) : Surroundings := { S with others := fun _ _ => False }

/-- The claims that the discovery may find. -/
def Surroundings.Finds (S : Surroundings) (binding : WorkspaceHomeVolumeBinding) :
    ShrinkRole → Prop
  | .home => ∃ name claim, S.answers (.requireClaim name) (.ok claim) ∧
      bindingFromClaim claim = .ok binding
  | .temporary => ∃ name claim, S.answers (.scratchClaim name) (.ok (some claim)) ∧
      bindingFromClaim claim = .ok binding

/-- A helper Pod of an operation has reported a usage. -/
def Surroundings.Reports (S : Surroundings) (operationId : Uuid) (role : ShrinkRole)
    (stage : ShrinkPodStage) (volume : StorageShrinkVolume) (usage : ShrinkUsage) : Prop :=
  ∃ pod, S.answers (.helperPod (helperPodName operationId role stage) volume stage) (.ok pod) ∧
    pod.phase = some "Succeeded" ∧ pod.evidence = .ok usage

/-- The usage that is recorded for a volume. -/
def StorageShrinkVolume.HasUsage (volume : StorageShrinkVolume) (usage : ShrinkUsage) : Prop :=
  volume.usedBytes = some usage.usedBytes ∧ volume.usedInodes = some usage.usedInodes

/-- The recorded usage was measured. -/
def Surroundings.Measured (S : Surroundings) (operationId : Uuid) (role : ShrinkRole)
    (volume : StorageShrinkVolume) : Prop :=
  ∃ before usage, S.Reports operationId role .measure before usage ∧ volume.HasUsage usage

/-- The destination was verified: the usage that was found is the recorded one. -/
def Surroundings.Verified (S : Surroundings) (operationId : Uuid) (role : ShrinkRole)
    (volume : StorageShrinkVolume) : Prop :=
  ∃ before usage, S.Reports operationId role .verify before usage ∧ volume.HasUsage usage ∧
    before.destination = volume.destination ∧ volume.destination.isSome = true

/-! ### Transitions of an operation -/

/-- The size that is recorded for a source. -/
def StorageShrinkOperation.originalGib (operation : StorageShrinkOperation) : ShrinkRole → ℕ
  | .home => operation.originalHomeGib
  | .temporary => operation.originalTemporaryStorageGib

/-- The phases in which something is recorded of a volume. -/
def StorageShrinkPhase.records : StorageShrinkPhase → Bool
  | queued | measuring | verifying => true
  | _ => false

/-- **What may change of a volume** while its operation is in a phase: a source is found while the
operation is queued, a destination is made while it is measured, a usage is recorded once, and a
destination that is marked as verified was verified. -/
structure VolumeDrifts (S : Surroundings) (phase : StorageShrinkPhase) (operationId : Uuid)
    (role : ShrinkRole) (v v' : StorageShrinkVolume) : Prop where
  target : v'.targetGib = v.targetGib
  source : v'.source = v.source ∨ phase = .queued ∧ v.source = none ∧
    ∀ binding, v'.source = some binding → S.Finds binding role
  destination : v'.destination = v.destination ∨
    phase = .measuring ∧ v.targetGib.isSome = true ∧ v.destination = none
  usage : (v'.usedBytes = v.usedBytes ∧ v'.usedInodes = v.usedInodes) ∨
    v.usedBytes = none ∧ S.Measured operationId role v'
  verified : v'.verified = true → v.verified = true ∨ S.Verified operationId role v'
  frozen : v' = v ∨ phase.records = true

/-- What may change in memory while an operation is worked on. -/
structure Drifts (S : Surroundings) (o w : StorageShrinkOperation) : Prop where
  id : w.id = o.id
  workspaceId : w.workspaceId = o.workspaceId
  request : w.request = o.request
  resume : w.resume = o.resume
  volume : ∀ role, VolumeDrifts S o.phase o.id role (o.volume role) (w.volume role)
  original : ∀ role, w.originalGib role = o.originalGib role ∨
    o.phase = .queued ∧ ∃ source, (w.volume role).source = some source ∧
      w.originalGib role = source.capacityGib

/-- The flags that the last phases set. -/
structure SameFlags (o w : StorageShrinkOperation) : Prop where
  switched : w.switched = o.switched
  reclaimable : w.reclaimable = o.reclaimable
  sourcesRetained : w.sourcesRetained = o.sourcesRetained

/-- The sources are known, and valid; their sizes are the recorded ones. -/
structure Discovered (w : StorageShrinkOperation) : Prop where
  home : w.home.source.isSome = true
  sources : ∀ role source, (w.volume role).source = some source →
    source.isValid = true ∧ source.capacityGib = w.originalGib role

/-- The version in memory of an active operation, between two saves of a phase. -/
structure Near (S : Surroundings) (o w : StorageShrinkOperation) : Prop where
  drifts : Drifts S o w
  flags : SameFlags o w
  phase : w.phase = o.phase
  active : o.phase.active = true

/-- The phases that follow one another when nothing fails, with the update of the workspace. -/
inductive Forward : StorageShrinkPhase → StorageShrinkPhase → ShrinkWorkspaceUpdate → Prop
  | stopped : Forward .stopping .measuring .stopped
  | copying : Forward .measuring .copying .none
  | verifying : Forward .copying .verifying .none
  | switching : Forward .verifying .switching .none

/-- The phases from which a failure leads to the recovery. -/
def StorageShrinkPhase.recovers : StorageShrinkPhase → Bool
  | stopping | measuring | copying | verifying | switching | resuming | rollingBack => true
  | _ => false

/-- **The transitions of an operation**, with the update of the workspace. -/
inductive Evolves (S : Surroundings) (o w : StorageShrinkOperation) :
    ShrinkWorkspaceUpdate → Prop
  | stay (hd : Drifts S o w) (hf : SameFlags o w) (ho : o.phase.active = true)
      (hw : w.phase = o.phase) : Evolves S o w .none
  | preflightFailed (hd : Drifts S o w) (hf : SameFlags o w) (ho : o.phase = .queued)
      (hw : w.phase = .failed) : Evolves S o w .none
  | stopping (hd : Drifts S o w) (hf : SameFlags o w) (hfound : Discovered w)
      (ho : o.phase = .queued) (hw : w.phase = .stopping) : Evolves S o w .stopping
  | forward {u} (hd : Drifts S o w) (hf : SameFlags o w)
      (h : Forward o.phase w.phase u) : Evolves S o w u
  | switch (hd : Drifts S o w) (ho : o.phase = .switching) (hw : w.phase = .resuming)
      (hswitched : w.switched = true) (hreclaimable : w.reclaimable = o.reclaimable) :
      Evolves S o w .switch
  | resume (hd : Drifts S o w) (hf : SameFlags o w) (ho : o.phase = .resuming)
      (hw : w.phase = .resuming) : Evolves S o w .resume
  | complete (hd : Drifts S o w) (ho : o.phase = .resuming)
      (hw : w.phase = .completed ∨ w.phase = .reclaiming) (hswitched : w.switched = o.switched)
      (hreclaimable : w.reclaimable = true) : Evolves S o w .none
  | rollBack (hd : Drifts S o w) (hf : SameFlags o w) (ho : o.phase.recovers = true)
      (hw : w.phase = .rollingBack) : Evolves S o w .stopping
  | rolledBack {u} (hd : Drifts S o w) (hf : SameFlags o w)
      (ho : o.phase = .rollingBack) (hw : w.phase = .failed)
      (hu : u = if o.switched then .stopped else .rollback) : Evolves S o w u
  | reclaimed (hd : Drifts S o w) (ho : o.phase = .reclaiming) (hw : w.phase = .reclaimed)
      (hswitched : w.switched = o.switched) (hreclaimable : w.reclaimable = false) :
      Evolves S o w .none
  | reclaimFailed (hd : Drifts S o w) (hf : SameFlags o w) (ho : o.phase = .reclaiming)
      (hw : w.phase = .completed) : Evolves S o w .none
  | lostStop {lost} (hlost : S.critical lost .stopping = false)
      (hstopping : lost.phase = .stopping) (hd : Drifts S o w) (hf : SameFlags o w)
      (hfound : Discovered w) (ho : o.phase = .queued) (hw : w.phase = .rollingBack) :
      Evolves S o w .stopping
  | lostSwitch {lost} (hlost : S.critical lost .switch = false)
      (hd : Drifts S o w) (ho : o.phase = .switching) (hw : w.phase = .rollingBack)
      (hswitched : w.switched = true) (hreclaimable : w.reclaimable = o.reclaimable) :
      Evolves S o w .stopping
  | lostCompletion {lost} (hlost : S.critical lost .none = false)
      (hcompleted : lost.phase = .completed) (hd : Drifts S o w) (ho : o.phase = .resuming)
      (hw : w.phase = .rollingBack) (hswitched : w.switched = o.switched)
      (hreclaimable : w.reclaimable = true) : Evolves S o w .stopping
  | lostReclaim {lost} (hlost : S.critical lost .none = false)
      (hreclaimed : lost.phase = .reclaimed) (hd : Drifts S o w) (ho : o.phase = .reclaiming)
      (hw : w.phase = .rollingBack) (hswitched : w.switched = o.switched)
      (hreclaimable : w.reclaimable = false) : Evolves S o w .stopping

variable {S : Surroundings} {o w : StorageShrinkOperation} {u : ShrinkWorkspaceUpdate}

/-- Only an active operation is worked on. -/
theorem Evolves.active (h : Evolves S o w u) : o.phase.active = true := by
  cases h with
  | stay hd hf ho hw => exact ho
  | forward hd hf h =>
    generalize o.phase = before, w.phase = next at h
    cases h <;> rfl
  | rollBack hd hf ho hw =>
    generalize o.phase = before at ho
    cases before <;> first | rfl | cases ho
  | _ =>
    rename_i ho _
    simp_all [StorageShrinkPhase.active]

theorem Evolves.drifts (h : Evolves S o w u) : Drifts S o w := by
  cases h <;> assumption

theorem VolumeDrifts.refl (S : Surroundings) (phase : StorageShrinkPhase) (operationId : Uuid)
    (role : ShrinkRole) (v : StorageShrinkVolume) : VolumeDrifts S phase operationId role v v :=
  ⟨rfl, .inl rfl, .inl rfl, .inl ⟨rfl, rfl⟩, .inl, .inl rfl⟩

theorem VolumeDrifts.trans {phase operationId role v v' v''}
    (h : VolumeDrifts S phase operationId role v v')
    (h' : VolumeDrifts S phase operationId role v' v'') :
    VolumeDrifts S phase operationId role v v'' := by
  have hnone : v'.usedBytes = none → v.usedBytes = none := by
    intro hnone
    rcases h.usage with ⟨hsame, -⟩ | ⟨hbefore, -⟩
    · rw [← hsame, hnone]
    · exact hbefore
  refine ⟨h'.target.trans h.target, ?_, ?_, ?_, ?_, ?_⟩
  · rcases h'.source with hsame | ⟨hphase, hempty, hfinds⟩
    · rw [hsame]
      exact h.source
    · refine .inr ⟨hphase, ?_, hfinds⟩
      rcases h.source with hsame | ⟨-, hempty', -⟩
      · rw [← hsame, hempty]
      · exact hempty'
  · rcases h'.destination with hsame | ⟨hphase, htarget, hempty⟩
    · rw [hsame]
      exact h.destination
    · refine .inr ⟨hphase, h.target ▸ htarget, ?_⟩
      rcases h.destination with hsame | ⟨-, -, hempty'⟩
      · rw [← hsame, hempty]
      · exact hempty'
  · rcases h'.usage with ⟨hbytes, hinodes⟩ | ⟨hempty, hmeasured⟩
    · refine h.usage.imp (fun hsame => ⟨hbytes.trans hsame.1, hinodes.trans hsame.2⟩) ?_
      rintro ⟨hempty, before, usage, hreports, hbytes', hinodes'⟩
      exact ⟨hempty, before, usage, hreports, hbytes.trans hbytes', hinodes.trans hinodes'⟩
    · exact .inr ⟨hnone hempty, hmeasured⟩
  · intro hverified
    rcases h'.verified hverified with hverified' | hverified'
    · refine (h.verified hverified').imp_right ?_
      rintro ⟨before, usage, hreports, ⟨hbytes, hinodes⟩, hdestination, hsome⟩
      -- neither the usage nor the destination of a verified volume changes any more
      have husage : v''.usedBytes = v'.usedBytes ∧ v''.usedInodes = v'.usedInodes := by
        rcases h'.usage with hsame | ⟨hempty, -⟩
        · exact hsame
        · cases hempty.symm.trans hbytes
      have hkept : v''.destination = v'.destination := by
        rcases h'.destination with hsame | ⟨-, -, hempty⟩
        · exact hsame
        · rw [hempty] at hsome
          cases hsome
      exact ⟨before, usage, hreports, ⟨husage.1.trans hbytes, husage.2.trans hinodes⟩,
        hdestination.trans hkept.symm, hkept ▸ hsome⟩
    · exact .inr hverified'
  · rcases h'.frozen with rfl | hrecords
    · exact h.frozen
    · exact .inr hrecords

theorem Drifts.refl (S : Surroundings) (o : StorageShrinkOperation) : Drifts S o o :=
  ⟨rfl, rfl, rfl, rfl, fun _ => .refl .., fun _ => .inl rfl⟩

theorem SameFlags.refl (o : StorageShrinkOperation) : SameFlags o o := ⟨rfl, rfl, rfl⟩

/-! ### The ledger of a run -/

/-- What a run knows of the database: the workspace whose latest operation it has read, the version
of the operation that it has last read or saved, whether a critical save has failed, and the jobs
it has inserted. -/
structure Ledger where
  reads : Option Uuid
  base : Option StorageShrinkOperation
  spoiled : Bool
  enqueued : List NewJob

/-- A run that has not read anything. -/
def Ledger.blank : Ledger := ⟨none, none, false, []⟩

section Ledger

variable (S : Surroundings)

/-- The ledger after a call. -/
def Ledger.after (g : Ledger) : (c : signature.Call) → signature.Response c → Ledger
  | .store (.latestShrink workspaceId), .ok latest => ⟨some workspaceId, latest, false, []⟩
  | .store (.saveShrink operation _), .ok () => { g with base := some operation }
  | .store (.saveShrink operation update), .error _ =>
    { g with spoiled := g.spoiled || S.critical operation update }
  | .store (.job (.enqueue _ newJob _)), .ok () => { g with enqueued := newJob :: g.enqueued }
  | _, _ => g

/-- After a critical save has failed no save is committed; saves are committed and the cluster
answers as assumed, and the workspace that is read is the one that was asked for. -/
def Ledger.Admits (g : Ledger) : (c : signature.Call) → signature.Response c → Prop
  | .store (.saveShrink operation update), .ok () =>
    g.spoiled = false ∧ S.commits operation update
  | .store (.getWorkspace id), .ok workspace => workspace.id = id
  | .cluster call, r => S.answers call r
  | _, _ => True

/-- The ledger as a store. -/
def Ledger.semantics : Semantics signature Ledger :=
  fun g c r g' => g.Admits S c r ∧ g' = g.after S c r

/-- **The transactions of a run**: it reads the latest operation of a workspace once, and its
committed saves are transitions from the version it has last read or saved; it observes the
workspace while the operation is in its phase `resuming`, and inserts jobs for the operation. -/
def Proper (g : Ledger) : (c : signature.Call) → signature.Response c → Ledger → Prop
  | .store (.saveShrink operation update), .ok (), _ =>
    ∃ o, g.base = some o ∧ Evolves S o operation update
  | .store (.saveShrink ..), .error _, _ => True
  | .store (.latestShrink _), _, _ => g.reads = none
  | .store (.getWorkspace _), _, _ => True
  | .store (.observe id ..), _, _ => g.spoiled = false ∧ g.reads = some id ∧
      ∃ o, g.base = some o ∧ o.phase = .resuming
  | .store (.listShrinks _), _, _ => True
  | .store (.saveShrinkCleanup _), _, _ => True
  | .store (.job (.enqueue _ newJob now)), _, _ => ∃ o workspaceId, g.base = some o ∧
      g.reads = some workspaceId ∧
      newJob = shrinkJob workspaceId o.id (I64.saturatingAdd now 60)
  | .store _, _, _ => False
  | _, _, _ => True

/-- The contract of the routines of the handler: nobody else writes the ledger. -/
def shrinkContract : Contract signature Ledger := ⟨Ledger.semantics S, Eq, Proper S⟩

end Ledger

/-- The answers that the database gives are admitted by a run of which nothing is assumed. -/
theorem Performs.admits {db db' : Database} {c r}
    (h : Performs db c r db') {g : Ledger} (hspoiled : g.spoiled = false) :
    g.Admits .any c r ∧ (g.after .any c r).spoiled = false := by
  have hspoiled' : (g.after .any c r).spoiled = false := by
    unfold Ledger.after
    split <;> first | exact hspoiled | rfl | skip
    rw [hspoiled]
    rfl
  refine ⟨?_, hspoiled'⟩
  cases h with
  | cluster | clock | newId => trivial
  | @store call response db' hcall =>
    cases call with
    | saveShrink operation update =>
      cases response with
      | ok _ => exact ⟨hspoiled, trivial⟩
      | error e => trivial
    | getWorkspace id =>
      cases response with
      | error e => trivial
      | ok workspace =>
        obtain ⟨_, htransaction⟩ := hcall.transaction_of_ok
        exact Database.id_of_getWorkspace (Prod.mk.inj htransaction).1
    | _ => trivial

/-! ### Routines that keep an operation in its phase -/

/-- The version in memory is near the one that the run has last read or saved. -/
def Held (S : Surroundings) (w : StorageShrinkOperation) (g : Ledger) : Prop :=
  g.spoiled = false → ∃ o, g.base = some o ∧ Near S o w

/-- **Triples on the version in memory**, for routines that keep the operation in its phase: they
change it in memory, and save it as it is. -/
def Keeps {α ε : Type} (S : Surroundings) (E : ε → Prop) (C : StorageShrinkOperation → Prop)
    (x : OperationRoutine ε α) (D : α → StorageShrinkOperation → Prop) :
    Prop :=
  Triple (shrinkContract S) (fun w g => Held S w g ∧ C w) x (fun a w g => Held S w g ∧ D a w)
    fun e w g => Held S w g ∧ E e

/-- Routines that leave the version in memory alone. -/
def Still {α ε : Type} (S : Surroundings) (E : ε → Prop)
    (x : OperationRoutine ε α) : Prop :=
  ∀ C, Keeps S E C x fun _ => C

section Keeps

variable {α β ε ε' : Type} {E : ε → Prop} {C C' : StorageShrinkOperation → Prop}
  {D D' : α → StorageShrinkOperation → Prop} {x : OperationRoutine ε α}

theorem Keeps.conseq (h : Keeps S E C x D) (hpre : ∀ w, C' w → C w)
    (hpost : ∀ a w, D a w → D' a w) : Keeps S E C' x D' :=
  Triple.conseq h (fun w _ hw => ⟨hw.1, hpre w hw.2⟩) (fun a w _ hw => ⟨hw.1, hpost a w hw.2⟩)
    fun _ _ _ => id

variable {e : ε} {f : α → OperationRoutine ε β}

theorem keeps_bind {D' : β → StorageShrinkOperation → Prop} (hx : Keeps S E C x D)
    (hf : ∀ a, Keeps S E (D a) (f a) D') : Keeps S E C (x >>= f) D' :=
  triple_bind hx hf

theorem keeps_read_bind {f : StorageShrinkOperation → OperationRoutine ε β}
    {D' : β → StorageShrinkOperation → Prop}
    (h : ∀ w₀, Keeps S E (fun w => w = w₀ ∧ C w) (f w₀) D') : Keeps S E C (read >>= f) D' := by
  refine triple_read_bind fun w₀ => Triple.strengthen (h w₀) ?_
  rintro w g ⟨hw, hheld, hC⟩
  exact ⟨hheld, hw, hC⟩

/-- A fact that is not about the operation may be moved out of the precondition. -/
theorem keeps_of_fact {P : Prop} (h : P → Keeps S E C x D) :
    Keeps S E (fun w => C w ∧ P) x D :=
  fun w g hw => h hw.2.2 w g ⟨hw.1, hw.2.1⟩

theorem keeps_pure {a : α} (h : ∀ w, C w → D a w) : Keeps S E C (pure a) D :=
  triple_pure fun w _ hw => ⟨hw.1, h w hw.2⟩

theorem keeps_throw (h : E e) : Keeps S E C (throw e) D :=
  triple_throw fun _ _ hw => ⟨hw.1, h⟩

theorem keeps_modify {f : StorageShrinkOperation → StorageShrinkOperation}
    {D : Unit → StorageShrinkOperation → Prop} (hnear : ∀ o w, Near S o w → C w → Near S o (f w))
    (hD : ∀ w, C w → D () (f w)) : Keeps S E C (modify f) D := by
  refine triple_modify fun w g hw => ⟨fun hspoiled => ?_, hD w hw.2⟩
  obtain ⟨o, hbase, ho⟩ := hw.1 hspoiled
  exact ⟨o, hbase, hnear o w ho hw.2⟩

theorem keeps_attempt {f : ε' → ε} {r : Except ε' α} (hok : ∀ a, r = .ok a → ∀ w, C w → D a w)
    (herr : ∀ e, E (f e)) : Keeps S E C (attempt f r) D :=
  triple_attempt (fun a ha w _ hw => ⟨hw.1, hok a ha w hw.2⟩) fun e _ _ _ hw => ⟨hw.1, herr e⟩

theorem keeps_request {call : ClusterCall} {D : call.Response → StorageShrinkOperation → Prop}
    (h : ∀ r, S.answers call r → ∀ w, C w → D r w) : Keeps S E C (request call) D := by
  intro w g hw
  rw [holds_request]
  rintro _ rfl r _ ⟨hanswer, rfl⟩
  exact ⟨trivial, hw.1, h r hanswer w hw.2⟩

theorem keeps_mapError {f : ε → ε'} {E : ε' → Prop} (h : Keeps S (fun e => E (f e)) C x D) :
    Keeps S E C (mapError f x) D :=
  triple_mapError h

/-- The result of a routine as a value: of an error nothing else is known. -/
theorem keeps_result {E' : ε' → Prop} (h : Keeps S E C x D) :
    Keeps S E' C (result x) fun r w => ∀ a, r = .ok a → D a w := by
  refine triple_result (Triple.conseq h (fun _ _ => id) ?_ ?_)
  · rintro a w g ⟨hheld, hD⟩
    refine ⟨hheld, fun b hb => ?_⟩
    obtain rfl := Except.ok.inj hb
    exact hD
  · rintro e w g ⟨hheld, -⟩
    exact ⟨hheld, fun a ha => nomatch ha⟩

/-- The operation is saved as it is in memory. -/
theorem keeps_save {f : StorageError → ε} (hE : ∀ e, E (f e)) :
    Keeps S E C (saveOperation f .none) fun _ => C := by
  rintro w g ⟨hheld, hC⟩
  refine (holds_transact f (.saveShrink w .none) _).2 ?_
  rintro _ rfl r _ ⟨hadmits, rfl⟩
  cases r with
  | ok _ =>
    obtain ⟨o, hbase, ho⟩ := hheld hadmits.1
    refine ⟨⟨o, hbase, .stay ho.drifts ho.flags ho.active ho.phase⟩, fun _ => ⟨w, rfl, ?_⟩, hC⟩
    exact ⟨.refl S w, .refl w, rfl, ho.phase ▸ ho.active⟩
  | error e =>
    refine ⟨trivial, fun hspoiled => hheld ?_, hE e⟩
    exact (Bool.or_eq_false_iff.1 hspoiled).1

theorem Still.keeps (h : Still S E x) : Keeps S E C x fun _ => C := h C

theorem Still.bind {D' : β → StorageShrinkOperation → Prop} (h : Still S E x)
    (hf : ∀ a, Keeps S E C (f a) D') : Keeps S E C (x >>= f) D' := keeps_bind (h C) hf

/-- Requests to the cluster leave the operation alone. -/
theorem Inquires.keeps {Q : α → Prop} (h : Inquires E Q x) :
    Keeps S E C x fun a w => C w ∧ Q a := by
  intro w g hw
  refine (h w).meets_keeping (J := fun g' => g' = g) rfl ?_ ?_
  · rintro _ _ _ r _ rfl rfl ⟨call, rfl⟩ ⟨-, rfl⟩
    exact ⟨trivial, rfl⟩
  · rintro ⟨_ | a, _⟩ _ rfl ⟨rfl, ha⟩
    · exact ⟨hw.1, ha⟩
    · exact ⟨hw.1, hw.2, ha⟩

theorem Inquires.still {Q : α → Prop} (h : Inquires E Q x) : Still S E x :=
  fun _ => h.keeps.conseq (fun _ => id) fun _ _ => And.left

theorem still_read : Still S E (read : OperationRoutine ε _) :=
  fun _ _ _ => id

theorem still_attempt {f : ε' → ε} (r : Except ε' α) (h : ∀ e, E (f e)) :
    Still S E (attempt f r) :=
  fun _ => keeps_attempt (fun _ _ _ => id) h

theorem still_request (call : ClusterCall) :
    Still S E (request call : OperationRoutine ε _) :=
  inquires_request.still

end Keeps

/-! ### Saves that are transitions -/

/-- **The version in memory when a phase has failed**: as it was saved last, or with the change of
a save that was not committed. -/
inductive Strands (S : Surroundings) (o w : StorageShrinkOperation) : Prop
  | near (h : Near S o w)
  | entered (hd : Drifts S o w) (hf : SameFlags o w) (ho : o.phase.recovers = true)
      (hqueued : w.phase ≠ .queued) (hreclaiming : w.phase ≠ .reclaiming)
  | stopping (hlost : S.critical w .stopping = false) (hd : Drifts S o w) (hf : SameFlags o w)
      (hfound : Discovered w) (ho : o.phase = .queued) (hw : w.phase = .stopping)
  | switched {lost : StorageShrinkOperation} (hlost : S.critical lost .switch = false)
      (hd : Drifts S o w) (ho : o.phase = .switching) (hw : w.phase = .resuming)
      (hswitched : w.switched = true) (hreclaimable : w.reclaimable = o.reclaimable)
  | completed (hlost : S.critical w .none = false) (hd : Drifts S o w) (ho : o.phase = .resuming)
      (hw : w.phase = .completed ∨ w.phase = .reclaiming) (hswitched : w.switched = o.switched)
      (hreclaimable : w.reclaimable = true)
  | reclaimed (hlost : S.critical w .none = false) (hd : Drifts S o w)
      (ho : o.phase = .reclaiming) (hw : w.phase = .reclaimed)
      (hswitched : w.switched = o.switched) (hreclaimable : w.reclaimable = false)

/-- The version in memory and the ledger when a phase has failed. -/
def Stranded (S : Surroundings) (w : StorageShrinkOperation) (g : Ledger) : Prop :=
  g.spoiled = false → ∃ o, g.base = some o ∧ Strands S o w

/-- How a phase may be left with an error: a failure is for the driver to settle. -/
def Leaves (S : Surroundings) (job : ClaimedJob) :
    JobHandlerError → StorageShrinkOperation → Ledger → Prop
  | .failed _, w, g => Stranded S w g
  | e, _, _ => Checkpoints job (.error e)

/-- An error without a checkpoint. -/
def PlainError (e : JobHandlerError) : Prop := Plain (.error e : Except JobHandlerError Unit)

section Saves

variable {α : Type} {job : ClaimedJob} {C : StorageShrinkOperation → Prop}

theorem Held.stranded {w : StorageShrinkOperation} {g : Ledger} (h : Held S w g) :
    Stranded S w g := by
  intro hspoiled
  obtain ⟨o, hbase, ho⟩ := h hspoiled
  exact ⟨o, hbase, .near ho⟩

variable {D : StorageShrinkOperation → Prop}
  {change : StorageShrinkOperation → StorageShrinkOperation}
  {pre : StorageShrinkOperation → Ledger → Prop} {u : ShrinkWorkspaceUpdate} {x : ShrinkRoutine α}
  {β : Type}

/-- A routine that keeps the operation in its phase, within a phase. -/
theorem Keeps.leaves {D : α → StorageShrinkOperation → Prop} (h : Keeps S PlainError C x D) :
    Triple (shrinkContract S) (fun w g => Held S w g ∧ C w) x
      (fun a w g => Held S w g ∧ D a w) (Leaves S job) := by
  refine Triple.conseq h (fun _ _ => id) (fun _ _ _ => id) ?_
  rintro e w g ⟨hheld, he⟩
  match e, he with
  | .failed _, _ => exact hheld.stranded
  | .pending _, _ => trivial

variable {post : β → StorageShrinkOperation → Ledger → Prop}

theorem leaves_bind {f : α → ShrinkRoutine β}
    {D : α → StorageShrinkOperation → Prop}
    (hx : Keeps S PlainError C x D)
    (hf : ∀ a, Triple (shrinkContract S) (fun w g => Held S w g ∧ D a w) (f a) post
      (Leaves S job)) :
    Triple (shrinkContract S) (fun w g => Held S w g ∧ C w) (x >>= f) post (Leaves S job) :=
  triple_bind hx.leaves hf

theorem leaves_read_bind {f : StorageShrinkOperation → ShrinkRoutine β}
    (h : ∀ w₀, Triple (shrinkContract S) (fun w g => Held S w g ∧ w = w₀ ∧ C w) (f w₀) post
      (Leaves S job)) :
    Triple (shrinkContract S) (fun w g => Held S w g ∧ C w) (read >>= f) post (Leaves S job) := by
  refine triple_read_bind fun w₀ => Triple.strengthen (h w₀) ?_
  rintro w g ⟨hw, hheld, hC⟩
  exact ⟨hheld, hw, hC⟩

/-- The run has just committed the version in memory. -/
def Recorded (D : StorageShrinkOperation → Prop) (w : StorageShrinkOperation) (g : Ledger) : Prop :=
  g.base = some w ∧ g.spoiled = false ∧ D w

/-- **The rule of a save**: what is committed is a transition. -/
theorem triple_save {ε : Type} {f : StorageError → ε}
    {err : ε → StorageShrinkOperation → Ledger → Prop}
    (hcommit : ∀ w g, pre w g → g.spoiled = false → ∃ o, g.base = some o ∧ Evolves S o w u)
    (hfail : ∀ e w g, pre w g → err (f e) w { g with spoiled := g.spoiled || S.critical w u })
    (hD : ∀ w g, pre w g → D w) :
    Triple (shrinkContract S) pre (saveOperation f u) (fun _ => Recorded D) err := by
  intro w g hpre
  refine (holds_transact f (.saveShrink w u) _).2 ?_
  rintro _ rfl r _ ⟨hadmits, rfl⟩
  cases r with
  | ok _ => exact ⟨hcommit w g hpre hadmits.1, rfl, hadmits.1, hD w g hpre⟩
  | error e => exact ⟨trivial, hfail e w g hpre⟩

/-- The operation is changed in memory, and then saved: the change stays when the save fails. -/
theorem triple_saveAs
    {err : JobHandlerError → StorageShrinkOperation → Ledger → Prop}
    (hcommit : ∀ w g, pre w g → g.spoiled = false →
      ∃ o, g.base = some o ∧ Evolves S o (change w) u)
    (hfail : ∀ text w g, pre w g →
      err (.failed text) (change w) { g with spoiled := g.spoiled || S.critical (change w) u })
    (hD : ∀ w g, pre w g → D (change w)) :
    Triple (shrinkContract S) pre (saveAs change u) (fun _ => Recorded D) err := by
  have hmodify : Triple (shrinkContract S) pre (modify change : ShrinkRoutine Unit)
      (fun _ w g => ∃ w₀, pre w₀ g ∧ w = change w₀) err :=
    triple_modify fun w g hpre => ⟨w, hpre, rfl⟩
  refine triple_bind hmodify fun _ => triple_save ?_ ?_ ?_
  · rintro _ g ⟨w, hpre, rfl⟩
    exact hcommit w g hpre
  · rintro e _ g ⟨w, hpre, rfl⟩
    exact hfail e.message w g hpre
  · rintro _ g ⟨w, hpre, rfl⟩
    exact hD w g hpre

theorem leaves_saveAs
    (hevolves : ∀ o w, Near S o w → C w → Evolves S o (change w) u)
    (hstrands : ∀ o w, Near S o w → C w → S.critical (change w) u = false →
      Strands S o (change w))
    (hD : ∀ w, C w → D (change w)) :
    Triple (shrinkContract S) (fun w g => Held S w g ∧ C w) (saveAs change u)
      (fun _ => Recorded D) (Leaves S job) := by
  refine triple_saveAs ?_ ?_ fun w _ hw => hD w hw.2
  · rintro w g ⟨hheld, hC⟩ hspoiled
    obtain ⟨o, hbase, ho⟩ := hheld hspoiled
    exact ⟨o, hbase, hevolves o w ho hC⟩
  · rintro text w g ⟨hheld, hC⟩ hspoiled
    obtain ⟨hbefore, hlost⟩ := Bool.or_eq_false_iff.1 hspoiled
    obtain ⟨o, hbase, ho⟩ := hheld hbefore
    exact ⟨o, hbase, hstrands o w ho hC hlost⟩

/-- The save of the next phase, which ends the run. -/
theorem leaves_enterPhase {phase : StorageShrinkPhase} {now : ℤ}
    {post : Unit → StorageShrinkOperation → Ledger → Prop}
    (hevolves : ∀ o w, Near S o w → C w → Evolves S o (w.enter phase now) u)
    (hstrands : ∀ o w, Near S o w → C w → S.critical (w.enter phase now) u = false →
      Strands S o (w.enter phase now)) :
    Triple (shrinkContract S) (fun w g => Held S w g ∧ C w) (enterPhase phase now u) post
      (Leaves S job) :=
  triple_bind (leaves_saveAs hevolves hstrands fun _ _ => trivial)
    fun _ => triple_throw fun _ _ (_ : Recorded (fun _ => True) _ _) => trivial

end Saves

end WorkspaceControl
