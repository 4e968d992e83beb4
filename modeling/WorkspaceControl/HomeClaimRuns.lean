/-
**Home claims over all interleavings.**

The workers run storage operations, which switch a workspace to another claim and back; the API
creates workspaces and binds them.  A bind of the API is two steps here: its query, which sees the
other workspaces as they were committed at that time, and its write, which the unique indexes may
refuse.  Between them anything may happen.

The handler of storage operations keeps one thing in memory: what it has recorded as a home volume
is free for the workspace of the operation.  A source is the claim that the workspace was bound to
when the operation was requested, or the one it derives; a destination has a name of its own.

Main definitions:

* `HomeState`, `HomeState.Performs`, `HomeState.Surrounds` — the scene with the earlier ones that
  queries have seen, what a call does to it, and what the API does;
* `Minds` — triples of the routines on an operation;
* `homes` — the system of the workers and of the API.

Main results:

* `handleStorageShrink_minds`, `storageShrinkTerminalFailure_minds` — **a run saves only home
  volumes that are free** for the workspace of the operation;
* `homes_sound` — the system keeps the invariant;
* `home_claims_stay_apart` — **no two workspaces resolve to one home claim**.
-/

import WorkspaceControl.HomeClaims
import WorkspaceControl.Installation
import WorkspaceControl.RowFidelity

set_option autoImplicit false

namespace WorkspaceControl

open Fallible MachineInt Relational Interaction Routine

/-! ### Calls -/

/-- What is there now, and what the queries of open transactions have seen. -/
structure HomeState where
  now : Scene
  past : List Scene

/-- The cluster answers with the claim it was asked for. -/
def Answered : (c : signature.Call) → signature.Response c → Prop
  | .cluster (.requireClaim name), .ok claim => claim.metadata.name = some name
  | _, _ => True

/-- **A call**: a transaction whose result the indexes would refuse does not commit. -/
def HomeState.Performs : Semantics signature HomeState := fun s c r s' =>
  WorkspaceControl.Performs s.now.database c r s'.now.database ∧
    s'.now.database.HomeIndexes ∧ s'.now.taken = s.now.taken ∧ s'.past = s.past ∧ Answered c r

/-- The invariant: that of the scene, which extends everything that a query has seen. -/
structure HomeState.Sound (s : HomeState) : Prop where
  now : s.now.Sound
  past : ∀ seen ∈ s.past, seen.Sound ∧ seen.Extends s.now

/-- What was free for a workspace still is. -/
def HomeState.Extends (s s' : HomeState) : Prop := s.now.Extends s'.now

/-- From a sound state, the steps of everybody keep the invariant, and what is free. -/
def homeContract : Contract signature HomeState where
  semantics := HomeState.Performs
  rely s s' := s.Extends s' ∧ s'.Sound
  guarantee s _ _ s' := s.Sound → s'.Sound ∧ s.Extends s'

variable {names : List String} {change : StorageShrinkOperation → StorageShrinkOperation}
  {claim : PersistentVolumeClaim}

theorem Scene.admits_of_leavesHomes (s : Scene) {call : StoreCall} (h : call.LeavesHomes) :
    s.Admits call := by
  cases call with
  | create | saveShrink => exact h.elim
  | update _ _ _ _ setting =>
    cases setting with
    | homeVolume => exact h.elim
    | _ => trivial
  | _ => trivial

variable {s s' : HomeState} {α ε : Type}

/-- A step to a scene that extends the one before. -/
theorem HomeState.Sound.of_now (h : s.Sound) (hnow : s'.now.Sound ∧ s.now.Extends s'.now)
    (hpast : s'.past = s.past) :
    s'.Sound ∧ s.Extends s' := by
  refine ⟨⟨hnow.1, fun seen hseen => ?_⟩, hnow.2⟩
  rw [hpast] at hseen
  exact ⟨(h.past seen hseen).1, (h.past seen hseen).2.trans hnow.2⟩

/-- An admitted transaction of a worker. -/
theorem HomeState.Sound.store {s s' : HomeState} (h : s.Sound) {call : StoreCall}
    {response : call.Response} (hperforms : HomeState.Performs s (.store call) response s')
    (hadmits : s.now.Admits call)
    (hcall : ∀ id jobId command options, call ≠ .create id jobId command options) :
    s'.Sound ∧ s.Extends s' := by
  obtain ⟨hstore, hindexes, htaken, hpast, -⟩ := hperforms
  refine h.of_now ?_ hpast
  rw [show s'.now = ⟨s'.now.database, s.now.taken⟩ by rw [← htaken]]
  exact h.now.writes hadmits hcall hstore.of_store.writes hindexes

/-- A call that neither creates a workspace nor writes a claim. -/
def HarmlessCall : Call → Prop
  | .store call => call.LeavesHomes
  | _ => True

theorem HomeState.Sound.harmless (h : s.Sound) {c r}
    (hperforms : HomeState.Performs s c r s') (hc : HarmlessCall c) :
    s'.Sound ∧ s.Extends s' := by
  cases c with
  | store call =>
    refine h.store hperforms (s.now.admits_of_leavesHomes hc) ?_
    rintro id jobId command options rfl
    exact hc
  | cluster | clock | newId =>
    obtain ⟨hstays, -, htaken, hpast, -⟩ := hperforms
    refine h.of_now ?_ hpast
    have hnow : s'.now = s.now := by
      have hdatabase : s'.now.database = s.now.database := by
        generalize s.now.database = db, s'.now.database = db' at hstays ⊢
        cases hstays
        rfl
      cases hs : s.now
      cases hs' : s'.now
      rw [hs, hs'] at hdatabase htaken
      exact Scene.mk.injEq .. ▸ ⟨hdatabase, htaken⟩
    rw [hnow]
    exact ⟨h.now, .refl _⟩

/-! ### Routines on an operation -/

/-- What a routine knows: the home volumes of the operation in memory, and some more names, are
free for the workspace of the operation. -/
def Minding (names : List String) (w : StorageShrinkOperation) (s : HomeState) : Prop :=
  s.now.Holds w ∧ ∀ name ∈ names, s.now.FreeFor w.workspaceId name

theorem Minding.extends {w : StorageShrinkOperation} (h : Minding names w s)
    (hextends : s.Extends s') : Minding names w s' :=
  ⟨h.1.extends hextends, fun name hname => hextends _ _ (h.2 name hname)⟩

/-- A call that writes no claim, after steps of the others. -/
theorem Minding.harmless {w : StorageShrinkOperation} (h : Minding names w s) {s₁ s₂ : HomeState}
    (hrely : homeContract.rely s s₁) {c r}
    (hperforms : HomeState.Performs s₁ c r s₂) (hc : HarmlessCall c) :
    homeContract.guarantee s₁ c r s₂ ∧ Minding names w s₂ := by
  obtain ⟨hsound, hextends⟩ := hrely.2.harmless hperforms hc
  exact ⟨fun _ => ⟨hsound, hextends⟩, (h.extends hrely.1).extends hextends⟩

/-- **Triples on the operation in memory.** -/
structure Minds {α ε : Type} (names : List String)
    (x : OperationRoutine ε α) (Q : α → Prop) : Prop where
  triple : Triple homeContract (Minding names) x (fun a w s => Minding names w s ∧ Q a)
    fun _ w s => Minding names w s

/-- Of the result nothing is asked. -/
abbrev Any {α : Type} (_ : α) : Prop := True

section Rules

variable {β ε' : Type} {Q : α → Prop} {x : OperationRoutine ε α}

variable {E : ε → Prop} {R : β → Prop} {f : α → OperationRoutine ε β}
  {r : Except ε' α}

theorem minds_bind (hx : Minds names x Q) (hf : ∀ a, Q a → Minds names (f a) R) :
    Minds names (x >>= f) R :=
  ⟨triple_bind hx.triple fun a w s ha => (hf a ha.2).triple w s ha.1⟩

theorem minds_then (hx : Minds names x Any) (hf : ∀ a, Minds names (f a) R) :
    Minds names (x >>= f) R :=
  minds_bind hx fun a _ => hf a

theorem minds_read_bind {f : StorageShrinkOperation → OperationRoutine ε β}
    (h : ∀ w, Minds names (f w) R) : Minds names (read >>= f) R :=
  ⟨triple_read_bind fun w₀ w s hw => (h w₀).triple w s hw.2⟩

theorem minds_pure {a : α} (h : Q a) :
    Minds names (pure a : OperationRoutine ε α) Q :=
  ⟨triple_pure fun _ _ hw => ⟨hw, h⟩⟩

theorem minds_throw (e : ε) :
    Minds names (throw e : OperationRoutine ε α) Q :=
  ⟨triple_throw fun _ _ => id⟩

theorem minds_attempt {f : ε' → ε} (h : ∀ a, r = .ok a → Q a) :
    Minds names (attempt f r : OperationRoutine ε α) Q :=
  ⟨triple_attempt (fun a ha _ _ hw => ⟨hw, h a ha⟩) fun _ _ _ _ => id⟩

theorem minds_attempt_then {f : ε' → ε} {g : α → OperationRoutine ε β}
    (h : ∀ a, Minds names (g a) R) : Minds names (attempt f r >>= g) R :=
  minds_then (minds_attempt fun _ _ => trivial) h

theorem minds_mapError {f : ε → ε'} (h : Minds names x Q) : Minds names (mapError f x) Q :=
  ⟨triple_mapError h.triple⟩

theorem minds_result (h : Minds names x Q) :
    Minds names (result x : OperationRoutine ε' (Except ε α)) Any :=
  ⟨triple_result (h.triple.conseq (fun _ _ => id) (fun _ _ _ ha => ⟨ha.1, trivial⟩)
    fun _ _ _ he => ⟨he, trivial⟩)⟩

theorem minds_modify {f : StorageShrinkOperation → StorageShrinkOperation}
    (hworkspace : ∀ w, (f w).workspaceId = w.workspaceId)
    (hsource : ∀ w, (f w).home.source = w.home.source)
    (hdestination : ∀ w, (f w).home.destination = w.home.destination) :
    Minds names (modify f : OperationRoutine ε Unit) Any := by
  refine ⟨triple_modify fun w s hw => ⟨⟨?_, ?_⟩, trivial⟩⟩
  · exact hw.1.of_eq (hworkspace w) (hsource w) (hdestination w)
  · rw [hworkspace]
    exact hw.2

/-- A change that is about neither the workspace nor its home volumes. -/
def KeepsHome (change : StorageShrinkOperation → StorageShrinkOperation) : Prop :=
  ∀ w, (change w).workspaceId = w.workspaceId ∧ (change w).home = w.home

theorem minds_change (h : KeepsHome change) :
    Minds names (modify change : OperationRoutine ε Unit) Any :=
  minds_modify (fun w => (h w).1) (fun w => by rw [(h w).2]) fun w => by rw [(h w).2]

theorem minds_request {call : ClusterCall} {Q : call.Response → Prop}
    (h : ∀ r, Answered (.cluster call) r → Q r) :
    Minds names (request call : OperationRoutine ε _) Q := by
  refine ⟨fun w s hw => ?_⟩
  rw [holds_request]
  intro s₁ hrely r s₂ hperforms
  obtain ⟨hguarantee, hw'⟩ := hw.harmless hrely hperforms trivial
  exact ⟨hguarantee, hw', h r hperforms.2.2.2.2⟩

/-- Requests to the cluster write no claim. -/
theorem Inquires.minds (h : Inquires E Q x) : Minds names x Q := by
  refine ⟨fun w s hw => (h w).meets_keeping hw ?_ ?_⟩
  · rintro s s₁ _ r s₂ hw hrely ⟨call, rfl⟩ hperforms
    exact hw.harmless hrely hperforms trivial
  · rintro ⟨_ | a, _⟩ s hw ⟨rfl, ha⟩
    · exact hw
    · exact ⟨hw, ha⟩

theorem Inquires.minds_then (h : Inquires E Q x) (hf : ∀ a, Minds names (f a) R) :
    Minds names (x >>= f) R :=
  minds_bind h.minds fun a _ => hf a

theorem minds_transact {f : StorageError → ε} {call : StoreCall} (hcall : call.LeavesHomes) :
    Minds names (transact f call : OperationRoutine ε _) Any := by
  refine ⟨fun w s hw => ?_⟩
  rw [holds_transact]
  intro s₁ hrely r s₂ hperforms
  obtain ⟨hguarantee, hw'⟩ := hw.harmless hrely hperforms hcall
  cases r with
  | ok a => exact ⟨hguarantee, hw', trivial⟩
  | error e => exact ⟨hguarantee, hw'⟩

/-- The operation is saved as it is in memory, with any update of the workspace. -/
theorem minds_saveOperation {f : StorageError → ε} (update : ShrinkWorkspaceUpdate) :
    Minds names (saveOperation f update) Any := by
  refine ⟨fun w s hw => ?_⟩
  refine (holds_transact f (.saveShrink w update) _).2 ?_
  rintro s₁ ⟨hextends, hsound⟩ r s₂ hperforms
  have hw₁ := hw.extends hextends
  obtain ⟨hsound', hextends'⟩ := hsound.store hperforms hw₁.1 fun _ _ _ _ => nofun
  cases r with
  | ok a => exact ⟨fun _ => ⟨hsound', hextends'⟩, hw₁.extends hextends', trivial⟩
  | error e => exact ⟨fun _ => ⟨hsound', hextends'⟩, hw₁.extends hextends'⟩

/-- A routine with no operation of its own, next to one that has. -/
theorem minds_scope {y : Routine signature Unit ε α} {P : Call → Prop} {R : Except ε α → Prop}
    (h : Yields P R y) (hP : ∀ c, P c → HarmlessCall c) :
    Minds names (scope () y : OperationRoutine ε α) Any := by
  refine ⟨triple_scope fun w s hw => (h ()).meets_keeping hw ?_ ?_⟩
  · exact fun s s₁ c r s₂ hw hrely hc hperforms => hw.harmless hrely hperforms (hP c hc)
  · rintro ⟨_ | a, _⟩ s hw -
    · exact hw
    · exact ⟨hw, trivial⟩

end Rules

/-! ### The coordinator -/

section Coordinator

variable {installation : Uuid} {workspace : Workspace}

/-- The name of a claim is the name of its binding. -/
theorem bindingFromClaim_eq_ok {binding : WorkspaceHomeVolumeBinding}
    (h : bindingFromClaim claim = .ok binding) :
    binding.namespace = workspaceNamespace ∧ claim.metadata.name = some binding.claimName := by
  simp only [bindingFromClaim, bind_eq_ok, okOr_eq_ok, pure_eq_ok] at h
  obtain ⟨_, -, _, -, name, hname, _, -, rfl⟩ := h
  exact ⟨rfl, hname⟩

/-- A claim that was found becomes the home source: its name is known to be free. -/
theorem minds_adoptSource_home {name : String} (hname : name ∈ names)
    (hclaim : claim.metadata.name = some name) :
    Minds names (adoptSource installation workspace .home claim) Any := by
  refine minds_attempt_then fun _ => ?_
  refine minds_bind (minds_attempt fun _ => bindingFromClaim_eq_ok) fun binding hbinding => ?_
  refine ⟨triple_modify fun w s hw => ⟨⟨?_, hw.2⟩, trivial⟩⟩
  rintro other (hsource | hdestination)
  · obtain rfl := Option.some_inj.1
      (show some binding = some other from hsource)
    refine ⟨hbinding.1, hw.2 _ ?_⟩
    rwa [Option.some_inj.1 (hbinding.2.symm.trans hclaim)]
  · exact hw.1 other (.inr hdestination)

theorem minds_adoptSource_temporary (claim : PersistentVolumeClaim) :
    Minds names (adoptSource installation workspace .temporary claim) Any :=
  minds_attempt_then fun _ =>
    minds_attempt_then fun _ =>
      minds_modify (fun _ => rfl) (fun _ => rfl) fun _ => rfl

/-- **The home source** is the claim that the workspace derives. -/
theorem minds_discoverHomeSource (hname : dataPvcOrdinalZero workspace.shortId ∈ names)
    (source : Option WorkspaceHomeVolumeBinding) :
    Minds names (discoverHomeSource installation workspace source) Any := by
  cases source with
  | some source => exact minds_pure trivial
  | none =>
    refine minds_bind (minds_request fun r hr => hr) fun r hr => ?_
    refine minds_bind (minds_attempt ?_) fun claim hclaim => minds_adoptSource_home hname hclaim
    rintro claim rfl
    exact hr

theorem minds_discoverScratchSource (source : Option WorkspaceHomeVolumeBinding) :
    Minds names (discoverScratchSource installation workspace source) Any := by
  cases source with
  | some source => exact minds_pure trivial
  | none =>
    refine minds_then (minds_request fun _ _ => trivial) fun _ => ?_
    refine minds_attempt_then fun _ => ?_
    refine minds_then (minds_request fun _ _ => trivial) fun _ => ?_
    refine minds_attempt_then fun claim => ?_
    refine minds_read_bind fun w => ?_
    cases claim with
    | some claim => exact minds_adoptSource_temporary claim
    | none => exact minds_attempt fun _ _ => trivial

theorem minds_updateVolume (role : ShrinkRole) {f : StorageShrinkVolume → StorageShrinkVolume}
    (hsource : ∀ v, (f v).source = v.source)
    (hdestination : ∀ v, (f v).destination = v.destination) :
    Minds names (modify fun operation => operation.updateVolume role f :
      OperationRoutine ε Unit) Any := by
  refine minds_modify (fun w => ?_) (fun w => ?_) fun w => ?_
  · cases role <;> rfl
  · cases role with
    | home => exact hsource _
    | temporary => rfl
  · cases role with
    | home => exact hdestination _
    | temporary => rfl

theorem minds_recordSource (role : ShrinkRole) (source : WorkspaceHomeVolumeBinding) :
    Minds names (recordSource installation workspace role source) Any := by
  refine (inquires_shrinkClaim source true).minds_then fun _ => ?_
  refine minds_then ?_ fun _ => minds_read_bind fun w => minds_then ?_ fun _ =>
    minds_attempt fun _ _ => trivial
  · exact minds_modify (fun _ => by cases role <;> rfl) (fun _ => by cases role <;> rfl)
      fun _ => by cases role <;> rfl
  · unfold recordSourceVolume
    split
    · exact minds_pure trivial
    · exact (inquires_shrinkVolumeIdentity source).minds_then fun _ =>
        minds_updateVolume role (fun _ => rfl) fun _ => rfl

theorem minds_discoverShrinkSources (hname : dataPvcOrdinalZero workspace.shortId ∈ names) :
    Minds names (discoverShrinkSources installation workspace) Any := by
  refine minds_then (minds_request fun _ _ => trivial) fun _ => ?_
  refine minds_attempt_then fun _ => minds_read_bind fun w => ?_
  refine minds_then (minds_discoverHomeSource hname _) fun _ => minds_read_bind fun w => ?_
  refine minds_attempt_then fun home => ?_
  refine minds_then (minds_recordSource .home home) fun _ => minds_read_bind fun w => ?_
  refine minds_then (minds_discoverScratchSource _) fun _ => minds_read_bind fun w => ?_
  unfold recordScratch
  split
  · exact minds_recordSource .temporary _
  · exact minds_pure trivial

theorem minds_recordHelper (name uid : String) :
    Minds names (modify (recordHelper name uid) :
      OperationRoutine ε Unit) Any := by
  refine minds_change fun w => ?_
  unfold recordHelper
  split
  · exact ⟨rfl, rfl⟩
  · exact ⟨rfl, rfl⟩

theorem minds_shrinkPod (role : ShrinkRole) (stage : ShrinkPodStage) :
    Minds names (shrinkPod installation workspace role stage) Any := by
  refine minds_read_bind fun w => ?_
  refine minds_attempt_then fun source => ?_
  refine (inquires_shrinkClaim source true).minds_then fun _ => ?_
  refine (inquires_checkDestination stage _ false).minds_then fun _ => ?_
  refine minds_then (minds_request fun _ _ => trivial) fun _ => ?_
  refine minds_attempt_then fun pod => ?_
  refine minds_attempt_then fun uid => ?_
  refine minds_then (minds_recordHelper _ uid) fun _ => minds_read_bind fun w => ?_
  refine minds_attempt_then fun _ => ?_
  split
  · refine minds_attempt_then fun _ => ?_
    exact (inquires_checkDestination stage _ true).minds_then fun _ => minds_pure trivial
  · exact minds_throw _
  · exact minds_pure trivial

end Coordinator

/-! ### The phases -/

section Phases

variable {installation : Uuid} {workspace : Workspace} {now : ℤ}

theorem minds_saveAs {update : ShrinkWorkspaceUpdate} (h : KeepsHome change) :
    Minds names (saveAs change update) Any :=
  minds_then (minds_change h) fun _ => minds_saveOperation update

theorem minds_enterPhase (phase : StorageShrinkPhase) (update : ShrinkWorkspaceUpdate) :
    Minds names (enterPhase phase now update) Any :=
  minds_then (minds_saveAs fun _ => ⟨rfl, rfl⟩) fun _ => minds_throw _

theorem minds_runShrinkPod (role : ShrinkRole) (stage : ShrinkPodStage) :
    Minds names (runShrinkPod installation workspace now role stage) Any := by
  refine minds_read_bind fun w => minds_then (minds_result (minds_shrinkPod role stage)) fun _ => ?_
  refine minds_then (minds_read_bind fun w => ?_) fun _ => minds_attempt fun _ _ => trivial
  split
  · exact minds_saveAs fun _ => ⟨rfl, rfl⟩
  · exact minds_pure trivial

theorem minds_awaitPod (message : String) (usage : Option ShrinkUsage) :
    Minds names (awaitPod message usage) Any := by
  cases usage with
  | some usage => exact minds_pure trivial
  | none => exact minds_throw _

theorem minds_advanceQueued (hname : dataPvcOrdinalZero workspace.shortId ∈ names) :
    Minds names (advanceQueued installation workspace now) Any := by
  refine minds_then (minds_mapError (minds_discoverShrinkSources hname)) fun _ => ?_
  refine minds_then (minds_saveOperation _) fun _ => ?_
  refine minds_then (minds_runShrinkPod .home .preflight) fun usage => ?_
  refine minds_then (minds_awaitPod _ usage) fun _ => minds_read_bind fun w => ?_
  refine minds_then (minds_request fun _ _ => trivial) fun _ => ?_
  exact (inquires_awaitCluster _ _).minds_then fun _ => minds_enterPhase _ _

theorem minds_measureVolume (role : ShrinkRole) :
    Minds names (measureVolume installation workspace now role) Any := by
  refine minds_read_bind fun w => ?_
  split
  · exact minds_pure trivial
  · refine minds_then (minds_runShrinkPod role .measure) fun usage => ?_
    refine minds_then (minds_awaitPod _ usage) fun usage => ?_
    refine minds_then (minds_updateVolume role (fun _ => rfl) fun _ => rfl) fun _ => ?_
    refine minds_read_bind fun w => minds_attempt_then fun _ => ?_
    exact minds_saveAs fun _ => ⟨rfl, rfl⟩

/-- The destination that was made becomes the one of the volume. -/
theorem minds_destinationFor (role : ShrinkRole) (operation : StorageShrinkOperation) :
    Minds names (destinationFor installation workspace role operation) Any := by
  unfold destinationFor
  split
  · refine minds_attempt_then fun source => ?_
    refine minds_bind (minds_mapError
      (inquires_createShrinkDestination operation.id role source _).minds)
      fun destination hdestination => ?_
    cases role with
    | temporary => exact minds_modify (fun _ => rfl) (fun _ => rfl) fun _ => rfl
    | home =>
      refine ⟨triple_modify fun w s hw => ⟨⟨?_, hw.2⟩, trivial⟩⟩
      rintro binding (hsource | hfound)
      · exact hw.1 binding (.inl hsource)
      · obtain rfl := Option.some_inj.1 (show some destination = some binding from hfound)
        rw [hdestination.2]
        exact ⟨hdestination.1, s.now.freeFor_shrinkClaimName _ _ _⟩
  · exact minds_pure trivial

theorem minds_advanceMeasuring :
    Minds names (advanceMeasuring installation workspace now) Any := by
  refine minds_then (minds_measureVolume .home) fun _ => ?_
  refine minds_then (minds_measureVolume .temporary) fun _ => minds_read_bind fun w => ?_
  refine minds_then (minds_destinationFor .home w) fun _ => minds_read_bind fun w => ?_
  exact minds_then (minds_destinationFor .temporary w) fun _ => minds_enterPhase _ _

theorem minds_copyVolume (stage : ShrinkPodStage) (role : ShrinkRole) :
    Minds names (copyVolume installation workspace now stage role) Any := by
  refine minds_read_bind fun w => ?_
  split
  · exact minds_pure trivial
  · refine minds_then (minds_runShrinkPod role stage) fun usage => ?_
    refine minds_then (minds_awaitPod _ usage) fun usage => minds_read_bind fun w => ?_
    refine minds_attempt_then fun _ => ?_
    split
    · refine minds_read_bind fun w => minds_attempt_then fun _ => ?_
      exact minds_then (minds_mapError (inquires_shrinkVolumeIdentity _).minds) fun _ =>
        minds_updateVolume role (fun _ => rfl) fun _ => rfl
    · exact minds_pure trivial

theorem minds_advanceCopyingOrVerifying :
    Minds names (advanceCopyingOrVerifying installation workspace now) Any :=
  minds_read_bind fun _ => minds_then (minds_copyVolume _ .home) fun _ =>
    minds_then (minds_copyVolume _ .temporary) fun _ => minds_enterPhase _ _

theorem minds_advanceSwitching : Minds names (advanceSwitching now) Any :=
  (inquires_removeHelpers _).minds_then fun _ => (inquires_stopWorkspace _).minds_then fun _ =>
    minds_then (minds_saveAs fun _ => ⟨rfl, rfl⟩) fun _ => minds_throw _

theorem minds_completeOperation : Minds names (completeOperation now) Any := by
  refine minds_then (minds_saveAs fun _ => ⟨rfl, rfl⟩) fun _ =>
    minds_read_bind fun w => ?_
  split
  · exact minds_throw _
  · exact minds_pure trivial

theorem ReconcilerCall.harmless {c : Call} (h : ReconcilerCall workspace c) : HarmlessCall c := by
  cases c with
  | store call =>
    cases call with
    | observe | listShrinks | saveShrinkCleanup => trivial
    | _ => exact h.elim
  | _ => trivial

theorem minds_reconcileWorkspace (job : ClaimedJob) :
    Minds names (scope () (reconcileWorkspace workspace job) : ShrinkRoutine Unit) Any :=
  minds_scope (reconcileWorkspace_yields workspace job) fun _ => ReconcilerCall.harmless

theorem minds_advanceResuming (job : ClaimedJob) :
    Minds names (advanceResuming workspace now job) Any := by
  refine minds_read_bind fun w => ?_
  split
  · unfold resumeWorkspace
    split
    · exact minds_then (minds_saveAs fun _ => ⟨rfl, rfl⟩) fun _ => minds_throw _
    · exact minds_completeOperation
    · exact minds_then (minds_reconcileWorkspace job) fun _ => minds_throw _
  · exact minds_then (minds_reconcileWorkspace job) fun _ => minds_completeOperation

theorem minds_advanceRollingBack : Minds names (advanceRollingBack now) Any :=
  (inquires_removeHelpers _).minds_then fun _ => (inquires_stopWorkspace _).minds_then fun _ =>
    minds_read_bind fun _ => minds_saveAs fun _ => ⟨rfl, rfl⟩

theorem minds_advanceReclaiming :
    Minds names (advanceReclaiming installation workspace now) Any := by
  refine minds_read_bind fun w => minds_attempt_then fun _ => ?_
  refine minds_then (minds_mapError inquires_reclaimShrinkSources.minds) fun _ => ?_
  exact (inquires_awaitCluster _ _).minds_then fun _ =>
      minds_saveAs fun _ => ⟨rfl, rfl⟩

theorem minds_advanceStorageShrink (hname : dataPvcOrdinalZero workspace.shortId ∈ names)
    (job : ClaimedJob) :
    Minds names (advanceStorageShrink installation workspace now job) Any := by
  refine minds_read_bind fun w => ?_
  split
  · exact minds_advanceQueued hname
  · exact (inquires_stopWorkspace _).minds_then fun _ => minds_enterPhase _ _
  · exact minds_advanceMeasuring
  · exact minds_advanceCopyingOrVerifying
  · exact minds_advanceCopyingOrVerifying
  · exact minds_advanceSwitching
  · exact minds_advanceResuming job
  · exact minds_advanceRollingBack
  · exact minds_advanceReclaiming
  · exact minds_pure trivial
  · exact minds_pure trivial
  · exact minds_pure trivial

theorem minds_finishPreflightFailure : Minds names (finishPreflightFailure now) Any :=
  (inquires_removeHelpers _).minds_then fun _ => minds_saveAs fun _ => ⟨rfl, rfl⟩

theorem minds_failInPhase (text : String) (operation : StorageShrinkOperation) :
    Minds names (failInPhase now text operation) Any := by
  unfold failInPhase
  split
  · exact minds_saveAs fun _ => ⟨rfl, rfl⟩
  · exact minds_throw _
  · exact minds_then (minds_saveAs fun _ => ⟨rfl, rfl⟩) fun _ =>
      minds_finishPreflightFailure
  · exact minds_then (minds_saveAs fun _ => ⟨rfl, rfl⟩) fun _ => minds_throw _

theorem minds_driveOperation (hname : dataPvcOrdinalZero workspace.shortId ∈ names)
    (job : ClaimedJob) : Minds names (driveOperation installation workspace now job) Any := by
  refine minds_read_bind fun w => ?_
  split
  · exact minds_finishPreflightFailure
  · refine minds_then (minds_result (Q := Any) (minds_read_bind fun w => ?_)) fun outcome => ?_
    · split
      · exact minds_throw _
      · exact minds_advanceStorageShrink hname job
    · unfold settleAdvance
      split
      · exact minds_read_bind fun w => minds_failInPhase _ w
      · exact minds_throw _
      · exact minds_pure trivial

end Phases

/-! ### Runs of the handler -/

/-- Every call of a routine keeps the invariant. -/
abbrev KeepsHomes {ω ε α : Type} (x : Routine signature ω ε α) : Prop :=
  Always homeContract.semantics homeContract.rely homeContract.guarantee x

theorem keepsHomes_of_triple {x : Routine signature Unit ε α}
    (h : Triple homeContract (fun _ _ => True) x (fun _ _ _ => True) fun _ _ _ => True) :
    KeepsHomes x :=
  fun w s => (h w s trivial).mono fun _ _ _ _ => trivial

section Handler

variable {f : StorageError → ε}

/-- The latest operation of a workspace is about that workspace, and what it has recorded is
free. -/
theorem triple_latestShrink (workspaceId : Uuid) :
    Triple homeContract (fun _ _ => True)
      (transact f (.latestShrink workspaceId) : Routine signature Unit ε _)
      (fun latest _ s => ∀ operation, latest = some operation →
        operation.workspaceId = workspaceId ∧ s.now.Holds operation) fun _ _ _ => True := by
  intro w s _
  rw [holds_transact]
  rintro s₁ ⟨-, hsound⟩ r s₂ hperforms
  obtain ⟨hsound', hextends⟩ := hsound.harmless hperforms trivial
  refine ⟨fun _ => ⟨hsound', hextends⟩, ?_⟩
  cases r with
  | error e => trivial
  | ok latest =>
    rintro operation rfl
    obtain ⟨_, htransaction⟩ := hperforms.1.of_store.transaction_of_ok
    have hlatest := Except.ok.inj (Prod.mk.inj htransaction).1
    obtain ⟨row, hrow, rfl, -, hworkspace⟩ := hsound.now.operations.latest hlatest
    exact ⟨(hsound.now.operations.agrees row hrow).workspaceId.trans hworkspace,
      (hsound.now.recorded row hrow).extends hextends⟩

variable {operation : StorageShrinkOperation}

/-- The claim that a workspace derives is free for it. -/
theorem triple_getWorkspace :
    Triple homeContract (fun _ s => s.now.Holds operation)
      (transact f (.getWorkspace operation.workspaceId) : Routine signature Unit ε _)
      (fun workspace _ s => Minding [dataPvcOrdinalZero workspace.shortId] operation s)
      fun _ _ _ => True := by
  intro w s hholds
  rw [holds_transact]
  rintro s₁ ⟨hextends₁, hsound⟩ r s₂ hperforms
  obtain ⟨hsound', hextends⟩ := hsound.harmless hperforms trivial
  refine ⟨fun _ => ⟨hsound', hextends⟩, ?_⟩
  cases r with
  | error e => trivial
  | ok workspace =>
    refine ⟨(hholds.extends hextends₁).extends hextends, ?_⟩
    rintro name (_ | ⟨_, ⟨⟩⟩)
    obtain ⟨_, htransaction⟩ := hperforms.1.of_store.transaction_of_ok
    have hget : s₁.now.database.getWorkspace operation.workspaceId = .ok workspace :=
      (Prod.mk.inj htransaction).1
    simp only [Database.getWorkspace, bind_eq_ok, pure_eq_ok, Prod.exists] at hget
    obtain ⟨row, _, hfetch, rfl⟩ := hget
    obtain ⟨hfound, document, hdecodes⟩ := Database.fetchWorkspace_eq_ok.1 hfetch
    obtain ⟨hrow, hid⟩ := Table.find_eq_some.1 hfound
    have hderived := hextends _ _ (hsound.now.derived row hrow)
    rwa [hid, ← hdecodes.shortId.1] at hderived

theorem triple_unixTimestamp {f : String → ε} :
    Triple homeContract (fun _ s => Minding names operation s)
      (unixTimestamp f : Routine signature Unit ε ℤ) (fun _ _ s => Minding names operation s)
      fun _ _ _ => True := by
  intro w s hw
  rw [holds_unixTimestamp]
  intro s₁ hrely r s₂ hperforms
  obtain ⟨hguarantee, hw'⟩ := hw.harmless hrely hperforms trivial
  refine ⟨hguarantee, ?_⟩
  cases r with
  | error e => trivial
  | ok now => exact hw'

theorem Minds.scope {x : OperationRoutine ε α} {Q : α → Prop}
    (h : Minds names x Q) :
    Triple homeContract (fun _ s => Minding names operation s)
      (scope operation x : Routine signature Unit ε α) (fun _ _ _ => True) fun _ _ _ => True := by
  refine triple_scope fun w s hw => (h.triple operation s hw).mono fun r _ _ _ => ?_
  cases r with
  | ok | error => trivial

/-- **A run of the handler saves only home volumes that are free.** -/
theorem handleStorageShrink_minds (installation : Uuid) (job : ClaimedJob) :
    KeepsHomes (handleStorageShrink installation job) := by
  have hattempt : Triple homeContract (fun _ _ => True)
      (attempt .failed (okOr job.workspaceId "storage shrink job has no workspace") :
        Reconciler Uuid) (fun _ _ _ => True) fun _ _ _ => True :=
    triple_attempt (fun _ _ _ _ _ => trivial) fun _ _ _ _ _ => trivial
  refine keepsHomes_of_triple (triple_bind hattempt fun workspaceId =>
    triple_bind (triple_latestShrink workspaceId) fun latest => ?_)
  cases latest with
  | none => exact triple_pure fun _ _ _ => trivial
  | some operation =>
    refine triple_ite (fun _ => ?_) fun _ => triple_pure fun _ _ _ => trivial
    intro w s hlatest
    obtain ⟨rfl, hholds⟩ := hlatest operation rfl
    refine triple_bind triple_getWorkspace (fun workspace => triple_bind triple_unixTimestamp
      fun now => ?_) w s hholds
    exact (minds_driveOperation List.mem_cons_self job).scope

theorem minds_enqueueSuccessor (workspaceId : Uuid) (now : ℤ) :
    Minds names (enqueueSuccessor workspaceId now) Any := by
  refine minds_read_bind fun w => minds_then ⟨fun w s hw => ?_⟩ fun jobId => minds_transact trivial
  rw [holds_newId]
  intro s₁ hrely r s₂ hperforms
  obtain ⟨hguarantee, hw'⟩ := hw.harmless hrely hperforms trivial
  exact ⟨hguarantee, hw', trivial⟩

theorem minds_exhaustOperation (names : List String) (workspaceId : Uuid) (now : ℤ) :
    Minds names (exhaustOperation workspaceId now) Any := by
  refine minds_then (minds_change fun _ => ⟨rfl, rfl⟩) fun _ => minds_read_bind fun w => ?_
  unfold exhaustInPhase
  split
  · exact minds_then (minds_saveOperation _) fun _ => minds_enqueueSuccessor workspaceId now
  · refine minds_then (minds_change ?_) fun _ => minds_saveOperation _
    exact fun _ => ⟨rfl, rfl⟩
  · refine minds_then (minds_change ?_) fun _ => minds_then (minds_saveOperation _) fun _ =>
      minds_enqueueSuccessor workspaceId now
    exact fun _ => ⟨rfl, rfl⟩

/-- So does the last failure of a job. -/
theorem storageShrinkTerminalFailure_minds (job : ClaimedJob) (now : ℤ) :
    KeepsHomes (storageShrinkTerminalFailure job now) := by
  unfold storageShrinkTerminalFailure
  split
  · exact always_pure ()
  · rename_i workspaceId _
    refine keepsHomes_of_triple (triple_bind (triple_latestShrink workspaceId) fun latest => ?_)
    cases latest with
    | none => exact triple_pure fun _ _ _ => trivial
    | some operation =>
      refine triple_ite (fun _ => ?_) fun _ => triple_pure fun _ _ _ => trivial
      refine (minds_exhaustOperation [] workspaceId now).scope.strengthen ?_
      intro w s hlatest
      exact ⟨(hlatest operation rfl).2, fun _ hname => nomatch hname⟩

end Handler

/-! ### Workers and the API -/

theorem ReconcileJobCall.harmless {c : Call} (h : ReconcileJobCall c) : HarmlessCall c := by
  cases c with
  | store call =>
    cases call with
    | getWorkspace | shrinkActive | observe | listShrinks | saveShrinkCleanup => trivial
    | _ => exact h.elim
  | _ => trivial

theorem Housekeeping.harmless {c : Call} (h : Housekeeping c) : HarmlessCall c := by
  cases c with
  | store call =>
    cases call with
    | job | acquireLease | releaseLease => trivial
    | _ => exact h.elim
  | _ => trivial

theorem Worker.handle_keepsHomes (worker : Worker) (job : ClaimedJob) :
    KeepsHomes (worker.handle job) :=
  worker.handle_always job
    (fun _ _ _ _ hc hperforms hsound => hsound.harmless hperforms hc.harmless)
    (handleStorageShrink_minds worker.installation job)

theorem Worker.onTerminalFailure_keepsHomes (worker : Worker) (job : ClaimedJob) (now : ℤ) :
    KeepsHomes (worker.onTerminalFailure job now) :=
  worker.onTerminalFailure_always job now (P := HarmlessCall) (fun _ _ => trivial)
    (fun _ _ _ _ hc hperforms hsound => hsound.harmless hperforms hc)
    (storageShrinkTerminalFailure_minds job now)

/-- **What happens around the workers.**  Claims appear in the cluster.  A query sees what is
there.  A workspace is created under a short id that was never used: no workspace had it, and no
claim has the name that is derived from it.  A workspace is bound to a claim that was in the
cluster when the query of the bind ran.  All other transactions are made at any time. -/
inductive HomeState.Surrounds (s : HomeState) : HomeState → Prop
  | claim (name : String) : Surrounds s { s with now := ⟨s.now.database, name :: s.now.taken⟩ }
  | query : Surrounds s { s with past := s.now :: s.past }
  | transaction {call : StoreCall} {response : call.Response} {db' : Database}
      (hcall : call.LeavesHomes) (hperforms : call.Performs s.now.database response db')
      (hindexes : db'.HomeIndexes) : Surrounds s { s with now := ⟨db', s.now.taken⟩ }
  | create {id jobId command options response db'}
      (hfresh : dataPvcOrdinalZero (workspaceShortIdFor id) ∉ s.now.taken)
      (hperforms : (StoreCall.create id jobId command options).Performs s.now.database response
        db') (hindexes : db'.HomeIndexes) :
      Surrounds s { s with
        now := ⟨db', dataPvcOrdinalZero (workspaceShortIdFor id) :: s.now.taken⟩ }
  | bind {jobs homes jobId workspaceId binding expectedGeneration time adoptReady workspace db'}
      (hjobs : jobs ∈ s.now :: s.past) (hhomes : homes ∈ s.now :: s.past)
      (hclaim : binding.claimName ∈ homes.taken)
      (hbind : bindReadCommitted jobs.database homes.database s.now.database jobId workspaceId
        binding expectedGeneration time adoptReady = .ok (workspace, db'))
      (hindexes : db'.HomeIndexes) : Surrounds s { s with now := ⟨db', s.now.taken⟩ }

theorem HomeState.Surrounds.sound (h : s.Surrounds s') (hs : s.Sound) :
    s'.Sound ∧ s.Extends s' := by
  cases h with
  | claim name =>
    refine hs.of_now (hs.now.step none (fun _ => List.mem_cons_of_mem _) ?_ hs.now.indexes
      hs.now.operations hs.now.recorded) rfl
    exact fun row hrow => .kept hrow rfl rfl (hs.now.undeleted row hrow) (hs.now.bound row hrow)
  | query =>
    refine ⟨⟨hs.now, ?_⟩, .refl _⟩
    intro seen hseen
    rcases List.mem_cons.1 hseen with rfl | hseen
    · exact ⟨hs.now, .refl _⟩
    · exact hs.past seen hseen
  | transaction hcall hperforms hindexes =>
    refine hs.of_now (hs.now.writes (s.now.admits_of_leavesHomes hcall) ?_ hperforms.writes
      hindexes) rfl
    rintro id jobId command options rfl
    exact hcall
  | create hfresh hperforms hindexes =>
    exact hs.of_now (hs.now.created hfresh hperforms hindexes) rfl
  | @bind _ _ jobId workspaceId binding _ time adoptReady _ _ _ hhomes hclaim hbind hindexes =>
      obtain ⟨hunused, _, _, _, found, hprepares, hcommitted, rfl⟩ := bindReadCommitted_eq_ok hbind
      have hfree : s.now.FreeFor workspaceId binding.claimName := by
        rcases List.mem_cons.1 hhomes with rfl | hpast
        · exact .of_not_inUse hs.now hclaim hunused
        · obtain ⟨hseen, hextends⟩ := hs.past _ hpast
          exact hextends _ _ (.of_not_inUse hseen hclaim hunused)
      have hadmits : s.now.Admits (.update jobId workspaceId found.generation time
          (.homeVolume binding adoptReady)) := hfree
      exact hs.of_now (hs.now.writes hadmits (fun _ _ _ _ => nofun)
        (.updated hprepares hcommitted) hindexes) rfl

/-- **The workers and the API.** -/
def homes : System signature HomeState String where
  semantics _ := HomeState.Performs
  environment := HomeState.Surrounds
  start owner p := ∃ (worker : Worker) (now : ℤ) (elapsed : ℕ), worker.leaseOwner = owner ∧
    p = (worker.runOnce now elapsed) () >>= fun _ => .done ()

theorem homes_sound : homes.RelyGuarantee HomeState.Sound fun _ => HomeState.Extends where
  refl _ s := .refl s.now
  trans _ _ _ _ h h' := h.trans h'
  environment s s' hs henv := ⟨(henv.sound hs).1, fun _ => (henv.sound hs).2⟩
  start owner p s _ hstart := by
    obtain ⟨worker, now, elapsed, -, rfl⟩ := hstart
    refine (Program.meets_bind _ _ _ _).2 ?_
    have hrun : KeepsHomes (worker.runOnce now elapsed) :=
      Worker.runOnce_always worker.handle_keepsHomes worker.onTerminalFailure_keepsHomes
        (fun _ _ _ _ hc hperforms hsound => hsound.harmless hperforms hc.harmless) now elapsed
    exact (Program.Meets.of_rely (hrun () s) fun _ _ => And.right).mono_guar
      fun _ _ _ _ hstep => ⟨hstep.1, fun _ _ => hstep.2⟩

/-- **No two workspaces resolve to one home claim.**  From a new installation, over every
interleaving of workers, whose storage operations switch workspaces and roll them back, and of an
API that creates workspaces and binds them, each bind with a query that may have seen an earlier
state of the database: any two workspaces that have a row — a deleted one has none — live on
different claims. -/
theorem home_claims_stay_apart {s : HomeState} (hworkspaces : s.now.rows = [])
    (hshrinks : s.now.database.shrinks.rows = []) (hpast : s.past = [])
    {C : Configuration signature HomeState String}
    (hsteps : homes.Steps ⟨s, fun _ => none⟩ C) {row other : WorkspaceRow}
    (hrow : row ∈ C.store.now.rows) (hother : other ∈ C.store.now.rows)
    (hne : row.id ≠ other.id) : row.homeClaimName ≠ other.homeClaimName := by
  have hstart : s.Sound := by
    refine ⟨.of_empty hworkspaces hshrinks, fun seen hseen => ?_⟩
    rw [hpast] at hseen
    cases hseen
  exact (homes_sound.invariant_of_steps hstart hsteps).now.apart hrow hother hne

/-! ### A small run -/

def sampleNeighbourId : Uuid := ⟨"00000000-0000-0000-0000-000000000006", by decide⟩

def sampleNeighbour : StoreCall :=
  .create sampleNeighbourId sampleOperationId
    ⟨sampleUserId, sampleUserId, "neighbour", sampleUserId, none, none, false⟩
    ⟨none, none, none, true, 0⟩

def sampleHome : WorkspaceHomeVolumeBinding :=
  ⟨workspaceNamespace, "spare-home", "spare-uid", 20⟩

def sampleFailure : StoreCall := .markFailed sampleWorkspaceId 1 5

def sampleTwo : Database :=
  sampleFailure.after (sampleNeighbour.after (sampleCreate.after sampleInstallation))

def sampleBound : Database :=
  ((bindReadCommitted sampleTwo sampleTwo sampleTwo sampleJobId sampleWorkspaceId sampleHome 1 10
    true).toOption.map Prod.snd).getD sampleTwo

def HomeState.fresh : HomeState := ⟨⟨sampleInstallation, []⟩, []⟩

def sampleTaken : List String :=
  ["spare-home", dataPvcOrdinalZero (workspaceShortIdFor sampleNeighbourId),
    dataPvcOrdinalZero (workspaceShortIdFor sampleWorkspaceId)]

theorem sampleBound_checked :
    dataPvcOrdinalZero (workspaceShortIdFor sampleNeighbourId) ∉
      [dataPvcOrdinalZero (workspaceShortIdFor sampleWorkspaceId)] ∧
    (sampleCreate.after sampleInstallation).HomeIndexes ∧
    (sampleNeighbour.after (sampleCreate.after sampleInstallation)).HomeIndexes ∧
    sampleTwo.HomeIndexes ∧ sampleBound.HomeIndexes ∧ sampleHome.claimName ∈ sampleTaken ∧
    (bindReadCommitted sampleTwo sampleTwo sampleTwo sampleJobId sampleWorkspaceId sampleHome 1 10
      true).toOption.isSome = true := by
  decide +kernel

theorem bindReadCommitted_sample : ∃ workspace,
    bindReadCommitted sampleTwo sampleTwo sampleTwo sampleJobId sampleWorkspaceId sampleHome 1 10
      true = .ok (workspace, sampleBound) := by
  obtain ⟨-, -, -, -, -, -, hok⟩ := sampleBound_checked
  unfold sampleBound
  generalize bindReadCommitted sampleTwo sampleTwo sampleTwo sampleJobId sampleWorkspaceId
    sampleHome 1 10 true = result at hok ⊢
  cases result with
  | error e => cases hok
  | ok value => exact ⟨value.1, rfl⟩

theorem steps_sampleBound : homes.Steps ⟨.fresh, fun _ => none⟩
    ⟨⟨⟨sampleBound, sampleTaken⟩, [⟨sampleTwo, sampleTaken⟩]⟩, fun _ => none⟩ := by
  obtain ⟨hfresh, hindexes, hindexes', htwo, hbound, hexists, -⟩ := sampleBound_checked
  obtain ⟨workspace, hbound'⟩ := bindReadCommitted_sample
  have hfailed : sampleFailure.Performs
      (sampleNeighbour.after (sampleCreate.after sampleInstallation)) _ sampleTwo :=
    .executed fun _ => false
  have hseen : (⟨sampleTwo, sampleTaken⟩ : Scene) ∈
      [(⟨sampleTwo, sampleTaken⟩ : Scene), ⟨sampleTwo, sampleTaken⟩] := List.mem_cons_self
  refine .head (.environment (.create List.not_mem_nil (.executed fun _ => false) hindexes)) ?_
  refine .head (.environment (.create hfresh (.executed fun _ => false) hindexes')) ?_
  refine .head (.environment (.transaction (show sampleFailure.LeavesHomes from trivial) hfailed
    htwo)) (.head (.environment (.claim "spare-home")) (.head (.environment .query) ?_))
  exact .single (.environment (.bind hseen hseen hexists hbound' hbound))

/-- The claims of the two workspaces. -/
theorem home_claims_stay_apart_sample :
    sampleBound.workspaces.rows.map WorkspaceRow.homeClaimName =
      ["spare-home", dataPvcOrdinalZero (workspaceShortIdFor sampleNeighbourId)] ∧
    ∀ row ∈ sampleBound.workspaces.rows, ∀ other ∈ sampleBound.workspaces.rows,
      row.id ≠ other.id → row.homeClaimName ≠ other.homeClaimName :=
  ⟨by decide +kernel, fun _ hrow _ hother hne =>
    home_claims_stay_apart rfl rfl rfl steps_sampleBound hrow hother hne⟩

end WorkspaceControl
