/-
**The phases of a storage operation.**

One triple for each function of the coordinator and for each phase.  A phase keeps the operation in
its phase until its last save, which is a transition; a phase that fails leaves the version in
memory as `Strands` says.

Main results:

* `keeps_discoverShrinkSources` — the discovery ends with the sources known;
* `advances_queued`, .., `advances_reclaiming` — the phases;
* `advances_withDeadline` — every phase, with its deadline.
-/

import WorkspaceControl.ShrinkTransitions

set_option autoImplicit false

namespace WorkspaceControl

open Fallible MachineInt Interaction Routine

variable {S : Surroundings} {installation : Uuid} {workspace : Workspace} {now : ℤ}
  {job : ClaimedJob}

/-! ### Changes in memory -/

variable {other role : ShrinkRole} {source : WorkspaceHomeVolumeBinding}
  {o w : StorageShrinkOperation}

section Near

@[simp] theorem phase_updateVolume (w : StorageShrinkOperation) (role : ShrinkRole)
    (f : StorageShrinkVolume → StorageShrinkVolume) : (w.updateVolume role f).phase = w.phase := by
  cases role <;> rfl

@[simp] theorem phase_setOriginalGib (w : StorageShrinkOperation) (role : ShrinkRole) (gib : ℕ) :
    (w.setOriginalGib role gib).phase = w.phase := by
  cases role <;> rfl

@[simp] theorem volume_setOriginalGib (w : StorageShrinkOperation) (role other : ShrinkRole)
    (gib : ℕ) : (w.setOriginalGib role gib).volume other = w.volume other := by
  cases role <;> cases other <;> rfl

@[simp] theorem originalGib_setOriginalGib_self (w : StorageShrinkOperation) (role : ShrinkRole)
    (gib : ℕ) : (w.setOriginalGib role gib).originalGib role = gib := by
  cases role <;> rfl

@[simp] theorem originalGib_updateVolume (w : StorageShrinkOperation) (role other : ShrinkRole)
    (f : StorageShrinkVolume → StorageShrinkVolume) :
    (w.updateVolume role f).originalGib other = w.originalGib other := by
  cases role <;> cases other <;> rfl

@[simp] theorem volume_updateVolume_self (w : StorageShrinkOperation) (role : ShrinkRole)
    (f : StorageShrinkVolume → StorageShrinkVolume) :
    (w.updateVolume role f).volume role = f (w.volume role) := by
  cases role <;> rfl

theorem volume_updateVolume_of_ne (hne : other ≠ role) (w : StorageShrinkOperation)
    (f : StorageShrinkVolume → StorageShrinkVolume) :
    (w.updateVolume role f).volume other = w.volume other := by
  cases role <;> cases other <;> first | rfl | exact absurd rfl hne

theorem originalGib_setOriginalGib_of_ne (hne : other ≠ role) (w : StorageShrinkOperation)
    (gib : ℕ) :
    (w.setOriginalGib role gib).originalGib other = w.originalGib other := by
  cases role <;> cases other <;> first | rfl | exact absurd rfl hne

theorem Near.updateVolume (h : Near S o w) (role : ShrinkRole)
    {f : StorageShrinkVolume → StorageShrinkVolume}
    (hvolume : VolumeDrifts S w.phase w.id role (w.volume role) (f (w.volume role))) :
    Near S o (w.updateVolume role f) := by
  have hother : ∀ other, other ≠ role → (w.updateVolume role f).volume other = w.volume other :=
    fun other hne => volume_updateVolume_of_ne hne w f
  have hself := volume_updateVolume_self w role f
  obtain ⟨hd, hf, hphase, hactive⟩ := h
  rw [hphase, hd.id] at hvolume
  refine ⟨⟨?_, ?_, ?_, ?_, ?_, ?_⟩, ?_, ?_, hactive⟩
  · cases role <;> exact hd.id
  · cases role <;> exact hd.workspaceId
  · cases role <;> exact hd.request
  · cases role <;> exact hd.resume
  · intro other
    by_cases hne : other = role
    · subst hne
      rw [hself]
      exact (hd.volume other).trans hvolume
    · rw [hother other hne]
      exact hd.volume other
  · intro other
    rw [originalGib_updateVolume]
    refine (hd.original other).imp_right ?_
    rintro ⟨hqueued, source, hsome, hsize⟩
    refine ⟨hqueued, source, ?_, hsize⟩
    by_cases hne : other = role
    · subst hne
      rw [hself]
      -- a source that is known stays
      rcases hvolume.source with hsame | ⟨-, hnone, -⟩
      · rw [hsame, hsome]
      · cases hnone.symm.trans hsome
    · rw [hother other hne, hsome]
  · cases role <;> exact { hf with }
  · rw [phase_updateVolume, hphase]

/-- The size of a source is recorded while the operation is queued. -/
theorem Near.setOriginalGib (h : Near S o w) (hqueued : w.phase = .queued)
    (hsource : (w.volume role).source = some source) :
    Near S o (w.setOriginalGib role source.capacityGib) := by
  obtain ⟨hd, hf, hphase, hactive⟩ := h
  refine ⟨⟨?_, ?_, ?_, ?_, ?_, ?_⟩, ?_, ?_, hactive⟩
  · cases role <;> exact hd.id
  · cases role <;> exact hd.workspaceId
  · cases role <;> exact hd.request
  · cases role <;> exact hd.resume
  · simpa using hd.volume
  · intro other
    rw [volume_setOriginalGib]
    by_cases hne : other = role
    · subst hne
      rw [originalGib_setOriginalGib_self]
      exact .inr ⟨hphase ▸ hqueued, source, hsource, rfl⟩
    · rw [originalGib_setOriginalGib_of_ne hne]
      exact hd.original other
  · cases role <;> exact { hf with }
  · rw [phase_setOriginalGib, hphase]

theorem Near.touch (h : Near S o w) (now : ℤ) : Near S o (w.touch now) :=
  ⟨{ h.drifts with }, { h.flags with }, h.phase, h.active⟩

theorem Near.recordHelper (h : Near S o w) (name uid : String) :
    Near S o (recordHelper name uid w) := by
  unfold WorkspaceControl.recordHelper
  split
  · exact h
  · exact ⟨{ h.drifts with }, { h.flags with }, h.phase, h.active⟩

end Near

/-! ### Routines of the coordinator -/

section Coordinator

variable {C D : StorageShrinkOperation → Prop}

/-- Requests on behalf of an operation, with any error. -/
abbrev Asks {α : Type} (Q : α → Prop) (x : OperationRoutine String α) :
    Prop := Inquires (fun _ => True) Q x

/-- A claim is only looked at when its binding is valid. -/
theorem inquires_shrinkClaim (binding : WorkspaceHomeVolumeBinding) (bound : Bool) :
    Asks (fun _ => binding.isValid = true)
      (shrinkClaim installation workspace binding bound) := by
  refine inquires_attempt_bind fun _ hensure => ?_
  have hvalid := ensure_eq_ok.1 hensure
  refine inquires_bind inquires_request fun _ _ => ?_
  refine inquires_attempt_bind fun _ _ => ?_
  refine inquires_attempt_bind fun _ _ => ?_
  exact inquires_pure (Bool.and_eq_true_iff.1 hvalid).1

theorem inquires_shrinkVolumeIdentity (binding : WorkspaceHomeVolumeBinding) :
    Asks (fun _ => True) (shrinkVolumeIdentity installation workspace binding) :=
  inquires_bind (inquires_shrinkClaim binding true) fun _ _ =>
    inquires_bind inquires_request fun _ _ =>
      inquires_attempt (fun _ _ => trivial) fun _ => trivial

/-- The source of a volume is known and valid, and its size is recorded. -/
def Found (role : ShrinkRole) (w : StorageShrinkOperation) : Prop :=
  ∃ source, (w.volume role).source = some source ∧ source.isValid = true ∧
    source.capacityGib = w.originalGib role

theorem Found.updateVolume (hne : role ≠ other) (h : Found role w)
    (f : StorageShrinkVolume → StorageShrinkVolume) : Found role (w.updateVolume other f) := by
  unfold Found
  rw [volume_updateVolume_of_ne hne, originalGib_updateVolume]
  exact h

theorem Found.setOriginalGib (hne : role ≠ other) (h : Found role w) (gib : ℕ) :
    Found role (w.setOriginalGib other gib) := by
  unfold Found
  rw [volume_setOriginalGib, originalGib_setOriginalGib_of_ne hne]
  exact h

/-- The scratch source need not exist. -/
theorem Discovered.of_found (hhome : Found .home w)
    (hscratch : w.temporary.source = none ∨ Found .temporary w) : Discovered w := by
  obtain ⟨home, hsome, hvalid, hsize⟩ := hhome
  refine ⟨Option.isSome_iff_exists.2 ⟨home, hsome⟩, ?_⟩
  rintro (_ | _) source hsource
  · cases hsome.symm.trans hsource
    exact ⟨hvalid, hsize⟩
  · rcases hscratch with hnone | ⟨scratch, hsome, hvalid, hsize⟩
    · cases hnone.symm.trans hsource
    · cases hsome.symm.trans hsource
      exact ⟨hvalid, hsize⟩

theorem keeps_adoptSource {claim : PersistentVolumeClaim}
    (hC : ∀ w, C w → w.phase = .queued ∧ (w.volume role).source = none)
    (hfinds : ∀ binding, bindingFromClaim claim = .ok binding → S.Finds binding role)
    (hD : ∀ w binding, C w →
      D (w.updateVolume role fun volume => { volume with source := some binding })) :
    Keeps S (fun _ => True) C (adoptSource installation workspace role claim) fun _ => D := by
  refine (still_attempt _ fun _ => trivial).bind fun _ => ?_
  refine keeps_bind (D := fun binding w => C w ∧ S.Finds binding role)
    (keeps_attempt (fun binding hbinding w hw => ⟨hw, hfinds binding hbinding⟩) fun _ => trivial)
    fun binding => ?_
  refine keeps_modify ?_ fun w hw => hD w binding hw.1
  rintro o w ho ⟨hw, hfound⟩
  obtain ⟨hqueued, hnone⟩ := hC w hw
  refine ho.updateVolume role ⟨rfl, .inr ⟨hqueued, hnone, ?_⟩, .inl rfl, .inl ⟨rfl, rfl⟩, .inl,
    .inr (by rw [hqueued]; rfl)⟩
  rintro _ ⟨⟩
  exact hfound

theorem keeps_discoverHomeSource (source : Option WorkspaceHomeVolumeBinding) :
    Keeps S (fun _ => True) (fun w => w.home.source = source ∧ w.phase = .queued)
      (discoverHomeSource installation workspace source) fun _ w => w.phase = .queued := by
  cases source with
  | some source => exact keeps_pure fun _ => And.right
  | none =>
    refine keeps_bind (D := fun r w => (w.home.source = none ∧ w.phase = .queued) ∧
        S.answers (.requireClaim (dataPvcOrdinalZero workspace.shortId)) r)
      (keeps_request fun r hr w hw => ⟨hw, hr⟩) fun r => ?_
    refine keeps_bind (D := fun claim w => (w.home.source = none ∧ w.phase = .queued) ∧
        S.answers (.requireClaim (dataPvcOrdinalZero workspace.shortId)) (.ok claim))
      (keeps_attempt ?_ fun _ => trivial) fun claim => ?_
    · rintro claim rfl w hw
      exact hw
    · refine keeps_of_fact fun hanswer => ?_
      refine keeps_adoptSource (fun w hw => ⟨hw.2, hw.1⟩)
        (fun binding hbinding => ⟨_, claim, hanswer, hbinding⟩) fun w _ hw => ?_
      rw [phase_updateVolume, hw.2]

/-- A source is checked and recorded; what does not look at its volume stays. -/
theorem keeps_recordSource {F : StorageShrinkOperation → Prop}
    (hsize : ∀ w gib, F w → F (w.setOriginalGib role gib))
    (hvolume : ∀ w f, F w → F (w.updateVolume role f)) :
    Keeps S (fun _ => True)
      (fun w => w.phase = .queued ∧ (w.volume role).source = some source ∧ F w)
      (recordSource installation workspace role source)
      fun _ w => w.phase = .queued ∧ Found role w ∧ F w := by
  refine keeps_bind (inquires_shrinkClaim source true).keeps fun _ => ?_
  refine keeps_bind (D := fun _ w => w.phase = .queued ∧ (w.volume role).source = some source ∧
      source.isValid = true ∧ source.capacityGib = w.originalGib role ∧ F w)
    (keeps_modify ?_ ?_) fun _ => ?_
  · rintro o w ho ⟨⟨hqueued, hsource, -⟩, -⟩
    exact ho.setOriginalGib hqueued hsource
  · rintro w ⟨⟨hqueued, hsource, hF⟩, hvalid⟩
    refine ⟨?_, ?_, hvalid, ?_, hsize w _ hF⟩
    · rw [phase_setOriginalGib, hqueued]
    · rw [volume_setOriginalGib, hsource]
    · rw [originalGib_setOriginalGib_self]
  refine keeps_read_bind fun w₀ => ?_
  refine keeps_bind (D := fun _ w => w.phase = .queued ∧ Found role w ∧ F w) ?_ fun _ =>
    Still.keeps (still_attempt _ fun _ => trivial)
  have hfound : ∀ w, (w = w₀ ∧ w.phase = .queued ∧ (w.volume role).source = some source ∧
      source.isValid = true ∧ source.capacityGib = w.originalGib role ∧ F w) →
      w.phase = .queued ∧ Found role w ∧ F w := by
    rintro w ⟨-, hqueued, hsource, hvalid, hcapacity, hF⟩
    exact ⟨hqueued, ⟨source, hsource, hvalid, hcapacity⟩, hF⟩
  unfold recordSourceVolume
  split
  · exact keeps_pure hfound
  · refine keeps_bind (inquires_shrinkVolumeIdentity source).still.keeps fun identity => ?_
    refine keeps_modify (fun o w ho hw => ho.updateVolume role
      ⟨rfl, .inl rfl, .inl rfl, .inl ⟨rfl, rfl⟩, .inl, .inr (by rw [hw.2.1]; rfl)⟩) fun w hw => ?_
    obtain ⟨hqueued, ⟨source', hsource, hvalid, hcapacity⟩, hF⟩ := hfound w hw
    refine ⟨?_, ⟨source', ?_, hvalid, ?_⟩, hvolume w _ hF⟩
    · rw [phase_updateVolume, hqueued]
    · rw [volume_updateVolume_self]
      exact hsource
    · rw [originalGib_updateVolume, hcapacity]

/-- The scratch claim is looked for after the home source was found. -/
theorem keeps_discoverScratchSource (source : Option WorkspaceHomeVolumeBinding) :
    Keeps S (fun _ => True)
      (fun w => w.temporary.source = source ∧ w.phase = .queued ∧ Found .home w)
      (discoverScratchSource installation workspace source)
      fun _ w => w.phase = .queued ∧ Found .home w := by
  cases source with
  | some source => exact keeps_pure fun _ => And.right
  | none =>
    refine (still_request _).bind fun r => ?_
    refine (still_attempt r fun _ => trivial).bind fun _ => ?_
    refine keeps_bind (D := fun r w =>
        (w.temporary.source = none ∧ w.phase = .queued ∧ Found .home w) ∧
          S.answers (.scratchClaim (scratchClaimName workspace)) r)
      (keeps_request fun r hr w hw => ⟨hw, hr⟩) fun r => ?_
    refine keeps_bind (D := fun claim w =>
        (w.temporary.source = none ∧ w.phase = .queued ∧ Found .home w) ∧
          S.answers (.scratchClaim (scratchClaimName workspace)) (.ok claim))
      (keeps_attempt ?_ fun _ => trivial) fun claim => ?_
    · rintro claim rfl w hw
      exact hw
    · refine keeps_of_fact fun hanswer => ?_
      refine still_read.bind fun w₀ => ?_
      cases claim with
      | none =>
        exact (Still.keeps (still_attempt _ fun _ => trivial)).conseq (fun _ => id)
          fun _ _ => And.right
      | some claim =>
        refine keeps_adoptSource (fun w hw => ⟨hw.2.1, hw.1⟩)
          (fun binding hbinding => ⟨_, claim, hanswer, hbinding⟩) fun w _ hw => ⟨?_, ?_⟩
        · rw [phase_updateVolume, hw.2.1]
        · exact hw.2.2.updateVolume (by decide) _

/-- **The discovery** ends with the home source known, and with the scratch source if there is
one. -/
theorem keeps_discoverShrinkSources :
    Keeps S (fun _ => True) (fun w => w.phase = .queued)
      (discoverShrinkSources installation workspace)
      fun _ w => w.phase = .queued ∧ Discovered w := by
  refine (still_request _).bind fun r => ?_
  refine (still_attempt r fun _ => trivial).bind fun _ => ?_
  refine keeps_read_bind fun w₀ => ?_
  refine keeps_bind ((keeps_discoverHomeSource w₀.home.source).conseq ?_ fun _ _ => id) fun _ => ?_
  · rintro w ⟨rfl, hqueued⟩
    exact ⟨rfl, hqueued⟩
  refine keeps_read_bind fun w₁ => ?_
  refine keeps_bind (D := fun home w => w.phase = .queued ∧ (w.volume .home).source = some home ∧
    True) (keeps_attempt ?_ fun _ => trivial) fun home => ?_
  · rintro home hhome w ⟨rfl, hqueued⟩
    exact ⟨hqueued, okOr_eq_ok.1 hhome, trivial⟩
  refine keeps_bind (keeps_recordSource (fun _ _ => id) fun _ _ => id) fun _ => ?_
  refine keeps_read_bind fun w₂ => ?_
  refine keeps_bind ((keeps_discoverScratchSource w₂.temporary.source).conseq ?_ fun _ _ => id)
    fun _ => ?_
  · rintro w ⟨rfl, hqueued, hhome, -⟩
    exact ⟨rfl, hqueued, hhome⟩
  refine keeps_read_bind fun w₃ => ?_
  cases hscratch : w₃.temporary.source with
  | none =>
    refine keeps_pure ?_
    rintro w ⟨rfl, hqueued, hhome⟩
    exact ⟨hqueued, .of_found hhome (.inl hscratch)⟩
  | some scratch =>
    have hrecord : Keeps S (fun _ => True)
        (fun w => w.phase = .queued ∧ (w.volume .temporary).source = some scratch ∧
          Found .home w) (recordSource installation workspace .temporary scratch)
        fun _ w => w.phase = .queued ∧ Found .temporary w ∧ Found .home w :=
      keeps_recordSource (fun _ gib h => h.setOriginalGib (by decide) gib)
        fun _ f h => h.updateVolume (by decide) f
    refine hrecord.conseq ?_ fun _ w hw => ⟨hw.1, .of_found hw.2.2 (.inr hw.2.1)⟩
    rintro w ⟨rfl, hqueued, hhome⟩
    exact ⟨hqueued, hscratch, hhome⟩

/-- **A destination** has the name that its operation gives it. -/
theorem inquires_createShrinkDestination (operationId : Uuid) (role : ShrinkRole)
    (source : WorkspaceHomeVolumeBinding) (targetGib : ℕ) :
    Asks (fun binding => binding.namespace = workspaceNamespace ∧
        binding.claimName = shrinkClaimName operationId role)
      (createShrinkDestination installation workspace operationId role source targetGib) := by
  refine inquires_bind (inquires_shrinkClaim source true) fun sourceClaim _ => ?_
  refine inquires_bind inquires_request fun r _ => ?_
  refine inquires_attempt_bind fun found _ => ?_
  refine inquires_bind (Q := fun _ => True) ?_ fun claim _ => ?_
  · cases found with
    | some claim => exact inquires_pure trivial
    | none =>
      exact inquires_bind inquires_request fun r _ =>
        inquires_attempt (fun _ _ => trivial) fun _ => trivial
  refine inquires_attempt_bind fun _ _ => ?_
  refine inquires_attempt_bind fun _ _ => ?_
  refine inquires_attempt_bind fun claimUid _ => ?_
  exact inquires_bind (inquires_shrinkClaim _ false) fun _ _ => inquires_pure ⟨rfl, rfl⟩

theorem inquires_checkDestination (stage : ShrinkPodStage) (volume : StorageShrinkVolume)
    (bound : Bool) :
    Asks (fun _ => True) (checkDestination installation workspace stage volume bound) := by
  unfold checkDestination
  split
  · exact inquires_pure trivial
  · exact inquires_pure trivial
  · exact inquires_bind (inquires_shrinkClaim _ bound) fun _ _ => inquires_pure trivial

/-- Conditions that look at no more of an operation than its phase, its volumes and their sizes. -/
structure Steady (C : StorageShrinkOperation → Prop) : Prop where
  of_eq : ∀ w w', w'.phase = w.phase → w'.id = w.id → w'.home = w.home →
    w'.temporary = w.temporary → w'.originalHomeGib = w.originalHomeGib →
    w'.originalTemporaryStorageGib = w.originalTemporaryStorageGib → C w → C w'

theorem Steady.recordHelper (h : Steady C) (name uid : String) (hw : C w) :
    C (recordHelper name uid w) := by
  unfold WorkspaceControl.recordHelper
  split
  · exact hw
  · exact h.of_eq w _ rfl rfl rfl rfl rfl rfl hw

theorem Steady.touch (h : Steady C) (now : ℤ) (hw : C w) :
    C (w.touch now) :=
  h.of_eq w _ rfl rfl rfl rfl rfl rfl hw

theorem Steady.and (hC : Steady C) (hD : Steady D) :
    Steady fun w => C w ∧ D w :=
  ⟨fun w w' h₁ h₂ h₃ h₄ h₅ h₆ hw =>
    ⟨hC.of_eq w w' h₁ h₂ h₃ h₄ h₅ h₆ hw.1, hD.of_eq w w' h₁ h₂ h₃ h₄ h₅ h₆ hw.2⟩⟩

theorem steady_phase (phase : StorageShrinkPhase) : Steady fun w => w.phase = phase :=
  ⟨fun _ _ hphase _ _ _ _ _ hw => hphase.trans hw⟩

theorem steady_volume (role : ShrinkRole) (P : Uuid → StorageShrinkVolume → Prop) :
    Steady fun w => P w.id (w.volume role) := by
  refine ⟨fun w w' _ hid hhome htemporary _ _ hw => ?_⟩
  have hvolume : w'.volume role = w.volume role := by
    cases role
    · exact hhome
    · exact htemporary
  rw [hid, hvolume]
  exact hw

/-- A helper Pod has reported a usage, for the destination that the volume has now. -/
def Reported (S : Surroundings) (role : ShrinkRole) (stage : ShrinkPodStage) (usage : ShrinkUsage)
    (operationId : Uuid) (volume : StorageShrinkVolume) : Prop :=
  ∃ before, S.Reports operationId role stage before usage ∧
    before.destination = volume.destination

/-- The usage that a routine has got from a helper Pod, if it has finished, was reported. -/
def Reporting (S : Surroundings) (role : ShrinkRole) (stage : ShrinkPodStage)
    (C : StorageShrinkOperation → Prop) (usage : Option ShrinkUsage) (w : StorageShrinkOperation) :
    Prop :=
  C w ∧ ∀ u, usage = some u → Reported S role stage u w.id (w.volume role)

/-- A helper Pod is recorded; nothing that counts changes. -/
theorem keeps_helperPodResult (hC : Steady C)
    (role : ShrinkRole) (stage : ShrinkPodStage) (w₀ : StorageShrinkOperation) (pod : HelperPod)
    (hpod : S.answers (.helperPod (helperPodName w₀.id role stage) (w₀.volume role) stage)
      (.ok pod)) :
    Keeps S (fun _ => True) (fun w => w = w₀ ∧ C w)
      (helperPodResult installation workspace role stage (w₀.volume role)
        (helperPodName w₀.id role stage) pod) (Reporting S role stage C) := by
  -- the volume stays the one that was read
  have hstays : Steady fun w => (w.id = w₀.id ∧ w.volume role = w₀.volume role) ∧ C w :=
    (steady_volume role fun id volume => id = w₀.id ∧ volume = w₀.volume role).and hC
  refine (still_attempt _ fun _ => trivial).bind fun uid => ?_
  refine keeps_bind (D := fun _ w => (w.id = w₀.id ∧ w.volume role = w₀.volume role) ∧ C w)
    (keeps_modify (fun o w ho _ => ho.recordHelper _ uid) ?_) fun _ => ?_
  · rintro w ⟨rfl, hw⟩
    exact hstays.recordHelper _ uid ⟨⟨rfl, rfl⟩, hw⟩
  refine still_read.bind fun recorded => ?_
  refine (still_attempt _ fun _ => trivial).bind fun _ => ?_
  split
  · rename_i hphase
    refine keeps_bind (D := fun usage w => ((w.id = w₀.id ∧ w.volume role = w₀.volume role) ∧ C w) ∧
      pod.evidence = .ok usage) (keeps_attempt (fun usage husage w hw => ⟨hw, husage⟩)
      fun _ => trivial) fun usage => keeps_of_fact fun husage => ?_
    refine keeps_bind (inquires_checkDestination stage _ true).still.keeps fun _ => keeps_pure ?_
    rintro w ⟨⟨hid, hvolume⟩, hw⟩
    refine ⟨hw, ?_⟩
    rintro _ ⟨⟩
    rw [hid, hvolume]
    exact ⟨w₀.volume role, ⟨pod, hpod, hphase, husage⟩, rfl⟩
  · exact keeps_throw trivial
  · exact keeps_pure fun w hw => ⟨hw.2, fun _ hu => nomatch hu⟩

theorem keeps_shrinkPod (hC : Steady C) (role : ShrinkRole) (stage : ShrinkPodStage) :
    Keeps S (fun _ => True) C (shrinkPod installation workspace role stage)
      (Reporting S role stage C) := by
  refine keeps_read_bind fun w₀ => ?_
  refine (still_attempt _ fun _ => trivial).bind fun source => ?_
  refine keeps_bind (inquires_shrinkClaim source true).still.keeps fun _ => ?_
  refine keeps_bind (inquires_checkDestination stage _ false).still.keeps fun _ => ?_
  refine keeps_bind (D := fun r w => (w = w₀ ∧ C w) ∧
    S.answers (.helperPod (helperPodName w₀.id role stage) (w₀.volume role) stage) r)
    (keeps_request fun r hr w hw => ⟨hw, hr⟩) fun r => ?_
  refine keeps_bind (D := fun pod w => (w = w₀ ∧ C w) ∧
    S.answers (.helperPod (helperPodName w₀.id role stage) (w₀.volume role) stage) (.ok pod))
    (keeps_attempt ?_ fun _ => trivial) fun pod =>
    keeps_of_fact (keeps_helperPodResult hC role stage w₀ pod)
  rintro pod rfl w hw
  exact hw

theorem inquires_reclaimVolume (volume : StorageShrinkVolume)
    (current : Option WorkspaceHomeVolumeBinding) :
    Asks (fun _ => True) (reclaimVolume installation workspace volume current) := by
  unfold reclaimVolume
  split
  · exact inquires_pure trivial
  · refine inquires_attempt_bind fun _ _ => ?_
    refine inquires_attempt_bind fun destination _ => ?_
    refine inquires_attempt_bind fun _ _ => ?_
    refine inquires_bind (inquires_shrinkClaim destination true) fun _ _ => ?_
    refine inquires_attempt_bind fun source _ => ?_
    refine inquires_attempt_bind fun _ _ => ?_
    refine inquires_attempt_bind fun identity _ => ?_
    exact inquires_bind inquires_request fun r _ =>
      inquires_attempt (fun _ _ => trivial) fun _ => trivial

theorem inquires_reclaimShrinkSources :
    Asks (fun _ => True) (reclaimShrinkSources installation workspace) :=
  inquires_read_bind fun _ => inquires_bind (inquires_reclaimVolume _ _) fun _ _ =>
    inquires_bind (inquires_reclaimVolume _ _) fun _ _ => inquires_pure trivial

end Coordinator

/-! ### Shared steps -/

section Steps

theorem Discovered.of_eq {w' : StorageShrinkOperation} (h : Discovered w) (hhome : w'.home = w.home)
    (htemporary : w'.temporary = w.temporary) (horiginal : w'.originalHomeGib = w.originalHomeGib)
    (horiginal' : w'.originalTemporaryStorageGib = w.originalTemporaryStorageGib) :
    Discovered w' := by
  refine ⟨by rw [hhome]; exact h.home, ?_⟩
  rintro (_ | _) source hsource
  · have hsource' : w.home.source = some source := by rw [← hhome]; exact hsource
    obtain ⟨hvalid, hsize⟩ := h.sources .home source hsource'
    exact ⟨hvalid, hsize.trans horiginal.symm⟩
  · have hsource' : w.temporary.source = some source := by rw [← htemporary]; exact hsource
    obtain ⟨hvalid, hsize⟩ := h.sources .temporary source hsource'
    exact ⟨hvalid, hsize.trans horiginal'.symm⟩

theorem steady_discovered : Steady fun w => w.phase = .queued ∧ Discovered w :=
  ⟨fun _ _ hphase _ hhome htemporary hsize hsize' hw =>
    ⟨hphase.trans hw.1, hw.2.of_eq hhome htemporary hsize hsize'⟩⟩

theorem inquires_awaitCluster (message : String) (answer : Except String Bool) :
    Inquires PlainError (fun _ => True) (awaitCluster message answer) := by
  refine inquires_bind (inquires_attempt (fun _ => id) fun _ => trivial) fun finished _ => ?_
  cases finished with
  | true => exact inquires_pure trivial
  | false => exact inquires_throw trivial

theorem inquires_removeHelpers (message : String) :
    Inquires PlainError (fun _ => True) (removeHelpers message) :=
  inquires_read_bind fun _ => inquires_bind inquires_request fun r _ =>
    inquires_awaitCluster message r

theorem inquires_stopWorkspace (message : String) :
    Inquires PlainError (fun _ => True) (stopWorkspace message) :=
  inquires_read_bind fun _ => inquires_bind inquires_request fun r _ =>
    inquires_awaitCluster message r

variable {C : StorageShrinkOperation → Prop}

theorem keeps_awaitPod (role : ShrinkRole) (stage : ShrinkPodStage) (message : String)
    (usage : Option ShrinkUsage) :
    Keeps S PlainError (Reporting S role stage C usage) (awaitPod message usage)
      fun u w => C w ∧ Reported S role stage u w.id (w.volume role) := by
  cases usage with
  | none => exact keeps_throw trivial
  | some usage => exact keeps_pure fun w hw => ⟨hw.1, hw.2 usage rfl⟩

/-- An operation that is saved with a new time only. -/
theorem keeps_touch (hC : ∀ w now, C w → C (w.touch now)) :
    Keeps S PlainError C (saveAs (StorageShrinkOperation.touch now) .none) fun _ => C :=
  keeps_bind (D := fun _ => C) (keeps_modify (fun _ _ ho _ => ho.touch now) fun w => hC w now)
    fun _ => keeps_save fun _ => trivial

theorem keeps_runShrinkPod (hC : Steady C) (role : ShrinkRole) (stage : ShrinkPodStage) :
    Keeps S PlainError C (runShrinkPod installation workspace now role stage)
      (Reporting S role stage C) := by
  refine still_read.bind fun previous => ?_
  refine keeps_bind (keeps_result (keeps_shrinkPod hC role stage)) fun answer => ?_
  refine keeps_bind (D := fun _ w => ∀ usage, answer = .ok usage → Reporting S role stage C usage w)
    ?_ fun _ => ?_
  · refine still_read.bind fun operation => ?_
    split
    · refine keeps_touch fun w now hw usage husage => ?_
      obtain ⟨hw, hreported⟩ := hw usage husage
      exact ⟨hC.touch now hw, hreported⟩
    · exact keeps_pure fun _ => id
  · exact keeps_attempt (fun usage husage w hw => hw usage husage) fun _ => trivial

end Steps

/-! ### Phases -/

section Phases

/-- The run has saved an operation that rests. -/
def Rests (g : Ledger) : Prop := ∃ o, g.base = some o ∧ o.phase.active = false

/-- **The triple of a phase**: it ends well only when the operation rests. -/
abbrev Advances (S : Surroundings) (job : ClaimedJob) (C : StorageShrinkOperation → Prop)
    (x : ShrinkRoutine Unit) : Prop :=
  Triple (shrinkContract S) (fun w g => Held S w g ∧ C w) x (fun _ _ g => Rests g) (Leaves S job)

variable {g : Ledger} {phase : StorageShrinkPhase} {stage : ShrinkPodStage}

theorem Near.phase_eq (h : Near S o w) (hw : w.phase = phase) :
    o.phase = phase := h.phase ▸ hw

theorem Near.enter (h : Near S o w) (phase : StorageShrinkPhase) (now : ℤ) :
    Drifts S o (w.enter phase now) ∧ SameFlags o (w.enter phase now) :=
  ⟨{ h.drifts with },
    h.flags.switched, h.flags.reclaimable, h.flags.sourcesRetained⟩

/-- A phase that goes on to the next one. -/
theorem advances_enterPhase {phase next : StorageShrinkPhase} {u : ShrinkWorkspaceUpdate}
    (hforward : Forward phase next u) :
    Advances S job (fun w => w.phase = phase) (enterPhase next now u) := by
  refine leaves_enterPhase ?_ ?_
  · intro o w ho hw
    have hphase : o.phase = phase := ho.phase_eq hw
    exact .forward (ho.enter next now).1 (ho.enter next now).2 (hphase ▸ hforward)
  · intro o w ho hw _
    have hphase : o.phase = phase := ho.phase_eq hw
    obtain ⟨hd, hf⟩ := ho.enter next now
    refine .entered hd hf ?_ ?_ ?_
    · rw [hphase]
      cases hforward <;> rfl
    · cases hforward <;> nofun
    · cases hforward <;> nofun

theorem advances_queued :
    Advances S job (fun w => w.phase = .queued) (advanceQueued installation workspace now) := by
  refine leaves_bind (keeps_mapError keeps_discoverShrinkSources) fun _ => ?_
  refine leaves_bind (keeps_save fun _ => trivial) fun _ => ?_
  refine leaves_bind (keeps_runShrinkPod steady_discovered .home .preflight) fun usage => ?_
  refine leaves_bind ((keeps_awaitPod .home .preflight _ usage).conseq (fun _ => id)
    fun _ _ => And.left) fun _ => ?_
  refine leaves_bind (Still.keeps still_read) fun operation => ?_
  refine leaves_bind (Still.keeps (still_request _)) fun r => ?_
  refine leaves_bind (inquires_awaitCluster _ r).still.keeps fun _ => ?_
  refine leaves_enterPhase ?_ ?_
  · rintro o w ho ⟨hqueued, hfound⟩
    obtain ⟨hd, hf⟩ := ho.enter .stopping now
    exact .stopping hd hf { hfound with } (ho.phase_eq hqueued) rfl
  · rintro o w ho ⟨hqueued, hfound⟩ hlost
    obtain ⟨hd, hf⟩ := ho.enter .stopping now
    exact .stopping hlost hd hf { hfound with } (ho.phase_eq hqueued) rfl

theorem advances_stopping :
    Advances S job (fun w => w.phase = .stopping) (advanceStopping now) :=
  leaves_bind (inquires_stopWorkspace _).still.keeps fun _ => advances_enterPhase .stopped

/-- A measured usage is recorded for a volume that has none. -/
theorem keeps_recordUsage (role : ShrinkRole) (usage : ShrinkUsage) :
    Keeps S PlainError (fun w => (w.phase = .measuring ∧ (w.volume role).usedBytes = none) ∧
        Reported S role .measure usage w.id (w.volume role)) (recordUsage now role usage)
      fun _ w => w.phase = .measuring := by
  refine keeps_bind (D := fun _ w => w.phase = .measuring) (keeps_modify ?_ ?_) fun _ => ?_
  · rintro o w ho ⟨⟨hphase, hnone⟩, before, hreports, -⟩
    exact ho.updateVolume role ⟨rfl, .inl rfl, .inl rfl,
      .inr ⟨hnone, before, usage, hreports, rfl, rfl⟩, .inl, .inr (by rw [hphase]; rfl)⟩
  · exact fun w hw => (phase_updateVolume w role _).trans hw.1.1
  · refine still_read.bind fun operation => ?_
    refine (still_attempt _ fun _ => trivial).bind fun _ => ?_
    exact keeps_touch fun _ _ => id

theorem keeps_measureVolume (role : ShrinkRole) :
    Keeps S PlainError (fun w => w.phase = .measuring)
      (measureVolume installation workspace now role) fun _ w => w.phase = .measuring := by
  refine keeps_read_bind fun w₀ => ?_
  split
  · exact keeps_pure fun _ => And.right
  · rename_i hmeasured
    have hunused : Steady fun w => w.phase = .measuring ∧ (w.volume role).usedBytes = none :=
      (steady_phase .measuring).and (steady_volume role fun _ volume => volume.usedBytes = none)
    refine keeps_bind ((keeps_runShrinkPod hunused role .measure).conseq ?_ fun _ _ => id)
      fun usage => ?_
    · rintro w ⟨rfl, hw⟩
      refine ⟨hw, ?_⟩
      simp only [Bool.or_eq_true, not_or, Bool.not_eq_true, Option.isSome_eq_false_iff,
        Option.isNone_iff_eq_none] at hmeasured
      exact hmeasured.2
    · exact keeps_bind (keeps_awaitPod role .measure _ usage) fun usage =>
        keeps_recordUsage role usage

/-- A destination is made only for a volume that has a target, and has none yet. -/
theorem keeps_destinationFor (role : ShrinkRole) (w₀ : StorageShrinkOperation) :
    Keeps S PlainError (fun w => w = w₀ ∧ w.phase = .measuring)
      (destinationFor installation workspace role w₀) fun _ w => w.phase = .measuring := by
  unfold destinationFor
  split
  · rename_i target htarget hnone
    refine (still_attempt _ fun _ => trivial).bind fun source => ?_
    refine keeps_bind (inquires_mapError
      (inquires_createShrinkDestination w₀.id role source target)).still.keeps
      fun destination => ?_
    refine keeps_modify ?_ ?_
    · rintro o w ho ⟨rfl, hmeasuring⟩
      exact ho.updateVolume role ⟨rfl, .inl rfl, .inr ⟨hmeasuring, by rw [htarget]; rfl, hnone⟩,
        .inl ⟨rfl, rfl⟩, .inl, .inr (by rw [hmeasuring]; rfl)⟩
    · rintro w ⟨rfl, hmeasuring⟩
      rw [phase_updateVolume, hmeasuring]
  · exact keeps_pure fun _ => And.right

theorem advances_measuring :
    Advances S job (fun w => w.phase = .measuring)
      (advanceMeasuring installation workspace now) := by
  refine leaves_bind (keeps_measureVolume .home) fun _ => ?_
  refine leaves_bind (keeps_measureVolume .temporary) fun _ => ?_
  refine leaves_read_bind fun w₀ => leaves_bind (keeps_destinationFor .home w₀) fun _ => ?_
  refine leaves_read_bind fun w₁ => leaves_bind (keeps_destinationFor .temporary w₁) fun _ => ?_
  exact advances_enterPhase .copying

/-- A volume is marked as verified once its destination was verified. -/
theorem keeps_recordVerified (role : ShrinkRole) (usage : ShrinkUsage) :
    Keeps S PlainError (fun w => (w.volume role).HasUsage usage ∧ w.phase = .verifying ∧
        Reported S role .verify usage w.id (w.volume role))
      (recordVerified installation workspace role) fun _ w => w.phase = .verifying := by
  refine keeps_read_bind fun w₀ => ?_
  refine keeps_bind (D := fun destination w => (w.volume role).destination = some destination ∧
      (w.volume role).HasUsage usage ∧ w.phase = .verifying ∧
        Reported S role .verify usage w.id (w.volume role))
    (keeps_attempt ?_ fun _ => trivial) fun destination => ?_
  · rintro destination hdestination w ⟨rfl, hw⟩
    exact ⟨okOr_eq_ok.1 hdestination, hw⟩
  refine keeps_bind (inquires_mapError (inquires_shrinkVolumeIdentity destination)).still.keeps
    fun identity => ?_
  refine keeps_modify ?_ fun w hw => (phase_updateVolume w role _).trans hw.2.2.1
  rintro o w ho ⟨hdestination, husage, hphase, before, hreports, hsame⟩
  refine ho.updateVolume role ⟨rfl, .inl rfl, .inl rfl, .inl ⟨rfl, rfl⟩, fun _ => .inr ?_,
    .inr (by rw [hphase]; rfl)⟩
  exact ⟨before, usage, hreports, husage, hsame, by rw [hdestination]; rfl⟩

theorem keeps_checkCopied (role : ShrinkRole) (usage : ShrinkUsage)
    (hstage : phase = .verifying → stage = .verify) :
    Keeps S PlainError
      (fun w => w.phase = phase ∧ Reported S role stage usage w.id (w.volume role))
      (checkCopied installation workspace role usage) fun _ w => w.phase = phase := by
  refine keeps_read_bind fun w₀ => ?_
  refine keeps_bind (D := fun _ w => w = w₀ ∧ (w.volume role).HasUsage usage ∧ w.phase = phase ∧
    Reported S role stage usage w.id (w.volume role)) (keeps_attempt ?_ fun _ => trivial)
    fun _ => ?_
  · rintro _ hensure w ⟨rfl, hw⟩
    have husage := ensure_eq_ok.1 hensure
    simp only [Bool.and_eq_true, decide_eq_true_eq] at husage
    exact ⟨rfl, husage, hw⟩
  · split
    · rename_i hverifying
      by_cases hphase : phase = .verifying
      · subst hphase
        obtain rfl := hstage rfl
        exact (keeps_recordVerified role usage).conseq (fun _ => And.right) fun _ _ => id
      · rintro w g ⟨-, rfl, -, hw, -⟩
        exact absurd (hw.symm.trans hverifying) hphase
    · exact keeps_pure fun w hw => hw.2.2.1

theorem keeps_copyVolume (role : ShrinkRole) (hstage : phase = .verifying → stage = .verify) :
    Keeps S PlainError (fun w => w.phase = phase)
      (copyVolume installation workspace now stage role) fun _ w => w.phase = phase := by
  refine still_read.bind fun operation => ?_
  split
  · exact keeps_pure fun _ => id
  · refine keeps_bind (keeps_runShrinkPod (steady_phase phase) role stage) fun usage => ?_
    refine keeps_bind (keeps_awaitPod role stage _ usage) fun usage => ?_
    exact keeps_checkCopied role usage hstage

theorem advances_copyingOrVerifying (hphase : phase = .copying ∨ phase = .verifying) :
    Advances S job (fun w => w.phase = phase)
      (advanceCopyingOrVerifying installation workspace now) := by
  refine leaves_read_bind fun w₀ => ?_
  by_cases hread : w₀.phase = phase
  · have hstage : phase = .verifying →
        (if w₀.phase = .copying then ShrinkPodStage.copy else .verify) = .verify := by
      rintro rfl
      rw [if_neg (by rw [hread]; nofun)]
    refine leaves_bind ((keeps_copyVolume .home hstage).conseq (fun _ => And.right) fun _ _ => id)
      fun _ => ?_
    refine leaves_bind (keeps_copyVolume .temporary hstage) fun _ => ?_
    -- the next phase is chosen by the version that was read
    rcases hphase with rfl | rfl
    · rw [if_pos hread]
      exact advances_enterPhase .verifying
    · rw [if_neg (by rw [hread]; nofun)]
      exact advances_enterPhase .switching
  · rintro w g ⟨-, rfl, hw⟩
    exact absurd hw hread

theorem advances_switching :
    Advances S job (fun w => w.phase = .switching) (advanceSwitching now) := by
  refine leaves_bind (inquires_removeHelpers _).still.keeps fun _ => ?_
  refine leaves_bind (inquires_stopWorkspace _).still.keeps fun _ => ?_
  refine triple_bind (m := fun _ => Recorded fun _ => True) (leaves_saveAs ?_ ?_ fun _ _ => trivial)
    fun _ => triple_throw fun _ _ _ => trivial
  · intro o w ho hw
    exact .switch { ho.drifts with } (ho.phase_eq hw) rfl rfl
      ho.flags.reclaimable
  · intro o w ho hw hlost
    exact .switched hlost { ho.drifts with } (ho.phase_eq hw) rfl rfl
      ho.flags.reclaimable

theorem phase_complete (w : StorageShrinkOperation) :
    (w.complete now).phase = .completed ∨ (w.complete now).phase = .reclaiming := by
  unfold StorageShrinkOperation.complete
  cases w.request.reclaimSource with
  | true => exact .inr rfl
  | false => exact .inl rfl

theorem advances_completeOperation :
    Advances S job (fun w => w.phase = .resuming) (completeOperation now) := by
  refine triple_bind (m := fun _ => Recorded fun w => w.phase = .completed ∨ w.phase = .reclaiming)
    (leaves_saveAs ?_ ?_ fun w _ => phase_complete w) fun _ => ?_
  · intro o w ho hw
    exact .complete { ho.drifts with } (ho.phase_eq hw)
      (phase_complete w) ho.flags.switched rfl
  · intro o w ho hw hlost
    exact .completed hlost { ho.drifts with } (ho.phase_eq hw)
      (phase_complete w) ho.flags.switched rfl
  · refine triple_read_bind fun w₀ => triple_ite (fun _ => triple_throw fun _ _ _ => trivial)
      fun hphase => triple_pure ?_
    rintro w g ⟨rfl, hbase, -, hcompleted | hreclaiming⟩
    · exact ⟨w, hbase, by rw [hcompleted]; rfl⟩
    · exact absurd hreclaiming hphase

/-- The workspace of a run may be observed: its operation is in the phase `resuming`. -/
def Observes (workspace : Workspace) (g : Ledger) : Prop :=
  g.spoiled = false ∧ g.reads = some workspace.id ∧ ∃ o, g.base = some o ∧ o.phase = .resuming

/-- The calls of the reconciler are proper, and leave the ledger alone. -/
theorem proper_of_reconcilerCall {c : signature.Call} (h : ReconcilerCall workspace c)
    (hobserves : Observes workspace g) (r : signature.Response c) (g' : Ledger) :
    g.after S c r = g ∧ Proper S g c r g' := by
  cases c with
  | store call =>
    cases call with
    | observe id generation observation now =>
      obtain ⟨rfl, -⟩ := h
      exact ⟨rfl, hobserves⟩
    | _ => first | exact h.elim | exact ⟨rfl, trivial⟩
  | _ => exact ⟨rfl, trivial⟩

theorem holds_reconcileWorkspace {post : Except JobHandlerError Unit → Unit → Ledger → Prop}
    (hobserves : Observes workspace g) (h : ∀ r, Checkpoints job r → post r () g) :
    (reconcileWorkspace workspace job).Holds (shrinkContract S).semantics (shrinkContract S).rely
      (shrinkContract S).guarantee post () g := by
  have hyields : (reconcileWorkspace workspace job ()).Meets (Ledger.semantics S) Eq
      (fun _ c _ _ => ReconcilerCall workspace c) (fun a _ => Checkpoints job a.1) g :=
    (reconcileWorkspace_yields workspace job ()).meets g
  have hkept := hyields.and_invariant (I := fun g' => g' = g) rfl
    (fun g₁ g₂ h₁ h₂ => h₂ ▸ h₁) fun g₁ c r g₂ h₁ hsem hcall => by
      subst h₁
      exact hsem.2.trans (proper_of_reconcilerCall hcall hobserves r g₂).1
  refine (hkept.mono_guar fun g₁ c r g₂ hcall => ?_).mono ?_
  · obtain ⟨hcall, hsame, -⟩ := hcall
    exact (proper_of_reconcilerCall hcall (hsame ▸ hobserves) r g₂).2
  · rintro ⟨r, _⟩ _ ⟨hr, rfl⟩
    exact h r hr

/-- The ledger of a run that works on the operation it has read of its workspace. -/
def Fresh (workspace : Workspace) (g : Ledger) : Prop :=
  g.spoiled = false ∧ g.reads = some workspace.id

theorem Held.observes {w : StorageShrinkOperation} {g : Ledger} (h : Held S w g)
    (hfresh : Fresh workspace g) (hw : w.phase = .resuming) : Observes workspace g := by
  obtain ⟨o, hbase, ho⟩ := h hfresh.1
  exact ⟨hfresh.1, hfresh.2, o, hbase, ho.phase_eq hw⟩

/-- The reconciler runs while the operation is in its phase `resuming`. -/
theorem leaves_reconcileWorkspace :
    Triple (shrinkContract S)
      (fun w g => (Held S w g ∧ w.phase = .resuming) ∧ Fresh workspace g)
      (scope () (reconcileWorkspace workspace job) : ShrinkRoutine Unit)
      (fun _ w g => Held S w g ∧ w.phase = .resuming) (Leaves S job) := by
  refine triple_scope ?_
  rintro w g ⟨⟨hheld, hphase⟩, hfresh⟩
  refine holds_reconcileWorkspace (hheld.observes hfresh hphase) fun r hr => ?_
  match r, hr with
  | .ok _, _ => exact ⟨hheld, hphase⟩
  | .error (.failed _), _ => exact hheld.stranded
  | .error (.pending _), hr => exact hr
  | .error (.pendingWithCheckpoint ..), hr => exact hr

theorem advances_resuming :
    Triple (shrinkContract S)
      (fun w g => (Held S w g ∧ w.phase = .resuming) ∧ Fresh workspace g)
      (advanceResuming workspace now job) (fun _ _ g => Rests g) (Leaves S job) := by
  refine triple_read_bind fun operation => Triple.strengthen ?_ fun _ _ => And.right
  refine triple_ite (fun _ => ?_) fun _ => ?_
  · unfold resumeWorkspace
    split
    · refine Triple.strengthen ?_ fun _ _ => And.left
      refine triple_bind (m := fun _ => Recorded fun _ => True)
        (leaves_saveAs ?_ (fun o w ho _ _ => .near (ho.touch now)) fun _ _ => trivial)
        fun _ => triple_throw fun _ _ _ => trivial
      intro o w ho hw
      exact .resume (ho.touch now).drifts (ho.touch now).flags (ho.phase_eq hw) hw
    · exact Triple.strengthen advances_completeOperation fun _ _ => And.left
    · exact triple_bind leaves_reconcileWorkspace fun _ => triple_throw fun _ _ _ => trivial
  · exact triple_bind leaves_reconcileWorkspace fun _ => advances_completeOperation

theorem advances_rollingBack :
    Advances S job (fun w => w.phase = .rollingBack) (advanceRollingBack now) := by
  refine leaves_bind (inquires_removeHelpers _).still.keeps fun _ => ?_
  refine leaves_bind (inquires_stopWorkspace _).still.keeps fun _ => ?_
  refine leaves_read_bind fun w₀ => ?_
  refine Triple.weaken (leaves_saveAs (D := fun w => w.phase = .failed) ?_ ?_ fun _ _ => rfl) ?_
  · rintro o w ho ⟨rfl, hw⟩
    obtain ⟨hd, hf⟩ := ho.enter .failed now
    exact .rolledBack hd hf (ho.phase_eq hw) rfl (by rw [ho.flags.switched])
  · rintro o w ho ⟨rfl, hw⟩ -
    obtain ⟨hd, hf⟩ := ho.enter .failed now
    exact .entered hd hf (by rw [ho.phase_eq hw]; rfl) nofun nofun
  · rintro _ w g ⟨hbase, -, hfailed⟩
    exact ⟨w, hbase, by rw [hfailed]; rfl⟩

theorem advances_reclaiming :
    Advances S job (fun w => w.phase = .reclaiming)
      (advanceReclaiming installation workspace now) := by
  refine leaves_bind (Still.keeps still_read) fun operation => ?_
  refine leaves_bind (Still.keeps (still_attempt _ fun _ => trivial)) fun _ => ?_
  refine leaves_bind (inquires_mapError inquires_reclaimShrinkSources).still.keeps fun done => ?_
  refine leaves_bind (inquires_awaitCluster _ _).still.keeps fun _ => ?_
  refine Triple.weaken (leaves_saveAs (D := fun w => w.phase = .reclaimed) ?_ ?_ fun _ _ => rfl) ?_
  · intro o w ho hw
    exact .reclaimed { ho.drifts with } (ho.phase_eq hw) rfl
      ho.flags.switched rfl
  · intro o w ho hw hlost
    exact .reclaimed hlost { ho.drifts with } (ho.phase_eq hw) rfl
      ho.flags.switched rfl
  · rintro _ w g ⟨hbase, -, hreclaimed⟩
    exact ⟨w, hbase, by rw [hreclaimed]; rfl⟩

/-- **Every phase**, with its deadline. -/
theorem advances_withDeadline :
    Triple (shrinkContract S)
      (fun w g => (Held S w g ∧ w.phase.active = true) ∧ Fresh workspace g)
      (advanceWithDeadline installation workspace now job) (fun _ _ g => Rests g)
      (Leaves S job) := by
  refine triple_read_bind fun operation => Triple.strengthen ?_ fun _ _ => And.right
  refine triple_ite (fun _ => ?_) fun _ => ?_
  · exact triple_throw fun w g hw => hw.1.1.stranded
  · refine triple_read_bind fun w₀ => ?_
    rintro w g ⟨rfl, ⟨hheld, hactive⟩, hfresh⟩
    cases hphase : w.phase with
    | queued => exact advances_queued w g ⟨hheld, hphase⟩
    | stopping => exact advances_stopping w g ⟨hheld, hphase⟩
    | measuring => exact advances_measuring w g ⟨hheld, hphase⟩
    | copying => exact advances_copyingOrVerifying (.inl rfl) w g ⟨hheld, hphase⟩
    | verifying => exact advances_copyingOrVerifying (.inr rfl) w g ⟨hheld, hphase⟩
    | switching => exact advances_switching w g ⟨hheld, hphase⟩
    | resuming => exact advances_resuming w g ⟨⟨hheld, hphase⟩, hfresh⟩
    | rollingBack => exact advances_rollingBack w g ⟨hheld, hphase⟩
    | reclaiming => exact advances_reclaiming w g ⟨hheld, hphase⟩
    | completed | failed | reclaimed => rw [hphase] at hactive; cases hactive

end Phases

end WorkspaceControl
