/-
**Where a storage operation leaves the volumes of a workspace.**

A workspace is bound to its sources until the save that switches it to its destinations, and to its
destinations from then on.  The module follows one operation from its request: through every run of
the handler, cut off anywhere, with saves that fail, and through the transactions of other
processes, as long as none of them replaces the volumes once the operation has ended.

Main definitions:

* `WorkspaceRow.Binds`, `WorkspaceRow.Sized` — the binding and the size of a volume in a row;
* `OnSources`, `OnDestinations` — the two places of a workspace;
* `Placed`, `VolumesTracked` — the invariant, of one operation and of the database;
* `SwitchEvidence` — what is known of a volume that was switched.

Main results:

* `VolumesTracked.moves` — the invariant along a run;
* `bindings_follow_switch` — an operation is marked as switched when its workspace is bound to the
  destinations;
* `switch_needs_evidence` — the workspace leaves its sources for verified destinations only.
-/

import WorkspaceControl.ShrinkOutcomes

set_option autoImplicit false

namespace WorkspaceControl

open Fallible MachineInt Relational

/-! ### The volumes of a row -/

def Workspace.binding (workspace : Workspace) : ShrinkRole → Option WorkspaceHomeVolumeBinding
  | .home => workspace.homeVolumeBinding
  | .temporary => workspace.scratchVolumeBinding

/-- The columns of a volume hold a binding. -/
def WorkspaceRow.Binds (row : WorkspaceRow) (binding : Option WorkspaceHomeVolumeBinding) :
    ShrinkRole → Prop
  | .home => row.home = HomeColumns.of (fun n => n) binding
  | .temporary => row.scratchVolumeBindingJson = binding.map .binding

/-- The column of the size of a volume. -/
def WorkspaceRow.sizeGib (row : WorkspaceRow) : ShrinkRole → ℤ
  | .home => row.diskGib
  | .temporary => row.temporaryStorageGib

/-- The size of a volume in a snapshot. -/
def WorkspaceTemplateDocument.sizeGib (document : WorkspaceTemplateDocument) : ShrinkRole → ℕ
  | .home => document.spec.resources.diskGib
  | .temporary => document.spec.storagePolicy.temporaryStorageGib

/-- The size of a volume, in its column and in the snapshot. -/
structure WorkspaceRow.Sized (row : WorkspaceRow) (role : ShrinkRole) (size : ℕ) : Prop where
  column : row.sizeGib role = size
  snapshot : ∃ document, row.templateSnapshotYaml = .document document ∧
    document.sizeGib role = size

/-- The volumes of a row stay: their bindings, and their sizes if they fit the columns. -/
structure SameVolumes (row row' : WorkspaceRow) : Prop where
  binds : ∀ role binding, row.Binds binding role → row'.Binds binding role
  sized : ∀ role (size : ℕ), row.Sized role size → (size : ℤ) ≤ I64.max → row'.Sized role size

variable {updatedAt : ℤ} {role : ShrinkRole} {v v' : StorageShrinkVolume}
  {u : ShrinkWorkspaceUpdate} {target : ℕ} {call : StoreCall} {row row' : WorkspaceRow}
  {o w : StorageShrinkOperation} {document : WorkspaceTemplateDocument} {workspace : Workspace}
  {S : Surroundings} {before : ShrinkRole → Option WorkspaceHomeVolumeBinding}

section Rows

variable {binding binding' : Option WorkspaceHomeVolumeBinding}

theorem SameVolumes.refl (row : WorkspaceRow) : SameVolumes row row :=
  ⟨fun _ _ hbinds => hbinds, fun _ _ hsized _ => hsized⟩

/-- A row is written, but none of the columns of the volumes. -/
theorem SameVolumes.of_columns (hhome : row'.home = row.home)
    (hscratch : row'.scratchVolumeBindingJson = row.scratchVolumeBindingJson)
    (hsize : ∀ role, row'.sizeGib role = row.sizeGib role)
    (hsnapshot : row'.templateSnapshotYaml = row.templateSnapshotYaml) : SameVolumes row row' := by
  refine ⟨fun role binding hbinds => ?_, fun role size hsized _ => ⟨?_, ?_⟩⟩
  · cases role with
    | home => exact hhome.trans hbinds
    | temporary => exact hscratch.trans hbinds
  · exact (hsize role).trans hsized.column
  · rw [hsnapshot]
    exact hsized.snapshot

theorem SameVolumes.transition (row : WorkspaceRow) (state : WorkspaceState) (generation : ℕ)
    (now : ℤ) : SameVolumes row (row.transition state generation now) :=
  .of_columns rfl rfl (fun role => by cases role <;> rfl) rfl

theorem SameVolumes.bumpGeneration (row : WorkspaceRow) (now : ℤ) :
    SameVolumes row (row.bumpGeneration now) :=
  .of_columns rfl rfl (fun role => by cases role <;> rfl) rfl

theorem HomeColumns.of_injective (h : HomeColumns.of (fun n => n) binding =
    HomeColumns.of (fun n => n) binding') : binding = binding' := by
  obtain ⟨hnamespace, hname, huid, hcapacity⟩ := HomeColumns.mk.inj h
  cases binding with
  | none =>
    cases binding' with
    | none => rfl
    | some b' => cases hname
  | some b =>
    cases binding' with
    | none => cases hname
    | some b' =>
      obtain ⟨_, _, _, _⟩ := b
      obtain ⟨_, _, _, _⟩ := b'
      simp only [Option.map_some, Option.some_inj, Nat.cast_inj] at hnamespace hname huid hcapacity
      rw [hnamespace, hname, huid, hcapacity]

/-- The columns of a valid binding do not depend on the cast. -/
theorem HomeColumns.of_castI64 (h : ∀ b ∈ binding, b.isValid = true) :
    HomeColumns.of U64.castI64 binding = HomeColumns.of (fun n => n) binding := by
  cases binding with
  | none => simp only [HomeColumns.of, Option.map_none]
  | some b =>
    have hcapacity := (WorkspaceHomeVolumeBinding.capacity_of_isValid (h b rfl)).2
    simp only [HomeColumns.of, Option.map_some, U64.castI64_of_le hcapacity]

/-- The binding of a row that is decoded. -/
theorem Decodes.binds_iff (h : Decodes row document workspace) :
    row.Binds binding role ↔ workspace.binding role = binding := by
  cases role with
  | home =>
    refine ⟨fun hbinds => HomeColumns.of_injective (h.home.symm.trans hbinds), ?_⟩
    rintro rfl
    exact h.home
  | temporary =>
    refine ⟨fun hbinds => ?_, ?_⟩
    · refine Option.map_injective ?_ (h.scratch.symm.trans hbinds)
      exact fun _ _ hsame => BindingText.binding.inj hsame
    · rintro rfl
      exact h.scratch

/-- The binding of a row that an operation has written. -/
theorem WorkspaceRow.binds_shrunk
    (hvalid : role = .home → ∀ b ∈ workspace.homeVolumeBinding, b.isValid = true) :
    (row.shrunk workspace document updatedAt).Binds (workspace.binding role) role := by
  cases role with
  | home => exact HomeColumns.of_castI64 (hvalid rfl)
  | temporary => rfl

theorem WorkspaceRow.sizeGib_shrunk :
    (row.shrunk workspace document updatedAt).sizeGib role =
      U64.castI64 (document.sizeGib role) := by
  cases role with
  | home
  | temporary => rw [WorkspaceRow.sizeGib, WorkspaceTemplateDocument.sizeGib, WorkspaceRow.shrunk]

/-- The size of a volume in a row that an operation has written. -/
theorem WorkspaceRow.sized_shrunk (hsize : (document.sizeGib role : ℤ) ≤ I64.max) :
    (row.shrunk workspace document updatedAt).Sized role (document.sizeGib role) :=
  ⟨WorkspaceRow.sizeGib_shrunk.trans (U64.castI64_of_le hsize), document, rfl, rfl⟩

end Rows

/-! ### What an operation has recorded -/

section Recorded

variable {operationId : Uuid}

variable {phase : StorageShrinkPhase}

/-- Sources that were known, or were found while the operation was queued. -/
theorem VolumeDrifts.source_eq (h : VolumeDrifts S phase operationId role v v')
    (hphase : phase ≠ .queued) :
    v'.source = v.source :=
  h.source.resolve_right fun hqueued => hphase hqueued.1

theorem Discovered.drifts (h : Discovered o) (hd : Drifts S o w) (hphase : o.phase ≠ .queued) :
    Discovered w := by
  have hsource : ∀ role, (w.volume role).source = (o.volume role).source :=
    fun role => (hd.volume role).source_eq hphase
  have horiginal : ∀ role, w.originalGib role = o.originalGib role :=
    fun role => (hd.original role).resolve_right fun hqueued => hphase hqueued.1
  refine ⟨?_, fun role source hrole => ?_⟩
  · exact (congrArg Option.isSome (hsource .home)).trans h.home
  · rw [horiginal]
    exact h.sources role source ((hsource role).symm.trans hrole)

/-- The sources of an operation are known once the workspace is stopped for it. -/
def StorageShrinkOperation.Located (o : StorageShrinkOperation) : Prop :=
  o.phase = .queued ∨ (o.phase = .failed ∧ o.switched = false) ∨ Discovered o

theorem StorageShrinkOperation.Located.discovered (h : o.Located) (hqueued : o.phase ≠ .queued)
    (hfailed : o.phase ≠ .failed) : Discovered o :=
  (h.resolve_left hqueued).resolve_left fun hboth => hfailed hboth.1

theorem StorageShrinkOperation.Located.evolves (h : o.Located) (hagrees : SwitchAgrees o)
    (hevolves : Evolves S o w u) : w.Located := by
  have hfailed : o.phase ≠ .failed := by
    intro hfailed
    have hactive := hevolves.active
    rw [hfailed] at hactive
    cases hactive
  by_cases hqueued : o.phase = .queued
  · have hunswitched : o.switched = false := hagrees.unswitched (by rw [hqueued]; rfl)
    cases hevolves with
    | stay hd hf ho hw => exact .inl (hw.trans hqueued)
    | preflightFailed hd hf ho hw => exact .inr (.inl ⟨hw, hf.switched.trans hunswitched⟩)
    | stopping hd hf hfound => exact .inr (.inr hfound)
    | lostStop _ _ hd hf hfound => exact .inr (.inr hfound)
    | forward _ _ h | rollBack _ _ h =>
      rw [hqueued] at h
      cases h
    | switch _ h | resume _ _ h | complete _ h | rolledBack _ _ h | reclaimed _ h
    | reclaimFailed _ _ h | lostSwitch _ _ h | lostCompletion _ _ _ h | lostReclaim _ _ _ h =>
      cases hqueued.symm.trans h
  · exact .inr (.inr ((h.discovered hqueued hfailed).drifts hevolves.drifts hqueued))

/-- **The sources are known** from the phase `stopping` on. -/
theorem discovered_invariant (S : Surroundings) :
    OperationInvariant S fun o => SwitchAgrees o ∧ o.Located where
  started db operationId jobId workspaceId request actorUserId now workspace hothers :=
    ⟨(switched_agrees S).started _ _ jobId workspaceId _ _ _ _ hothers, .inl rfl⟩
  confirmed o now h hphase hreclaimable := by
    refine ⟨(switched_agrees S).confirmed o now h.1 hphase hreclaimable, .inr (.inr ?_)⟩
    have hfound := h.2.discovered (by rw [hphase]; decide) (by rw [hphase]; decide)
    exact ⟨hfound.home, hfound.sources⟩
  retried o now h hphase hswitched hreclaimable := by
    refine ⟨(switched_agrees S).retried o now h.1 hphase hswitched hreclaimable, .inr (.inr ?_)⟩
    rcases h.2 with hqueued | ⟨-, hunswitched⟩ | hfound
    · cases hphase.symm.trans hqueued
    · cases hswitched.symm.trans hunswitched
    · exact ⟨hfound.home, hfound.sources⟩
  evolves o w u h hevolves := ⟨h.1.evolves hevolves, h.2.evolves h.1 hevolves⟩
  cleaned o home temporary h hhome htemporary := by
    refine ⟨(switched_agrees S).cleaned o home temporary h.1 hhome htemporary, ?_⟩
    refine h.2.imp_right fun h => h.imp_right fun hfound => ⟨?_, ?_⟩
    · exact (congrArg Option.isSome hhome.source).trans hfound.home
    · rintro (_ | _) source hsource
      · exact hfound.sources .home source (hhome.source.symm.trans hsource)
      · exact hfound.sources .temporary source (htemporary.source.symm.trans hsource)

/-- What is recorded of a volume was reported by helper Pods. -/
structure VolumeEvidence (S : Surroundings) (operationId : Uuid) (role : ShrinkRole)
    (volume : StorageShrinkVolume) : Prop where
  verified : volume.verified = true → S.Verified operationId role volume
  measured : volume.usedBytes.isSome = true → S.Measured operationId role volume

/-- The destination and the usage of a verified volume stay what they are. -/
theorem Surroundings.Verified.of_same (h : S.Verified operationId role v)
    (hdestination : v'.destination = v.destination)
    (husage : v'.usedBytes = v.usedBytes ∧ v'.usedInodes = v.usedInodes) :
    S.Verified operationId role v' := by
  obtain ⟨before, usage, hreports, ⟨hbytes, hinodes⟩, hchecked, hsome⟩ := h
  exact ⟨before, usage, hreports, ⟨husage.1.trans hbytes, husage.2.trans hinodes⟩,
    hchecked.trans hdestination.symm, hdestination ▸ hsome⟩

theorem Surroundings.Measured.of_same (h : S.Measured operationId role v)
    (husage : v'.usedBytes = v.usedBytes ∧ v'.usedInodes = v.usedInodes) :
    S.Measured operationId role v' := by
  obtain ⟨before, usage, hreports, hbytes, hinodes⟩ := h
  exact ⟨before, usage, hreports, husage.1.trans hbytes, husage.2.trans hinodes⟩

theorem VolumeEvidence.drifts (h : VolumeEvidence S operationId role v)
    (hd : VolumeDrifts S phase operationId role v v') : VolumeEvidence S operationId role v' := by
  refine ⟨fun hverified => ?_, fun hsome => ?_⟩
  · rcases hd.verified hverified with hbefore | hnow
    · have hverified' := h.verified hbefore
      obtain ⟨_, usage, _, ⟨hbytes, _⟩, _, hsome⟩ := h.verified hbefore
      refine hverified'.of_same (hd.destination.resolve_right ?_) (hd.usage.resolve_right ?_)
      · rintro ⟨-, -, hnone⟩
        rw [hnone] at hsome
        cases hsome
      · rintro ⟨hnone, -⟩
        cases hbytes.symm.trans hnone
    · exact hnow
  · rcases hd.usage with hsame | ⟨-, hmeasured⟩
    · exact (h.measured (hsame.1 ▸ hsome)).of_same hsame
    · exact hmeasured

theorem VolumeEvidence.cleaned {role : ShrinkRole} {v v' : StorageShrinkVolume}
    (h : VolumeEvidence S operationId role v) (hcleaned : VolumeCleaned v v') :
    VolumeEvidence S operationId role v' := by
  refine ⟨fun hverified => ?_, fun hsome => ?_⟩
  · have hverified' := h.verified (hcleaned.verified.symm.trans hverified)
    obtain ⟨_, _, _, _, _, hsome⟩ := h.verified (hcleaned.verified.symm.trans hverified)
    exact hverified'.of_same (hcleaned.destination hsome) hcleaned.usage
  · exact (h.measured (hcleaned.usage.1 ▸ hsome)).of_same hcleaned.usage

/-- **What an operation has recorded was reported** by helper Pods of its own. -/
theorem evidence_invariant (S : Surroundings) (operationId : Uuid) :
    OperationInvariant S fun o => o.id = operationId →
      ∀ role, VolumeEvidence S operationId role (o.volume role) where
  started db id jobId workspaceId request actorUserId now workspace _ := by
    rintro - (_ | _) <;> exact ⟨fun h => (nomatch h), fun h => (nomatch h)⟩
  confirmed o now h _ _ := fun hid role => by cases role <;> exact h hid _
  retried o now h _ _ _ := fun hid role => by cases role <;> exact h hid _
  evolves o w u h hevolves := fun hid role => by
    have hid' : o.id = operationId := hevolves.drifts.id.symm.trans hid
    exact (h hid' role).drifts (hid' ▸ hevolves.drifts.volume role)
  cleaned o home temporary h hhome htemporary := fun hid role => by
    cases role with
    | home => exact (h hid .home).cleaned hhome
    | temporary => exact (h hid .temporary).cleaned htemporary

end Recorded

/-! ### The two places of a workspace -/

/-- Every volume is bound as it was when the operation was requested, or to its source. -/
def OnSources (before : ShrinkRole → Option WorkspaceHomeVolumeBinding)
    (o : StorageShrinkOperation) (row : WorkspaceRow) : Prop :=
  ∀ role, row.Binds (before role) role ∨ row.Binds (o.volume role).source role

/-- Every volume with a target is bound to a verified destination of that size. -/
def OnDestinations (o : StorageShrinkOperation) (row : WorkspaceRow) : Prop :=
  ∀ role target, (o.volume role).targetGib = some target →
    (o.volume role).verifiedDestination target = true ∧
      row.Binds (o.volume role).destination role ∧ row.Sized role target

/-- **The place of the workspace of an operation.** -/
structure Placed (S : Surroundings) (before : ShrinkRole → Option WorkspaceHomeVolumeBinding)
    (o : StorageShrinkOperation) (row : WorkspaceRow) : Prop where
  sources : ∀ role, (o.volume role).source = before role ∨ before role = none
  place : (OnSources before o row ∧
      (o.switched = true → ∃ lost, S.critical lost .switch = false)) ∨
    o.switched = true ∧ OnDestinations o row

section Places

theorem VolumeCleaned.verifiedDestination (h : VolumeCleaned v v')
    (hverified : v.verifiedDestination target = true) :
    v'.verifiedDestination target = true := by
  obtain ⟨source, destination, -, hdestination, -⟩ := claims_of_verifiedDestination hverified
  obtain ⟨sv, dv, hsv, hdv, -⟩ := volumes_of_verifiedDestination hverified
  have hdestination' : v'.destination = v.destination := h.destination (by rw [hdestination]; rfl)
  have hsourceVolume : v'.sourceVolume = v.sourceVolume := h.sourceVolume (by rw [hsv]; rfl)
  have hdestinationVolume : v'.destinationVolume = v.destinationVolume :=
    h.destinationVolume (by rw [hdv]; rfl)
  rw [StorageShrinkVolume.verifiedDestination, h.verified, h.source, hdestination', h.usage.1,
    h.usage.2, hdestinationVolume, hsourceVolume]
  exact hverified

/-- The size of a verified destination fits its column. -/
theorem le_max_of_verifiedDestination (h : v.verifiedDestination target = true) :
    (target : ℤ) ≤ I64.max := by
  obtain ⟨_, destination, -, -, -, -, hvalid, hsize⟩ := claims_of_verifiedDestination h
  rw [← hsize]
  exact (WorkspaceHomeVolumeBinding.capacity_of_isValid hvalid).2

/-- Nothing but what deletion adds to the volumes has changed. -/
theorem Placed.follow (h : Placed S before o row)
    (hvolume : ∀ role, VolumeCleaned (o.volume role) (w.volume role))
    (hswitched : w.switched = o.switched) (hsame : SameVolumes row row') :
    Placed S before w row' := by
  refine ⟨fun role => ?_, ?_⟩
  · rw [(hvolume role).source]
    exact h.sources role
  · rw [hswitched]
    refine h.place.imp (fun hplace => ⟨fun role => ?_, hplace.2⟩)
      fun hplace => ⟨hplace.1, fun role target htarget => ?_⟩
    · rw [(hvolume role).source]
      exact (hplace.1 role).imp (hsame.binds role _) (hsame.binds role _)
    · obtain ⟨hverified, hbinds, hsized⟩ :=
        hplace.2 role target ((hvolume role).target.symm.trans htarget)
      obtain ⟨_, destination, -, hdestination, -⟩ := claims_of_verifiedDestination hverified
      refine ⟨(hvolume role).verifiedDestination hverified, ?_,
        hsame.sized role target hsized (le_max_of_verifiedDestination hverified)⟩
      rw [(hvolume role).destination (by rw [hdestination]; rfl)]
      exact hsame.binds role _ hbinds

/-- **What a transition does to the volumes**: it switches them, it takes them back to the sources,
or it leaves them, possibly with the mark of a switch that was lost. -/
theorem Evolves.volumes (h : Evolves S o w u) (hagrees : SwitchAgrees o) :
    (u = .switch ∧ o.switched = false ∧ w.switched = true) ∨
    (u = .rollback ∧ o.switched = false ∧ w.switched = false ∧ o.phase = .rollingBack) ∨
    (u = .none ∨ u = .stopping ∨ u = .stopped ∨ u = .resume) ∧
      (w.switched = o.switched ∨
        o.switched = false ∧ w.switched = true ∧ ∃ lost, S.critical lost .switch = false) := by
  cases h with
  | switch hd ho hw hswitched =>
    exact .inl ⟨rfl, hagrees.unswitched (by rw [ho]; rfl), hswitched⟩
  | rolledBack hd hf ho hw hu =>
    cases hswitched : o.switched with
    | true => exact .inr (.inr ⟨by simp [hu, hswitched], .inl (hf.switched.trans hswitched)⟩)
    | false =>
      exact .inr (.inl ⟨by simp [hu, hswitched], rfl, hf.switched.trans hswitched, ho⟩)
  | lostSwitch hlost hd ho hw hswitched =>
    exact .inr (.inr ⟨.inr (.inl rfl),
      .inr ⟨hagrees.unswitched (by rw [ho]; rfl), hswitched, _, hlost⟩⟩)
  | forward hd hf hforward =>
    refine .inr (.inr ⟨?_, .inl hf.switched⟩)
    generalize o.phase = before, w.phase = next at hforward
    cases hforward <;> simp
  | stay hd hf | preflightFailed hd hf | reclaimFailed hd hf =>
    exact .inr (.inr ⟨.inl rfl, .inl hf.switched⟩)
  | stopping _ hf | rollBack _ hf | lostStop _ _ _ hf =>
    exact .inr (.inr ⟨.inr (.inl rfl), .inl hf.switched⟩)
  | resume hd hf => exact .inr (.inr ⟨.inr (.inr (.inr rfl)), .inl hf.switched⟩)
  | complete hd ho hw hswitched
  | reclaimed hd ho hw hswitched => exact .inr (.inr ⟨.inl rfl, .inl hswitched⟩)
  | lostCompletion _ _ hd ho hw hswitched | lostReclaim _ _ hd ho hw hswitched =>
    exact .inr (.inr ⟨.inr (.inl rfl), .inl hswitched⟩)

/-- The row of a workspace before and after a save. -/
def ShrinkWrites (w : StorageShrinkOperation) (u : ShrinkWorkspaceUpdate)
    (row row' : WorkspaceRow) : Prop :=
  (u = .none ∧ row' = row) ∨ ∃ document workspace workspace' document', u ≠ .none ∧
    Decodes row document workspace ∧
    applyShrinkWorkspaceUpdate workspace document w u = .ok (workspace', document') ∧
    row' = row.shrunk workspace' document' w.updatedAt

/-- The updates that replace no volume, but for the source of the temporary one. -/
theorem ShrinkWrites.keeps (h : ShrinkWrites w u row row')
    (hu : u = .none ∨ u = .stopping ∨ u = .stopped ∨ u = .resume) :
    (∀ role binding, row.Binds binding role → row'.Binds binding role ∨
      w.switched = false ∧ row'.Binds (w.volume role).source role) ∧
    ∀ role size, row.Sized role size → (size : ℤ) ≤ I64.max → row'.Sized role size := by
  rcases h with ⟨-, rfl⟩ | ⟨document, workspace, workspace', document', hne, hdecodes, happly, rfl⟩
  · exact ⟨fun role binding hbinds => .inl hbinds, fun role size hsized _ => hsized⟩
  · -- the snapshot and the home binding stay, and the other binding does unless it is the source
    have hsame : document' = document ∧
        workspace'.homeVolumeBinding = workspace.homeVolumeBinding ∧
        (workspace'.scratchVolumeBinding = workspace.scratchVolumeBinding ∨
          w.switched = false ∧ workspace'.scratchVolumeBinding = w.temporary.source) := by
      have hspec := applyShrinkWorkspaceUpdate_eq_ok happly
      rcases hu with rfl | rfl | rfl | rfl
      · exact absurd rfl hne
      · obtain ⟨rfl, rfl⟩ := hspec
        refine ⟨rfl, rfl, ?_⟩
        cases hswitched : w.switched with
        | true => exact .inl rfl
        | false => exact .inr ⟨rfl, rfl⟩
      · obtain ⟨rfl, rfl⟩ := hspec
        exact ⟨rfl, rfl, .inl rfl⟩
      · obtain ⟨rfl, rfl⟩ := hspec
        exact ⟨rfl, rfl, .inl rfl⟩
    obtain ⟨rfl, hhome, hscratch⟩ := hsame
    have hwritten : ∀ role, (row.shrunk workspace' document' w.updatedAt).Binds
        (workspace'.binding role) role := by
      intro role
      refine WorkspaceRow.binds_shrunk fun _ b hb => ?_
      rw [hhome] at hb
      exact (hdecodes.homeValid b hb).1
    refine ⟨fun role binding hbinds => ?_, fun role size hsized hsize => ?_⟩
    · obtain rfl := hdecodes.binds_iff.1 hbinds
      cases role with
      | home =>
        refine .inl ?_
        have hbinding : workspace.binding .home = workspace'.binding .home := hhome.symm
        rw [hbinding]
        exact hwritten .home
      | temporary =>
        have hnew := hwritten .temporary
        rcases hscratch with hkept | ⟨hswitched, hsource⟩
        · have hbinding : workspace.binding .temporary = workspace'.binding .temporary :=
            hkept.symm
          rw [hbinding]
          exact .inl hnew
        · have hbinding : (w.volume .temporary).source = workspace'.binding .temporary :=
            hsource.symm
          rw [hbinding]
          exact .inr ⟨hswitched, hnew⟩
    · obtain ⟨snapshot, hyaml, rfl⟩ := hsized.snapshot
      obtain rfl : snapshot = document' :=
        YamlText.document.inj (hyaml.symm.trans hdecodes.yaml)
      exact WorkspaceRow.sized_shrunk hsize

/-- The update that switches the volumes. -/
theorem ShrinkWrites.switches (h : ShrinkWrites w .switch row row') : OnDestinations w row' := by
  rcases h with ⟨hnone, -⟩ | ⟨document, workspace, workspace', document', -, -, happly, rfl⟩
  · cases hnone
  obtain ⟨hhome, htemporary, hreplaced⟩ := applyShrinkWorkspaceUpdate_eq_ok happly
  obtain ⟨rfl, rfl⟩ := Prod.mk.inj hreplaced
  intro role target htarget
  have hverified : (w.volume role).verifiedDestination target = true := by
    cases role with
    | home => exact hhome target htarget
    | temporary => exact htemporary target htarget
  obtain ⟨source, destination, -, hdestination, -, -, hvalid, -⟩ :=
    claims_of_verifiedDestination hverified
  have hfits := le_max_of_verifiedDestination hverified
  let switched := replaceVolumes workspace document (w.home.destination.or w.home.source)
    (w.temporary.destination.or w.temporary.source) (w.home.targetGib.getD w.originalHomeGib)
    (w.temporary.targetGib.getD w.originalTemporaryStorageGib)
  have hbinding : switched.1.binding role = (w.volume role).destination := by
    cases role with
    | home => exact (congrArg (·.or w.home.source) hdestination).trans hdestination.symm
    | temporary => exact (congrArg (·.or w.temporary.source) hdestination).trans hdestination.symm
  have htargetGib : switched.2.sizeGib role = target := by
    cases role with
    | home => exact congrArg (·.getD w.originalHomeGib) htarget
    | temporary => exact congrArg (·.getD w.originalTemporaryStorageGib) htarget
  refine ⟨hverified, ?_, ?_⟩
  · rw [← hbinding]
    refine WorkspaceRow.binds_shrunk fun hrole b hb => ?_
    subst hrole
    obtain rfl := Option.some_inj.1 ((hbinding.trans hdestination).symm.trans hb)
    exact hvalid
  · rw [← htargetGib] at hfits ⊢
    exact WorkspaceRow.sized_shrunk hfits

/-- The update that takes the volumes back to the sources. -/
theorem ShrinkWrites.rollsBack (h : ShrinkWrites w .rollback row row') (hfound : Discovered w)
    (role : ShrinkRole) : row'.Binds (w.volume role).source role := by
  rcases h with ⟨hnone, -⟩ | ⟨document, workspace, workspace', document', -, -, happly, rfl⟩
  · cases hnone
  obtain ⟨rfl, rfl⟩ := Prod.mk.inj (applyShrinkWorkspaceUpdate_eq_ok happly)
  let restored := replaceVolumes workspace document w.home.source w.temporary.source
    w.originalHomeGib w.originalTemporaryStorageGib
  have hbinding : restored.1.binding role = (w.volume role).source := by
    cases role <;> rfl
  rw [← hbinding]
  exact WorkspaceRow.binds_shrunk fun _ b hb => (hfound.sources .home b hb).1

/-- Volumes that are bound as before stay so when a source is found. -/
theorem Placed.onSources_drifts (h : Placed S before o row) (hd : Drifts S o w)
    (hplace : OnSources before o row) : OnSources before w row := by
  intro role
  rcases (hd.volume role).source with hsame | ⟨-, hnone, -⟩
  · rw [hsame]
    exact hplace role
  · -- there was no source, and none when the operation was requested
    refine .inl ?_
    rcases hplace role with hbinds | hbinds
    · exact hbinds
    · rw [hnone] at hbinds
      rcases h.sources role with hsource | hbefore
      · rw [← hsource, hnone]
        exact hbinds
      · rw [hbefore]
        exact hbinds

/-- **A save keeps the workspace in its place, or switches it.** -/
theorem Placed.evolves (h : Placed S before o row) (hagrees : SwitchAgrees o) (hlocated : o.Located)
    (hevolves : Evolves S o w u) (hwrites : ShrinkWrites w u row row') :
    Placed S before w row' := by
  have hd := hevolves.drifts
  have hsources : ∀ role, (w.volume role).source = before role ∨ before role = none := by
    intro role
    rcases (hd.volume role).source with hsame | ⟨-, hnone, -⟩
    · rw [hsame]
      exact h.sources role
    · rcases h.sources role with hsource | hbefore
      · exact .inr (hsource.symm.trans hnone)
      · exact .inr hbefore
  refine ⟨hsources, ?_⟩
  rcases hevolves.volumes hagrees with ⟨rfl, -, hswitched⟩ | ⟨rfl, -, hunswitched, hphase⟩ |
    ⟨hu, hflag⟩
  · exact .inr ⟨hswitched, hwrites.switches⟩
  · have hfound : Discovered w := by
      refine (hlocated.discovered ?_ ?_).drifts hd ?_ <;> rw [hphase] <;> decide
    exact .inl ⟨fun role => .inr (hwrites.rollsBack hfound role),
      fun hswitched => absurd hswitched (by rw [hunswitched]; decide)⟩
  · obtain ⟨hkeeps, hsizes⟩ := hwrites.keeps hu
    rcases h.place with ⟨hplace, hlost⟩ | ⟨hswitched, hplace⟩
    · refine .inl ⟨fun role => ?_, fun hswitched => ?_⟩
      · rcases h.onSources_drifts hd hplace role with hbinds | hbinds
        · exact (hkeeps role _ hbinds).imp_right And.right
        · exact (hkeeps role _ hbinds).elim .inr fun hsource => .inr hsource.2
      · rcases hflag with hsame | ⟨-, -, hlost'⟩
        · exact hlost (hsame.symm.trans hswitched)
        · exact hlost'
    · have hswitched' : w.switched = true := by
        rcases hflag with hsame | ⟨-, hmarked, -⟩
        · exact hsame.trans hswitched
        · exact hmarked
      refine .inr ⟨hswitched', fun role target htarget => ?_⟩
      have hfrozen : w.volume role = o.volume role := by
        refine (hd.volume role).frozen.resolve_right fun hrecords => ?_
        have hsettled := hagrees.settled hswitched
        generalize o.phase = phase at hrecords hsettled
        revert hrecords hsettled
        cases phase <;> decide
      rw [hfrozen] at htarget ⊢
      obtain ⟨hverified, hbinds, hsized⟩ := hplace role target htarget
      refine ⟨hverified, (hkeeps role _ hbinds).resolve_right fun hsource => ?_,
        hsizes role target hsized (le_max_of_verifiedDestination hverified)⟩
      cases hswitched'.symm.trans hsource.1

end Places

/-! ### The invariant of the database -/

/-- The calls of other processes that replace the volumes of a workspace. -/
def StoreCall.Replaces (workspaceId : Uuid) : StoreCall → Prop
  | create id .. => id = workspaceId
  | update _ id .. => id = workspaceId
  | enqueueShrink _ _ id .. => id = workspaceId
  | _ => False

/-- **The operation is followed**: its workspace is in its place, and whatever other operation of
the workspace is active was switched before. -/
structure VolumesTracked (S : Surroundings) (workspaceId operationId : Uuid)
    (before : ShrinkRole → Option WorkspaceHomeVolumeBinding) (db : Database) : Prop where
  placed : ∀ row stored, db.workspaces.find workspaceId = some row → stored ∈ db.shrinks.rows →
    stored.id = operationId → stored.workspaceId = workspaceId →
    Placed S before stored.operation row
  spent : ∀ stored ∈ db.shrinks.rows, stored.workspaceId = workspaceId → stored.active = true →
    stored.id ≠ operationId → stored.operation.switched = true

section Tracked

variable {workspaceId operationId : Uuid} {db db' : Database}

theorem VolumesTracked.started {jobId actorUserId : Uuid} {request : StorageShrinkRequest} {now : ℤ}
    (h : Started db operationId jobId workspaceId request actorUserId now row document workspace
      db') : VolumesTracked S workspaceId operationId workspace.binding db' := by
  refine ⟨fun row' stored hfind hstored hid hworkspace => ?_, fun stored hstored hworkspace => ?_⟩
  · rw [h.find_eq, if_pos rfl] at hfind
    obtain rfl := Option.some_inj.1 hfind
    rw [h.mem_rows] at hstored
    rcases hstored with hstored | rfl
    · exact absurd hid (h.new stored hstored)
    · have hbinds : ∀ role, (row.bumpGeneration now).Binds (workspace.binding role) role :=
        fun role => (SameVolumes.bumpGeneration row now).binds role _ (h.decodes.binds_iff.2 rfl)
      refine ⟨?_, .inl ⟨fun role => .inl (hbinds role), fun hswitched => nomatch hswitched⟩⟩
      rintro (_ | _)
      · exact .inl rfl
      · exact .inl rfl
  · intro hactive hid
    rw [h.mem_rows] at hstored
    rcases hstored with hstored | rfl
    · cases (h.idle stored hstored hworkspace).symm.trans hactive
    · exact absurd rfl hid

/-- While an operation is active the volumes are not replaced by anybody else. -/
theorem StoreCall.Writes.eq_of_replaces (h : call.Writes db db') (hinvariant : ShrinkInvariant db)
    (hcall : call.Replaces workspaceId) (hbusy : ¬ db.Idle workspaceId) : db' = db := by
  cases h with
  | nothing => rfl
  | created h =>
    obtain rfl := hcall
    refine absurd (fun stored hstored hworkspace => ?_) hbusy
    by_contra hactive
    obtain ⟨row, hrow, -⟩ := hinvariant.alive stored hstored (by simpa using hactive)
    rw [hworkspace, h.find_self] at hrow
    cases hrow
  | updated _ h | started h =>
    obtain rfl := hcall
    exact absurd h.idle hbusy
  | _ => exact hcall.elim

/-- The volumes after a transaction of another process. -/
theorem StoreCall.Writes.sameVolumes (h : call.Writes db db') (hforeign : call.Foreign)
    (hcall : ¬ call.Replaces workspaceId) (hfind : db'.workspaces.find workspaceId = some row') :
    ∃ row, db.workspaces.find workspaceId = some row ∧ SameVolumes row row' := by
  have hwrites := h.row workspaceId
  rw [hfind] at hwrites
  generalize db.workspaces.find workspaceId = found at hwrites
  cases hwrites with
  | same => exact ⟨row', rfl, .refl row'⟩
  | created | updated => exact absurd rfl hcall
  | acted | observed => exact ⟨_, rfl, .transition _ _ _ _⟩
  | dispatched => exact ⟨_, rfl, .bumpGeneration _ _⟩
  | saved => exact hforeign.elim

theorem VolumesTracked.foreign (h : VolumesTracked S workspaceId operationId before db)
    (hinvariant : ShrinkInvariant db)
    (hagrees : ∀ row ∈ db.shrinks.rows, SwitchAgrees row.operation) (hwrites : call.Writes db db')
    (hforeign : call.Foreign) (hcall : ¬ call.Replaces workspaceId) :
    VolumesTracked S workspaceId operationId before db' := by
  have hnew : ∀ {db'' : Database} {id jobId id' actorUserId : Uuid} {request : StorageShrinkRequest}
      {now : ℤ} {row : WorkspaceRow} {document : WorkspaceTemplateDocument} {workspace : Workspace},
      call = .enqueueShrink id jobId id' request actorUserId now →
      Started db id jobId id' request actorUserId now row document workspace db'' →
      workspace.id ≠ workspaceId := by
    rintro _ _ _ _ _ _ _ _ _ _ rfl hstarted hid
    exact hcall ((Table.find_eq_some.1 hstarted.found).2.symm.trans
      (hstarted.decodes.id.symm.trans hid))
  refine ⟨fun row' stored hfind hstored hid hworkspace => ?_,
    fun stored hstored hworkspace hactive hid => ?_⟩
  · obtain ⟨row, hfound, hsame⟩ := hwrites.sameVolumes hforeign hcall hfind
    cases hwrites.operation hinvariant hstored with
    | kept hstored =>
      exact (h.placed row stored hfound hstored hid hworkspace).follow (fun _ => .refl _) rfl hsame
    | started hstarted => exact absurd hworkspace (hnew rfl hstarted)
    | confirmed hold | retried hold =>
      refine (h.placed row _ hfound hold hid hworkspace).follow (fun role => ?_) rfl hsame
      cases role <;> exact .refl _
    | saved => exact hforeign.elim
    | cleaned hcleaned =>
      have hfollows := hcleaned.follows
      exact (h.placed row _ hfound hcleaned.mem hid hworkspace).follow hfollows.volume rfl hsame
  · cases hwrites.operation hinvariant hstored with
    | kept hstored => exact h.spent stored hstored hworkspace hactive hid
    | started hstarted => exact absurd hworkspace (hnew rfl hstarted)
    | confirmed hold _ hphase => exact (hagrees _ hold).resumed (by rw [hphase]; rfl)
    | retried hold _ _ hswitched => exact hswitched
    | saved => exact hforeign.elim
    | cleaned hcleaned => cases hcleaned.inactive.symm.trans hactive

/-- The row of the workspace of an operation that is saved. -/
theorem Saved.shrinkWrites {operation update saved}
    (h : Saved db operation update row document workspace saved db')
    (hfind : db'.workspaces.find operation.workspaceId = some row') :
    ShrinkWrites operation update row row' := by
  rcases h.find_eq with ⟨hnone, hsame⟩ | ⟨workspace', document', hne, happly, hwritten⟩
  · rw [hsame, h.found] at hfind
    exact .inl ⟨hnone, (Option.some_inj.1 hfind).symm⟩
  · rw [hwritten, if_pos rfl] at hfind
    exact .inr ⟨document, workspace, workspace', document', hne, h.decodes, happly,
      (Option.some_inj.1 hfind).symm⟩

theorem Evolves.of_switched (h : Evolves S o w u) (hagrees : SwitchAgrees o)
    (hswitched : o.switched = true) :
    (u = .none ∨ u = .stopping ∨ u = .stopped ∨ u = .resume) ∧ w.switched = true := by
  simpa [hswitched] using h.volumes hagrees

/-- An operation that was switched before keeps the volumes of its workspace. -/
theorem Evolves.sameVolumes (h : Evolves S o w u) (hagrees : SwitchAgrees o)
    (hswitched : o.switched = true) (hwrites : ShrinkWrites w u row row') :
    w.switched = true ∧ SameVolumes row row' := by
  obtain ⟨hu, hswitched'⟩ := h.of_switched hagrees hswitched
  obtain ⟨hkeeps, hsizes⟩ := hwrites.keeps hu
  refine ⟨hswitched', fun role binding hbinds => ?_, hsizes⟩
  refine (hkeeps role binding hbinds).resolve_right fun hsource => ?_
  cases hswitched'.symm.trans hsource.1

/-- **Saves**, of the operation and of other ones. -/
theorem VolumesTracked.saved {operation update saved}
    (h : VolumesTracked S workspaceId operationId before db)
    (hfacts : ∀ row ∈ db.shrinks.rows, SwitchAgrees row.operation ∧ row.operation.Located)
    (hsaved : Saved db operation update row document workspace saved db')
    (hevolves : Evolves S saved.operation operation update) :
    VolumesTracked S workspaceId operationId before db' := by
  obtain ⟨hagrees, hlocated⟩ := hfacts saved hsaved.mem
  refine ⟨fun row' stored hfind hstored hid hworkspace => ?_,
    fun stored hstored hworkspace hactive hid => ?_⟩
  · rw [hsaved.shrinks_eq] at hstored
    rcases Database.mem_writeShrink hstored with ⟨hstored, hne⟩ | ⟨old, hold, hsame, rfl⟩
    · by_cases hother : operation.workspaceId = workspaceId
      · -- another operation of the workspace is saved
        have hspent : saved.operation.switched = true :=
          h.spent saved hsaved.mem (hsaved.workspaceId.trans hother) hsaved.active
            fun heq => hne (hid.trans heq.symm)
        have hfound := hsaved.found
        rw [hother] at hfound
        have hwrites := hsaved.shrinkWrites (hother ▸ hfind)
        exact (h.placed row stored hfound hstored hid hworkspace).follow (fun _ => .refl _) rfl
          (hevolves.sameVolumes hagrees hspent hwrites).2
      · have hsame := (StoreCall.Writes.row (.saved hsaved) workspaceId).eq_of_not_concerns hother
        exact h.placed row' stored (hsame.symm.trans hfind) hstored hid hworkspace
    · obtain rfl := db.shrinks.eq_of_key hold hsaved.mem hsame
      have hother : operation.workspaceId = workspaceId := hsaved.workspaceId.symm.trans hworkspace
      have hfound := hsaved.found
      rw [hother] at hfound
      exact (h.placed row old hfound hold hid hworkspace).evolves hagrees hlocated hevolves
        (hsaved.shrinkWrites (hother ▸ hfind))
  · rw [hsaved.shrinks_eq] at hstored
    rcases Database.mem_writeShrink hstored with ⟨hstored, hne⟩ | ⟨old, hold, hsame, rfl⟩
    · exact h.spent stored hstored hworkspace hactive hid
    · obtain rfl := db.shrinks.eq_of_key hold hsaved.mem hsame
      have hspent := h.spent old hold hworkspace hsaved.active hid
      exact (hevolves.of_switched hagrees hspent).2

/-- One transition of the database in a run. -/
theorem VolumesTracked.move (h : VolumesTracked S workspaceId operationId before db)
    (hinvariant : ShrinkInvariant db)
    (hfacts : ∀ row ∈ db.shrinks.rows, SwitchAgrees row.operation ∧ row.operation.Located)
    (hothers : ∀ db call, S.others db call → call.Replaces workspaceId → ¬ db.Idle workspaceId)
    (hmove : ShrinkMoves S db db') : VolumesTracked S workspaceId operationId before db' := by
  have hagrees : ∀ row ∈ db.shrinks.rows, SwitchAgrees row.operation :=
    fun row hrow => (hfacts row hrow).1
  cases hmove with
  | @other call db' hforeign hallowed hwrites =>
    by_cases hcall : call.Replaces workspaceId
    · rw [hwrites.eq_of_replaces hinvariant hcall (hothers db call hallowed hcall)]
      exact h
    · exact h.foreign hinvariant hagrees hwrites hforeign hcall
  | @attends call db' hcall hwrites =>
    refine h.foreign hinvariant hagrees hwrites hcall.foreign ?_
    cases call with
    | saveShrinkCleanup | job => exact id
    | _ => exact hcall.elim
  | @observes id generation observation now _ _ _ _ _ hwrites =>
    have hforeign : (StoreCall.observe id generation observation now).Foreign := trivial
    exact h.foreign hinvariant hagrees hwrites hforeign fun hreplaces => hreplaces
  | saves hsaved hevolves => exact h.saved hfacts hsaved hevolves

/-- **The operation is followed along every run.** -/
theorem VolumesTracked.moves (h : VolumesTracked S workspaceId operationId before db)
    (hinvariant : ShrinkInvariant db)
    (hfacts : ∀ row ∈ db.shrinks.rows, SwitchAgrees row.operation ∧ row.operation.Located)
    (hothers : ∀ db call, S.others db call → call.Replaces workspaceId → ¬ db.Idle workspaceId)
    (hmoves : Relation.ReflTransGen (ShrinkMoves S) db db') :
    VolumesTracked S workspaceId operationId before db' := by
  suffices hall : VolumesTracked S workspaceId operationId before db' ∧ ShrinkInvariant db' ∧
      ∀ row ∈ db'.shrinks.rows, SwitchAgrees row.operation ∧ row.operation.Located from hall.1
  induction hmoves with
  | refl => exact ⟨h, hinvariant, hfacts⟩
  | tail _ hmove ih =>
    obtain ⟨htracked, hinvariant', hfacts'⟩ := ih
    exact ⟨htracked.move hinvariant' hfacts' hothers hmove, hmove.invariant hinvariant',
      (discovered_invariant S).move hmove hinvariant' hfacts'⟩

theorem facts_of_started {jobId actorUserId : Uuid} {request : StorageShrinkRequest} {now : ℤ}
    {db₀ : Database} (hstart : db₀.shrinks.rows = [])
    (hbefore : Relation.ReflTransGen (ShrinkStep .any) db₀ db)
    (h : Started db operationId jobId workspaceId request actorUserId now row document workspace
      db') : ShrinkInvariant db' ∧
      ∀ row ∈ db'.shrinks.rows, SwitchAgrees row.operation ∧ row.operation.Located := by
  obtain ⟨hmoves, hinvariant⟩ := moves_of_steps hbefore (.of_no_shrinks hstart)
  have hfacts := (discovered_invariant .any).moves hmoves (.of_no_shrinks hstart) (by
    intro row hrow
    rw [hstart] at hrow
    cases hrow)
  have hforeign : (StoreCall.enqueueShrink operationId jobId workspaceId request actorUserId
    now).Foreign := trivial
  have hmove : ShrinkMoves .any db db' := .other hforeign trivial (.started h)
  exact ⟨hmove.invariant hinvariant, (discovered_invariant .any).move hmove hinvariant hfacts⟩

/-- **An operation is marked as switched when its workspace is bound to the destinations.**  In
every run in which a failed save of a switch is the end of its run, and in which nobody else
replaces the volumes of the workspace once the operation has ended: while the operation is marked as
switched each volume with a target is bound to its destination and has that size, and otherwise
each volume is bound as it was when the operation was requested, or to its source. -/
theorem bindings_follow_switch (S : Surroundings)
    (hcritical : ∀ lost : StorageShrinkOperation, S.critical lost .switch = true)
    {db₀ db db₁ db₂ : Database} (hstart : db₀.shrinks.rows = [])
    (hbefore : Relation.ReflTransGen (ShrinkStep .any) db₀ db)
    {operationId jobId workspaceId actorUserId : Uuid} {request : StorageShrinkRequest} {now : ℤ}
    {row : WorkspaceRow} {document : WorkspaceTemplateDocument} {workspace : Workspace}
    (hstarted : Started db operationId jobId workspaceId request actorUserId now row document
      workspace db₁)
    (hothers : ∀ db call, S.others db call → call.Replaces workspaceId → ¬ db.Idle workspaceId)
    (hafter : Relation.ReflTransGen (ShrinkStep S) db₁ db₂)
    {found : WorkspaceRow} (hfound : db₂.workspaces.find workspaceId = some found)
    {stored : ShrinkRow} (hstored : stored ∈ db₂.shrinks.rows) (hid : stored.id = operationId)
    (hworkspace : stored.workspaceId = workspaceId) :
    (stored.operation.switched = true → ∀ role target,
      (stored.operation.volume role).targetGib = some target →
      ∃ destination, (stored.operation.volume role).destination = some destination ∧
        found.Binds (some destination) role ∧ found.sizeGib role = target) ∧
    (stored.operation.switched = false → ∀ role, found.Binds (workspace.binding role) role ∨
      found.Binds (stored.operation.volume role).source role) := by
  obtain ⟨hinvariant, hfacts⟩ := facts_of_started hstart hbefore hstarted
  obtain ⟨hmoves, -⟩ := moves_of_steps hafter hinvariant
  have htracked : VolumesTracked S workspaceId operationId workspace.binding db₂ :=
    (VolumesTracked.started hstarted).moves hinvariant hfacts hothers hmoves
  have hplaced := htracked.placed found stored hfound hstored hid hworkspace
  refine ⟨fun hswitched role target htarget => ?_, fun hunswitched => ?_⟩
  · rcases hplaced.place with ⟨-, hlost⟩ | ⟨-, hplace⟩
    · obtain ⟨lost, hlost⟩ := hlost hswitched
      cases hlost.symm.trans (hcritical lost)
    · obtain ⟨hverified, hbinds, hsized⟩ := hplace role target htarget
      obtain ⟨_, destination, -, hdestination, -⟩ := claims_of_verifiedDestination hverified
      exact ⟨destination, hdestination, hdestination ▸ hbinds, hsized.column⟩
  · rcases hplaced.place with ⟨hplace, -⟩ | ⟨hswitched, -⟩
    · exact hplace
    · cases hunswitched.symm.trans hswitched

theorem sampleDatabase_find :
    (sampleDatabase .stopped).workspaces.find sampleWorkspaceId = some (sampleRow .stopped) := by
  decide +kernel

/-- A failed switch is critical, and nobody else is at work. -/
abbrev switchCritical : Surroundings := (Surroundings.failing fun _ update => update = .switch).alone

def sampleSwitched : Database := sampleRuns switchCritical (fun _ _ => false) 6 (sampleStart false)

/-- The home volume is marked as switched, and bound to neither the source nor what was there. -/
theorem sampleSwitched_status :
    sampleSwitched.shrinks.rows.any (fun row =>
      row.id = sampleOperationId && row.workspaceId = sampleWorkspaceId &&
        row.operation.switched && row.operation.home.targetGib = some 5 &&
        (sampleSwitched.workspaces.find sampleWorkspaceId).any fun found =>
          found.home ≠ HomeColumns.of (fun n => n) none &&
            found.home ≠ HomeColumns.of (fun n => n) row.operation.home.source) = true := by
  decide +kernel

theorem exists_sampleSwitched : ∃ found stored,
    sampleSwitched.workspaces.find sampleWorkspaceId = some found ∧
      stored ∈ sampleSwitched.shrinks.rows ∧ stored.id = sampleOperationId ∧
      stored.workspaceId = sampleWorkspaceId ∧ stored.operation.switched = true ∧
      (stored.operation.volume .home).targetGib = some 5 ∧ ¬ found.Binds none .home ∧
      ¬ found.Binds (stored.operation.volume .home).source .home := by
  obtain ⟨stored, hstored, hmarked⟩ := List.any_eq_true.1 sampleSwitched_status
  simp only [Bool.and_eq_true, decide_eq_true_eq, Option.any_eq_true] at hmarked
  obtain ⟨⟨⟨⟨hid, hworkspace⟩, hswitched⟩, htarget⟩, found, hfound, hnone, hsource⟩ := hmarked
  exact ⟨found, stored, hfound, hstored, hid, hworkspace, hswitched, htarget, hnone, hsource⟩

theorem steps_sampleSwitched :
    Relation.ReflTransGen (ShrinkStep switchCritical) (sampleStart false) sampleSwitched :=
  steps_sampleRuns (fun _ _ _ => trivial) (fun _ => trivial) 6 _

/-- The sample run switches the home volume. -/
theorem bindings_follow_switch_sample :
    ∃ found, sampleSwitched.workspaces.find sampleWorkspaceId = some found ∧
      ∃ destination, found.Binds (some destination) .home ∧ found.sizeGib .home = 5 := by
  obtain ⟨found, stored, hfound, hstored, hid, hworkspace, hswitched, htarget, -⟩ :=
    exists_sampleSwitched
  obtain ⟨row, document, workspace, hstarted⟩ := exists_started_sample
  obtain ⟨destination, -, hbinds, hsize⟩ := (bindings_follow_switch switchCritical
    (fun _ => rfl) rfl .refl hstarted (fun _ _ h => h.elim) steps_sampleSwitched hfound hstored hid
    hworkspace).1 hswitched .home 5 htarget
  exact ⟨found, hfound, destination, hbinds, hsize⟩

def sampleLostSwitch : Database :=
  sampleRuns .any (fun _ update => update = .switch) 7 (sampleStart false)

theorem sampleRuns_lost_switch :
    sampleLostSwitch.shrinks.rows.any (fun row =>
      row.id = sampleOperationId && row.operation.phase = .failed && row.operation.switched &&
        row.operation.home.targetGib.isSome &&
        (sampleLostSwitch.workspaces.find sampleWorkspaceId).any fun found =>
          found.home ≠ HomeColumns.of (fun n => n) row.operation.home.destination) = true := by
  decide +kernel

/-- **An operation is marked as switched although its workspace is not** when the save of the switch
fails: the error path saves the mark that is in memory by then. -/
theorem lost_switch_marks_operation :
    Relation.ReflTransGen (ShrinkStep .any) (sampleDatabase .stopped) sampleLostSwitch ∧
      ∃ row ∈ sampleLostSwitch.shrinks.rows, row.id = sampleOperationId ∧
        row.operation.phase = .failed ∧ row.operation.switched = true ∧
        row.operation.home.targetGib.isSome = true ∧
        ∃ found, sampleLostSwitch.workspaces.find sampleWorkspaceId = some found ∧
          ¬ found.Binds row.operation.home.destination .home := by
  obtain ⟨row, hrow, hmarked⟩ := List.any_eq_true.1 sampleRuns_lost_switch
  simp only [Bool.and_eq_true, decide_eq_true_eq, Option.any_eq_true] at hmarked
  obtain ⟨⟨⟨⟨hid, hphase⟩, hswitched⟩, htarget⟩, found, hfound, hbinds⟩ := hmarked
  exact ⟨steps_sampleStart (fun _ _ _ => trivial) (fun _ => trivial) trivial 7, row, hrow, hid,
    hphase, hswitched, htarget, found, hfound, hbinds⟩

/-! ### The evidence of a switch -/

/-- **What is known of a volume that was switched**: a helper Pod of the operation has measured the
source, another one has verified the destination and found the same usage, which is below the
target; source and destination are different claims and volumes, of the right sizes. -/
structure SwitchEvidence (S : Surroundings) (operationId : Uuid) (role : ShrinkRole)
    (volume : StorageShrinkVolume) (target : ℕ) : Prop where
  usage : ∃ usage measured checked, S.Reports operationId role .measure measured usage ∧
    S.Reports operationId role .verify checked usage ∧
    checked.destination = volume.destination ∧ volume.HasUsage usage ∧
    usage.usedBytes < target * 2 ^ 30 ∧ target * 2 ^ 30 < 2 ^ 64
  claims : ∃ source destination, volume.source = some source ∧
    volume.destination = some destination ∧ target < source.capacityGib ∧
    destination.capacityGib = target ∧ source.claimUid ≠ destination.claimUid
  volumes : ∃ source destination, volume.sourceVolume = some source ∧
    volume.destinationVolume = some destination ∧ source.pvUid ≠ destination.pvUid ∧
    source.csiVolumeHandle ≠ destination.csiVolumeHandle

/-- A verified destination of an operation that has recorded what was reported. -/
theorem VolumeEvidence.switch {volume : StorageShrinkVolume}
    (h : VolumeEvidence S operationId role volume)
    (hverified : volume.verifiedDestination target = true) :
    SwitchEvidence S operationId role volume target := by
  simp only [StorageShrinkVolume.verifiedDestination, StorageVolumeIdentity.separate,
    Bool.and_eq_true, Option.any_eq_true, decide_eq_true_eq] at hverified
  obtain ⟨⟨⟨⟨⟨hmarked, source, hsource, -, hlarger⟩, destination, hdestination, ⟨-, hsize⟩, source',
    hsource', hclaims⟩, bytes, hbytes, used, hused, hbelow⟩, -⟩, dv, hdv, sv, hsv,
    ⟨⟨hpv, -⟩, -⟩, hhandle⟩ := hverified
  obtain rfl := Option.some_inj.1 (hsource.symm.trans hsource')
  obtain ⟨checked, usage, hchecked, husage, hsame, -⟩ := h.verified hmarked
  obtain ⟨measured, usage', hmeasured, husage'⟩ := h.measured (by rw [hused]; rfl)
  -- both reports agree with what is recorded, and so with each other
  obtain rfl : usage' = usage := by
    obtain ⟨_, _⟩ := usage
    obtain ⟨_, _⟩ := usage'
    obtain rfl := Option.some_inj.1 (husage'.1.symm.trans husage.1)
    obtain rfl := Option.some_inj.1 (husage'.2.symm.trans husage.2)
    rfl
  obtain rfl := Option.some_inj.1 (hused.symm.trans husage.1)
  obtain ⟨rfl, hrange⟩ := U64.checkedMul_eq_some.1 hbytes
  exact ⟨⟨_, measured, checked, hmeasured, hchecked, hsame, husage, hbelow, hrange⟩,
    ⟨source, destination, hsource, hdestination, hlarger, hsize, hclaims⟩,
    ⟨sv, dv, hsv, hdv, hpv, hhandle⟩⟩

/-- **A workspace leaves its sources for verified destinations only.**  In every run, whatever the
cluster answers and whichever saves fail, as long as nobody else replaces the volumes of the
workspace once the operation has ended: each volume of the workspace is bound as it was when the
operation was requested or to its source, and always so while the operation is not marked as
switched; or else each volume with a target is bound to its destination, and there is the evidence
for its switch. -/
theorem switch_needs_evidence (S : Surroundings) {db₀ db db₁ db₂ : Database}
    (hstart : db₀.shrinks.rows = [])
    (hbefore : Relation.ReflTransGen (ShrinkStep .any) db₀ db)
    {operationId jobId workspaceId actorUserId : Uuid} {request : StorageShrinkRequest} {now : ℤ}
    {row : WorkspaceRow} {document : WorkspaceTemplateDocument} {workspace : Workspace}
    (hstarted : Started db operationId jobId workspaceId request actorUserId now row document
      workspace db₁)
    (hothers : ∀ db call, S.others db call → call.Replaces workspaceId → ¬ db.Idle workspaceId)
    (hafter : Relation.ReflTransGen (ShrinkStep S) db₁ db₂)
    {found : WorkspaceRow} (hfound : db₂.workspaces.find workspaceId = some found)
    {stored : ShrinkRow} (hstored : stored ∈ db₂.shrinks.rows) (hid : stored.id = operationId)
    (hworkspace : stored.workspaceId = workspaceId) :
    (OnSources workspace.binding stored.operation found ∨
      ∀ role target, (stored.operation.volume role).targetGib = some target →
        SwitchEvidence S operationId role (stored.operation.volume role) target ∧
          found.Binds (stored.operation.volume role).destination role) ∧
    (stored.operation.switched = false → OnSources workspace.binding stored.operation found) := by
  obtain ⟨hinvariant, hfacts⟩ := facts_of_started hstart hbefore hstarted
  obtain ⟨hmoves, hinvariant₂⟩ := moves_of_steps hafter hinvariant
  have htracked : VolumesTracked S workspaceId operationId workspace.binding db₂ :=
    (VolumesTracked.started hstarted).moves hinvariant hfacts hothers hmoves
  have hplaced := htracked.placed found stored hfound hstored hid hworkspace
  have hevidence : ∀ role, VolumeEvidence S operationId role (stored.operation.volume role) := by
    refine (evidence_invariant S operationId).moves hmoves hinvariant ?_ stored hstored
      ((hinvariant₂.agrees stored hstored).id.trans hid)
    -- when the request is accepted nothing is recorded yet
    intro row hrow hrowId
    rw [hstarted.mem_rows] at hrow
    rcases hrow with hrow | rfl
    · refine absurd ?_ (hstarted.new row hrow)
      exact (hinvariant.agrees row (hstarted.mem_rows.2 (.inl hrow))).id.symm.trans hrowId
    · rintro (_ | _) <;> exact ⟨fun h => (nomatch h), fun h => (nomatch h)⟩
  refine ⟨?_, fun hunswitched => ?_⟩
  · refine hplaced.place.imp And.left fun hplace role target htarget => ?_
    obtain ⟨hverified, hbinds, -⟩ := hplace.2 role target htarget
    exact ⟨(hevidence role).switch hverified, hbinds⟩
  · rcases hplaced.place with ⟨hplace, -⟩ | ⟨hswitched, -⟩
    · exact hplace
    · cases hunswitched.symm.trans hswitched

/-- The sample run has the evidence for its switch. -/
theorem switch_needs_evidence_sample :
    ∃ stored ∈ sampleSwitched.shrinks.rows, SwitchEvidence switchCritical sampleOperationId .home
      (stored.operation.volume .home) 5 := by
  obtain ⟨found, stored, hfound, hstored, hid, hworkspace, -, htarget, hnone, hsource⟩ :=
    exists_sampleSwitched
  obtain ⟨row, document, workspace, hstarted⟩ := exists_started_sample
  have hbinding : workspace.binding .home = none := by
    obtain rfl := Option.some_inj.1 (hstarted.found.symm.trans sampleDatabase_find)
    have hbinds : (sampleRow .stopped).Binds none .home := rfl
    exact hstarted.decodes.binds_iff.1 hbinds
  refine ⟨stored, hstored, ?_⟩
  rcases (switch_needs_evidence switchCritical rfl .refl hstarted (fun _ _ h => h.elim)
    steps_sampleSwitched hfound hstored hid hworkspace).1 with hplace | hevidence
  · rcases hplace .home with hbinds | hbinds
    · rw [hbinding] at hbinds
      exact absurd hbinds hnone
    · exact absurd hbinds hsource
  · exact (hevidence .home 5 htarget).1

end Tracked

end WorkspaceControl
