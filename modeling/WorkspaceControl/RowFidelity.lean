/-
**Rows that say the same thing twice.**

The row of a workspace holds its snapshot and columns that mirror it, and a row in which the two
disagree, or whose snapshot is not valid, cannot be read any more.  This module follows the rows
from the creation of their workspaces through every transaction and every storage operation.

A storage operation writes sizes that it has found in the cluster.  A scratch claim may be larger
than a snapshot allows, so what the cluster reports is an assumption of the main theorem; the last
theorem is a run without it.

Main definitions:

* `Faithful`, `RowFaithful` — a row that decodes and agrees with its snapshot;
* `StorageShrinkOperation.Fits` — the sizes that an operation has recorded fit a snapshot;
* `RowsFaithful` — the invariant of the database.

Main results:

* `Faithful.transition`, `Faithful.edited`, `Faithful.shrunk` — what the writers of a row keep;
* `RowsFaithful.move` — one transition of the database keeps the invariant;
* `rows_stay_faithful` — **every row that is reached can be read**, and mirrors its snapshot;
* `wide_scratch_bricks_row` — a scratch claim that is larger than a snapshot allows.
-/

import WorkspaceControl.ShrinkBindings
import WorkspaceControl.WorkerRuns

set_option autoImplicit false

namespace WorkspaceControl

open Fallible MachineInt Relational Interaction

/-! ### Faithful rows -/

/-- The largest scratch volume that a snapshot may ask for. -/
def maxTemporaryStorageGib : ℕ := 2048

/-- A row, with its snapshot and the workspace it is decoded to; a scratch volume that is bound is
not larger than a snapshot allows. -/
structure Faithful (row : WorkspaceRow) (document : WorkspaceTemplateDocument)
    (workspace : Workspace) : Prop where
  decodes : Decodes row document workspace
  mirrors : MirrorsSnapshot row document
  scratch : ∀ binding ∈ workspace.scratchVolumeBinding,
    binding.capacityGib ≤ maxTemporaryStorageGib

def RowFaithful (row : WorkspaceRow) : Prop :=
  ∃ document workspace, Faithful row document workspace

variable {row : WorkspaceRow} {document document' : WorkspaceTemplateDocument}
  {workspace workspace' : Workspace} {home scratch : Option WorkspaceHomeVolumeBinding}
  {S : Surroundings}

theorem Decodes.unique (h : Decodes row document workspace)
    (h' : Decodes row document' workspace') : document = document' ∧ workspace = workspace' := by
  refine ⟨YamlText.document.inj (h.yaml.symm.trans h'.yaml), ?_⟩
  have hdecode := decodeWorkspace_eq_ok.2 ⟨document, h⟩
  rw [decodeWorkspace_eq_ok.2 ⟨document', h'⟩] at hdecode
  exact (Except.ok.inj hdecode).symm

/-- What a transaction decodes is what the row is faithful to. -/
theorem RowFaithful.of_decodes (h : RowFaithful row) (hdecodes : Decodes row document workspace) :
    Faithful row document workspace := by
  obtain ⟨document', workspace', hfaithful⟩ := h
  obtain ⟨rfl, rfl⟩ := hfaithful.decodes.unique hdecodes
  exact hfaithful

section Writers

theorem Faithful.sizes (h : Faithful row document workspace) :
    0 < document.spec.resources.diskGib ∧
      1 ≤ document.spec.storagePolicy.temporaryStorageGib ∧
      document.spec.storagePolicy.temporaryStorageGib ≤ maxTemporaryStorageGib := by
  obtain ⟨-, -, hspec⟩ := WorkspaceTemplateDocument.validate_eq_ok.1 h.decodes.valid
  exact WorkspaceTemplateSpec.sizes_of_validate hspec

theorem Faithful.transition (h : Faithful row document workspace) (state : WorkspaceState)
    (generation : ℕ) (now : ℤ) : RowFaithful (row.transition state generation now) := by
  refine ⟨document, { workspace with state, generation, updatedAt := now }, ?_, ?_, h.scratch⟩
  · exact { h.decodes with state := rfl, generation := rfl, updatedAt := rfl }
  · exact { h.mirrors with }

theorem Faithful.bumpGeneration (h : Faithful row document workspace) (now : ℤ) :
    RowFaithful (row.bumpGeneration now) := by
  refine ⟨document, { workspace with generation := workspace.generation + 1, updatedAt := now },
    ?_, ?_, h.scratch⟩
  · have hgeneration : row.generation + 1 = ((workspace.generation + 1 : ℕ) : ℤ) := by
      rw [h.decodes.generation, Nat.cast_add, Nat.cast_one]
    exact { h.decodes with generation := hgeneration, updatedAt := rfl }
  · exact { h.mirrors with }

/-- A row with another home volume, under a new snapshot and a new generation. -/
theorem Decodes.rewritten (h : Decodes row document workspace) (state : WorkspaceState)
    (hvalid : document'.validate = .ok ()) (hhome : ∀ binding ∈ home, binding.isValid = true ∧
      binding.capacityGib = document'.spec.resources.diskGib) (now : ℤ) :
    Decodes { row.withHome (HomeColumns.of (fun n => n) home) with
        state := state.asStr
        templateSnapshotYaml := .document document'
        generation := workspace.generation + 1
        updatedAt := now } document' { workspace with
        homeVolumeBinding := home
        state
        template := document'.spec
        generation := workspace.generation + 1
        updatedAt := now } :=
  { h with
    yaml := rfl
    valid := hvalid
    template := rfl
    home := rfl
    homeValid := hhome
    state := rfl
    generation := by rw [Nat.cast_add, Nat.cast_one]
    updatedAt := rfl }

/-- The updates of a setting write a column together with its place in the snapshot. -/
theorem Faithful.edited (h : Faithful row document workspace) {setting : SettingUpdate}
    {edit : WorkspaceEdit} (hprepares : setting.Prepares workspace edit)
    (hvalid : (edit.document document).validate = .ok ())
    (hsize : ∀ size ∈ edit.size, (size : ℤ) ≤ I64.max) (now : ℤ) :
    RowFaithful (edit.row (.document (edit.document document)) (workspace.generation + 1) now
      row) := by
  refine ⟨edit.document document, { edit.workspace workspace with
    template := (edit.document document).spec
    generation := workspace.generation + 1
    updatedAt := now }, ?_⟩
  -- all but a bind leave the home volume and the state alone
  have hkept : ∀ {document' : WorkspaceTemplateDocument}, document'.validate = .ok () →
      (∀ binding ∈ workspace.homeVolumeBinding, binding.isValid = true ∧
        binding.capacityGib = document'.spec.resources.diskGib) →
      Decodes { row with
        templateSnapshotYaml := .document document'
        generation := workspace.generation + 1
        updatedAt := now } document' { workspace with
        template := document'.spec
        generation := workspace.generation + 1
        updatedAt := now } := fun hvalid hhome =>
    { h.decodes.rewritten workspace.state hvalid hhome now with
      home := h.decodes.home
      state := h.decodes.state }
  cases setting with
  | image reference =>
    obtain rfl := hprepares.1
    have hdecodes := hkept hvalid h.decodes.homeValid
    exact ⟨{ hdecodes with }, { h.mirrors with image := rfl }, h.scratch⟩
  | cpuOvercommit ratio =>
    obtain rfl := hprepares.1
    have hdecodes := hkept hvalid h.decodes.homeValid
    exact ⟨{ hdecodes with }, { h.mirrors with }, h.scratch⟩
  | temporaryStorage gib =>
    obtain rfl := hprepares.1
    have hdecodes := hkept hvalid h.decodes.homeValid
    exact ⟨{ hdecodes with }, { h.mirrors with temporaryStorageGib := rfl }, h.scratch⟩
  | placement pool =>
    obtain ⟨placement, selected, rfl, hselected, -⟩ := hprepares
    have hdecodes := hkept hvalid h.decodes.homeValid
    exact ⟨{ hdecodes with nodePool := rfl }, { h.mirrors with nodePool := hselected }, h.scratch⟩
  | homeCapacity gib =>
    obtain ⟨rfl, hunbound, -⟩ := hprepares
    have hnone : ∀ binding ∈ workspace.homeVolumeBinding,
        binding.isValid = true ∧ binding.capacityGib = gib := by
      rw [hunbound]
      exact fun _ hbinding => nomatch hbinding
    have hdecodes := hkept hvalid hnone
    exact ⟨{ hdecodes with }, { h.mirrors with diskGib := rfl, range := hsize gib rfl }, h.scratch⟩
  | homeVolume binding adoptReady =>
    obtain ⟨rfl, hbinding, -⟩ := hprepares
    have hsome : ∀ b ∈ some binding,
        b.isValid = true ∧ b.capacityGib = binding.capacityGib := by
      intro b hb
      obtain rfl := Option.some_inj.1 hb
      exact ⟨hbinding, rfl⟩
    have hdecodes := h.decodes.rewritten (if adoptReady then .ready else workspace.state) hvalid
      hsome now
    refine ⟨{ hdecodes with state := ?_ },
      { h.mirrors with diskGib := rfl, range := hsize binding.capacityGib rfl }, h.scratch⟩
    cases adoptReady with
    | true => rfl
    | false => exact h.decodes.state

/-- The columns that a storage operation writes, when the casts to signed columns are harmless. -/
theorem WorkspaceRow.shrunk_eq {updatedAt : ℤ}
    (hhome : ∀ binding ∈ workspace.homeVolumeBinding, binding.isValid = true)
    (hdisk : (document.spec.resources.diskGib : ℤ) ≤ I64.max)
    (htemporary : (document.spec.storagePolicy.temporaryStorageGib : ℤ) ≤ I64.max) :
    row.shrunk workspace document updatedAt =
      { row.withHome (HomeColumns.of (fun n => n) workspace.homeVolumeBinding) with
        state := workspace.state.asStr
        scratchVolumeBindingJson := workspace.scratchVolumeBinding.map .binding
        diskGib := document.spec.resources.diskGib
        temporaryStorageGib := document.spec.storagePolicy.temporaryStorageGib
        templateSnapshotYaml := .document document
        generation := row.generation + 1
        updatedAt } := by
  rw [WorkspaceRow.shrunk, HomeColumns.of_castI64 hhome, U64.castI64_of_le hdisk,
    U64.castI64_of_le htemporary]

/-- The columns and the snapshot that a storage operation leaves, with sizes in range. -/
theorem Faithful.shrunk (h : Faithful row document workspace) (updatedAt : ℤ)
    (state : WorkspaceState) {diskGib temporaryStorageGib : ℕ} (hdisk : 0 < diskGib)
    (hrange : (diskGib : ℤ) ≤ I64.max) (hlow : 1 ≤ temporaryStorageGib)
    (hhigh : temporaryStorageGib ≤ maxTemporaryStorageGib)
    (hhome : ∀ binding ∈ home, binding.isValid = true ∧ binding.capacityGib = diskGib)
    (hscratch : ∀ binding ∈ scratch, binding.capacityGib ≤ maxTemporaryStorageGib) :
    RowFaithful (row.shrunk { workspace with
        homeVolumeBinding := home
        scratchVolumeBinding := scratch
        state } (document.withSizes diskGib temporaryStorageGib) updatedAt) := by
  have hvalid := WorkspaceTemplateDocument.validate_withSizes h.decodes.valid hdisk hlow hhigh
  have hdecodes := h.decodes.rewritten state hvalid hhome updatedAt
  have htemporary : (temporaryStorageGib : ℤ) ≤ I64.max := by
    unfold maxTemporaryStorageGib at hhigh
    unfold I64.max
    omega
  rw [WorkspaceRow.shrunk_eq (fun binding hbinding => (hhome binding hbinding).1) hrange htemporary]
  refine ⟨document.withSizes diskGib temporaryStorageGib, { workspace with
    homeVolumeBinding := home
    scratchVolumeBinding := scratch
    state
    template := (document.withSizes diskGib temporaryStorageGib).spec
    generation := workspace.generation + 1
    updatedAt }, ?_, ?_, hscratch⟩
  · exact
      { hdecodes with
        scratch := rfl
        generation := by rw [h.decodes.generation, Nat.cast_add, Nat.cast_one] }
  · exact
      { h.mirrors with
        diskGib := rfl
        temporaryStorageGib := rfl
        range := hrange }

end Writers

/-! ### The sizes that an operation has recorded -/

/-- A snapshot may ask for the scratch volume that was found, or for the one the workspace had
when there is none; and only a volume with a target has a destination. -/
structure StorageShrinkOperation.Fits (o : StorageShrinkOperation) : Prop where
  absent : o.temporary.source = none → 1 ≤ o.originalTemporaryStorageGib ∧
    o.originalTemporaryStorageGib ≤ maxTemporaryStorageGib
  present : ∀ binding, o.temporary.source = some binding →
    binding.capacityGib ≤ maxTemporaryStorageGib
  untargeted : ∀ role, (o.volume role).targetGib = none → (o.volume role).destination = none

/-- The scratch claims that the cluster reports are not larger than a snapshot allows. -/
def Surroundings.ScratchFits (S : Surroundings) : Prop :=
  ∀ binding, S.Finds binding .temporary → binding.capacityGib ≤ maxTemporaryStorageGib

section Operations

variable {o w : StorageShrinkOperation}

theorem StorageShrinkOperation.Fits.drifts (h : o.Fits) (hd : Drifts S o w)
    (hscratch : S.ScratchFits) : w.Fits := by
  have htemporary := hd.volume .temporary
  refine ⟨fun hnone => ?_, fun binding hsome => ?_, fun role hnone => ?_⟩
  · -- a source that is known is never forgotten
    have hbefore : o.temporary.source = none := by
      rcases htemporary.source with hsame | ⟨-, hnone', -⟩
      · exact hsame.symm.trans hnone
      · exact hnone'
    rcases hd.original .temporary with hsame | ⟨-, source, hsome, -⟩
    · have hsize : w.originalTemporaryStorageGib = o.originalTemporaryStorageGib := hsame
      rw [hsize]
      exact h.absent hbefore
    · cases hnone.symm.trans hsome
  · rcases htemporary.source with hsame | ⟨-, -, hfinds⟩
    · exact h.present binding (hsame.symm.trans hsome)
    · exact hscratch binding (hfinds binding hsome)
  · have htarget := (hd.volume role).target.symm.trans hnone
    rcases (hd.volume role).destination with hsame | ⟨-, hsome, -⟩
    · exact hsame.trans (h.untargeted role htarget)
    · rw [htarget] at hsome
      cases hsome

theorem StorageShrinkOperation.Fits.cleaned (h : o.Fits) {home temporary : StorageShrinkVolume}
    (hhome : VolumeCleaned o.home home) (htemporary : VolumeCleaned o.temporary temporary) :
    StorageShrinkOperation.Fits { o with home, temporary } := by
  refine ⟨fun hnone => h.absent (htemporary.source.symm.trans hnone),
    fun binding hsome => h.present binding (htemporary.source.symm.trans hsome), ?_⟩
  rintro (_ | _) hnone
  · have htarget : o.home.targetGib = none := hhome.target.symm.trans hnone
    exact (hhome.untargeted htarget).trans (h.untargeted .home htarget)
  · have htarget : o.temporary.targetGib = none := htemporary.target.symm.trans hnone
    exact (htemporary.untargeted htarget).trans (h.untargeted .temporary htarget)

/-- A change of fields that do not count. -/
theorem StorageShrinkOperation.Fits.of_volumes (h : o.Fits) (hhome : w.home = o.home)
    (htemporary : w.temporary = o.temporary)
    (hsize : w.originalTemporaryStorageGib = o.originalTemporaryStorageGib) : w.Fits := by
  refine ⟨?_, ?_, ?_⟩
  · rw [htemporary, hsize]
    exact h.absent
  · rw [htemporary]
    exact h.present
  · rintro (_ | _)
    · change w.home.targetGib = none → w.home.destination = none
      rw [hhome]
      exact h.untargeted .home
    · change w.temporary.targetGib = none → w.temporary.destination = none
      rw [htemporary]
      exact h.untargeted .temporary

/-- A new operation has recorded what a faithful row says. -/
theorem Faithful.fits (h : Faithful row document workspace) (operationId : Uuid)
    (request : StorageShrinkRequest) (actorUserId : Uuid) (now : ℤ) :
    (startedOperation operationId workspace request actorUserId now).Fits := by
  refine ⟨fun _ => ?_, fun binding hsome => h.scratch binding hsome, ?_⟩
  · change 1 ≤ workspace.template.storagePolicy.temporaryStorageGib ∧
      workspace.template.storagePolicy.temporaryStorageGib ≤ _
    rw [h.decodes.template]
    exact h.sizes.2
  · rintro (_ | _) -
    · rfl
    · rfl

/-- The bindings are replaced only after the sources were found. -/
theorem Evolves.discovered {u : ShrinkWorkspaceUpdate} (h : Evolves S o w u) (hlocated : o.Located)
    (hu : u = .switch ∨ u = .rollback) : Discovered w := by
  have hphase : o.phase = .switching ∨ o.phase = .rollingBack := by
    cases h with
    | switch hd ho => exact .inl ho
    | rolledBack hd hf ho => exact .inr ho
    | forward hd hf hforward =>
      generalize o.phase = before, w.phase = next at hforward
      cases hforward <;> simp at hu
    | _ => simp at hu
  have hqueued : o.phase ≠ .queued := by rcases hphase with h | h <;> rw [h] <;> decide
  have hfailed : o.phase ≠ .failed := by rcases hphase with h | h <;> rw [h] <;> decide
  exact (hlocated.discovered hqueued hfailed).drifts h.drifts hqueued

/-- The size of the scratch volume after the bindings were put back. -/
theorem StorageShrinkOperation.Fits.temporarySize (h : o.Fits) (hfound : Discovered o) :
    1 ≤ o.originalTemporaryStorageGib ∧ o.originalTemporaryStorageGib ≤ maxTemporaryStorageGib := by
  cases hsource : o.temporary.source with
  | none => exact h.absent hsource
  | some source =>
    obtain ⟨hvalid, hsize⟩ := hfound.sources .temporary source hsource
    have horiginal : source.capacityGib = o.originalTemporaryStorageGib := hsize
    rw [← horiginal]
    exact ⟨(WorkspaceHomeVolumeBinding.capacity_of_isValid hvalid).1, h.present source hsource⟩

/-- The home volume after the bindings were put back. -/
theorem Discovered.homeSource (h : Discovered o) :
    ∃ source, o.home.source = some source ∧ source.isValid = true ∧
      source.capacityGib = o.originalHomeGib := by
  obtain ⟨source, hsource⟩ := Option.isSome_iff_exists.1 h.home
  exact ⟨source, hsource, h.sources .home source hsource⟩

end Operations

/-! ### What a save leaves of a row -/

section Saves

variable {operation : StorageShrinkOperation}

theorem Faithful.rolledBack (h : Faithful row document workspace) (hfits : operation.Fits)
    (hfound : Discovered operation) (updatedAt : ℤ)
    (hresult : (workspace', document') = replaceVolumes workspace document operation.home.source
      operation.temporary.source operation.originalHomeGib
      operation.originalTemporaryStorageGib) :
    RowFaithful (row.shrunk workspace' document' updatedAt) := by
  obtain ⟨rfl, rfl⟩ := Prod.mk.inj hresult
  obtain ⟨source, hsource, hvalid, hsize⟩ := hfound.homeSource
  obtain ⟨hpositive, hrange⟩ := WorkspaceHomeVolumeBinding.capacity_of_isValid hvalid
  obtain ⟨hlow, hhigh⟩ := hfits.temporarySize hfound
  rw [hsize] at hpositive hrange
  refine h.shrunk updatedAt .stopped hpositive hrange hlow hhigh ?_ ?_
  · intro binding hbinding
    obtain rfl := Option.some_inj.1 (hsource.symm.trans hbinding)
    exact ⟨hvalid, hsize⟩
  · exact fun binding hbinding => hfits.present binding hbinding

theorem Faithful.switched (h : Faithful row document workspace) (hfits : operation.Fits)
    (hfound : Discovered operation) (updatedAt : ℤ)
    (hhome : ∀ target ∈ operation.home.targetGib, operation.home.verifiedDestination target = true)
    (htemporary : ∀ target ∈ operation.temporary.targetGib,
      operation.temporary.verifiedDestination target = true)
    (hresult : (workspace', document') = replaceVolumes workspace document
      (operation.home.destination.or operation.home.source)
      (operation.temporary.destination.or operation.temporary.source)
      (operation.home.targetGib.getD operation.originalHomeGib)
      (operation.temporary.targetGib.getD operation.originalTemporaryStorageGib)) :
    RowFaithful (row.shrunk workspace' document' updatedAt) := by
  obtain ⟨rfl, rfl⟩ := Prod.mk.inj hresult
  -- the home volume: a verified destination of the target size, or the source
  have hdisk : ∃ binding, operation.home.destination.or operation.home.source = some binding ∧
      binding.isValid = true ∧
      binding.capacityGib = operation.home.targetGib.getD operation.originalHomeGib := by
    cases htarget : operation.home.targetGib with
    | some target =>
      obtain ⟨_, destination, -, hdestination, -, -, hvalid, hsize⟩ :=
        claims_of_verifiedDestination (hhome target htarget)
      exact ⟨destination, by rw [hdestination]; rfl, hvalid, hsize⟩
    | none =>
      have hnone : operation.home.destination = none := hfits.untargeted .home htarget
      obtain ⟨source, hsource, hvalid, hsize⟩ := hfound.homeSource
      exact ⟨source, by rw [hnone, Option.none_or, hsource], hvalid, hsize⟩
  -- the scratch volume: smaller than its source, or the source
  have hscratch : (1 ≤ operation.temporary.targetGib.getD operation.originalTemporaryStorageGib ∧
        operation.temporary.targetGib.getD operation.originalTemporaryStorageGib ≤
          maxTemporaryStorageGib) ∧
      ∀ binding ∈ operation.temporary.destination.or operation.temporary.source,
        binding.capacityGib ≤ maxTemporaryStorageGib := by
    cases htarget : operation.temporary.targetGib with
    | some target =>
      obtain ⟨source, destination, hsource, hdestination, -, hlt, hvalid, hsize⟩ :=
        claims_of_verifiedDestination (htemporary target htarget)
      have hpositive := (WorkspaceHomeVolumeBinding.capacity_of_isValid hvalid).1
      have hle := hfits.present source hsource
      rw [hdestination]
      refine ⟨⟨by rw [Option.getD_some]; omega, by rw [Option.getD_some]; omega⟩, ?_⟩
      intro binding hbinding
      obtain rfl := Option.some_inj.1 hbinding
      omega
    | none =>
      have hnone : operation.temporary.destination = none := hfits.untargeted .temporary htarget
      rw [hnone, Option.none_or]
      exact ⟨hfits.temporarySize hfound, fun binding hbinding => hfits.present binding hbinding⟩
  obtain ⟨home, hhome, hvalid, hsize⟩ := hdisk
  obtain ⟨hpositive, hrange⟩ := WorkspaceHomeVolumeBinding.capacity_of_isValid hvalid
  rw [hsize] at hpositive hrange
  refine h.shrunk updatedAt .stopped hpositive hrange hscratch.1.1 hscratch.1.2 ?_ hscratch.2
  intro binding hbinding
  obtain rfl := Option.some_inj.1 (hhome.symm.trans hbinding)
  exact ⟨hvalid, hsize⟩

/-- A save that leaves the home volume and the sizes alone. -/
theorem Faithful.restated (h : Faithful row document workspace) (updatedAt : ℤ)
    (state : WorkspaceState)
    (hscratch : ∀ binding ∈ scratch, binding.capacityGib ≤ maxTemporaryStorageGib) :
    RowFaithful (row.shrunk { workspace with scratchVolumeBinding := scratch, state } document
      updatedAt) := by
  obtain ⟨hdisk, hlow, hhigh⟩ := h.sizes
  exact h.shrunk updatedAt state hdisk h.mirrors.range hlow hhigh h.decodes.homeValid hscratch

/-- **Every save of an operation leaves a faithful row.** -/
theorem Faithful.saved (h : Faithful row document workspace) {o : StorageShrinkOperation}
    {u : ShrinkWorkspaceUpdate} (hevolves : Evolves S o operation u) (hlocated : o.Located)
    (hfits : operation.Fits) (updatedAt : ℤ)
    (happly : applyShrinkWorkspaceUpdate workspace document operation u =
      .ok (workspace', document')) (hu : u ≠ .none) :
    RowFaithful (row.shrunk workspace' document' updatedAt) := by
  have hresult := applyShrinkWorkspaceUpdate_eq_ok happly
  cases u with
  | none => exact absurd rfl hu
  | stopping =>
    obtain ⟨rfl, rfl⟩ := hresult
    refine h.restated updatedAt .stopping ?_
    split
    · exact h.scratch
    · exact fun binding hbinding => hfits.present binding hbinding
  | stopped =>
    obtain ⟨rfl, rfl⟩ := hresult
    exact h.restated updatedAt .stopped h.scratch
  | resume =>
    obtain ⟨rfl, rfl⟩ := hresult
    exact h.restated updatedAt .starting h.scratch
  | rollback => exact h.rolledBack hfits (hevolves.discovered hlocated (.inr rfl)) updatedAt hresult
  | switch =>
    obtain ⟨hhome, htemporary, hresult⟩ := hresult
    exact h.switched hfits (hevolves.discovered hlocated (.inl rfl)) updatedAt hhome htemporary
      hresult

end Saves

/-! ### The invariant -/

/-- **All rows are faithful**, and all operations fit a snapshot. -/
structure RowsFaithful (db : Database) : Prop where
  rows : ∀ row ∈ db.workspaces.rows, RowFaithful row
  operations : ∀ row ∈ db.shrinks.rows, row.operation.Fits

section Invariant

variable {db db' : Database}

theorem RowsFaithful.foreign (h : RowsFaithful db) (hinvariant : ShrinkInvariant db)
    {call : StoreCall} (hcall : call.Foreign) (hwrites : call.Writes db db') :
    RowsFaithful db' := by
  have hfound : ∀ {id : Uuid} {row : WorkspaceRow}, db.workspaces.find id = some row →
      RowFaithful row := fun hfind => h.rows _ (Table.find_eq_some.1 hfind).1
  refine ⟨fun row hrow => ?_, fun row hrow => ?_⟩
  · have hwritten := hwrites.row row.id
    rw [Table.find_key_of_mem hrow] at hwritten
    generalize hbefore : db.workspaces.find row.id = before at hwritten
    cases hwritten with
    | same => exact hfound hbefore
    | created hdecodes hmirrors hstate hunbound =>
      refine ⟨_, _, hdecodes, hmirrors, ?_⟩
      rw [hunbound]
      exact fun _ hbinding => nomatch hbinding
    | acted hdecodes
    | observed hdecodes => exact ((hfound hbefore).of_decodes hdecodes).transition _ _ _
    | updated hdecodes hprepares hvalid hsize =>
      exact ((hfound hbefore).of_decodes hdecodes).edited hprepares hvalid hsize _
    | dispatched hdecodes => exact ((hfound hbefore).of_decodes hdecodes).bumpGeneration _
    | saved => exact hcall.elim
  · cases hwrites.operation hinvariant hrow with
    | kept hrow => exact h.operations row hrow
    | started hstarted =>
      exact ((hfound hstarted.found).of_decodes hstarted.decodes).fits _ _ _ _
    | confirmed hold | retried hold => exact (h.operations _ hold).of_volumes rfl rfl rfl
    | saved => exact hcall.elim
    | cleaned hcleaned =>
      exact (h.operations _ hcleaned.mem).cleaned (cleanupVolume_eq_ok hcleaned.homeVolume)
        (cleanupVolume_eq_ok hcleaned.temporaryVolume)

/-- **One transition of the database keeps all rows faithful.** -/
theorem RowsFaithful.move (h : RowsFaithful db) (hinvariant : ShrinkInvariant db)
    (hlocated : ∀ row ∈ db.shrinks.rows, SwitchAgrees row.operation ∧ row.operation.Located)
    (hscratch : S.ScratchFits) (hmove : ShrinkMoves S db db') : RowsFaithful db' := by
  cases hmove with
  | other hforeign _ hwrites => exact h.foreign hinvariant hforeign hwrites
  | attends hcall hwrites => exact h.foreign hinvariant hcall.foreign hwrites
  | @observes workspaceId generation observation now _ _ _ _ _ hwrites =>
    have hforeign : (StoreCall.observe workspaceId generation observation now).Foreign := trivial
    exact h.foreign hinvariant hforeign hwrites
  | @saves operation update row document workspace saved _ hsaved hevolves =>
    have hfits := (h.operations saved hsaved.mem).drifts hevolves.drifts hscratch
    have hfaithful := (h.rows row (Table.find_eq_some.1 hsaved.found).1).of_decodes hsaved.decodes
    refine ⟨fun written hwritten => ?_, fun stored hstored => ?_⟩
    · rcases hsaved.find_eq with ⟨-, hsame⟩ | ⟨workspace', document', hchange, happly, hfind⟩
      · have hkept := hsame written.id
        rw [Table.find_key_of_mem hwritten] at hkept
        exact h.rows written (Table.find_eq_some.1 hkept.symm).1
      · have hkept := hfind written.id
        rw [Table.find_key_of_mem hwritten] at hkept
        split at hkept
        · obtain rfl := Option.some_inj.1 hkept
          exact hfaithful.saved hevolves (hlocated saved hsaved.mem).2 hfits _ happly hchange
        · exact h.rows written (Table.find_eq_some.1 hkept.symm).1
    · rw [hsaved.shrinks_eq] at hstored
      rcases Database.mem_writeShrink hstored with ⟨hkept, -⟩ | ⟨old, hold, hid, rfl⟩
      · exact h.operations stored hkept
      · exact hfits

theorem RowsFaithful.moves (h : RowsFaithful db) (hinvariant : ShrinkInvariant db)
    (hlocated : ∀ row ∈ db.shrinks.rows, SwitchAgrees row.operation ∧ row.operation.Located)
    (hscratch : S.ScratchFits) (hmoves : Relation.ReflTransGen (ShrinkMoves S) db db') :
    RowsFaithful db' := by
  suffices hall : RowsFaithful db' ∧ ShrinkInvariant db' ∧
      ∀ row ∈ db'.shrinks.rows, SwitchAgrees row.operation ∧ row.operation.Located from hall.1
  induction hmoves with
  | refl => exact ⟨h, hinvariant, hlocated⟩
  | tail _ hmove ih =>
    obtain ⟨hfaithful, hinvariant', hlocated'⟩ := ih
    exact ⟨hfaithful.move hinvariant' hlocated' hscratch hmove, hmove.invariant hinvariant',
      (discovered_invariant S).move hmove hinvariant' hlocated'⟩

end Invariant

/-- **Every row that is reached can be read.**  From a database without workspaces, by whatever
transactions and runs of storage operations, cut off anywhere and with saves that fail: a row
decodes; its columns say what its snapshot says; its node pool is one that the snapshot allows;
and a home volume that is bound is valid and has the size of the snapshot.  The cluster is assumed
to report no scratch claim that is larger than a snapshot allows. -/
theorem rows_stay_faithful {S : Surroundings} (hscratch : S.ScratchFits) {db db' : Database}
    (hworkspaces : db.workspaces.rows = []) (hshrinks : db.shrinks.rows = [])
    (hsteps : Relation.ReflTransGen (ShrinkStep S) db db') {row : WorkspaceRow}
    (hrow : row ∈ db'.workspaces.rows) :
    ∃ document workspace, decodeWorkspace row = .ok workspace ∧
      row.templateSnapshotYaml = .document document ∧ MirrorsSnapshot row document ∧
      ∀ binding ∈ workspace.homeVolumeBinding, binding.isValid = true ∧
        binding.capacityGib = document.spec.resources.diskGib := by
  have hstart : RowsFaithful db := by
    refine ⟨fun row hrow => ?_, fun row hrow => ?_⟩
    · rw [hworkspaces] at hrow
      cases hrow
    · rw [hshrinks] at hrow
      cases hrow
  have hinvariant := ShrinkInvariant.of_no_shrinks hshrinks
  have hlocated : ∀ row ∈ db.shrinks.rows, SwitchAgrees row.operation ∧ row.operation.Located := by
    intro row hrow
    rw [hshrinks] at hrow
    cases hrow
  have hfaithful := hstart.moves hinvariant hlocated hscratch (moves_of_steps hsteps hinvariant).1
  obtain ⟨document, workspace, hdecodes, hmirrors, -⟩ := hfaithful.rows row hrow
  exact ⟨document, workspace, decodeWorkspace_eq_ok.2 ⟨document, hdecodes⟩, hdecodes.yaml, hmirrors,
    hdecodes.homeValid⟩

/-! ### A scratch volume that no snapshot allows -/

/-- The database after these transactions. -/
def Database.afterAll (db : Database) (calls : List StoreCall) : Database :=
  calls.foldl (fun db call => call.after db) db

theorem steps_afterAll {S : Surroundings} (hothers : ∀ db call, S.others db call)
    {calls : List StoreCall} (hforeign : ∀ call ∈ calls, call.Foreign) (db : Database) :
    Relation.ReflTransGen (ShrinkStep S) db (db.afterAll calls) := by
  induction calls generalizing db with
  | nil => exact .refl
  | cons call calls ih =>
    obtain ⟨hcall, hcalls⟩ := List.forall_mem_cons.1 hforeign
    exact .head (.other ⟨call, _, hcall, hothers _ _, .executed fun _ => false⟩) (ih hcalls _)

def sampleCreated : Database :=
  sampleInstallation.afterAll [sampleCreate, .observe sampleWorkspaceId 1 .ready 5]

/-- The small cluster, whatever the processes do. -/
def Surroundings.small : Surroundings where
  critical _ _ := false
  commits _ _ := True
  answers call response := response = sampleAnswer call
  others _ _ := True

/-- The workspace is stopped, its home capacity is corrected, and the home volume is shrunk. -/
def sampleShrunk : Database :=
  sampleRuns .small (fun _ _ => false) 6 (sampleCreated.afterAll
    [.act sampleWorkspaceId sampleWorkspaceId .stop 6, .observe sampleWorkspaceId 2 .stopped 7,
      .update sampleOperationId sampleWorkspaceId 2 8 (.homeCapacity 12),
      .enqueueShrink sampleOperationId sampleJobId sampleWorkspaceId ⟨some 5, none, 3, false⟩
        sampleUserId 10])

/-- A workspace that was created, updated and shrunk. -/
theorem rows_stay_faithful_sample : ∃ row ∈ sampleShrunk.workspaces.rows, row.diskGib = 5 ∧
    ∃ document workspace, decodeWorkspace row = .ok workspace ∧
      row.templateSnapshotYaml = .document document ∧ MirrorsSnapshot row document ∧
      ∀ binding ∈ workspace.homeVolumeBinding, binding.isValid = true ∧
        binding.capacityGib = document.spec.resources.diskGib := by
  have hscratch : Surroundings.small.ScratchFits := by
    rintro binding ⟨name, claim, hanswer, -⟩
    cases hanswer
  have hsteps : Relation.ReflTransGen (ShrinkStep .small) sampleInstallation sampleShrunk :=
    ((steps_afterAll (fun _ _ => trivial) (by simp [StoreCall.Foreign, sampleCreate]) _).trans
      (steps_afterAll (fun _ _ => trivial) (by simp [StoreCall.Foreign]) _)).trans
      (steps_sampleRuns (fun _ _ _ => trivial) (fun _ => rfl) 6 _)
  have hrow : sampleShrunk.workspaces.rows.any (fun row => row.diskGib = 5) = true := by
    decide +kernel
  obtain ⟨row, hrow, hsize⟩ := List.any_eq_true.1 hrow
  exact ⟨row, hrow, of_decide_eq_true hsize, rows_stay_faithful hscratch rfl rfl hsteps hrow⟩

def sampleWideScratch : PersistentVolumeClaim :=
  sampleClaim (scratchPvc (workspaceShortIdFor sampleWorkspaceId)) "scratch" 3000

/-- The small cluster with that claim, in which volumes cannot be measured. -/
def wideAnswer : (call : ClusterCall) → call.Response
  | .requireClaim name =>
    if sampleWideScratch.metadata.name = some name then .ok sampleWideScratch
    else sampleAnswer (.requireClaim name)
  | .scratchClaim _ => .ok (some sampleWideScratch)
  | .helperPod name volume stage =>
    if stage = .measure then .error "no helper Pod" else sampleAnswer (.helperPod name volume stage)
  | call => sampleAnswer call

/-- One run of the handler over that cluster. -/
def wideRun (db : Database) : Database :=
  ((handleStorageShrink sampleUserId sampleShrinkJob ()).interpret (sampleReply wideAnswer 20) db).2

theorem shrinkRun_wideRun (db : Database) : ShrinkRun .any db (wideRun db) :=
  .of_reaches (Program.reaches_interpret (sampleReply_performs wideAnswer 20) _ db)

/-- A request, and four runs of the handler: the workspace is stopped, its volumes cannot be
measured, and it is put back on its sources. -/
def wideRolledBack : Database :=
  wideRun^[4] ((sampleEnqueue false 10).after sampleCreated)

def Database.sampleSizes (db : Database) : List (String × ℤ × Bool) × Option StorageShrinkPhase :=
  (db.workspaces.rows.map fun row =>
      (row.state, row.temporaryStorageGib, (decodeWorkspace row).isOk),
    (db.latestStorageShrink sampleWorkspaceId).map (·.phase))

/-- **A scratch claim that is larger than a snapshot allows bricks the row**: the workspace was
created and ready, and after a failed attempt to shrink its home volume its row cannot be decoded
any more. -/
theorem wide_scratch_bricks_row :
    Relation.ReflTransGen (ShrinkStep .any) sampleInstallation wideRolledBack ∧
      sampleCreated.sampleSizes = ([(WorkspaceState.ready.asStr, 4, true)], none) ∧
      wideRolledBack.sampleSizes = ([(WorkspaceState.stopped.asStr, 3000, false)], some .failed) := by
  have hrequest : (sampleEnqueue false 10).Foreign := trivial
  refine ⟨?_, by decide +kernel, by decide +kernel⟩
  have hcreated : Relation.ReflTransGen (ShrinkStep .any) sampleInstallation sampleCreated :=
    steps_afterAll (fun _ _ => trivial) (by simp [StoreCall.Foreign, sampleCreate]) _
  refine hcreated.trans ?_
  refine .head (.other ⟨sampleEnqueue false 10, _, hrequest, trivial, .executed fun _ => false⟩) ?_
  exact .head (.run (shrinkRun_wideRun _)) (.head (.run (shrinkRun_wideRun _))
    (.head (.run (shrinkRun_wideRun _)) (.single (.run (shrinkRun_wideRun _)))))

end WorkspaceControl
