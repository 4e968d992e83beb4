/-
**The end of a workspace.**

Main results:

* `removal_needs_deletion` — **a workspace leaves only after a request to delete it and then the
  observation that it is gone**.
-/

import WorkspaceControl.Generations
import WorkspaceControl.ShrinkExclusion

set_option autoImplicit false

namespace WorkspaceControl

variable {call : StoreCall} {db db' : Database} {row row' : WorkspaceRow} {workspaceId : Uuid}
  {steps : List StoreStep}

/-! ### How a row leaves -/

/-- No edit of a setting leaves a workspace being deleted. -/
theorem SettingUpdate.Prepares.state {setting : SettingUpdate} {edit : WorkspaceEdit}
    {workspace : Workspace} (h : setting.Prepares workspace edit) (yaml : YamlText)
    (generation now : ℤ) (row : WorkspaceRow) :
    (edit.row yaml generation now row).state = row.state ∨
      (edit.row yaml generation now row).state = WorkspaceState.ready.asStr := by
  cases setting with
  | placement =>
    obtain ⟨_, _, rfl, -⟩ := h
    exact .inl rfl
  | homeVolume binding adoptReady =>
    obtain ⟨rfl, -⟩ := h
    cases adoptReady with
    | false => exact .inl rfl
    | true => exact .inr rfl
  | image | temporaryStorage | homeCapacity | cpuOvercommit =>
    obtain ⟨rfl, -⟩ := h
    exact .inl rfl

/-- A request to delete the workspace. -/
def StoreStep.Deletes (workspaceId : Uuid) (step : StoreStep) : Prop :=
  ∃ jobId now, step.call = .act jobId workspaceId .delete now

/-- An observation that the workspace is gone. -/
def StoreStep.Confirms (workspaceId : Uuid) (step : StoreStep) : Prop :=
  ∃ generation now, step.call = .observe workspaceId generation .deleted now

/-- A row that is not being deleted stays, and only a request to delete it starts that. -/
theorem RowWrites.deleting {after : Option WorkspaceRow}
    (h : RowWrites workspaceId call (some row) after)
    (hstate : row.state ≠ WorkspaceState.deleting.asStr) :
    ∃ row', after = some row' ∧ (row'.state = WorkspaceState.deleting.asStr →
      ∃ jobId now, call = .act jobId workspaceId .delete now) := by
  cases h with
  | same | dispatched => exact ⟨_, rfl, fun h => absurd h hstate⟩
  | @acted jobId action now _ _ workspace next _ hnext =>
    refine ⟨_, rfl, fun h => ⟨jobId, now, ?_⟩⟩
    obtain rfl : next = .deleting := WorkspaceState.asStr_injective h
    cases hworkspace : workspace.state <;> cases action <;>
      first | rfl | (rw [hworkspace] at hnext; cases hnext)
  | observed _ _ hnext =>
    refine ⟨_, rfl, fun h => ?_⟩
    exact absurd (WorkspaceState.asStr_injective h) (WorkspaceState.observe_ne_deleting hnext)
  | deleted hdecodes hdeleting => exact absurd (by rw [hdecodes.state, hdeleting]) hstate
  | updated _ hprepares =>
    refine ⟨_, rfl, fun h => ?_⟩
    rcases hprepares.state _ _ _ _ with hkept | hready
    · exact absurd (hkept.symm.trans h) hstate
    · cases WorkspaceState.asStr_injective (hready.symm.trans h)
  | saved _ _ hchange happly =>
    refine ⟨_, rfl, fun h => ?_⟩
    have hstate' := WorkspaceState.asStr_injective h
    rcases state_of_applyShrinkWorkspaceUpdate hchange happly with hs | hs | hs <;>
      cases hs.symm.trans hstate'

/-- **A workspace leaves only by the observation that it is gone and, unless it was being deleted
already, after a request to delete it**, whichever processes make the transactions. -/
theorem removal_needs_deletion (hrun : StoreRun db steps db')
    (hfind : db.workspaces.find workspaceId = some row)
    (hgone : db'.workspaces.find workspaceId = none) :
    ∃ observation ∈ steps, observation.Confirms workspaceId ∧
      (row.state ≠ WorkspaceState.deleting.asStr →
        ∃ request, request.Deletes workspaceId ∧ [request, observation].Sublist steps) := by
  induction hrun generalizing row with
  | nil db => cases hfind.symm.trans hgone
  | @cons db db₁ db' _ step hstep hrest ih =>
    have hrow := hstep.writes.row workspaceId
    rw [hfind] at hrow
    cases hfind₁ : db₁.workspaces.find workspaceId with
    | none =>
      rw [hfind₁] at hrow
      refine ⟨step, List.mem_cons_self, ?_, fun hstate => ?_⟩
      · generalize hcall : step.call = call at hrow
        cases hrow with
        | deleted => exact ⟨_, _, hcall⟩
      · obtain ⟨_, hnone, -⟩ := hrow.deleting hstate
        cases hnone
    | some row₁ =>
      obtain ⟨t, ht, hconfirms, hrequest⟩ := ih hfind₁ hgone
      refine ⟨t, List.mem_cons_of_mem _ ht, hconfirms, fun hstate => ?_⟩
      by_cases hdeleting : row₁.state = WorkspaceState.deleting.asStr
      · -- this is the request
        obtain ⟨_, hsome, hdeletes⟩ := hrow.deleting hstate
        obtain rfl := Option.some_inj.1 (hfind₁.symm.trans hsome)
        exact ⟨step, hdeletes hdeleting, (List.singleton_sublist.2 ht).cons_cons step⟩
      · obtain ⟨s, hs, hsub⟩ := hrequest hdeleting
        exact ⟨s, hs, hsub.cons step⟩

theorem removal_needs_deletion_sample : ∃ steps db', StoreRun (sampleDatabase .stopped) steps db' ∧
    db'.workspaces.find sampleWorkspaceId = none ∧
    ∃ observation ∈ steps, observation.Confirms sampleWorkspaceId ∧
      ∃ request, request.Deletes sampleWorkspaceId ∧ [request, observation].Sublist steps := by
  have hrun : StoreRun (sampleDatabase .stopped)
      [⟨.act sampleJobId sampleWorkspaceId .delete 20, _⟩,
        ⟨.observe sampleWorkspaceId 2 .deleted 30, _⟩] _ :=
    .cons _ (.executed fun _ => false) (.cons _ (.executed fun _ => false) (.nil _))
  have hfind : (sampleDatabase .stopped).workspaces.find sampleWorkspaceId = some _ := rfl
  obtain ⟨t, ht, hconfirms, hrequest⟩ := removal_needs_deletion hrun hfind (by decide +kernel)
  exact ⟨_, _, hrun, by decide +kernel, t, ht, hconfirms, hrequest (by decide)⟩

end WorkspaceControl
