/-
**The limits on plugin inspections and UI sessions.**

`store_plugin_inspection` and `create_plugin_ui_session` delete the rows that have expired, count
those that are left, and insert a row when the counts are below the limits: 8 inspections, 4 of one
actor, and 32 sessions of one user.  These are separate statements on the pool, on both backends, so
that requests that have counted before any of them inserts exceed the limits.

Main definitions:

* `PluginUiSessionRow` — a row of `plugin_ui_sessions`;
* `inspectionPolicy`, `uiSessionPolicy` — the limits of the two tables.

Main results:

* `plugin_limits_kept` — **the limits are kept when no request counts while another one is between
  its first count and its insertion**;
* `concurrent_inspections_exceed_limit` — five inspections of one actor, stored concurrently.
-/
import Mathlib.Data.Fintype.Basic
import WorkspaceControl.CappedTables
import WorkspaceControl.PluginStore

set_option autoImplicit false

namespace WorkspaceControl

open Capped

/-- A row of `plugin_ui_sessions`, with the columns that are set at the insertion. -/
structure PluginUiSessionRow where
  id : Uuid
  pluginId : String
  surfaceId : String
  userId : Uuid
  ticketHash : String
  cookieHash : String
  channelNonce : String
  allowedBridgeMethods : List String
  entrypoint : String
  packageDigest : String
  expiresAt : ℤ
  createdAt : ℤ

/-- The limits of `store_plugin_inspection`: those of the installation and of the actor. -/
def inspectionPolicy : Policy PluginInstallInspection (Option Uuid) where
  live now row := now < row.expiresAt
  caps := [⟨fun _ => none, 8⟩, ⟨fun row => some row.createdBy, 4⟩]

/-- The limit of `create_plugin_ui_session`.  Its insertion also asks for the package: it stops
when there is none. -/
def uiSessionPolicy : Policy PluginUiSessionRow Uuid where
  live now row := now < row.expiresAt
  caps := [⟨fun row => row.userId, 32⟩]

/-- The rows of a table that count at some time. -/
def unexpiredRows {α γ : Type} (policy : Policy α γ) (now : ℤ) (rows : List α) : List α :=
  rows.filter (policy.live now)

variable {ι : Type} [DecidableEq ι]

/-- **The limits are kept by requests that count alone**, at any time. -/
theorem plugin_limits_kept {s : State ι PluginInstallInspection (Option Uuid)}
    {t : State ι PluginUiSessionRow Uuid}
    (hinspections : Run inspectionPolicy Alone (State.empty ι _ _) s)
    (hsessions : Run uiSessionPolicy Alone (State.empty ι _ _) t) (now : ℤ) :
    (unexpiredRows inspectionPolicy now s.rows).length ≤ 8 ∧
      (∀ actor, (unexpiredRows inspectionPolicy now s.rows).countP (fun row => row.createdBy = actor)
        ≤ 4) ∧
      ∀ user, (unexpiredRows uiSessionPolicy now t.rows).countP (fun row => row.userId = user)
        ≤ 32 := by
  have hrows := (within_of_run hinspections).filter (inspectionPolicy.live now)
  have hsessionRows := (within_of_run hsessions).filter (uiSessionPolicy.live now)
  refine ⟨?_, ?_, ?_⟩
  · have htotal := hrows ⟨fun _ => none, 8⟩ List.mem_cons_self none
    simpa [Cap.count, unexpiredRows] using htotal
  · intro actor
    have hactor := hrows ⟨fun row => some row.createdBy, 4⟩ (by simp [inspectionPolicy])
      (some actor)
    simpa [Cap.count, unexpiredRows] using hactor
  · intro user
    exact hsessionRows ⟨fun row => row.userId, 32⟩ List.mem_cons_self user

/-! ### A sample -/

def concurrentInspectionId (r : Fin 5) : Uuid :=
  ([⟨"00000000-0000-0000-0000-000000000011", by decide⟩,
    ⟨"00000000-0000-0000-0000-000000000012", by decide⟩,
    ⟨"00000000-0000-0000-0000-000000000013", by decide⟩,
    ⟨"00000000-0000-0000-0000-000000000014", by decide⟩,
    ⟨"00000000-0000-0000-0000-000000000015", by decide⟩] : List Uuid).get r

def concurrentInspection (r : Fin 5) : PluginInstallInspection :=
  { samplePluginInspection "digest" with id := concurrentInspectionId r }

/-- Five requests of one actor: all of them count before the first one inserts. -/
def concurrentInspections : List (Event (Fin 5) PluginInstallInspection) :=
  (List.finRange 5).map (fun r => .expire r (concurrentInspection r) 1) ++
    (List.finRange 5).map .count ++ (List.finRange 5).map .count ++ (List.finRange 5).map .insert

/-- **Five unexpired inspections of one actor.** -/
theorem concurrent_inspections_exceed_limit :
    ∃ s : State (Fin 5) PluginInstallInspection (Option Uuid),
      Run inspectionPolicy (fun _ _ => True) (State.empty _ _ _) s ∧
        (s.rows.map PluginInstallInspection.id).Nodup ∧
        4 < (unexpiredRows inspectionPolicy 1 s.rows).countP
          (fun row => row.createdBy = sampleAdministratorId) := by
  have hcount : (applyAll inspectionPolicy (fun _ _ => True) (State.empty _ _ _)
      concurrentInspections).any (fun s => (s.rows.map PluginInstallInspection.id).Nodup ∧
        4 < (unexpiredRows inspectionPolicy 1 s.rows).countP
          (fun row => row.createdBy = sampleAdministratorId)) = true := by decide +kernel
  obtain ⟨s, hs, hexceeds⟩ := (Option.any_eq_true _ _).1 hcount
  exact ⟨s, Run.of_applyAll (.refl _) hs, of_decide_eq_true hexceeds⟩

def sampleUiSession (r : Fin 5) : PluginUiSessionRow :=
  ⟨concurrentInspectionId r, "plugin", "surface", sampleAdministratorId, "ticket", "cookie", "nonce",
    [], "index.html", "digest", 100, 1⟩

/-- Two requests: the second one begins while the first one counts, and counts once it is done. -/
def successive {α : Type} (counts : ℕ) (row : Fin 5 → α) : List (Event (Fin 5) α) :=
  [.expire 0 (row 0) 1, .expire 1 (row 1) 1] ++ List.replicate counts (.count 0) ++ [.insert 0] ++
    List.replicate counts (.count 1) ++ [.insert 1]

theorem plugin_limits_kept_sample :
    ∃ (s : State (Fin 5) PluginInstallInspection (Option Uuid))
      (t : State (Fin 5) PluginUiSessionRow Uuid),
      s.rows.map PluginInstallInspection.id = [concurrentInspectionId 0, concurrentInspectionId 1] ∧
      t.rows.map PluginUiSessionRow.id = [concurrentInspectionId 0, concurrentInspectionId 1] ∧
      (unexpiredRows inspectionPolicy 1 s.rows).length ≤ 8 ∧
      ∀ user, (unexpiredRows uiSessionPolicy 1 t.rows).countP (fun row => row.userId = user)
        ≤ 32 := by
  have hinspections : (applyAll inspectionPolicy Alone (State.empty _ _ _)
      (successive 2 concurrentInspection)).any (fun s => s.rows.map PluginInstallInspection.id
        = [concurrentInspectionId 0, concurrentInspectionId 1]) = true := by decide +kernel
  have hsessions : (applyAll uiSessionPolicy Alone (State.empty _ _ _)
      (successive 1 sampleUiSession)).any (fun t => t.rows.map PluginUiSessionRow.id
        = [concurrentInspectionId 0, concurrentInspectionId 1]) = true := by decide +kernel
  obtain ⟨s, hs, hrows⟩ := (Option.any_eq_true _ _).1 hinspections
  obtain ⟨t, ht, hsessionRows⟩ := (Option.any_eq_true _ _).1 hsessions
  have hkept := plugin_limits_kept (.of_applyAll (.refl _) hs) (.of_applyAll (.refl _) ht) 1
  exact ⟨s, t, of_decide_eq_true hrows, of_decide_eq_true hsessionRows, hkept.1, hkept.2.2⟩

end WorkspaceControl
