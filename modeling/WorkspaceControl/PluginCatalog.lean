/-
**The catalog of plugins that a replica has loaded.**

`src/src/plugins/runtime/catalog.rs`: a replica reads the revision of the stored catalog, and when
its registry is stamped with another one it loads the stored packages again, behind the plugins that
are mounted, and stamps the registry with the revision that it has read first.  The revision, the
packages and the assets of each package are read by separate statements, and mutations commit in
between.  Every mutation of the packages raises the revision in its transaction, so that a stamp
that is older than what was read is never current again.

Main definitions:

* `PluginContent`, `LoadedPlugin`, `loadPackage` — the checks of a package, and what is loaded;
* `Registry`, `SyncPhase`, `CatalogState` — the registries and the synchronizations of the replicas;
* `CatalogStep` — one step: a commit, or one statement of a synchronization.

Main results:

* `CatalogStep.coherent` — one step keeps every registry and every synchronization coherent;
* `stamped_catalog_represents` — **a registry with the current stamp holds exactly the stored
  packages**, with the component of those that are enabled;
* `disabled_component_not_loaded` — the component of a package that is disabled is not there.
-/
import Mathlib.Logic.Function.Basic
import WorkspaceControl.PluginStore

set_option autoImplicit false

namespace WorkspaceControl

open Fallible Relational

/-! ### Loading -/

/-- `validate_plugin_content` and the compiler of components.  The manifest of a content that passes
is what its JSON text is read as. -/
structure PluginContent (M C : Type) where
  parse : String → Option M
  manifestId : M → String
  validate : String → Option (List UInt8) → List PluginAssetBlob → Option (M × Option C)
  compiles : List UInt8 → Bool
  parse_of_validate : ∀ {json component assets m schema},
    validate json component assets = some (m, schema) → parse json = some m

structure LoadedPlugin (M C : Type) where
  manifest : M
  component : Option (List UInt8)
  configurationSchema : Option C
  sourceKind : String
  sourceRef : String
  packageDigest : String
  sourceConfirmation : String
  approvedContributions : List String
  packageVersion : ℤ
  enabled : Bool

variable {M C : Type}

def LoadedPlugin.mounted (plugin : LoadedPlugin M C) : Bool := plugin.sourceKind = "mounted"

/-- The component that is compiled: that of an enabled package. -/
def PluginPackageRow.loadedComponent (row : PluginPackageRow) : Option (List UInt8) :=
  if row.enabled then row.componentBytes else none

/-- One round of the loop of `synchronize`. -/
def loadPackage (content : PluginContent M C) (mounted : List (LoadedPlugin M C))
    (assets : List PluginAssetBlob) (row : PluginPackageRow) : Option (LoadedPlugin M C) :=
  if mounted.any fun plugin => content.manifestId plugin.manifest = row.pluginId then none
  else do
    let (manifest, schema) ← content.validate row.manifestJson row.componentBytes assets
    if row.loadedComponent.all content.compiles then
      some ⟨manifest, row.loadedComponent, schema, row.sourceKind, row.sourceRef, row.packageDigest,
        row.sourceConfirmation, row.approvedContributions, row.version, row.enabled⟩
    else none

/-- The plugin is loaded from the row; a component is there when the package is enabled. -/
structure Represents (content : PluginContent M C) (row : PluginPackageRow)
    (plugin : LoadedPlugin M C) : Prop where
  manifest : content.parse row.manifestJson = some plugin.manifest
  component : plugin.component = row.loadedComponent
  sourceKind : plugin.sourceKind = row.sourceKind
  packageDigest : plugin.packageDigest = row.packageDigest
  approvedContributions : plugin.approvedContributions = row.approvedContributions
  packageVersion : plugin.packageVersion = row.version
  enabled : plugin.enabled = row.enabled

variable {row : PluginPackageRow}

variable {plugin : LoadedPlugin M C}

theorem represents_of_loadPackage {content : PluginContent M C} {mounted : List (LoadedPlugin M C)}
    {assets : List PluginAssetBlob} (h : loadPackage content mounted assets row = some plugin) :
    Represents content row plugin := by
  simp only [loadPackage] at h
  split at h
  · cases h
  · obtain ⟨⟨manifest, schema⟩, hvalidate, h⟩ := Option.bind_eq_some_iff.1 h
    split at h
    · cases h
      exact ⟨content.parse_of_validate hvalidate, rfl, rfl, rfl, rfl, rfl, rfl⟩
    · cases h

/-- `plugin_assets`. -/
def PluginStore.pluginAssets (s : PluginStore) (pluginId : String) : List PluginAssetBlob :=
  (s.assets.rows.filter fun row => row.pluginId = pluginId).map PluginAssetRow.asset

/-! ### Replicas -/

/-- `RuntimeRegistry`.  The stamp `u64::MAX`, which is no revision, is `none`. -/
structure Registry (M C : Type) where
  catalogRevision : Option ℕ
  plugins : List (LoadedPlugin M C)

/-- Where a call of `synchronize` stands. -/
inductive SyncPhase (M C : Type)
  | idle
  | read (revision : ℕ)
  | waiting (revision : ℕ)
  | holding (revision : ℕ)
  | loading (revision : ℕ) (pending : List PluginPackageRow) (loaded : List (LoadedPlugin M C))

/-- The tables, and for each replica its registry, the owner of its refresh lock and its calls. -/
structure CatalogState (ρ τ M C : Type) where
  store : PluginStore
  registry : ρ → Registry M C
  lock : ρ → Option τ
  phase : ρ × τ → SyncPhase M C

variable {ρ τ : Type} [DecidableEq ρ] [DecidableEq τ]

namespace CatalogState

def setPhase (s : CatalogState ρ τ M C) (i : ρ) (t : τ) (phase : SyncPhase M C) :
    CatalogState ρ τ M C :=
  { s with phase := Function.update s.phase (i, t) phase }

def setRegistry (s : CatalogState ρ τ M C) (i : ρ) (registry : Registry M C) :
    CatalogState ρ τ M C :=
  { s with registry := Function.update s.registry i registry }

def setLock (s : CatalogState ρ τ M C) (i : ρ) (owner : Option τ) : CatalogState ρ τ M C :=
  { s with lock := Function.update s.lock i owner }

/-- The call ends, and its guard is dropped when it has one. -/
def finish (s : CatalogState ρ τ M C) (i : ρ) (t : τ) : CatalogState ρ τ M C :=
  (if s.lock i = some t then s.setLock i none else s).setPhase i t .idle

end CatalogState

/-- The sources that `inspect_prepared` is called with. -/
def inspectionSources : List String := ["file", "url", "github_release"]

def PluginOperation.FromInspection : PluginOperation → Prop
  | .confirmInstall inspection _ => inspection.sourceKind ∈ inspectionSources
  | _ => True

/-- **One step of the system.** -/
inductive CatalogStep (content : PluginContent M C) (engine : ρ → Bool) :
    CatalogState ρ τ M C → CatalogState ρ τ M C → Prop
  /-- A mutation commits. -/
  | commit {s store} (operation : PluginOperation)
      (hsource : operation.FromInspection) (h : operation.run s.store = .ok store) :
      CatalogStep content engine s { s with store := store }
  /-- The other tables change. -/
  | other {s store}
      (hpackages : store.packages = s.store.packages) (hrevision : store.revision = s.store.revision) :
      CatalogStep content engine s { s with store := store }
  /-- A replica starts with its mounted plugins. -/
  | start {s} (i : ρ) (plugins : List (LoadedPlugin M C))
      (hmounted : ∀ plugin ∈ plugins, plugin.mounted = true) :
      CatalogStep content engine s
        { s.setRegistry i ⟨some 0, plugins⟩ with
          lock := Function.update s.lock i none
          phase := fun p => if p.1 = i then .idle else s.phase p }
  /-- `force_synchronize` takes the stamp away. -/
  | force {s} (i : ρ) :
      CatalogStep content engine s (s.setRegistry i ⟨none, (s.registry i).plugins⟩)
  | readRevision {s i t} (hphase : s.phase (i, t) = .idle) :
      CatalogStep content engine s (s.setPhase i t (.read s.store.revision))
  /-- Another stamp: the call waits for the lock. -/
  | stale {s i t revision} (hphase : s.phase (i, t) = .read revision)
      (hstamp : (s.registry i).catalogRevision ≠ some revision) :
      CatalogStep content engine s (s.setPhase i t (.waiting revision))
  | acquire {s i t revision}
      (hphase : s.phase (i, t) = .waiting revision) (hlock : s.lock i = none) :
      CatalogStep content engine s ((s.setLock i (some t)).setPhase i t (.holding revision))
  /-- `list_plugin_packages`, in the order of the ids, and the plugins that are mounted. -/
  | list {s i t revision packages} (hphase : s.phase (i, t) = .holding revision)
      (hstamp : (s.registry i).catalogRevision ≠ some revision) (hengine : engine i = true)
      (hrows : packages.Perm s.store.packages.rows)
      (horder : packages.Pairwise fun a b => a.pluginId ≤ b.pluginId) :
      CatalogStep content engine s (s.setPhase i t
        (.loading revision packages ((s.registry i).plugins.filter LoadedPlugin.mounted)))
  /-- The next package is loaded, with its assets as they are now. -/
  | load {s i t revision row pending loaded plugin}
      (hphase : s.phase (i, t) = .loading revision (row :: pending) loaded)
      (hload : loadPackage content (loaded.filter LoadedPlugin.mounted)
        (s.store.pluginAssets row.pluginId) row = some plugin) :
      CatalogStep content engine s (s.setPhase i t (.loading revision pending (loaded ++ [plugin])))
  /-- The registry is replaced. -/
  | write {s i t revision loaded} (hphase : s.phase (i, t) = .loading revision [] loaded) :
      CatalogStep content engine s ((s.setRegistry i ⟨some revision, loaded⟩).finish i t)
  /-- The call ends: the stamp is current, or something fails, or it is cancelled. -/
  | stop {s} (i : ρ) (t : τ) : CatalogStep content engine s (s.finish i t)

/-! ### Mutations -/

variable {s s' : PluginStore}

/-- What the revision says about the packages: it counts their mutations. -/
structure Revises (s s' : PluginStore) : Prop where
  kept : s'.revision = s.revision → s'.packages = s.packages
  grows : s.revision ≤ s'.revision
  sources : (∀ row ∈ s.packages.rows, row.sourceKind ∈ inspectionSources) →
    ∀ row ∈ s'.packages.rows, row.sourceKind ∈ inspectionSources

theorem revises_of_packages (hrevision : s'.revision = s.revision + 1)
    (h : ∀ row ∈ s'.packages.rows, row.sourceKind ∈ inspectionSources ∨
      ∃ old ∈ s.packages.rows, old.sourceKind = row.sourceKind) : Revises s s' where
  kept heq := by omega
  grows := by omega
  sources hold row hrow := by
    rcases h row hrow with hsource | ⟨old, hmem, hsource⟩
    · exact hsource
    · exact hsource ▸ hold old hmem

theorem revises_of_same (hrevision : s'.revision = s.revision) (h : s'.packages = s.packages) :
    Revises s s' := by
  refine ⟨fun _ => h, hrevision.ge, ?_⟩
  intro hold
  rwa [h]

theorem sourceKind_of_compareAndSet {t t' : Table PluginPackageRow.pluginId} {k : String}
    {expected : ℤ} {f : PluginPackageRow → PluginPackageRow} {hf : ∀ r, (f r).pluginId = r.pluginId}
    (h : t.compareAndSet PluginPackageRow.version k expected f hf = some t')
    (hsource : ∀ row, (f row).sourceKind ∈ inspectionSources ∨ (f row).sourceKind = row.sourceKind) :
    ∀ row ∈ t'.rows, row.sourceKind ∈ inspectionSources ∨
      ∃ old ∈ t.rows, old.sourceKind = row.sourceKind := by
  intro row hrow
  rw [(Table.find_of_compareAndSet h).2] at hrow
  rcases Table.mem_update_cases hrow with ⟨hmem, -⟩ | ⟨old, hmem, -, rfl⟩
  · exact .inr ⟨row, hmem, rfl⟩
  · exact (hsource old).imp_right fun heq => ⟨old, hmem, heq.symm⟩

theorem revises_confirmPluginInstall {inspection : PluginInstallInspection}
    {command : ConfirmPluginInstall} (hsource : inspection.sourceKind ∈ inspectionSources)
    (h : confirmPluginInstall s inspection command = .ok s') : Revises s s' := by
  obtain ⟨expected, -, h⟩ := bind_eq_ok.1 h
  simp only [confirmTransaction, ensure_bind_eq_ok, okOr_bind_eq_ok] at h
  obtain ⟨-, packages, hpackages, h⟩ := h
  obtain ⟨assets, -, h⟩ := bind_eq_ok.1 h
  obtain rfl := pure_eq_ok.1 h
  refine revises_of_packages rfl ?_
  unfold installPackage at hpackages
  split at hpackages
  · intro row hrow
    rw [(Table.rows_of_insertNew hpackages).2] at hrow
    rcases List.mem_append.1 hrow with hmem | hmem
    · exact .inr ⟨row, hmem, rfl⟩
    · rw [List.mem_singleton.1 hmem]
      exact .inl hsource
  · exact sourceKind_of_compareAndSet hpackages fun _ => .inl hsource

theorem revises_mutatePackage {pluginId : String} {expectedVersion : ℕ} {now : ℤ}
    {enabled : Option Bool} (h : mutatePackage s pluginId expectedVersion now enabled = .ok s') :
    Revises s s' := by
  simp only [mutatePackage, okOr_bind_eq_ok] at h
  obtain ⟨expected, -, h⟩ := h
  cases enabled with
  | some enabled =>
    simp only [okOr_bind_eq_ok, pure_eq_ok] at h
    obtain ⟨packages, hpackages, rfl⟩ := h
    exact revises_of_packages rfl (sourceKind_of_compareAndSet hpackages fun _ => .inr rfl)
  | none =>
    simp only [okOr_bind_eq_ok, pure_eq_ok] at h
    obtain ⟨packages, hpackages, rfl⟩ := h
    refine revises_of_packages rfl ?_
    intro row hrow
    rw [(Table.find_of_compareAndDelete hpackages).2] at hrow
    exact .inr ⟨row, (Table.mem_delete.1 hrow).1, rfl⟩

/-- **The revision counts the mutations of the packages.** -/
theorem PluginOperation.revises {operation : PluginOperation} (hsource : operation.FromInspection)
    (h : operation.run s = .ok s') : Revises s s' := by
  cases operation with
  | confirmInstall inspection command => exact revises_confirmPluginInstall hsource h
  | setEnabled pluginId enabled expectedVersion now =>
    have h : mutatePackage s pluginId expectedVersion now (some enabled) = .ok s' := h
    exact revises_mutatePackage h
  | uninstall pluginId expectedVersion now =>
    have h : mutatePackage s pluginId expectedVersion now none = .ok s' := h
    exact revises_mutatePackage h
  | putConfiguration write =>
    obtain ⟨-, -, h⟩ := bind_eq_ok.1 h
    obtain ⟨_, -, h⟩ := okOr_bind_eq_ok.1 h
    obtain ⟨-, -, h⟩ := bind_eq_ok.1 h
    obtain ⟨-, h⟩ := ensure_bind_eq_ok.1 h
    obtain ⟨-, -, h⟩ := bind_eq_ok.1 h
    obtain ⟨_, -, h⟩ := okOr_bind_eq_ok.1 h
    obtain rfl := pure_eq_ok.1 h
    exact revises_of_same rfl rfl
  | deleteConfiguration pluginId organizationId expectedVersion =>
    obtain ⟨-, -, h⟩ := bind_eq_ok.1 h
    obtain ⟨-, h⟩ := ensure_bind_eq_ok.1 h
    obtain ⟨_, -, h⟩ := okOr_bind_eq_ok.1 h
    obtain ⟨_, -, h⟩ := okOr_bind_eq_ok.1 h
    obtain rfl := pure_eq_ok.1 h
    exact revises_of_same rfl rfl

/-! ### Coherence -/

/-- What was loaded after the revision was read: if no mutation has come since, it represents the
packages that are not pending. -/
def Loaded (content : PluginContent M C) (store : PluginStore) (revision : ℕ)
    (pending : List PluginPackageRow) (plugins : List (LoadedPlugin M C)) : Prop :=
  revision ≤ store.revision ∧ (revision = store.revision →
    ∃ done, (done ++ pending).Perm store.packages.rows ∧
      List.Forall₂ (Represents content) done (plugins.filter fun plugin => !plugin.mounted))

def SyncPhase.Coherent (content : PluginContent M C) (store : PluginStore) : SyncPhase M C → Prop
  | idle => True
  | read revision | waiting revision | holding revision => revision ≤ store.revision
  | loading revision pending loaded => Loaded content store revision pending loaded

structure CatalogState.Coherent (content : PluginContent M C) (s : CatalogState ρ τ M C) :
    Prop where
  sources : ∀ row ∈ s.store.packages.rows, row.sourceKind ∈ inspectionSources
  unrevised : s.store.revision = 0 → s.store.packages.rows = []
  registry : ∀ i revision, (s.registry i).catalogRevision = some revision →
    Loaded content s.store revision [] (s.registry i).plugins
  phase : ∀ p, (s.phase p).Coherent content s.store

variable {content : PluginContent M C} {revision : ℕ} {pending : List PluginPackageRow}
  {plugins : List (LoadedPlugin M C)}

/-- After a mutation the revision that was read is not current, and never will be. -/
theorem Loaded.revises (h : Loaded content s revision pending plugins) (hrevises : Revises s s') :
    Loaded content s' revision pending plugins := by
  refine ⟨h.1.trans hrevises.grows, ?_⟩
  intro hcurrent
  have hsame : revision = s.revision := le_antisymm h.1 (hcurrent ▸ hrevises.grows)
  rw [hrevises.kept (hcurrent.symm.trans hsame)]
  exact h.2 hsame

theorem Loaded.load (h : Loaded content s revision (row :: pending) plugins)
    (hsources : ∀ row ∈ s.packages.rows, row.sourceKind ∈ inspectionSources)
    (hrepresents : Represents content row plugin) :
    Loaded content s revision pending (plugins ++ [plugin]) := by
  refine ⟨h.1, ?_⟩
  intro hcurrent
  obtain ⟨done, hperm, hdone⟩ := h.2 hcurrent
  refine ⟨done ++ [row], by simpa using hperm, ?_⟩
  have hkind := hsources row (hperm.subset (by simp))
  -- an installed package is not taken for a mounted one
  have hmounted : plugin.mounted = false := by
    rw [LoadedPlugin.mounted, hrepresents.sourceKind, decide_eq_false_iff_not]
    intro heq
    rw [heq] at hkind
    exact absurd hkind (by decide)
  rw [List.filter_append, List.filter_cons_of_pos (by simp [hmounted]), List.filter_nil]
  exact List.rel_append hdone (.cons hrepresents .nil)

theorem SyncPhase.Coherent.revises {phase : SyncPhase M C} (h : phase.Coherent content s)
    (hrevises : Revises s s') : phase.Coherent content s' := by
  cases phase with
  | idle => trivial
  | read | waiting | holding => exact le_trans h hrevises.grows
  | loading => exact Loaded.revises h hrevises

namespace CatalogState.Coherent

variable {c : CatalogState ρ τ M C} {i : ρ} {t : τ}

omit [DecidableEq ρ] [DecidableEq τ] in
theorem revises (h : c.Coherent content) {store : PluginStore} (hrevises : Revises c.store store) :
    CatalogState.Coherent content { c with store := store } where
  sources := hrevises.sources h.sources
  unrevised hzero := by
    have hold : c.store.revision = 0 := Nat.le_zero.1 (hzero ▸ hrevises.grows)
    rw [hrevises.kept (hzero.trans hold.symm)]
    exact h.unrevised hold
  registry i revision hstamp := (h.registry i revision hstamp).revises hrevises
  phase p := (h.phase p).revises hrevises

omit [DecidableEq ρ] [DecidableEq τ] in
theorem phase_of_eq (h : c.Coherent content) {p : ρ × τ} {phase : SyncPhase M C}
    (hphase : c.phase p = phase) : phase.Coherent content c.store :=
  hphase ▸ h.phase p

theorem setPhase (h : c.Coherent content) {phase : SyncPhase M C}
    (hphase : phase.Coherent content c.store) : (c.setPhase i t phase).Coherent content where
  sources := h.sources
  unrevised := h.unrevised
  registry := h.registry
  phase p := by
    by_cases hp : p = (i, t)
    · subst hp
      simpa [CatalogState.setPhase] using hphase
    · simpa [CatalogState.setPhase, hp] using h.phase p

omit [DecidableEq τ] in
theorem setRegistry (h : c.Coherent content) {registry : Registry M C}
    (hregistry : ∀ revision, registry.catalogRevision = some revision →
      Loaded content c.store revision [] registry.plugins) :
    (c.setRegistry i registry).Coherent content where
  sources := h.sources
  unrevised := h.unrevised
  registry j revision hstamp := by
    by_cases hj : j = i
    · subst hj
      simp only [CatalogState.setRegistry, Function.update_self] at hstamp ⊢
      exact hregistry revision hstamp
    · simp only [CatalogState.setRegistry, Function.update_of_ne hj] at hstamp ⊢
      exact h.registry j revision hstamp
  phase := h.phase

omit [DecidableEq τ] in
theorem setLock (h : c.Coherent content) {owner : Option τ} :
    (c.setLock i owner).Coherent content :=
  ⟨h.sources, h.unrevised, h.registry, h.phase⟩

theorem finish (h : c.Coherent content) : (c.finish i t).Coherent content := by
  unfold CatalogState.finish
  split
  · exact h.setLock.setPhase trivial
  · exact h.setPhase trivial

end CatalogState.Coherent

variable {c c₀ : CatalogState ρ τ M C} {engine : ρ → Bool}

/-- **One step keeps the system coherent.** -/
theorem CatalogStep.coherent {c c' : CatalogState ρ τ M C} (hstep : CatalogStep content engine c c')
    (h : c.Coherent content) : c'.Coherent content := by
  cases hstep with
  | commit operation hsource hrun => exact h.revises (operation.revises hsource hrun)
  | other hpackages hrevision => exact h.revises (revises_of_same hrevision hpackages)
  | start i plugins hmounted =>
    have hregistry : (c.setRegistry i ⟨some 0, plugins⟩).Coherent content := by
      refine h.setRegistry ?_
      rintro _ ⟨⟩
      refine ⟨Nat.zero_le _, fun hzero => ⟨[], by simp [h.unrevised hzero.symm], ?_⟩⟩
      rw [List.filter_eq_nil_iff.2 (by simpa using hmounted)]
      exact .nil
    refine ⟨h.sources, h.unrevised, hregistry.registry, ?_⟩
    intro p
    dsimp only
    split
    · trivial
    · exact h.phase p
  | force i => exact h.setRegistry nofun
  | readRevision hphase => exact h.setPhase (le_refl c.store.revision)
  | stale hphase hstamp =>
    have hread : _ ≤ c.store.revision := h.phase_of_eq hphase
    exact h.setPhase hread
  | acquire hphase hlock =>
    have hread : _ ≤ c.store.revision := h.phase_of_eq hphase
    exact h.setLock.setPhase hread
  | list hphase hstamp hengine hrows horder =>
    have hread : _ ≤ c.store.revision := h.phase_of_eq hphase
    refine h.setPhase ⟨hread, fun _ => ⟨[], hrows, ?_⟩⟩
    rw [List.filter_filter, List.filter_eq_nil_iff.2 (by simp)]
    exact .nil
  | load hphase hload =>
    have hloaded : Loaded content c.store _ _ _ := h.phase_of_eq hphase
    exact h.setPhase (Loaded.load hloaded h.sources (represents_of_loadPackage hload))
  | write hphase =>
    have hloaded : Loaded content c.store _ _ _ := h.phase_of_eq hphase
    refine (h.setRegistry ?_).finish
    rintro _ ⟨⟩
    exact hloaded
  | stop i t => exact h.finish

/-- The tables are new, and no replica has called `synchronize` yet. -/
structure CatalogState.Initial (s : CatalogState ρ τ M C) : Prop where
  store : s.store = PluginStore.empty
  registry : ∀ i, (s.registry i).catalogRevision = some 0 ∧
    ∀ plugin ∈ (s.registry i).plugins, plugin.mounted = true
  phase : ∀ p, s.phase p = .idle

omit [DecidableEq ρ] [DecidableEq τ] in
theorem CatalogState.Initial.coherent (h : c.Initial) :
    c.Coherent content where
  sources := by simp [h.store, PluginStore.empty]
  unrevised _ := by simp [h.store, PluginStore.empty]
  registry i revision hstamp := by
    obtain ⟨hzero, hmounted⟩ := h.registry i
    obtain rfl := Option.some.inj (hzero.symm.trans hstamp)
    refine ⟨Nat.zero_le _, fun _ => ⟨[], by simp [h.store, PluginStore.empty], ?_⟩⟩
    rw [List.filter_eq_nil_iff.2 (by simpa using hmounted)]
    exact .nil
  phase p := by
    rw [h.phase p]
    trivial

theorem coherent_of_run (hinitial : c₀.Initial)
    (hrun : Relation.ReflTransGen (CatalogStep content engine) c₀ c) : c.Coherent content := by
  induction hrun with
  | refl => exact hinitial.coherent
  | tail _ hstep ih => exact hstep.coherent ih

/-- **A registry that has the stamp of the current revision holds exactly the stored packages**,
behind the mounted plugins: one plugin for each package, with its manifest, its flag, its approved
contributions and its version, and with its component when the package is enabled. -/
theorem stamped_catalog_represents (hinitial : c₀.Initial)
    (hrun : Relation.ReflTransGen (CatalogStep content engine) c₀ c) (i : ρ)
    (hstamp : (c.registry i).catalogRevision = some c.store.revision) :
    ∃ packages, packages.Perm c.store.packages.rows ∧
      List.Forall₂ (Represents content) packages
        ((c.registry i).plugins.filter fun plugin => !plugin.mounted) := by
  have hcoherent := coherent_of_run hinitial hrun
  obtain ⟨packages, hperm, hrepresents⟩ := (hcoherent.registry i _ hstamp).2 rfl
  exact ⟨packages, by simpa using hperm, hrepresents⟩

/-! ### A package that is disabled -/

/-- A content that passes every check; the manifest is the text itself. -/
def sampleContent : PluginContent String Unit where
  parse json := some json
  manifestId manifest := manifest
  validate json _ _ := some (json, none)
  compiles _ := true
  parse_of_validate h := by cases h; rfl

/-- A package with a component is installed, and is not enabled. -/
def disabledInstall : PluginOperation :=
  .confirmInstall { samplePluginInspection "digest" with componentBytes := some [0] }
    ⟨sampleInspectionId, "digest", 0, [], false, sampleAdministratorId, 1⟩

def disabledPackage : PluginPackageRow :=
  { samplePackage "digest" with componentBytes := some [0], enabled := false }

/-- What is loaded of it. -/
def disabledPlugin : LoadedPlugin String Unit :=
  ⟨"", none, none, "file", "plugin.mwcpkg", "digest", "administrator_confirmed", [], 1, false⟩

/-- One replica, and one call. -/
def catalogStart : CatalogState Unit Unit String Unit :=
  ⟨.empty, fun _ => ⟨some 0, []⟩, fun _ => none, fun _ => .idle⟩

theorem catalogStart_initial : catalogStart.Initial :=
  ⟨rfl, fun _ => ⟨rfl, nofun⟩, fun _ => rfl⟩

/-- The package is installed, and the replica synchronizes. -/
theorem disabledPackage_loaded : ∃ c, Relation.ReflTransGen
      (CatalogStep sampleContent fun _ => true) catalogStart c ∧
    c.store.revision = 1 ∧ c.store.packages.rows = [disabledPackage] ∧
    c.registry () = ⟨some 1, [disabledPlugin]⟩ := by
  have hsource : disabledInstall.FromInspection :=
    show "file" ∈ inspectionSources by decide
  have hinstalled := Relation.ReflTransGen.single
    (show CatalogStep sampleContent (fun _ => true) catalogStart _ from
      .commit disabledInstall hsource rfl)
  have hread := hinstalled.tail (.readRevision (i := ()) (t := ()) rfl)
  have hstale := hread.tail
    (.stale (i := ()) (t := ()) (show _ = SyncPhase.read 1 from rfl) (by decide))
  have hacquired := hstale.tail
    (.acquire (i := ()) (t := ()) (show _ = SyncPhase.waiting 1 from rfl) rfl)
  have hlisted := hacquired.tail
    (.list (i := ()) (t := ()) (show _ = SyncPhase.holding 1 from rfl) (by decide) rfl
      (List.Perm.refl [disabledPackage]) (List.pairwise_singleton _ _))
  have hloaded := hlisted.tail
    (.load (i := ()) (t := ()) (show _ = SyncPhase.loading 1 [disabledPackage] [] from rfl)
      (show _ = some disabledPlugin from rfl))
  have hwritten := hloaded.tail
    (.write (i := ()) (t := ()) (show _ = SyncPhase.loading 1 [] [disabledPlugin] from rfl))
  exact ⟨_, hwritten, rfl, rfl, rfl⟩

/-- **A registry with the current stamp that does not hold the component of a stored package.** -/
theorem disabled_component_not_loaded :
    ∃ (c : CatalogState Unit Unit String Unit) (row : PluginPackageRow)
      (plugin : LoadedPlugin String Unit), catalogStart.Initial ∧
      Relation.ReflTransGen (CatalogStep sampleContent fun _ => true) catalogStart c ∧
      (c.registry ()).catalogRevision = some c.store.revision ∧ c.store.packages.rows = [row] ∧
      (c.registry ()).plugins = [plugin] ∧ plugin.mounted = false ∧
      row.componentBytes = some [0] ∧ plugin.component = none := by
  obtain ⟨c, hrun, hrevision, hrows, hregistry⟩ := disabledPackage_loaded
  refine ⟨c, disabledPackage, disabledPlugin, catalogStart_initial, hrun, ?_, hrows, ?_, rfl, rfl, rfl⟩
  · rw [hregistry, hrevision]
  · rw [hregistry]

theorem stamped_catalog_represents_sample :
    ∃ packages, packages.Perm [disabledPackage] ∧
      List.Forall₂ (Represents sampleContent) packages [disabledPlugin] := by
  obtain ⟨c, hrun, hrevision, hrows, hregistry⟩ := disabledPackage_loaded
  have hrepresents := stamped_catalog_represents catalogStart_initial hrun ()
    (by rw [hregistry, hrevision])
  rwa [hrows, hregistry] at hrepresents

end WorkspaceControl
