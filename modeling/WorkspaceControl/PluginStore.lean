/-
**The plugin tables.**

`src/src/storage/plugin_package_store.rs` and `lifecycle.rs` below it keep the installed packages
with their assets and the revision of the catalog, and `src/src/storage/plugin_store.rs` the
configurations of plugins.  A package is installed from an inspection that was stored before; a
package or a configuration that is there is changed or removed only by a caller who names its
version.  A row that is inserted has version 1 again, also when there was one before it.

Main definitions:

* `PluginStore` — the tables;
* `confirmPluginInstall`, `mutatePackage`, `putPluginConfiguration`, `deletePluginConfiguration` —
  the transactions;
* `PluginOperation`, `PluginStep` — the mutations, and the steps of the tables along a run.

Main results:

* `version_stands_for_row` — **a mutation finds the row as its caller has read it**, when the row
  was not removed in between;
* `version_matches_recreated_row` — the version that was read before an uninstallation matches the
  package that is installed after it.
-/
import WorkspaceControl.Fallible
import WorkspaceControl.VersionedRows
import WorkspaceControl.Workspace

set_option autoImplicit false

namespace WorkspaceControl

open Fallible MachineInt Relational

/-! ### Tables -/

structure PluginAssetBlob where
  path : String
  mediaType : String
  content : List UInt8
  digest : String
deriving DecidableEq

/-- A row of `plugin_assets`. -/
structure PluginAssetRow where
  pluginId : String
  asset : PluginAssetBlob

/-- A row of `plugin_packages`. -/
structure PluginPackageRow where
  pluginId : String
  manifestJson : String
  componentBytes : Option (List UInt8)
  packageDigest : String
  sourceKind : String
  sourceRef : String
  sourceConfirmation : String
  enabled : Bool
  approvedContributions : List String
  version : ℤ
  createdBy : Uuid
  createdAt : ℤ
  updatedAt : ℤ
deriving DecidableEq

/-- A row of `plugin_install_inspections`. -/
structure PluginInstallInspection where
  id : Uuid
  pluginId : String
  manifestJson : String
  componentBytes : Option (List UInt8)
  packageDigest : String
  sourceKind : String
  sourceRef : String
  sourceConfirmation : String
  declaredContributions : List String
  assets : List PluginAssetBlob
  createdBy : Uuid
  createdAt : ℤ
  expiresAt : ℤ

/-- A row of `plugin_configurations`; the scope is the installation or an organization. -/
structure PluginConfigurationRow where
  pluginId : String
  organizationId : Option Uuid
  valueJson : String
  schemaDigest : String
  version : ℤ
  updatedBy : Uuid
  updatedAt : ℤ
deriving DecidableEq

namespace PluginConfigurationRow

def key (row : PluginConfigurationRow) : String × Option Uuid := (row.pluginId, row.organizationId)

end PluginConfigurationRow

def PluginAssetRow.key (row : PluginAssetRow) : String × String := (row.pluginId, row.asset.path)

/-- The tables of the plugins, and the organizations that configurations may be for. -/
structure PluginStore where
  packages : Table PluginPackageRow.pluginId
  assets : Table PluginAssetRow.key
  inspections : Table PluginInstallInspection.id
  configurations : Table PluginConfigurationRow.key
  revision : ℕ
  organizations : List Uuid

def PluginStore.empty : PluginStore := ⟨.empty _, .empty _, .empty _, .empty _, 0, []⟩

/-! ### Installation -/

structure ConfirmPluginInstall where
  inspectionId : Uuid
  expectedDigest : String
  expectedPackageVersion : ℕ
  approvedContributions : List String
  enabled : Bool
  actorUserId : Uuid
  now : ℤ

def maxInstalledPlugins : ℕ := 32

/-- The checks of an installation; the version as the database compares it. -/
def checkInspection (inspection : PluginInstallInspection) (command : ConfirmPluginInstall) :
    Except StorageError ℤ := do
  ensure (!(inspection.expiresAt ≤ command.now)) .pluginInspectionExpired
  ensure (inspection.packageDigest = command.expectedDigest) .pluginDigestMismatch
  ensure (command.approvedContributions.all fun approved =>
    inspection.declaredContributions.contains approved) .pluginCapabilityNotApproved
  okOr (U64.toI64 command.expectedPackageVersion) .pluginPackageVersionConflict

/-- The package that is inserted. -/
def newPackage (inspection : PluginInstallInspection) (command : ConfirmPluginInstall) :
    PluginPackageRow where
  pluginId := inspection.pluginId
  manifestJson := inspection.manifestJson
  componentBytes := inspection.componentBytes
  packageDigest := inspection.packageDigest
  sourceKind := inspection.sourceKind
  sourceRef := inspection.sourceRef
  sourceConfirmation := inspection.sourceConfirmation
  enabled := command.enabled
  approvedContributions := command.approvedContributions
  version := 1
  createdBy := command.actorUserId
  createdAt := command.now
  updatedAt := command.now

/-- The package after an update. -/
def updatedPackage (inspection : PluginInstallInspection) (command : ConfirmPluginInstall)
    (row : PluginPackageRow) : PluginPackageRow :=
  { newPackage inspection command with
    pluginId := row.pluginId
    version := row.version + 1
    createdBy := row.createdBy
    createdAt := row.createdAt }

/-- `install_sqlite`, `install_postgres`; without a value when no row is affected. -/
def installPackage (packages : Table PluginPackageRow.pluginId)
    (inspection : PluginInstallInspection) (command : ConfirmPluginInstall) (expected : ℤ) :
    Option (Table PluginPackageRow.pluginId) :=
  if expected = 0 then packages.insertNew (newPackage inspection command)
  else packages.compareAndSet PluginPackageRow.version inspection.pluginId expected
    (updatedPackage inspection command) fun _ => rfl

/-- The rows of the assets, one after the other. -/
def insertAssets (pluginId : String) :
    List PluginAssetBlob → Table PluginAssetRow.key →
      Except StorageError (Table PluginAssetRow.key)
  | [], t => pure t
  | asset :: assets, t => do
    let t ← okOr (t.insertNew ⟨pluginId, asset⟩)
      (.database "UNIQUE constraint failed: plugin_assets")
    insertAssets pluginId assets t

def replaceAssets (t : Table PluginAssetRow.key) (pluginId : String)
    (assets : List PluginAssetBlob) : Except StorageError (Table PluginAssetRow.key) :=
  insertAssets pluginId assets (t.delete fun row => row.pluginId = pluginId)

/-- `confirm_sqlite`, `confirm_postgres`: one transaction. -/
def confirmTransaction (s : PluginStore) (inspection : PluginInstallInspection)
    (command : ConfirmPluginInstall) (expected : ℤ) : Except StorageError PluginStore := do
  ensure (!(expected = 0 && maxInstalledPlugins ≤ s.packages.rows.length)) .pluginCapacityExceeded
  let packages ← okOr (installPackage s.packages inspection command expected)
    .pluginPackageVersionConflict
  let assets ← replaceAssets s.assets inspection.pluginId inspection.assets
  pure { s with
    packages := packages
    assets := assets
    revision := s.revision + 1
    inspections := s.inspections.delete fun row => row.id = command.inspectionId }

/-- `confirm_plugin_install`, for an inspection that was read before. -/
def confirmPluginInstall (s : PluginStore) (inspection : PluginInstallInspection)
    (command : ConfirmPluginInstall) : Except StorageError PluginStore := do
  let expected ← checkInspection inspection command
  confirmTransaction s inspection command expected

/-! ### Changes and removals -/

/-- `mutate_package`: a package is enabled or disabled, or removed with what belongs to it. -/
def mutatePackage (s : PluginStore) (pluginId : String) (expectedVersion : ℕ) (now : ℤ)
    (enabled : Option Bool) : Except StorageError PluginStore := do
  let expected ← okOr (U64.toI64 expectedVersion) .pluginPackageVersionConflict
  match enabled with
  | some enabled =>
    let packages ← okOr (s.packages.compareAndSet PluginPackageRow.version pluginId expected
      (fun row => { row with enabled := enabled, version := row.version + 1, updatedAt := now })
      fun _ => rfl) .pluginPackageVersionConflict
    pure { s with packages := packages, revision := s.revision + 1 }
  | none =>
    let packages ← okOr (s.packages.compareAndDelete PluginPackageRow.version pluginId expected)
      .pluginPackageVersionConflict
    pure { s with
      packages := packages
      assets := s.assets.delete fun row => row.pluginId = pluginId
      configurations := s.configurations.delete fun row => row.pluginId = pluginId
      revision := s.revision + 1 }

/-! ### Configurations -/

structure PluginConfigurationWrite where
  pluginId : String
  organizationId : Option Uuid
  valueJson : String
  schemaDigest : String
  expectedVersion : ℕ
  actorUserId : Uuid
  now : ℤ

def maxConfigurationBytes : ℕ := 1024 * 1024

def validatePluginId (value : String) : Except StorageError Unit :=
  ensure (!(value.isEmpty || 64 < Text.len value.toList ||
    !value.toList.all fun c => Text.isLowercaseOrDigit c || c = '-')) .invalidPluginConfiguration

/-- `u8::is_ascii_hexdigit`. -/
def isAsciiHexdigit (c : Char) : Bool := Text.isHexDigit c || ('A' ≤ c && c ≤ 'F')

def validateDigest (value : String) : Except StorageError Unit :=
  ensure (Text.len value.toList = 64 && value.toList.all isAsciiHexdigit)
    .invalidPluginConfiguration

def requireOrganization (s : PluginStore) : Option Uuid → Except StorageError Unit
  | none => pure ()
  | some id => ensure (s.organizations.contains id) .organizationNotFound

def PluginConfigurationWrite.row (write : PluginConfigurationWrite) : PluginConfigurationRow :=
  ⟨write.pluginId, write.organizationId, write.valueJson, write.schemaDigest, 1, write.actorUserId,
    write.now⟩

def PluginConfigurationWrite.update (write : PluginConfigurationWrite)
    (row : PluginConfigurationRow) : PluginConfigurationRow :=
  { row with
    valueJson := write.valueJson
    schemaDigest := write.schemaDigest
    version := row.version + 1
    updatedBy := write.actorUserId
    updatedAt := write.now }

/-- The statement of a write; without a value when no row is affected. -/
def writeConfiguration (configurations : Table PluginConfigurationRow.key)
    (write : PluginConfigurationWrite) (expected : ℤ) :
    Option (Table PluginConfigurationRow.key) :=
  if expected = 0 then configurations.insertNew write.row
  else configurations.compareAndSet PluginConfigurationRow.version
    (write.pluginId, write.organizationId) expected write.update fun _ => rfl

def putPluginConfiguration (s : PluginStore) (write : PluginConfigurationWrite) :
    Except StorageError PluginStore := do
  validatePluginId write.pluginId
  let expected ← okOr (U64.toI64 write.expectedVersion) .invalidPluginConfiguration
  validateDigest write.schemaDigest
  ensure (Text.len write.valueJson.toList ≤ maxConfigurationBytes) .invalidPluginConfiguration
  requireOrganization s write.organizationId
  let configurations ← okOr (writeConfiguration s.configurations write expected)
    .pluginConfigurationVersionConflict
  pure { s with configurations := configurations }

def deletePluginConfiguration (s : PluginStore) (pluginId : String) (organizationId : Option Uuid)
    (expectedVersion : ℕ) : Except StorageError PluginStore := do
  validatePluginId pluginId
  ensure (expectedVersion ≠ 0) .pluginConfigurationVersionConflict
  let expected ← okOr (U64.toI64 expectedVersion) .invalidPluginConfiguration
  let configurations ← okOr (s.configurations.compareAndDelete PluginConfigurationRow.version
    (pluginId, organizationId) expected) .pluginConfigurationVersionConflict
  pure { s with configurations := configurations }

/-! ### Runs -/

/-- What a mutation is about. -/
inductive PluginKey
  | package (pluginId : String)
  | configuration (pluginId : String) (organizationId : Option Uuid)

inductive PluginRow
  | package (row : PluginPackageRow)
  | configuration (row : PluginConfigurationRow)
deriving DecidableEq

def PluginRow.version : PluginRow → ℤ
  | package row => row.version
  | configuration row => row.version

def PluginStore.row (s : PluginStore) : PluginKey → Option PluginRow
  | .package pluginId => (s.packages.find pluginId).map .package
  | .configuration pluginId organizationId =>
    (s.configurations.find (pluginId, organizationId)).map .configuration

/-- The mutations, each with the version that its caller expects. -/
inductive PluginOperation
  | confirmInstall (inspection : PluginInstallInspection) (command : ConfirmPluginInstall)
  | setEnabled (pluginId : String) (enabled : Bool) (expectedVersion : ℕ) (now : ℤ)
  | uninstall (pluginId : String) (expectedVersion : ℕ) (now : ℤ)
  | putConfiguration (write : PluginConfigurationWrite)
  | deleteConfiguration (pluginId : String) (organizationId : Option Uuid) (expectedVersion : ℕ)

namespace PluginOperation

def run (s : PluginStore) : PluginOperation → Except StorageError PluginStore
  | confirmInstall inspection command => confirmPluginInstall s inspection command
  | setEnabled pluginId enabled expectedVersion now =>
    mutatePackage s pluginId expectedVersion now (some enabled)
  | uninstall pluginId expectedVersion now => mutatePackage s pluginId expectedVersion now none
  | putConfiguration write => putPluginConfiguration s write
  | deleteConfiguration pluginId organizationId expectedVersion =>
    deletePluginConfiguration s pluginId organizationId expectedVersion

def key : PluginOperation → PluginKey
  | confirmInstall inspection _ => .package inspection.pluginId
  | setEnabled pluginId .. | uninstall pluginId .. => .package pluginId
  | putConfiguration write => .configuration write.pluginId write.organizationId
  | deleteConfiguration pluginId organizationId _ => .configuration pluginId organizationId

def expected : PluginOperation → ℕ
  | confirmInstall _ command => command.expectedPackageVersion
  | setEnabled _ _ expectedVersion _ | uninstall _ expectedVersion _
  | deleteConfiguration _ _ expectedVersion => expectedVersion
  | putConfiguration write => write.expectedVersion

end PluginOperation

/-- **One step of the tables**: a mutation that succeeds, a change of the inspections, or a change
of the organizations, which takes the configurations of those that are gone along. -/
inductive PluginStep : PluginStore → PluginStore → Prop
  | mutation {s s' : PluginStore} (operation : PluginOperation)
      (h : operation.run s = .ok s') : PluginStep s s'
  | inspections (s : PluginStore) (inspections : Table PluginInstallInspection.id) :
      PluginStep s { s with inspections := inspections }
  | organizations (s : PluginStore) (organizations : List Uuid) :
      PluginStep s { s with
        organizations := organizations
        configurations := s.configurations.delete fun row =>
          row.organizationId.any fun id => !organizations.contains id }

/-- A step that does not remove what is under the key. -/
def KeepsRow (key : PluginKey) (s s' : PluginStore) : Prop :=
  PluginStep s s' ∧ (s'.row key = none → s.row key = none)

/-! ### Versions -/

section Versions

variable {s s' : PluginStore}

/-- The rows of both tables keep or raise their versions. -/
structure Advanced (s s' : PluginStore) : Prop where
  packages : ∀ k, Advances PluginPackageRow.version (s.packages.find k) (s'.packages.find k)
  configurations : ∀ k,
    Advances PluginConfigurationRow.version (s.configurations.find k) (s'.configurations.find k)

theorem Advanced.row (h : Advanced s s') (key : PluginKey) :
    Advances PluginRow.version (s.row key) (s'.row key) := by
  cases key with
  | package pluginId => exact (h.packages pluginId).map fun _ => rfl
  | configuration pluginId organizationId => exact (h.configurations _).map fun _ => rfl

/-- A mutation with an expected version finds it under its key; whatever it does, the rows keep or
raise their versions. -/
structure Mutates (s s' : PluginStore) (key : PluginKey) (expected : ℕ) : Prop where
  matching : expected ≠ 0 → ∃ row, s.row key = some row ∧ row.version = expected
  advanced : Advanced s s'

variable {command : ConfirmPluginInstall} {expectedVersion : ℕ}
  {inspection : PluginInstallInspection} {organizationId : Option Uuid} {pluginId : String}

theorem package_matching {expected : ℤ} (hexpected : U64.toI64 expectedVersion = some expected)
    (h : ∃ row, s.packages.find pluginId = some row ∧ row.version = expected) :
    ∃ row, s.row (.package pluginId) = some row ∧ row.version = expectedVersion := by
  obtain ⟨row, hrow, rfl⟩ := h
  exact ⟨.package row, by rw [PluginStore.row, hrow]; rfl, (U64.toI64_eq_some.1 hexpected).1⟩

theorem configuration_matching {expected : ℤ}
    (hexpected : U64.toI64 expectedVersion = some expected)
    (h : ∃ row, s.configurations.find (pluginId, organizationId) = some row ∧
      row.version = expected) :
    ∃ row, s.row (.configuration pluginId organizationId) = some row ∧
      row.version = expectedVersion := by
  obtain ⟨row, hrow, rfl⟩ := h
  exact ⟨.configuration row, by rw [PluginStore.row, hrow]; rfl, (U64.toI64_eq_some.1 hexpected).1⟩

theorem checkInspection_eq_ok {expected : ℤ}
    (h : checkInspection inspection command = .ok expected) :
    U64.toI64 command.expectedPackageVersion = some expected := by
  simp only [checkInspection, ensure_bind_eq_ok] at h
  exact okOr_eq_ok.1 h.2.2.2

theorem mutates_confirmPluginInstall (h : confirmPluginInstall s inspection command = .ok s') :
    Mutates s s' (.package inspection.pluginId) command.expectedPackageVersion := by
  obtain ⟨expected, hcheck, h⟩ := bind_eq_ok.1 h
  have hexpected := checkInspection_eq_ok hcheck
  simp only [confirmTransaction, ensure_bind_eq_ok, okOr_bind_eq_ok] at h
  obtain ⟨-, packages, hpackages, h⟩ := h
  obtain ⟨assets, -, h⟩ := bind_eq_ok.1 h
  obtain rfl := pure_eq_ok.1 h
  unfold installPackage at hpackages
  split at hpackages
  · rename_i hzero
    subst hzero
    refine ⟨fun hne => absurd ?_ hne, fun k => Table.advances_insertNew hpackages k,
      fun k => .refl _⟩
    exact_mod_cast (U64.toI64_eq_some.1 hexpected).1.symm
  · exact ⟨fun _ => package_matching hexpected (Table.find_of_compareAndSet hpackages).1,
      Table.advances_of_compareAndSet hpackages fun row => lt_add_one row.version,
      fun k => .refl _⟩

theorem mutates_mutatePackage {now : ℤ} {enabled : Option Bool}
    (h : mutatePackage s pluginId expectedVersion now enabled = .ok s') :
    Mutates s s' (.package pluginId) expectedVersion := by
  simp only [mutatePackage, okOr_bind_eq_ok] at h
  obtain ⟨expected, hexpected, h⟩ := h
  cases enabled with
  | some enabled =>
    simp only [okOr_bind_eq_ok, pure_eq_ok] at h
    obtain ⟨packages, hpackages, rfl⟩ := h
    exact ⟨fun _ => package_matching hexpected (Table.find_of_compareAndSet hpackages).1,
      Table.advances_of_compareAndSet hpackages fun row => lt_add_one row.version,
      fun k => .refl _⟩
  | none =>
    simp only [okOr_bind_eq_ok, pure_eq_ok] at h
    obtain ⟨packages, hpackages, rfl⟩ := h
    exact ⟨fun _ => package_matching hexpected (Table.find_of_compareAndDelete hpackages).1,
      Table.advances_of_compareAndDelete hpackages, fun k => Table.advances_delete k⟩

theorem mutates_putPluginConfiguration {write : PluginConfigurationWrite}
    (h : putPluginConfiguration s write = .ok s') :
    Mutates s s' (.configuration write.pluginId write.organizationId) write.expectedVersion := by
  obtain ⟨-, -, h⟩ := bind_eq_ok.1 h
  obtain ⟨expected, hexpected, h⟩ := okOr_bind_eq_ok.1 h
  obtain ⟨-, -, h⟩ := bind_eq_ok.1 h
  obtain ⟨-, h⟩ := ensure_bind_eq_ok.1 h
  obtain ⟨-, -, h⟩ := bind_eq_ok.1 h
  obtain ⟨configurations, hconfigurations, h⟩ := okOr_bind_eq_ok.1 h
  obtain rfl := pure_eq_ok.1 h
  unfold writeConfiguration at hconfigurations
  split at hconfigurations
  · rename_i hzero
    subst hzero
    refine ⟨fun hne => absurd ?_ hne, fun k => .refl _,
      fun k => Table.advances_insertNew hconfigurations k⟩
    exact_mod_cast (U64.toI64_eq_some.1 hexpected).1.symm
  · exact ⟨fun _ => configuration_matching hexpected
        (Table.find_of_compareAndSet hconfigurations).1, fun k => .refl _,
      Table.advances_of_compareAndSet hconfigurations fun row => lt_add_one row.version⟩

theorem mutates_deletePluginConfiguration
    (h : deletePluginConfiguration s pluginId organizationId expectedVersion = .ok s') :
    Mutates s s' (.configuration pluginId organizationId) expectedVersion := by
  obtain ⟨-, -, h⟩ := bind_eq_ok.1 h
  obtain ⟨-, h⟩ := ensure_bind_eq_ok.1 h
  obtain ⟨expected, hexpected, h⟩ := okOr_bind_eq_ok.1 h
  obtain ⟨configurations, hconfigurations, h⟩ := okOr_bind_eq_ok.1 h
  obtain rfl := pure_eq_ok.1 h
  exact ⟨fun _ => configuration_matching hexpected
      (Table.find_of_compareAndDelete hconfigurations).1, fun k => .refl _,
    Table.advances_of_compareAndDelete hconfigurations⟩

/-- **A mutation that succeeds finds the version that it names.** -/
theorem PluginOperation.mutates {operation : PluginOperation} (h : operation.run s = .ok s') :
    Mutates s s' operation.key operation.expected := by
  cases operation with
  | confirmInstall inspection command => exact mutates_confirmPluginInstall h
  | setEnabled pluginId enabled expectedVersion now =>
    have h : mutatePackage s pluginId expectedVersion now (some enabled) = .ok s' := h
    exact mutates_mutatePackage h
  | uninstall pluginId expectedVersion now =>
    have h : mutatePackage s pluginId expectedVersion now none = .ok s' := h
    exact mutates_mutatePackage h
  | putConfiguration write => exact mutates_putPluginConfiguration h
  | deleteConfiguration pluginId organizationId expectedVersion =>
    exact mutates_deletePluginConfiguration h

theorem PluginStep.advanced (h : PluginStep s s') : Advanced s s' := by
  cases h with
  | mutation operation h => exact (PluginOperation.mutates h).advanced
  | inspections => exact ⟨fun k => .refl _, fun k => .refl _⟩
  | organizations => exact ⟨fun k => .refl _, fun k => Table.advances_delete k⟩

end Versions

/-! ### A version of a row that is gone -/

def sampleInspectionId : Uuid := ⟨"00000000-0000-0000-0000-000000000009", by decide⟩
def sampleAdministratorId : Uuid := ⟨"00000000-0000-0000-0000-00000000000a", by decide⟩

def samplePluginInspection (digest : String) : PluginInstallInspection where
  id := sampleInspectionId
  pluginId := "policy"
  manifestJson := ""
  componentBytes := none
  packageDigest := digest
  sourceKind := "file"
  sourceRef := "plugin.mwcpkg"
  sourceConfirmation := "administrator_confirmed"
  declaredContributions := []
  assets := []
  createdBy := sampleAdministratorId
  createdAt := 0
  expiresAt := 900

def sampleInstall (digest : String) : PluginOperation :=
  .confirmInstall (samplePluginInspection digest)
    ⟨sampleInspectionId, digest, 0, [], true, sampleAdministratorId, 1⟩

def samplePackage (digest : String) : PluginPackageRow :=
  newPackage (samplePluginInspection digest)
    ⟨sampleInspectionId, digest, 0, [], true, sampleAdministratorId, 1⟩

/-- The tables with this package. -/
def installedStore (digest : String) (revision : ℕ) : PluginStore :=
  { PluginStore.empty with
    packages := ⟨[samplePackage digest], List.nodup_singleton _⟩
    revision := revision }

/-- **The version that was read before an uninstallation matches the package that is installed after
it**: a caller who has read the first package disables the second. -/
theorem version_matches_recreated_row : ∃ (operation : PluginOperation) (s₀ s s' : PluginStore)
    (row row' : PluginRow), s₀.row operation.key = some row ∧ row.version = operation.expected ∧
      Relation.ReflTransGen PluginStep s₀ s ∧ operation.run s = .ok s' ∧
      s.row operation.key = some row' ∧ row' ≠ row := by
  have huninstall :
      PluginStep (installedStore "first" 1) { PluginStore.empty with revision := 2 } :=
    .mutation (.uninstall "policy" 1 2) rfl
  have hinstall : PluginStep { PluginStore.empty with revision := 2 } (installedStore "second" 3) :=
    .mutation (sampleInstall "second") rfl
  refine ⟨.setEnabled "policy" false 1 3, installedStore "first" 1, installedStore "second" 3, _,
    .package (samplePackage "first"), .package (samplePackage "second"), rfl, rfl,
    .tail (.single huninstall) hinstall, rfl, rfl, by decide⟩

/-- **A mutation that succeeds finds the row as its caller has read it**, package or configuration,
when no step in between removed the row. -/
theorem version_stands_for_row (operation : PluginOperation) (s₀ s s' : PluginStore)
    (row : PluginRow) (hread : s₀.row operation.key = some row)
    (hversion : row.version = operation.expected) (hexpected : operation.expected ≠ 0)
    (hrun : Relation.ReflTransGen (KeepsRow operation.key) s₀ s)
    (hoperation : operation.run s = .ok s') : s.row operation.key = some row := by
  obtain ⟨found, hfound, hmatch⟩ := (PluginOperation.mutates hoperation).matching hexpected
  have hstep : ∀ s s', KeepsRow operation.key s s' →
      Advances PluginRow.version (s.row operation.key) (s'.row operation.key) ∧
        (s'.row operation.key = none → s.row operation.key = none) := fun s s' h =>
    ⟨h.1.advanced.row operation.key, h.2⟩
  obtain ⟨current, hcurrent, hcases⟩ := Advances.of_run hstep hrun hread
  obtain rfl : found = current := Option.some.inj (hfound.symm.trans hcurrent)
  rcases hcases with rfl | hlt
  · exact hfound
  · rw [hversion, hmatch] at hlt
    exact absurd hlt (lt_irrefl _)

/-- The tables with a second package. -/
def twoPackages : PluginStore :=
  { installedStore "first" 2 with
    packages := ⟨[samplePackage "first", { samplePackage "first" with pluginId := "other" }],
      by decide⟩ }

/-- A package is disabled after it was read; in between, the other one was. -/
theorem version_stands_for_row_sample :
    ∃ s, (PluginOperation.setEnabled "other" false 1 2).run twoPackages = .ok s ∧
      s.row (.package "other") ≠ twoPackages.row (.package "other") ∧
      s.row (.package "policy") = some (.package (samplePackage "first")) := by
  have hstep : PluginStep twoPackages _ := .mutation (.setEnabled "other" false 1 2) rfl
  exact ⟨_, rfl, by decide +kernel,
    version_stands_for_row (.setEnabled "policy" false 1 3) twoPackages _ _
      (.package (samplePackage "first")) rfl rfl (by decide) (.single ⟨hstep, nofun⟩) rfl⟩

end WorkspaceControl
