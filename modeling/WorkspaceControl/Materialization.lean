/-
**Materialization of injections.**

`src/src/kubernetes/materialization.rs` and the part of `src/src/jobs/kubernetes.rs` before it: the
resolved items of a workspace, with the public keys moved into the platform's folder and the keys
of the other users who may log in appended, become two Secrets, two ConfigMaps and two manifests.
Names, labels and the summaries of the items do not depend on values and are left out.

A text that the program prints as JSON is kept as what was printed (`ConfigText`): both sides only
read such a text back with a JSON parser.

Main definitions:

* `normalizeResolvedSshItems`, `sharedSshKeys`, `resolveWorkspaceInjections` — the resolved items;
* `MaterializedData.insert`, `build` — the objects.

Main results:

* `insertAll_eq_ok_of` — items that pass their own checks and have distinct targets are
  materialized;
* `materialization_succeeds` — **valid items are materialized exactly if the public keys among the
  effective ones have distinct keys and no other item is where a public key is moved to**;
* `same_key_in_two_scopes` — two scopes with one key are not.
-/
import Std.Data.String.ToNat
import WorkspaceControl.Injections

set_option autoImplicit false

namespace WorkspaceControl

open ByteText Fallible Std

/-! ### Public keys -/

/-- A public key is kept as a file of the login user in the platform's folder. -/
def normalizeSshTarget (item : InjectionItem) (template : WorkspaceTemplateSpec) (name : String) :
    InjectionItem :=
  { item with
    target := template.workspaceHome ++ "/.mwc/" ++ name ++ ".pub"
    fileMode := some 0o600
    owner := some template.workspaceUser
    group := some template.workspaceUser }

/-- The public keys among the resolved items, under their keys. -/
def normalizeResolvedSshItem (template : WorkspaceTemplateSpec) (resolved : ResolvedInjection) :
    ResolvedInjection :=
  if resolved.item.kind = .sshPublicKey then
    { resolved with
      item := { normalizeSshTarget resolved.item template ("injected-" ++ resolved.item.key) with
        sensitive := false } }
  else resolved

def normalizeResolvedSshItems (resolved : List ResolvedInjection)
    (template : WorkspaceTemplateSpec) : List ResolvedInjection :=
  resolved.map (normalizeResolvedSshItem template)

/-- A user who may log in, with the injections loaded for them. -/
structure SshAccessCandidate where
  userId : Uuid
  items : List InjectionItem

/-- The name of a shared key. -/
def accessName (userId : Uuid) (index : ℕ) : String :=
  "access-" ++ userId.text ++ "-" ++ Nat.repr index

def sharedSshKey (template : WorkspaceTemplateSpec) (userId : Uuid) (index : ℕ)
    (item : InjectionItem) : ResolvedInjection where
  source := .user
  item := { normalizeSshTarget { item with key := "mwc-" ++ accessName userId index } template
      (accessName userId index) with
    locked := false
    sensitive := false }

/-- The keys of one candidate. -/
def candidateKeys (template : WorkspaceTemplateSpec) (selection : InjectionSelection)
    (candidate : SshAccessCandidate) : List ResolvedInjection :=
  ((selectInjections candidate.items selection).filter fun item =>
    item.kind = .sshPublicKey).mapIdx (sharedSshKey template candidate.userId)

/-- `append_shared_ssh_keys`: the owner's keys are among the resolved items already. -/
def sharedSshKeys (template : WorkspaceTemplateSpec) (selection : InjectionSelection)
    (candidates : List SshAccessCandidate) : List ResolvedInjection :=
  (candidates.filter fun candidate => candidate.userId ≠ selection.ownerId).flatMap
    (candidateKeys template selection)

def resolveWorkspaceInjections (sources : InjectionSources) (selection : InjectionSelection)
    (refs : WorkspaceInjectionRefs) (template : WorkspaceTemplateSpec)
    (candidates : List SshAccessCandidate) : Except InjectionError (List ResolvedInjection) := do
  let resolved ← (sources.select selection refs).resolve
  pure (normalizeResolvedSshItems resolved template ++
    sharedSshKeys template selection candidates)

/-! ### Objects -/

inductive MaterializationError
  | invalidBase64
  | environmentMustBeUtf8
  | environmentContainsControl
  | invalidEnvironmentName (name : String)
  | invalidTargetPath (path : String)
  | duplicateTarget (target : String)
  | invalidFileManifest

/-- The object that holds a value: `"secret"` or `"config_map"`. -/
inductive InjectionObject
  | secret
  | configMap
deriving DecidableEq

/-- An entry of `workspace-files.json`; the last two fields are added by the compression. -/
structure FileManifestEntry where
  key : String
  kind : InjectionKind
  target : String
  source : InjectionScope
  object : InjectionObject
  dataKey : String
  mode : Option ℕ
  owner : Option String
  group : Option String
  encoding : Option String
  decodedBytes : Option ℕ
deriving DecidableEq

/-- An entry of `workspace-environment.json`. -/
structure EnvironmentManifestEntry where
  name : String
  source : InjectionScope
  object : InjectionObject
  dataKey : String

/-- A file as a list of references to distinct pieces of text. -/
structure Dictionary where
  version : ℕ
  chunks : List String
  order : List ℕ

/-- A text of a ConfigMap; what the program has printed as JSON is kept as it was printed. -/
inductive ConfigText
  | text (text : String)
  | files (version : ℕ) (files : List FileManifestEntry)
  | environment (version : ℕ) (environment : List EnvironmentManifestEntry)
  | dictionary (dictionary : Dictionary)

structure MaterializedData where
  secretEnvironment : ExtTreeMap String Bytes
  configEnvironment : ExtTreeMap String String
  secretFiles : ExtTreeMap String Bytes
  configFiles : ExtTreeMap String ConfigText
  configBinaryFiles : ExtTreeMap String Bytes
  targets : List String
  environmentTargets : List String
  files : List FileManifestEntry
  environment : List EnvironmentManifestEntry

/-- `{index:04}`. -/
def paddedIndex (index : ℕ) : List Char := List.leftpad 4 '0' (Nat.toDigits 10 index)

def dataKey (kind : String) (index : ℕ) : String := kind ++ "-" ++ String.ofList (paddedIndex index)

def decodeValue (value : InjectionValue) : Except MaterializationError Bytes :=
  okOr value.bytes .invalidBase64

def validEnvironmentName (name : List Char) : Bool :=
  match name with
  | [] => false
  | first :: rest =>
    (first = '_' || isAlphabetic first) && rest.all fun c => c = '_' || Text.isAlphanumeric c

def validAbsolutePath (path : List Char) : Bool :=
  path.head? = some '/' && !(Text.split '/' path).contains ['.', '.']

namespace MaterializedData

def empty : MaterializedData := ⟨∅, ∅, ∅, ∅, ∅, [], [], [], []⟩

/-- The image owns its Rust toolchain home, so that this variable is dropped. -/
def placeEnvironment (data : MaterializedData) (index : ℕ) (resolved : ResolvedInjection)
    (value : Bytes) (text : String) : MaterializedData :=
  let item := resolved.item
  let key := dataKey "env" index
  if item.target = "RUSTUP_HOME" then data
  else if item.sensitive then
    { data with
      secretEnvironment := data.secretEnvironment.insert item.target value
      secretFiles := data.secretFiles.insert key value
      environmentTargets := item.target :: data.environmentTargets
      environment := data.environment ++ [⟨item.target, resolved.source, .secret, key⟩] }
  else
    { data with
      configEnvironment := data.configEnvironment.insert item.target text
      configFiles := data.configFiles.insert key (.text text)
      environmentTargets := item.target :: data.environmentTargets
      environment := data.environment ++ [⟨item.target, resolved.source, .configMap, key⟩] }

def insertEnvironment (data : MaterializedData) (index : ℕ) (resolved : ResolvedInjection)
    (value : Bytes) : Except MaterializationError MaterializedData := do
  ensure (validEnvironmentName resolved.item.target.toList)
    (.invalidEnvironmentName resolved.item.target)
  let text ← okOr (Utf8.decode value) .environmentMustBeUtf8
  ensure (!text.toList.any Text.isControl) .environmentContainsControl
  pure (data.placeEnvironment index resolved value text)

/-- Sensitive values and secret files go to the Secret. -/
def useSecret (item : InjectionItem) : Bool := item.sensitive || item.kind = .secretFile

/-- The entry of a file. -/
def fileEntry (index : ℕ) (resolved : ResolvedInjection) : FileManifestEntry where
  key := resolved.item.key
  kind := resolved.item.kind
  target := resolved.item.target
  source := resolved.source
  object := if useSecret resolved.item then .secret else .configMap
  dataKey := dataKey "file" index
  mode := resolved.item.fileMode
  owner := resolved.item.owner
  group := resolved.item.group
  encoding := none
  decodedBytes := none

def placeFile (data : MaterializedData) (index : ℕ) (resolved : ResolvedInjection)
    (value : Bytes) : MaterializedData :=
  let key := dataKey "file" index
  let data := { data with files := data.files ++ [fileEntry index resolved] }
  if useSecret resolved.item then
    { data with secretFiles := data.secretFiles.insert key value }
  else
    match Utf8.decode value with
    | some text => { data with configFiles := data.configFiles.insert key (.text text) }
    | none => { data with configBinaryFiles := data.configBinaryFiles.insert key value }

def insertFile (data : MaterializedData) (index : ℕ) (resolved : ResolvedInjection)
    (value : Bytes) : Except MaterializationError MaterializedData := do
  ensure (validAbsolutePath resolved.item.target.toList) (.invalidTargetPath resolved.item.target)
  pure (data.placeFile index resolved value)

def insert (data : MaterializedData) (index : ℕ) (resolved : ResolvedInjection) :
    Except MaterializationError MaterializedData := do
  ensure (!data.targets.contains resolved.item.target) (.duplicateTarget resolved.item.target)
  let data := { data with targets := resolved.item.target :: data.targets }
  let value ← decodeValue resolved.item.value
  match resolved.item.kind with
  | .environmentVariable => data.insertEnvironment index resolved value
  | .secretFile | .configFile | .sshPublicKey => data.insertFile index resolved value

/-- The loop of `build`. -/
def insertAll (data : MaterializedData) (index : ℕ) :
    List ResolvedInjection → Except MaterializationError MaterializedData
  | [] => pure data
  | resolved :: rest => do
    let data ← data.insert index resolved
    data.insertAll (index + 1) rest

end MaterializedData

/-- A ConfigMap: its texts and its bytes. -/
structure ConfigMap where
  data : ExtTreeMap String ConfigText
  binaryData : ExtTreeMap String Bytes

structure InjectionMaterialization where
  environmentSecret : ExtTreeMap String Bytes
  environmentConfigMap : ExtTreeMap String String
  fileSecret : ExtTreeMap String Bytes
  fileConfigMap : ConfigMap
  environmentTargets : List String

def fileManifestKey : String := "workspace-files.json"

def environmentManifestKey : String := "workspace-environment.json"

def build (resolved : List ResolvedInjection) :
    Except MaterializationError InjectionMaterialization := do
  let data ← MaterializedData.empty.insertAll 0 resolved
  let configFiles := data.configFiles.insert fileManifestKey (.files 1 data.files)
  let configFiles := configFiles.insert environmentManifestKey (.environment 1 data.environment)
  pure {
    environmentSecret := data.secretEnvironment
    environmentConfigMap := data.configEnvironment
    fileSecret := data.secretFiles
    fileConfigMap := ⟨configFiles, data.configBinaryFiles⟩
    environmentTargets := data.environmentTargets }

/-! ### When the objects are built -/

/-- What the kind of an item asks of its target and value. -/
def MaterializableKind (item : InjectionItem) (value : Bytes) : Prop :=
  if item.kind = .environmentVariable then
    validEnvironmentName item.target.toList = true ∧
      ∃ text, Utf8.decode value = some text ∧ text.toList.any Text.isControl = false
  else validAbsolutePath item.target.toList = true

/-- What one item must satisfy on its own. -/
def Materializable (item : InjectionItem) : Prop :=
  ∃ value, item.value.bytes = some value ∧ MaterializableKind item value

variable {resolved : List ResolvedInjection}

namespace MaterializedData

/-- An item in its place. -/
def place (data : MaterializedData) (index : ℕ) (resolved : ResolvedInjection) (value : Bytes) :
    MaterializedData :=
  if resolved.item.kind = .environmentVariable then
    data.placeEnvironment index resolved value ((Utf8.decode value).getD "")
  else data.placeFile index resolved value

/-- The target of an item is remembered. -/
def addTarget (data : MaterializedData) (target : String) : MaterializedData :=
  { data with targets := target :: data.targets }

variable {data : MaterializedData} {index : ℕ} {resolved : ResolvedInjection} {value : Bytes}

@[simp] theorem targets_placeEnvironment {text : String} :
    (data.placeEnvironment index resolved value text).targets = data.targets := by
  simp only [placeEnvironment]
  split_ifs <;> rfl

@[simp] theorem targets_placeFile :
    (data.placeFile index resolved value).targets = data.targets := by
  simp only [placeFile]
  split
  · rfl
  · split <;> rfl

@[simp] theorem targets_place :
    (data.place index resolved value).targets = data.targets := by
  rw [place]
  split
  · exact targets_placeEnvironment
  · exact targets_placeFile

/-- An insertion succeeds when the target is new and the item passes its checks, and then the item
is in its place. -/
theorem insert_eq_ok {data data' : MaterializedData} :
    data.insert index resolved = .ok data' ↔
      resolved.item.target ∉ data.targets ∧ ∃ value, resolved.item.value.bytes = some value ∧
        MaterializableKind resolved.item value ∧
        data' = (data.addTarget resolved.item.target).place index resolved value := by
  have hkind : ∀ value, (match resolved.item.kind with
      | .environmentVariable =>
        (data.addTarget resolved.item.target).insertEnvironment index resolved value
      | .secretFile | .configFile | .sshPublicKey =>
        (data.addTarget resolved.item.target).insertFile index resolved value) = .ok data' ↔
      MaterializableKind resolved.item value ∧
        data' = (data.addTarget resolved.item.target).place index resolved value := by
    intro value
    rw [MaterializableKind, place]
    cases hk : resolved.item.kind with
    | environmentVariable =>
      simp only [insertEnvironment, ensure_bind_eq_ok, okOr_bind_eq_ok, pure_eq_ok,
        Bool.not_eq_true', if_true]
      constructor
      · rintro ⟨hname, text, htext, hcontrol, rfl⟩
        exact ⟨⟨hname, text, htext, hcontrol⟩, by rw [htext, Option.getD_some]⟩
      · rintro ⟨⟨hname, text, htext, hcontrol⟩, rfl⟩
        exact ⟨hname, text, htext, hcontrol, by rw [htext, Option.getD_some]⟩
    | secretFile | configFile | sshPublicKey =>
      simp only [insertFile, ensure_bind_eq_ok, pure_eq_ok, reduceCtorEq, if_false]
      exact and_congr_right' eq_comm
  simp only [insert, decodeValue, ensure_bind_eq_ok, okOr_bind_eq_ok, Bool.not_eq_true',
    List.contains_eq_mem, decide_eq_false_iff_not]
  exact and_congr_right' (exists_congr fun value => and_congr_right' (hkind value))

/-- Items that pass their own checks and have distinct new targets are inserted. -/
theorem insertAll_eq_ok_of {resolved : List ResolvedInjection}
    (hitems : ∀ r ∈ resolved, Materializable r.item)
    (hnodup : (resolved.map fun r => r.item.target).Nodup)
    (hnew : ∀ r ∈ resolved, r.item.target ∉ data.targets) :
    ∃ data', data.insertAll index resolved = .ok data' := by
  induction resolved generalizing data index with
  | nil => exact ⟨data, rfl⟩
  | cons r rest ih =>
    rw [List.map_cons, List.nodup_cons] at hnodup
    obtain ⟨value, hvalue, hkind⟩ := hitems r List.mem_cons_self
    have hinsert : data.insert index r
        = .ok ((data.addTarget r.item.target).place index r value) :=
      insert_eq_ok.2 ⟨hnew r List.mem_cons_self, value, hvalue, hkind, rfl⟩
    have hrest : ∀ x ∈ rest,
        x.item.target ∉ ((data.addTarget r.item.target).place index r value).targets := by
      intro x hx
      rw [targets_place, addTarget, List.mem_cons, not_or]
      refine ⟨fun heq => hnodup.1 ?_, hnew x (List.mem_cons_of_mem r hx)⟩
      rw [← heq]
      exact List.mem_map_of_mem (f := fun r => r.item.target) hx
    obtain ⟨data', hdata'⟩ :=
      ih (fun x hx => hitems x (List.mem_cons_of_mem r hx)) hnodup.2 hrest
    exact ⟨data', bind_eq_ok.2 ⟨_, hinsert, hdata'⟩⟩

end MaterializedData

theorem build_eq_ok_of (hitems : ∀ r ∈ resolved, Materializable r.item)
    (hnodup : (resolved.map fun r => r.item.target).Nodup) :
    ∃ materialization, build resolved = .ok materialization := by
  obtain ⟨data, hdata⟩ : ∃ data, MaterializedData.empty.insertAll 0 resolved = .ok data :=
    MaterializedData.insertAll_eq_ok_of hitems hnodup (by simp [MaterializedData.empty])
  exact ⟨_, bind_eq_ok.2 ⟨data, hdata, rfl⟩⟩

/-! ### Valid items -/

/-- What a valid item satisfies, as far as it is materialized. -/
structure ValidParts (checks : InjectionChecks) (item : InjectionItem) : Prop where
  key : '/' ∉ item.key.toList
  value : item.value.bytes.isSome = true
  kind : validateKind checks item = .ok ()

variable {c : Char} {candidates : List SshAccessCandidate} {checks : InjectionChecks}
  {item : InjectionItem} {selection : InjectionSelection} {target : String}
  {template : WorkspaceTemplateSpec} {x : ResolvedInjection}

theorem validParts_of_validate (h : validateInjectionItem checks item = .ok ()) :
    ValidParts checks item := by
  simp only [validateInjectionItem, validateInjectionKey, ensure_bind_eq_ok] at h
  obtain ⟨hkey, -, -, -, -, hrest⟩ := h
  obtain ⟨⟨⟩, hkind, hvalue⟩ := bind_eq_ok.1 hrest
  refine ⟨fun hslash => ?_, ?_, hkind⟩
  · simp only [Bool.and_eq_true] at hkey
    have hchar := List.all_eq_true.1 hkey.2 '/' hslash
    rw [checks.alphanumeric_slash] at hchar
    exact absurd hchar (by decide)
  · cases hv : item.value with
    | utf8 text => rfl
    | base64 text =>
      rw [hv] at hvalue
      exact ensure_eq_ok.1 hvalue

theorem validEnvironmentName_of_validate (h : validateEnvironmentTarget target = .ok ()) :
    validEnvironmentName target.toList = true := by
  unfold validateEnvironmentTarget at h
  unfold validEnvironmentName
  cases hchars : target.toList with
  | nil =>
    rw [hchars] at h
    cases h
  | cons first rest =>
    rw [hchars] at h
    exact ensure_eq_ok.1 h

theorem validAbsolutePath_of_validate (h : validateFileTarget target = .ok ()) :
    validAbsolutePath target.toList = true := by
  have hchecks := ensure_eq_ok.1 h
  simp only [Bool.and_eq_true] at hchecks
  simp only [validAbsolutePath, Bool.and_eq_true]
  exact ⟨hchecks.1.1, hchecks.2⟩

theorem ValidParts.fileTarget (h : ValidParts checks item)
    (hkind : item.kind ≠ .environmentVariable) :
    validateFileTarget item.target = .ok () := by
  have hvalid := h.kind
  unfold validateKind at hvalid
  cases hk : item.kind with
  | environmentVariable => exact absurd hk hkind
  | secretFile | configFile =>
    rw [hk] at hvalid
    exact hvalid
  | sshPublicKey =>
    rw [hk] at hvalid
    obtain ⟨⟨⟩, htarget, -⟩ := bind_eq_ok.1 hvalid
    exact htarget

theorem ValidParts.environment (h : ValidParts checks item)
    (hkind : item.kind = .environmentVariable) :
    validateEnvironmentTarget item.target = .ok () ∧
      validateEnvironmentValue item.value = .ok () := by
  have hvalid := h.kind
  unfold validateKind at hvalid
  rw [hkind] at hvalid
  obtain ⟨⟨⟩, htarget, hvalue⟩ := bind_eq_ok.1 hvalid
  exact ⟨htarget, hvalue⟩

theorem ValidParts.materializable (h : ValidParts checks item) : Materializable item := by
  obtain ⟨value, hvalue⟩ := Option.isSome_iff_exists.1 h.value
  refine ⟨value, hvalue, ?_⟩
  rw [MaterializableKind]
  split
  · rename_i hkind
    obtain ⟨htarget, hcontent⟩ := h.environment hkind
    simp only [validateEnvironmentValue, okOr_bind_eq_ok, ensure_eq_ok] at hcontent
    obtain ⟨bytes, hbytes, text, htext, hcontrol⟩ := hcontent
    obtain rfl : value = bytes := Option.some_inj.1 (hvalue.symm.trans hbytes)
    exact ⟨validEnvironmentName_of_validate htarget, text, htext, by simpa using hcontrol⟩
  · rename_i hkind
    exact validAbsolutePath_of_validate (h.fileTarget hkind)

/-! ### The platform's folder -/

/-- The folder of the public keys, in the home directory. -/
def platformFolder (template : WorkspaceTemplateSpec) : String :=
  template.workspaceHome ++ "/.mwc/"

theorem normalizeSshTarget_target (item : InjectionItem) (template : WorkspaceTemplateSpec)
    (name : String) :
    (normalizeSshTarget item template name).target
      = platformFolder template ++ (name ++ ".pub") := by
  simp only [normalizeSshTarget, platformFolder, String.append_assoc]

/-- The path of a file in the platform's folder is absolute and does not leave it. -/
theorem validAbsolutePath_platformFolder
    (hhome : validWorkspaceHome template.workspaceHome.toList = true) {name : String}
    (hslash : '/' ∉ name.toList) (hdots : name.toList ≠ ['.', '.']) :
    validAbsolutePath (platformFolder template ++ name).toList = true := by
  simp only [validWorkspaceHome, Bool.and_eq_true] at hhome
  obtain ⟨⟨⟨⟨⟨hhead, -⟩, -⟩, -⟩, -⟩, hparts⟩ := hhome
  have htext : (platformFolder template ++ name).toList
      = template.workspaceHome.toList ++ '/' :: (".mwc".toList ++ '/' :: name.toList) := by
    simp [platformFolder]
  have hhome' : ['.', '.'] ∉ Text.split '/' template.workspaceHome.toList := by
    intro hmem
    obtain ⟨rest, hrest⟩ := List.head?_eq_some_iff.1 (of_decide_eq_true hhead)
    rw [hrest, Text.split, if_pos rfl] at hmem hparts
    rcases List.mem_cons.1 hmem with h | h
    · cases h
    · exact absurd (List.all_eq_true.1 hparts _ h) (by decide)
  simp only [validAbsolutePath, Bool.and_eq_true, Bool.not_eq_true', List.contains_eq_mem,
    decide_eq_false_iff_not, htext]
  refine ⟨?_, ?_⟩
  · obtain ⟨rest, hrest⟩ := List.head?_eq_some_iff.1 (of_decide_eq_true hhead)
    rw [hrest]
    rfl
  · rw [Text.split_append_cons, Text.split_append_cons, Text.split_eq_singleton hslash,
      List.mem_append, List.mem_append, not_or, not_or]
    refine ⟨hhome', by decide, ?_⟩
    rw [List.mem_singleton]
    exact fun h => hdots h.symm

/-- A text with a slash in front is no name of a variable. -/
theorem ne_of_validEnvironmentName {name path : String}
    (hname : validEnvironmentName name.toList = true)
    (hpath : path.toList.head? = some '/') : name ≠ path := by
  rintro rfl
  obtain ⟨rest, hrest⟩ := List.head?_eq_some_iff.1 hpath
  rw [hrest] at hname
  simp [validEnvironmentName, isAlphabetic] at hname

/-! ### Names in the folder -/

theorem mem_of_split (separator : Char) {s : List Char} (hc : c ∈ s) :
    c = separator ∨ ∃ part ∈ Text.split separator s, c ∈ part := by
  induction s with
  | nil => cases hc
  | cons d rest ih =>
    by_cases hd : d = separator
    · rcases List.mem_cons.1 hc with rfl | hrest
      · exact .inl hd
      · rcases ih hrest with h | ⟨part, hpart, hmem⟩
        · exact .inl h
        · refine .inr ⟨part, ?_, hmem⟩
          rw [Text.split, if_pos hd]
          exact List.mem_cons_of_mem _ hpart
    · rw [Text.split, if_neg hd]
      cases hrest : Text.split separator rest with
      | nil => exact absurd hrest (Text.split_ne_nil separator rest)
      | cons first parts =>
        rcases List.mem_cons.1 hc with rfl | hmem
        · exact .inr ⟨c :: first, List.mem_cons_self, List.mem_cons_self⟩
        · rcases ih hmem with h | ⟨part, hpart, hin⟩
          · exact .inl h
          · rw [hrest] at hpart
            rcases List.mem_cons.1 hpart with rfl | hlater
            · exact .inr ⟨d :: part, List.mem_cons_self, List.mem_cons_of_mem d hin⟩
            · exact .inr ⟨part, List.mem_cons_of_mem _ hlater, hin⟩

/-- The groups of a UUID hold hexadecimal digits. -/
theorem Uuid.slash_notMem (id : Uuid) : '/' ∉ id.text.toList := by
  intro hmem
  have hcanonical := id.canonical
  simp only [canonicalUuid, Bool.and_eq_true] at hcanonical
  rcases mem_of_split '-' hmem with h | ⟨part, hpart, hin⟩
  · exact absurd h (by decide)
  · have hdigit := List.all_eq_true.1 (List.all_eq_true.1 hcanonical.2 part hpart) '/' hin
    exact absurd hdigit (by decide)

theorem notMem_repr (hc : c.isDigit = false) (n : ℕ) : c ∉ (Nat.repr n).toList := by
  intro hmem
  rw [Nat.toList_repr] at hmem
  rw [Nat.isDigit_of_mem_toDigits (by decide) (by decide) hmem] at hc
  exact Bool.noConfusion hc

theorem toList_accessName (userId : Uuid) (index : ℕ) :
    (accessName userId index).toList
      = "access".toList ++ '-' :: (userId.text.toList ++ '-' :: (Nat.repr index).toList) := by
  simp [accessName]

/-- The name of a shared key tells its user and its index. -/
theorem accessName_inj {userId userId' : Uuid} {index index' : ℕ}
    (h : accessName userId index = accessName userId' index') :
    userId = userId' ∧ index = index' := by
  have hlists := congrArg String.toList h
  rw [toList_accessName, toList_accessName, List.append_cancel_left_eq, List.cons.injEq] at hlists
  have hsplit := congrArg (Text.split '-') hlists.2
  rw [Text.split_append_cons, Text.split_append_cons,
    Text.split_eq_singleton (notMem_repr (by decide) index),
    Text.split_eq_singleton (notMem_repr (by decide) index')] at hsplit
  obtain ⟨huser, hindex⟩ := List.append_inj' hsplit rfl
  refine ⟨Uuid.text_injective (String.toList_injective (Text.split_injective '-' huser)), ?_⟩
  exact Nat.repr_inj.1 (String.toList_injective (List.singleton_inj.1 hindex))

theorem slash_notMem_accessName (userId : Uuid) (index : ℕ) :
    '/' ∉ (accessName userId index ++ ".pub").toList := by
  have huser := userId.slash_notMem
  have hindex := notMem_repr (c := '/') (by decide) index
  rw [String.toList_append, toList_accessName]
  simp only [List.mem_append, List.mem_cons, not_or]
  exact ⟨⟨by decide, by decide, huser, by decide, hindex⟩, by decide⟩

/-! ### Targets -/

theorem target_normalize_of_ssh (h : x.item.kind = .sshPublicKey) :
    (normalizeResolvedSshItem template x).item.target
      = platformFolder template ++ ("injected-" ++ x.item.key ++ ".pub") := by
  rw [normalizeResolvedSshItem, if_pos h]
  exact normalizeSshTarget_target x.item template ("injected-" ++ x.item.key)

theorem normalize_of_ne (h : x.item.kind ≠ .sshPublicKey) :
    normalizeResolvedSshItem template x = x := if_neg h

theorem target_sharedSshKey (template : WorkspaceTemplateSpec) (userId : Uuid) (index : ℕ)
    (item : InjectionItem) :
    (sharedSshKey template userId index item).item.target
      = platformFolder template ++ (accessName userId index ++ ".pub") :=
  normalizeSshTarget_target item template (accessName userId index)

theorem mem_sharedSshKeys (h : x ∈ sharedSshKeys template selection candidates) :
    ∃ candidate ∈ candidates, ∃ item ∈ candidate.items, ∃ index,
      item.kind = .sshPublicKey ∧ x = sharedSshKey template candidate.userId index item := by
  obtain ⟨candidate, hcandidate, hx⟩ := List.mem_flatMap.1 h
  obtain ⟨index, hindex, rfl⟩ := List.mem_mapIdx.1 hx
  have hitem := List.getElem_mem hindex
  obtain ⟨hselected, hkind⟩ := List.mem_filter.1 hitem
  exact ⟨candidate, (List.mem_filter.1 hcandidate).1, _, (List.mem_filter.1 hselected).1, index,
    of_decide_eq_true hkind, rfl⟩

/-- The shared keys have distinct targets when no user is a candidate twice. -/
theorem nodup_target_sharedSshKeys (h : (candidates.map SshAccessCandidate.userId).Nodup) :
    ((sharedSshKeys template selection candidates).map fun x => x.item.target).Nodup := by
  have hname : ∀ {userId userId' : Uuid} {index index' : ℕ} {item item' : InjectionItem},
      (sharedSshKey template userId index item).item.target
        = (sharedSshKey template userId' index' item').item.target →
      userId = userId' ∧ index = index' := by
    intro userId userId' index index' item item' heq
    rw [target_sharedSshKey, target_sharedSshKey, String.append_right_inj,
      String.append_left_inj] at heq
    exact accessName_inj heq
  rw [sharedSshKeys, List.map_flatMap, List.nodup_flatMap]
  refine ⟨fun candidate _ => ?_, ?_⟩
  · -- the keys of one candidate differ in their index
    rw [candidateKeys, List.Nodup, List.pairwise_iff_getElem]
    intro i j hi hj hij heq
    simp only [List.getElem_map, List.getElem_mapIdx] at heq
    exact absurd (hname heq).2 (Nat.ne_of_lt hij)
  · -- the keys of two candidates differ in their user
    have hdistinct : (candidates.filter fun candidate =>
        candidate.userId ≠ selection.ownerId).Pairwise fun a b => a.userId ≠ b.userId :=
      (List.pairwise_map.1 h).filter _
    refine hdistinct.imp fun {a b} hne => ?_
    intro target hmem hmem'
    obtain ⟨x, hx, rfl⟩ := List.mem_map.1 hmem
    obtain ⟨y, hy, heq⟩ := List.mem_map.1 hmem'
    obtain ⟨i, hi, rfl⟩ := List.mem_mapIdx.1 hx
    obtain ⟨j, hj, rfl⟩ := List.mem_mapIdx.1 hy
    exact hne (hname heq.symm).1

theorem materializable_of_platformFolder (name : String)
    (hhome : validWorkspaceHome template.workspaceHome.toList = true) (hslash : '/' ∉ name.toList)
    (hdots : name.toList ≠ ['.', '.']) (hkind : item.kind ≠ .environmentVariable)
    (htarget : item.target = platformFolder template ++ name)
    (hvalue : item.value.bytes.isSome = true) : Materializable item := by
  obtain ⟨value, hbytes⟩ := Option.isSome_iff_exists.1 hvalue
  refine ⟨value, hbytes, ?_⟩
  rw [MaterializableKind, if_neg hkind, htarget]
  exact validAbsolutePath_platformFolder hhome hslash hdots

/-- Variables and files are told apart by their targets. -/
theorem destinationKind_eq_of_target {i j : InjectionItem} (hi : ValidParts checks i)
    (hj : ValidParts checks j) (heq : i.target = j.target) :
    destinationKind i.kind = destinationKind j.kind := by
  have hmixed : ∀ {a b : InjectionItem}, ValidParts checks a → ValidParts checks b →
      a.kind = .environmentVariable → b.kind ≠ .environmentVariable → a.target ≠ b.target := by
    intro a b ha hb hakind hbkind
    refine ne_of_validEnvironmentName
      (validEnvironmentName_of_validate (ha.environment hakind).1) ?_
    have hpath := validAbsolutePath_of_validate (hb.fileTarget hbkind)
    simp only [validAbsolutePath, Bool.and_eq_true] at hpath
    exact of_decide_eq_true hpath.1
  by_cases hikind : i.kind = .environmentVariable
  · by_cases hjkind : j.kind = .environmentVariable
    · rw [hikind, hjkind]
    · exact absurd heq (hmixed hi hj hikind hjkind)
  · by_cases hjkind : j.kind = .environmentVariable
    · exact absurd heq.symm (hmixed hj hi hjkind hikind)
    · cases hi' : i.kind <;> cases hj' : j.kind <;> simp_all [destinationKind]

/-! ### The whole list -/

/-- An item of a scope that no more specific scope replaces. -/
def InjectionSources.Effective (sources : InjectionSources) (x : ResolvedInjection) : Prop :=
  x.item ∈ sources.items x.source ∧
    ∀ scope, x.source.rank < scope.rank → ∀ i ∈ sources.items scope,
      i.destination ≠ x.destination

/-- What keeps the effective items apart: two public keys have different keys, and no other item is
where a public key of the workspace or a shared one is moved to. -/
structure KeysApart (sources : InjectionSources) (template : WorkspaceTemplateSpec)
    (shared : List ResolvedInjection) : Prop where
  keys : ∀ x y, sources.Effective x → sources.Effective y → x.item.kind = .sshPublicKey →
    y.item.kind = .sshPublicKey → x.item.key = y.item.key → x = y
  folder : ∀ x y, sources.Effective x → sources.Effective y → x.item.kind = .sshPublicKey →
    y.item.kind ≠ .sshPublicKey →
    y.item.target ≠ platformFolder template ++ ("injected-" ++ x.item.key ++ ".pub")
  shared : ∀ x ∈ shared, ∀ y, sources.Effective y → y.item.kind ≠ .sshPublicKey →
    y.item.target ≠ x.item.target

section Targets

variable {checks : InjectionChecks} {shared : List ResolvedInjection} {sources : InjectionSources}

/-- The resolved items have distinct targets after the public keys were moved. -/
theorem KeysApart.nodup_target (hapart : KeysApart sources template shared)
    (hvalid : ∀ scope, ∀ i ∈ sources.items scope, validateInjectionItem checks i = .ok ())
    (hsep : sources.Separate) :
    ((normalizeResolvedSshItems (Overlay.values sources.cascade) template).map fun x =>
      x.item.target).Nodup := by
  have hnodup := Overlay.nodup_keys_values (InjectionSources.wellKeyed_cascade sources)
  have heffective : ∀ x ∈ Overlay.values sources.cascade, sources.Effective x :=
    fun x hx => (InjectionSources.mem_values_cascade hsep).1 hx
  rw [normalizeResolvedSshItems, List.map_map]
  refine (List.nodup_map_iff_inj_on hnodup.of_map).2 ?_
  intro x hx y hy heq
  simp only [Function.comp_apply] at heq
  by_cases hxssh : x.item.kind = .sshPublicKey
  · rw [target_normalize_of_ssh hxssh] at heq
    by_cases hyssh : y.item.kind = .sshPublicKey
    · rw [target_normalize_of_ssh hyssh, String.append_right_inj, String.append_left_inj,
        String.append_right_inj] at heq
      exact hapart.keys x y (heffective x hx) (heffective y hy) hxssh hyssh heq
    · rw [normalize_of_ne hyssh] at heq
      exact absurd heq.symm
        (hapart.folder x y (heffective x hx) (heffective y hy) hxssh hyssh)
  · rw [normalize_of_ne hxssh] at heq
    by_cases hyssh : y.item.kind = .sshPublicKey
    · rw [target_normalize_of_ssh hyssh] at heq
      exact absurd heq (hapart.folder y x (heffective y hy) (heffective x hx) hyssh hxssh)
    · -- two other items: variables and files are told apart by their targets
      rw [normalize_of_ne hyssh] at heq
      refine List.inj_on_of_nodup_map hnodup hx hy ?_
      have hkinds : destinationKind x.item.kind = destinationKind y.item.kind :=
        destinationKind_eq_of_target
          (validParts_of_validate (hvalid _ _ (heffective x hx).1))
          (validParts_of_validate (hvalid _ _ (heffective y hy).1)) heq
      simp only [ResolvedInjection.destination, InjectionItem.destination, hkinds, heq]

/-- Items with distinct targets are apart. -/
theorem KeysApart.of_nodup (hsep : sources.Separate)
    (hnodup : ((normalizeResolvedSshItems (Overlay.values sources.cascade) template ++ shared).map
      fun x => x.item.target).Nodup) : KeysApart sources template shared := by
  rw [List.map_append, normalizeResolvedSshItems, List.map_map] at hnodup
  obtain ⟨hitems, -, hdisjoint⟩ := List.nodup_append.1 hnodup
  have hmem : ∀ x, sources.Effective x → x ∈ Overlay.values sources.cascade :=
    fun x hx => (InjectionSources.mem_values_cascade hsep).2 hx
  refine ⟨fun x y hx hy hxssh hyssh hkey => ?_, fun x y hx hy hxssh hyssh htarget => ?_,
    fun x hx y hy hyssh htarget => ?_⟩
  · refine List.inj_on_of_nodup_map hitems (hmem x hx) (hmem y hy) ?_
    rw [Function.comp_apply, Function.comp_apply, target_normalize_of_ssh hxssh,
      target_normalize_of_ssh hyssh, hkey]
  · have hsame : y = x := by
      refine List.inj_on_of_nodup_map hitems (hmem y hy) (hmem x hx) ?_
      rw [Function.comp_apply, Function.comp_apply, target_normalize_of_ssh hxssh,
        normalize_of_ne hyssh, htarget]
    exact hyssh (hsame ▸ hxssh)
  · refine hdisjoint _ (List.mem_map_of_mem (hmem y hy)) _
      (List.mem_map_of_mem (f := fun x => x.item.target) hx) ?_
    rw [Function.comp_apply, normalize_of_ne hyssh, htarget]

theorem materializable_normalize (hvalid : ∀ scope, ∀ i ∈ sources.items scope,
      validateInjectionItem checks i = .ok ())
    (hhome : validWorkspaceHome template.workspaceHome.toList = true)
    (hresolved : sources.resolve = .ok resolved) :
    ∀ x ∈ normalizeResolvedSshItems resolved template, Materializable x.item := by
  have hstored := InjectionSources.stored_of_resolve hresolved
  obtain ⟨hsep, -, rfl⟩ := (InjectionSources.resolve_eq_ok hstored).1 hresolved
  intro x hx
  obtain ⟨y, hy, rfl⟩ := List.mem_map.1 hx
  have hparts := validParts_of_validate
    (hvalid _ _ ((InjectionSources.mem_values_cascade hsep).1 hy).1)
  by_cases hssh : y.item.kind = .sshPublicKey
  · refine materializable_of_platformFolder ("injected-" ++ y.item.key ++ ".pub") hhome
      ?_ ?_ ?_ (target_normalize_of_ssh hssh) ?_
    · simp [hparts.key]
    · simp
    · simp [normalizeResolvedSshItem, normalizeSshTarget, hssh]
    · rw [normalizeResolvedSshItem, if_pos hssh]
      exact hparts.value
  · rw [normalize_of_ne hssh]
    exact hparts.materializable

end Targets

/-- **When valid items that the cascade resolves are materialized.**  No two items have the same
target, and the objects are built, if and only if the effective items are apart. -/
theorem materialization_succeeds (checks : InjectionChecks) (sources : InjectionSources)
    (selection : InjectionSelection) (refs : WorkspaceInjectionRefs)
    (template : WorkspaceTemplateSpec) (candidates : List SshAccessCandidate)
    (hvalid : ∀ scope, ∀ i ∈ sources.items scope, validateInjectionItem checks i = .ok ())
    (hcandidates : ∀ candidate ∈ candidates, ∀ i ∈ candidate.items,
      validateInjectionItem checks i = .ok ())
    (hdistinct : (candidates.map SshAccessCandidate.userId).Nodup)
    (hhome : validWorkspaceHome template.workspaceHome.toList = true)
    {resolved : List ResolvedInjection}
    (hresolved : resolveWorkspaceInjections sources selection refs template candidates
      = .ok resolved) :
    ((resolved.map fun x => x.item.target).Nodup ∧
      ∃ materialization, build resolved = .ok materialization) ↔
    KeysApart (sources.select selection refs) template
      (sharedSshKeys template selection candidates) := by
  obtain ⟨items, hitems, hpure⟩ := bind_eq_ok.1 hresolved
  obtain rfl := pure_eq_ok.1 hpure
  have hselected : ∀ scope, ∀ i ∈ (sources.select selection refs).items scope,
      validateInjectionItem checks i = .ok () := fun scope i hi =>
    hvalid scope i ((InjectionSources.select_sublist selection refs scope).subset hi)
  have hstored := InjectionSources.stored_of_resolve hitems
  obtain ⟨hsep, -, hvalues⟩ := (InjectionSources.resolve_eq_ok hstored).1 hitems
  refine ⟨fun h => KeysApart.of_nodup hsep (hvalues ▸ h.1), fun hapart => ?_⟩
  have hnodup : ((normalizeResolvedSshItems items template ++
      sharedSshKeys template selection candidates).map fun x => x.item.target).Nodup := by
    rw [List.map_append, hvalues]
    refine (hapart.nodup_target hselected hsep).append (nodup_target_sharedSshKeys hdistinct) ?_
    intro target hmem hshared
    obtain ⟨x, hx, rfl⟩ := List.mem_map.1 hmem
    obtain ⟨y, hy, heq⟩ := List.mem_map.1 hshared
    obtain ⟨z, hz, rfl⟩ := List.mem_map.1 hx
    by_cases hssh : z.item.kind = .sshPublicKey
    · -- a shared key and an injected one have different names
      obtain ⟨candidate, -, item, -, index, -, rfl⟩ := mem_sharedSshKeys hy
      rw [target_sharedSshKey, target_normalize_of_ssh hssh, String.append_right_inj] at heq
      have hlists := congrArg String.toList heq
      simp [accessName] at hlists
    · rw [normalize_of_ne hssh] at heq
      exact hapart.shared y hy z ((InjectionSources.mem_values_cascade hsep).1 hz) hssh heq.symm
  refine ⟨hnodup, build_eq_ok_of ?_ hnodup⟩
  intro x hx
  rcases List.mem_append.1 hx with hx | hx
  · exact materializable_normalize hselected hhome hitems x hx
  · obtain ⟨candidate, hcandidate, item, hitem, index, hkind, rfl⟩ := mem_sharedSshKeys hx
    have hparts := validParts_of_validate (hcandidates candidate hcandidate item hitem)
    refine materializable_of_platformFolder (accessName candidate.userId index ++ ".pub")
      hhome (slash_notMem_accessName _ _) ?_ ?_ (target_sharedSshKey _ _ _ _) ?_
    · simp [accessName]
    · simp [sharedSshKey, normalizeSshTarget, hkind]
    · exact hparts.value

/-! ### Samples -/

def sampleTemplateSpec : WorkspaceTemplateSpec :=
  { sampleDocument.spec with workspaceHome := "/home/dev" }

def sampleKey : InjectionItem :=
  { samplePolicy with
    key := "laptop", kind := .sshPublicKey, target := "/keys/laptop", locked := false
    value := .utf8 "ssh-ed25519 AAAAC3NzaC1lZDI1NTE5AAAAIAEBAQEBAQEBAQEBAQEBAQEBAQEBAQEBAQEBAQEBAQEB" }

/-- The user's key, and a key that another user shares. -/
theorem materialization_succeeds_sample :
    ∃ materialization, build
      [normalizeResolvedSshItem sampleTemplateSpec ⟨.user, sampleKey⟩,
        sharedSshKey sampleTemplateSpec sampleSelection.organizationId 0 sampleKey]
      = .ok materialization := by
  have hvalid : validateInjectionItem asciiChecks sampleKey = .ok () := by decide +kernel
  have hresolved : resolveWorkspaceInjections ⟨[], [sampleKey], []⟩ sampleSelection ⟨none, none⟩
      sampleTemplateSpec [⟨sampleSelection.organizationId, [sampleKey]⟩]
      = .ok [normalizeResolvedSshItem sampleTemplateSpec ⟨.user, sampleKey⟩,
        sharedSshKey sampleTemplateSpec sampleSelection.organizationId 0 sampleKey] := by
    decide +kernel
  have hone : ∀ scope, ∀ i ∈ InjectionSources.items ⟨[], [sampleKey], []⟩ scope,
      scope = .user ∧ i = sampleKey := by
    intro scope
    cases scope <;> simp [InjectionSources.items]
  have heffective : ∀ x, (InjectionSources.select ⟨[], [sampleKey], []⟩ sampleSelection
      ⟨none, none⟩).Effective x → x = ⟨.user, sampleKey⟩ := by
    rintro ⟨source, item⟩ ⟨hitem, -⟩
    obtain ⟨rfl, rfl⟩ := hone source item ((InjectionSources.select_sublist _ _ source).subset hitem)
    rfl
  have happly := materialization_succeeds asciiChecks _ _ _ _ _ ?_ ?_ ?_ ?_ hresolved
  · refine (happly.2 ⟨fun x y hx hy _ _ _ => ?_, fun x y hx hy _ hkind => ?_,
      fun x _ y hy hkind => ?_⟩).2
    · rw [heffective x hx, heffective y hy]
    · exact absurd (congrArg (fun z => z.item.kind) (heffective y hy)) hkind
    · exact absurd (congrArg (fun z => z.item.kind) (heffective y hy)) hkind
  · intro scope i hi
    rw [(hone scope i hi).2]
    exact hvalid
  · intro candidate hcandidate i hi
    rw [List.mem_singleton.1 hcandidate] at hi
    rw [List.mem_singleton.1 hi]
    exact hvalid
  · simp
  · decide +kernel

/-- Keys are distinct within a scope only: the public keys of an organization and of a user with
the same key and different targets pass the cascade, and then both are moved to one path. -/
theorem same_key_in_two_scopes :
    ∃ (sources : InjectionSources) (resolved : List ResolvedInjection),
      (∀ scope, ∀ item ∈ sources.items scope, validateInjectionItem asciiChecks item = .ok ()) ∧
        sources.Stored ∧
        resolveWorkspaceInjections sources sampleSelection ⟨none, none⟩ sampleTemplateSpec []
          = .ok resolved ∧
        ¬ (resolved.map fun x => x.item.target).Nodup ∧
        (build resolved).toOption.isNone = true := by
  refine ⟨⟨[sampleKey], [{ sampleKey with target := "/keys/other" }], []⟩,
    [normalizeResolvedSshItem sampleTemplateSpec ⟨.organization, sampleKey⟩,
      normalizeResolvedSshItem sampleTemplateSpec
        ⟨.user, { sampleKey with target := "/keys/other" }⟩], ?_, ⟨?_, ?_, ?_⟩, ?_, ?_, ?_⟩
  · intro scope
    cases scope <;> decide +kernel
  · intro scope
    cases scope <;> decide
  · intro scope
    cases scope <;> decide
  · intro scope
    cases scope <;> decide
  · decide +kernel
  · decide +kernel
  · decide +kernel

end WorkspaceControl
