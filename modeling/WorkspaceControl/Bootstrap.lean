/-
**Compression and the bootstrap of a workspace.**

`src/src/kubernetes/materialization/dictionary.rs` packs large files of the ConfigMap into
dictionaries; `src/images/workspace-base/mwc-workspace-bootstrap` reads the manifests inside the
workspace, writes the files, collects the public keys and passes the variables to SSH sessions.

Main definitions:

* `encodeDictionary`, `compress` — the packing.  The sizes of JSON texts decide whether a
  dictionary pays; `JsonSizes` stands for them;
* `syncInjectedFiles`, `sshEnvironment` — what the bootstrap makes of the projected objects.

Main results:

* `decodeInjectedDictionary_encode` — a dictionary gives its text back;
* `insertAll_holds` — every value is under its data key after the loop of `build`;
* `compress_readsLike` — compression succeeds and does not change what the bootstrap reads;
* `materialized_round_trip` — **the bootstrap reads exactly what was resolved, up to the variables
  that it keeps for the platform, and no ConfigMap depends on a sensitive value**.
-/
import WorkspaceControl.Interning
import WorkspaceControl.Materialization

set_option autoImplicit false

namespace WorkspaceControl

open ByteText Fallible Std

/-! ### Compression -/

/-- The lengths of printed JSON: a dictionary printed twice, and a text printed once. -/
structure JsonSizes where
  dictionary : Dictionary → ℕ
  text : String → ℕ

def dictionaryEncoding : String := "dictionary_v1"

/-- The pieces of a file: lines, cut once more after each literal newline escape. -/
def dictionaryChunks (value : String) : List String :=
  ((Interning.splitInclusive ['\n'] value.toList).flatMap
    (Interning.splitInclusive ['\\', 'n'])).map String.ofList

/-- `dictionary::encode`: small files, and files that do not save a quarter, are left alone. -/
def encodeDictionary (sizes : JsonSizes) (value : String) : Option Dictionary :=
  if (Utf8.encode value).length < 64 * 1024 then none
  else
    let packed := Interning.pack [] (dictionaryChunks value)
    let dictionary : Dictionary := ⟨1, packed.1, packed.2⟩
    if sizes.dictionary dictionary * 4 < sizes.text value * 3 then some dictionary else none

/-- What becomes of an entry and of the texts. -/
def compressEntry (sizes : JsonSizes) (original result : ExtTreeMap String ConfigText)
    (entry : FileManifestEntry) :
    Except MaterializationError (ExtTreeMap String ConfigText × FileManifestEntry) :=
  if entry.object ≠ .configMap || entry.kind ≠ .configFile then pure (result, entry)
  else if entry.encoding = some dictionaryEncoding then pure (result, entry)
  else if entry.encoding ≠ none then throw .invalidFileManifest
  else
    match original[entry.dataKey]? with
    | some (.text value) =>
      match encodeDictionary sizes value with
      | some dictionary =>
        pure (result.insert entry.dataKey (.dictionary dictionary),
          { entry with
            encoding := some dictionaryEncoding
            decodedBytes := some (Utf8.encode value).length })
      | none => pure (result, entry)
    | _ => pure (result, entry)

/-- The loop of `compress`. -/
def compressEntries (sizes : JsonSizes) (original result : ExtTreeMap String ConfigText) :
    List FileManifestEntry →
      Except MaterializationError (ExtTreeMap String ConfigText × List FileManifestEntry)
  | [] => pure (result, [])
  | entry :: rest => do
    let first ← compressEntry sizes original result entry
    let others ← compressEntries sizes original first.1 rest
    pure (others.1, first.2 :: others.2)

/-- `dictionary::compress`; the manifest is printed again only when an entry has changed. -/
def compress (sizes : JsonSizes) (original : ConfigMap) :
    Except MaterializationError ConfigMap :=
  match original.data[fileManifestKey]? with
  | some (.files version files) => do
    let packed ← compressEntries sizes original.data original.data files
    if packed.2 = files then pure { original with data := packed.1 }
    else pure { original with data := packed.1.insert fileManifestKey (.files version packed.2) }
  | _ => throw .invalidFileManifest

/-! ### The bootstrap -/

/-- What the workspace runs as, and what the platform provides in it. -/
structure BootstrapPlatform where
  workspaceUser : String
  workspaceGroup : String
  inClusterKubeconfig : Bool
  buildkitEnabled : Bool

/-- The projected volumes: a data key is a file of its object. -/
def projected (secret : ExtTreeMap String Bytes) (config : ConfigMap) :
    InjectionObject → String → Option Bytes
  | .secret, key => secret[key]?
  | .configMap, key =>
    match config.data[key]? with
    | some (.text text) => some (Utf8.encode text)
    | some _ => none
    | none => config.binaryData[key]?

/-- A shell variable holds no NUL. -/
def shellText (text : String) : String :=
  String.ofList (text.toList.filter fun c => c ≠ Char.ofNat 0)

/-- `$(cat file)`: without NULs and without the newlines at the end. -/
def shellValue (bytes : Bytes) : Bytes :=
  ((bytes.filter fun b => b ≠ 0).reverse.dropWhile fun b => b = 10).reverse

/-- A value of the manifest, or a default when it is absent or empty. -/
def shellOr (value : Option String) (default : String) : String :=
  if shellText (value.getD "") = "" then default else shellText (value.getD "")

/-- A file that the bootstrap has read. -/
structure InjectedFile where
  kind : InjectionKind
  target : String
  bytes : Bytes
  mode : ℕ
  owner : String
  group : String

def decodeInjectedDictionary (config : ConfigMap) (entry : FileManifestEntry) : Option Bytes :=
  match entry.decodedBytes, config.data[entry.dataKey]? with
  | some expected, some (.dictionary dictionary) =>
    if dictionary.version ≠ 1 then none
    else
      match Interning.unpack dictionary.chunks dictionary.order with
      | some chunks =>
        let bytes := chunks.flatMap Utf8.encode
        if bytes.length = expected then some bytes else none
      | none => none
  | _, _ => none

/-- The content of an entry, as its encoding says. -/
def entryBytes (secret : ExtTreeMap String Bytes) (config : ConfigMap)
    (entry : FileManifestEntry) : Option Bytes :=
  if entry.encoding.getD "" = "" then projected secret config entry.object entry.dataKey
  else if entry.encoding = some dictionaryEncoding && entry.object = .configMap &&
      entry.kind = .configFile then decodeInjectedDictionary config entry
  else none

/-- The mode of a file that does not name one. -/
def defaultMode : InjectionObject → ℕ
  | .secret => 384
  | .configMap => 420

def decodeEntry (platform : BootstrapPlatform) (secret : ExtTreeMap String Bytes)
    (config : ConfigMap) (entry : FileManifestEntry) : Option InjectedFile :=
  (entryBytes secret config entry).map fun bytes =>
    { kind := entry.kind
      target := shellText entry.target
      bytes := bytes
      mode := entry.mode.getD (defaultMode entry.object)
      owner := shellOr entry.owner platform.workspaceUser
      group := shellOr entry.group platform.workspaceGroup }

/-- What a complete attempt writes: files, and lines of `authorized_keys`. -/
structure InjectedFiles where
  files : List InjectedFile
  authorizedKeys : List Bytes

/-- A public key is a line of `authorized_keys`; every other entry is written to its target. -/
def InjectedFiles.of (decoded : List InjectedFile) : InjectedFiles where
  files := decoded.filter fun file => file.kind ≠ .sshPublicKey
  authorizedKeys := (decoded.filter fun file => file.kind = .sshPublicKey).map fun file =>
    file.bytes ++ [10]

/-- `sync_injected_files`, when no entry fails. -/
def syncInjectedFiles (platform : BootstrapPlatform) (secret : ExtTreeMap String Bytes)
    (config : ConfigMap) : Option InjectedFiles :=
  match config.data[fileManifestKey]? with
  | some (.files _ entries) =>
    (entries.mapM (decodeEntry platform secret config)).map InjectedFiles.of
  | _ => none

/-- The variables that belong to the image and to the platform. -/
def platformNames : List String :=
  ["PATH", "HOME", "RUSTUP_HOME", "CARGO_HOME", "NPM_CONFIG_CACHE", "TMPDIR", "TMP", "TEMP",
    "XDG_CACHE_HOME", "CARGO_TARGET_DIR", "MWC_WORKSPACE_USER", "MWC_WORKSPACE_HOME",
    "MWC_IN_CLUSTER_KUBECONFIG", "MWC_BUILDKIT_ENABLED", "MWC_BUILD_SCRATCH",
    "MWC_HOME_RESERVE_MIB", "MWC_DESKTOP_ENABLED", "MWC_DESKTOP_PORT"]

/-- The names that SSH sessions do not take from an injection. -/
def BootstrapPlatform.keeps (platform : BootstrapPlatform) (name : String) : Bool :=
  platformNames.contains name || (name = "KUBECONFIG" && platform.inClusterKubeconfig) ||
    (name = "BUILDKIT_HOST" && platform.buildkitEnabled)

/-- `prepare_runtime_sshd_config`: the assignments of the injected variables. -/
def sshEnvironment (platform : BootstrapPlatform) (secret : ExtTreeMap String Bytes)
    (config : ConfigMap) : Option (List (String × Bytes)) :=
  match config.data[environmentManifestKey]? with
  | some (.environment _ entries) =>
    (entries.filter fun entry => !platform.keeps entry.name).mapM fun entry =>
      (projected secret config entry.object entry.dataKey).map fun bytes =>
        (entry.name, shellValue bytes)
  | _ => none

/-! ### Data keys -/

theorem ofDigitChars_replicate (n : ℕ) (l : List Char) :
    Nat.ofDigitChars 10 (List.replicate n '0' ++ l) 0 = Nat.ofDigitChars 10 l 0 := by
  induction n with
  | zero => rfl
  | succ n ih =>
    rw [List.replicate_succ, List.cons_append, Nat.ofDigitChars, List.foldl_cons]
    exact ih

/-- An index is read back from its digits: leading zeros do not change it. -/
theorem paddedIndex_injective : Function.Injective paddedIndex := by
  intro i j h
  have hvalue : ∀ n, Nat.ofDigitChars 10 (paddedIndex n) 0 = n := by
    intro n
    rw [paddedIndex, List.leftpad, ofDigitChars_replicate, Nat.ofDigitChars_ten_toDigits]
  rw [← hvalue i, h, hvalue]

theorem dataKey_injective (kind : String) : Function.Injective (dataKey kind) := by
  intro i j h
  have hlists := congrArg String.toList h
  simp only [dataKey, String.toList_append, List.append_assoc, String.toList_ofList,
    List.append_cancel_left_eq] at hlists
  exact paddedIndex_injective hlists

theorem dataKey_env_ne_file (i j : ℕ) : dataKey "env" i ≠ dataKey "file" j := by
  intro h
  have hlists := congrArg String.toList h
  simp [dataKey] at hlists

/-- The manifests are not under data keys. -/
theorem manifestKey_ne_dataKey (i : ℕ) :
    fileManifestKey ≠ dataKey "env" i ∧ fileManifestKey ≠ dataKey "file" i ∧
      environmentManifestKey ≠ dataKey "env" i ∧ environmentManifestKey ≠ dataKey "file" i := by
  refine ⟨fun h => ?_, fun h => ?_, fun h => ?_, fun h => ?_⟩ <;>
    simpa [dataKey, fileManifestKey, environmentManifestKey] using congrArg String.toList h

/-! ### Where the values are -/

variable {items : List ResolvedInjection} {data' : MaterializedData}

namespace MaterializedData

/-- What a data key holds so far. -/
def held (data : MaterializedData) : InjectionObject → String → Option Bytes :=
  projected data.secretFiles ⟨data.configFiles, data.configBinaryFiles⟩

/-- No text is under the data keys of later files. -/
def Fresh (data : MaterializedData) (index : ℕ) : Prop :=
  ∀ j, index ≤ j → data.configFiles[dataKey "file" j]? = none

/-- The variables that are kept. -/
def isVariable (resolved : ResolvedInjection) : Bool :=
  resolved.item.kind = .environmentVariable && resolved.item.target ≠ "RUSTUP_HOME"

def isFile (resolved : ResolvedInjection) : Bool := resolved.item.kind ≠ .environmentVariable

/-- The entry of a variable. -/
def environmentEntry (index : ℕ) (resolved : ResolvedInjection) : EnvironmentManifestEntry where
  name := resolved.item.target
  source := resolved.source
  object := if resolved.item.sensitive then .secret else .configMap
  dataKey := dataKey "env" index

section Place

variable {data : MaterializedData} {index : ℕ} {resolved : ResolvedInjection} {value : Bytes}

theorem files_place :
    (data.place index resolved value).files
      = data.files ++ if isFile resolved then [fileEntry index resolved] else [] := by
  by_cases hkind : resolved.item.kind = .environmentVariable
  · simp only [place, placeEnvironment, isFile, hkind, if_true]
    split_ifs <;> simp_all
  · simp only [place, placeFile, isFile, hkind, if_false]
    split
    · simp [hkind]
    · split <;> simp [hkind]

theorem environment_place :
    (data.place index resolved value).environment
      = data.environment ++
        if isVariable resolved then [environmentEntry index resolved] else [] := by
  by_cases hkind : resolved.item.kind = .environmentVariable
  · simp only [place, placeEnvironment, isVariable, hkind, if_true]
    split_ifs <;> simp_all [environmentEntry]
  · simp only [place, placeFile, isVariable, hkind, if_false]
    split
    · simp
    · split <;> simp

/-- A placement writes under its own data key only. -/
theorem getElem?_place_of_ne {key : String} (henv : key ≠ dataKey "env" index)
    (hfile : key ≠ dataKey "file" index) :
    (data.place index resolved value).secretFiles[key]? = data.secretFiles[key]? ∧
      (data.place index resolved value).configFiles[key]? = data.configFiles[key]? ∧
      (data.place index resolved value).configBinaryFiles[key]?
        = data.configBinaryFiles[key]? := by
  have henv' : compare (dataKey "env" index) key ≠ .eq :=
    fun h => henv (LawfulEqOrd.eq_of_compare h).symm
  have hfile' : compare (dataKey "file" index) key ≠ .eq :=
    fun h => hfile (LawfulEqOrd.eq_of_compare h).symm
  simp only [place, placeEnvironment, placeFile]
  split
  · split
    · exact ⟨rfl, rfl, rfl⟩
    · split <;> simp [ExtTreeMap.getElem?_insert, henv']
  · split
    · simp [ExtTreeMap.getElem?_insert, hfile']
    · split <;> simp [ExtTreeMap.getElem?_insert, hfile']

theorem fresh_place (h : data.Fresh index) : (data.place index resolved value).Fresh (index + 1) := by
  intro j hj
  have hne : dataKey "file" j ≠ dataKey "file" index :=
    fun heq => absurd (dataKey_injective "file" heq) (by omega)
  rw [(getElem?_place_of_ne (dataKey_env_ne_file index j).symm hne).2.1]
  exact h j (by omega)

theorem held_place_file (hfresh : data.Fresh index) (hfile : isFile resolved = true) :
    (data.place index resolved value).held (fileEntry index resolved).object
      (dataKey "file" index) = some value := by
  have hkind : resolved.item.kind ≠ .environmentVariable := by simpa [isFile] using hfile
  rw [place, if_neg hkind, placeFile, fileEntry]
  cases hsecret : useSecret resolved.item with
  | true => simp [held, projected]
  | false =>
    cases htext : Utf8.decode value with
    | some text =>
      simp only [Bool.false_eq_true, if_false, held, projected,
        ExtTreeMap.getElem?_insert_self]
      rw [Utf8.decode_eq_some.1 htext]
    | none =>
      have hnone := hfresh index le_rfl
      simp [held, projected, hnone]

theorem held_place_variable (hvariable : isVariable resolved = true)
    (hkind : MaterializableKind resolved.item value) :
    (data.place index resolved value).held (environmentEntry index resolved).object
      (dataKey "env" index) = some value := by
  simp only [isVariable, Bool.and_eq_true, decide_eq_true_eq] at hvariable
  obtain ⟨henv, hname⟩ := hvariable
  rw [MaterializableKind, if_pos henv] at hkind
  obtain ⟨-, text, htext, -⟩ := hkind
  rw [place, if_pos henv, placeEnvironment, if_neg hname, environmentEntry]
  cases hsensitive : resolved.item.sensitive with
  | true => simp [held, projected]
  | false =>
    simp only [Bool.false_eq_true, if_false, held, projected, ExtTreeMap.getElem?_insert_self,
      htext, Option.getD_some]
    rw [Utf8.decode_eq_some.1 htext]

end Place

/-- The entry of a file, with its value under its data key. -/
def HeldFile (data : MaterializedData) (resolved : ResolvedInjection)
    (entry : FileManifestEntry) : Prop :=
  ∃ index value, entry = fileEntry index resolved ∧ resolved.item.value.bytes = some value ∧
    data.held entry.object entry.dataKey = some value

/-- The entry of a variable, with its value under its data key. -/
def HeldVariable (data : MaterializedData) (resolved : ResolvedInjection)
    (entry : EnvironmentManifestEntry) : Prop :=
  ∃ index value, entry = environmentEntry index resolved ∧ isVariable resolved = true ∧
    resolved.item.value.bytes = some value ∧ MaterializableKind resolved.item value ∧
    data.held entry.object entry.dataKey = some value

/-- What the loop has made of a list. -/
structure Holds (data data' : MaterializedData) (index : ℕ) (items : List ResolvedInjection)
    (files : List FileManifestEntry) (environment : List EnvironmentManifestEntry) : Prop where
  files_eq : data'.files = data.files ++ files
  environment_eq : data'.environment = data.environment ++ environment
  held_files : List.Forall₂ (HeldFile data') (items.filter isFile) files
  held_variables : List.Forall₂ (HeldVariable data') (items.filter isVariable) environment
  file_keys : ∀ entry ∈ files, ∃ j, index ≤ j ∧ entry.dataKey = dataKey "file" j
  environment_keys : ∀ entry ∈ environment, ∃ j, entry.dataKey = dataKey "env" j
  distinct : (files.map FileManifestEntry.dataKey).Nodup
  others : ∀ key, (∀ j, index ≤ j → key ≠ dataKey "env" j ∧ key ≠ dataKey "file" j) →
    data'.secretFiles[key]? = data.secretFiles[key]? ∧
      data'.configFiles[key]? = data.configFiles[key]? ∧
      data'.configBinaryFiles[key]? = data.configBinaryFiles[key]?

/-- After the loop every value is under its data key, and every kept item has an entry. -/
theorem insertAll_holds {data : MaterializedData} {index : ℕ} (hfresh : data.Fresh index)
    (h : data.insertAll index items = .ok data') :
    ∃ files environment, Holds data data' index items files environment := by
  induction items generalizing data index with
  | nil =>
    obtain rfl := pure_eq_ok.1 h
    exact ⟨[], [], (List.append_nil _).symm, (List.append_nil _).symm, .nil, .nil,
      by simp, by simp, List.nodup_nil, fun _ _ => ⟨rfl, rfl, rfl⟩⟩
  | cons r rest ih =>
    obtain ⟨data₁, hinsert, hrest⟩ := bind_eq_ok.1 h
    obtain ⟨-, value, hvalue, hkind, rfl⟩ := insert_eq_ok.1 hinsert
    have hfresh' : (data.addTarget r.item.target).Fresh index := hfresh
    obtain ⟨files, environment, hih⟩ := ih (fresh_place hfresh') hrest
    -- the first item's data keys are not among the later ones
    have hkept : ∀ object, ∀ key, key = dataKey "env" index ∨ key = dataKey "file" index →
        data'.held object key
          = ((data.addTarget r.item.target).place index r value).held object key := by
      intro object key hkey
      obtain ⟨hsecret, hconfig, hbinary⟩ := hih.others key (by
        intro j hj
        rcases hkey with rfl | rfl
        · exact ⟨fun heq => absurd (dataKey_injective "env" heq) (by omega),
            dataKey_env_ne_file index j⟩
        · exact ⟨(dataKey_env_ne_file j index).symm,
            fun heq => absurd (dataKey_injective "file" heq) (by omega)⟩)
      cases object with
      | secret => exact hsecret
      | configMap => simp only [held, projected, hconfig, hbinary]
    refine ⟨(if isFile r then [fileEntry index r] else []) ++ files,
      (if isVariable r then [environmentEntry index r] else []) ++ environment, ?_, ?_, ?_, ?_,
      ?_, ?_, ?_, ?_⟩
    · rw [hih.files_eq, files_place, List.append_assoc]
      rfl
    · rw [hih.environment_eq, environment_place, List.append_assoc]
      rfl
    · cases hfile : isFile r with
      | true =>
        rw [List.filter_cons_of_pos hfile]
        refine .cons ⟨index, value, rfl, hvalue, ?_⟩ hih.held_files
        exact (hkept _ _ (.inr rfl)).trans (held_place_file hfresh' hfile)
      | false =>
        rw [List.filter_cons_of_neg (by simp [hfile])]
        exact hih.held_files
    · cases hvariable : isVariable r with
      | true =>
        rw [List.filter_cons_of_pos hvariable]
        refine .cons ⟨index, value, rfl, hvariable, hvalue, hkind, ?_⟩ hih.held_variables
        exact (hkept _ _ (.inl rfl)).trans (held_place_variable hvariable hkind)
      | false =>
        rw [List.filter_cons_of_neg (by simp [hvariable])]
        exact hih.held_variables
    · intro entry hentry
      rcases List.mem_append.1 hentry with hfirst | hlater
      · rw [List.mem_ite_nil_right, List.mem_singleton] at hfirst
        exact ⟨index, le_rfl, hfirst.2 ▸ rfl⟩
      · obtain ⟨j, hj, hkey⟩ := hih.file_keys entry hlater
        exact ⟨j, by omega, hkey⟩
    · intro entry hentry
      rcases List.mem_append.1 hentry with hfirst | hlater
      · rw [List.mem_ite_nil_right, List.mem_singleton] at hfirst
        exact ⟨index, hfirst.2 ▸ rfl⟩
      · exact hih.environment_keys entry hlater
    · cases hfile : isFile r with
      | true =>
        rw [if_pos rfl, List.singleton_append, List.map_cons, List.nodup_cons]
        refine ⟨fun hmem => ?_, hih.distinct⟩
        obtain ⟨entry, hentry, hkey⟩ := List.mem_map.1 hmem
        obtain ⟨j, hj, hkey'⟩ := hih.file_keys entry hentry
        exact absurd (dataKey_injective "file" (hkey.symm.trans hkey')) (by omega)
      | false => exact hih.distinct
    · intro key hkey
      obtain ⟨hsecret, hconfig, hbinary⟩ := hih.others key fun j hj => hkey j (by omega)
      obtain ⟨henv, hfile⟩ := hkey index le_rfl
      obtain ⟨hsecret', hconfig', hbinary'⟩ :=
        @getElem?_place_of_ne (data.addTarget r.item.target) index r value key henv hfile
      exact ⟨hsecret.trans hsecret', hconfig.trans hconfig', hbinary.trans hbinary'⟩

end MaterializedData

/-- The ConfigMap of the files, with its manifests. -/
def MaterializedData.config (data : MaterializedData) : ConfigMap where
  data := (data.configFiles.insert fileManifestKey (.files 1 data.files)).insert
    environmentManifestKey (.environment 1 data.environment)
  binaryData := data.configBinaryFiles

variable {data : MaterializedData} {entry : FileManifestEntry}
  {environment : List EnvironmentManifestEntry} {files : List FileManifestEntry}
  {platform : BootstrapPlatform} {resolved : List ResolvedInjection} {text : String}

theorem build_eq_ok {materialization : InjectionMaterialization} :
    build resolved = .ok materialization ↔
      ∃ data, MaterializedData.empty.insertAll 0 resolved = .ok data ∧
        materialization =
          ⟨data.secretEnvironment, data.configEnvironment, data.secretFiles, data.config,
            data.environmentTargets⟩ := by
  simp only [build, bind_eq_ok, pure_eq_ok]
  exact exists_congr fun data => and_congr_right' eq_comm

theorem manifestKeys_ne : fileManifestKey ≠ environmentManifestKey := by decide

section Config

theorem config_files : data.config.data[fileManifestKey]? = some (.files 1 data.files) := by
  have hne : compare environmentManifestKey fileManifestKey ≠ .eq :=
    fun h => manifestKeys_ne (LawfulEqOrd.eq_of_compare h).symm
  rw [MaterializedData.config, ExtTreeMap.getElem?_insert, if_neg hne,
    ExtTreeMap.getElem?_insert_self]

theorem config_environment :
    data.config.data[environmentManifestKey]? = some (.environment 1 data.environment) := by
  rw [MaterializedData.config, ExtTreeMap.getElem?_insert_self]

/-- The manifests do not hide a value. -/
theorem projected_config {key : String} (hfiles : fileManifestKey ≠ key)
    (henvironment : environmentManifestKey ≠ key) (object : InjectionObject) :
    projected data.secretFiles data.config object key = data.held object key := by
  have hfiles' : compare fileManifestKey key ≠ .eq :=
    fun h => hfiles (LawfulEqOrd.eq_of_compare h)
  have henvironment' : compare environmentManifestKey key ≠ .eq :=
    fun h => henvironment (LawfulEqOrd.eq_of_compare h)
  have hdata : data.config.data[key]? = data.configFiles[key]? := by
    rw [MaterializedData.config, ExtTreeMap.getElem?_insert, if_neg henvironment',
      ExtTreeMap.getElem?_insert, if_neg hfiles']
  cases object with
  | secret => rfl
  | configMap =>
    simp only [projected, MaterializedData.held, hdata]
    rfl

end Config

/-! ### What is expected -/

/-- A file as the resolved item describes it. -/
def expectedFile (platform : BootstrapPlatform) (resolved : ResolvedInjection) (bytes : Bytes) :
    InjectedFile where
  kind := resolved.item.kind
  target := resolved.item.target
  bytes := bytes
  mode := resolved.item.fileMode.getD
    (defaultMode (if MaterializedData.useSecret resolved.item then .secret else .configMap))
  owner := resolved.item.owner.getD platform.workspaceUser
  group := resolved.item.group.getD platform.workspaceGroup

/-- The resolved files with their values. -/
def expectedFiles (platform : BootstrapPlatform) (resolved : List ResolvedInjection) :
    InjectedFiles :=
  .of ((resolved.filter MaterializedData.isFile).map fun r =>
    expectedFile platform r (r.item.value.bytes.getD []))

/-- The resolved variables with their values, without those that the platform keeps. -/
def expectedEnvironment (platform : BootstrapPlatform) (resolved : List ResolvedInjection) :
    List (String × Bytes) :=
  (resolved.filter fun r => MaterializedData.isVariable r && !platform.keeps r.item.target).map
    fun r => (r.item.target, r.item.value.bytes.getD [])

/-- The texts that go through the shell have no NUL, and an owner or a group is not empty. -/
def ShellSafe (resolved : ResolvedInjection) : Prop :=
  Char.ofNat 0 ∉ resolved.item.target.toList ∧
    ∀ name, resolved.item.owner = some name ∨ resolved.item.group = some name →
      name ≠ "" ∧ Char.ofNat 0 ∉ name.toList

theorem shellText_eq (h : Char.ofNat 0 ∉ text.toList) : shellText text = text := by
  rw [shellText, List.filter_eq_self.2, String.ofList_toList]
  intro c hc
  simp only [ne_eq, decide_eq_true_eq]
  rintro rfl
  exact h hc

theorem shellOr_eq {value : Option String} {default : String}
    (h : ∀ name, value = some name → name ≠ "" ∧ Char.ofNat 0 ∉ name.toList) :
    shellOr value default = value.getD default := by
  cases value with
  | none => rfl
  | some name =>
    obtain ⟨hempty, hnul⟩ := h name rfl
    simp only [shellOr, Option.getD_some, shellText_eq hnul, if_neg hempty]

/-- A printable text goes through the shell unchanged. -/
theorem shellValue_eq {bytes : Bytes} (htext : Utf8.decode bytes = some text)
    (hcontrol : text.toList.any Text.isControl = false) : shellValue bytes = bytes := by
  have hbyte : ∀ b ∈ bytes, b.toNat ≠ 0 ∧ b.toNat ≠ 10 := by
    intro b hb
    rw [Utf8.decode_eq_some.1 htext] at hb
    by_contra hbad
    obtain ⟨c, hc, hvalue⟩ := Utf8.exists_mem_of_mem_encode hb (by omega)
    have hprintable := List.any_eq_false.1 hcontrol c hc
    simp only [Text.isControl, hvalue, Bool.or_eq_true, Bool.and_eq_true, decide_eq_true_eq,
      not_or] at hprintable
    omega
  have hnul : bytes.filter (fun b => b ≠ 0) = bytes := by
    refine List.filter_eq_self.2 fun b hb => ?_
    simp only [ne_eq, decide_eq_true_eq]
    rintro rfl
    exact (hbyte 0 hb).1 rfl
  rw [shellValue, hnul]
  cases hreverse : bytes.reverse with
  | nil =>
    rw [List.reverse_eq_nil_iff.1 hreverse]
    rfl
  | cons last rest =>
    have hlast : last ∈ bytes := by
      rw [← List.mem_reverse, hreverse]
      exact List.mem_cons_self
    have hne : decide (last = 10) = false := by
      rw [decide_eq_false_iff_not]
      rintro rfl
      exact (hbyte 10 hlast).2 rfl
    rw [List.dropWhile_cons_of_neg (by simp [hne]), ← hreverse, List.reverse_reverse]

/-! ### Reading the objects -/

theorem mapM_eq_of_forall₂ {α β γ : Type} {f : α → Option γ} {g : β → Option γ} {l : List α}
    {l' : List β} (h : List.Forall₂ (fun a b => f a = g b) l l') : l.mapM f = l'.mapM g := by
  induction h with
  | nil => rfl
  | cons hhead _ ih => rw [List.mapM_cons, List.mapM_cons, hhead, ih]

open MaterializedData in
theorem decodeEntry_held {resolved : ResolvedInjection} (hsafe : ShellSafe resolved)
    (h : HeldFile data resolved entry) :
    decodeEntry platform data.secretFiles data.config entry
      = some (expectedFile platform resolved (resolved.item.value.bytes.getD [])) := by
  obtain ⟨index, value, rfl, hvalue, hheld⟩ := h
  obtain ⟨-, hkey, -, hkey'⟩ := manifestKey_ne_dataKey index
  have hbytes : entryBytes data.secretFiles data.config (fileEntry index resolved)
      = some value := by
    have hencoding : (fileEntry index resolved).encoding = none := rfl
    simp only [entryBytes, hencoding, Option.getD_none, if_true]
    exact (projected_config hkey hkey' _).trans hheld
  rw [decodeEntry, hbytes, Option.map_some, hvalue, Option.getD_some]
  simp only [fileEntry, expectedFile, shellText_eq hsafe.1,
    shellOr_eq fun name hname => hsafe.2 name (.inl hname),
    shellOr_eq fun name hname => hsafe.2 name (.inr hname)]

open MaterializedData in
/-- The files of a materialization, read without compression. -/
theorem mapM_decodeEntry (hsafe : ∀ r ∈ resolved, ShellSafe r)
    (h : List.Forall₂ (HeldFile data) resolved files) :
    files.mapM (decodeEntry platform data.secretFiles data.config)
      = some (resolved.map fun r => expectedFile platform r (r.item.value.bytes.getD [])) := by
  induction h with
  | nil => rfl
  | @cons r entry rs entries hhead _ ih =>
    rw [List.mapM_cons, decodeEntry_held (hsafe r List.mem_cons_self) hhead,
      ih fun x hx => hsafe x (List.mem_cons_of_mem r hx)]
    rfl

open MaterializedData in
/-- The variables of a materialization, as the bootstrap reads them from any ConfigMap that holds
the same values. -/
theorem mapM_environment
    {config : ConfigMap}
    (h : List.Forall₂ (HeldVariable data) resolved environment)
    (hconfig : ∀ entry ∈ environment, projected data.secretFiles config entry.object entry.dataKey
      = data.held entry.object entry.dataKey) :
    ((environment.filter fun entry => !platform.keeps entry.name).mapM fun entry =>
        (projected data.secretFiles config entry.object entry.dataKey).map fun bytes =>
          (entry.name, shellValue bytes))
      = some ((resolved.filter fun r => !platform.keeps r.item.target).map fun r =>
          (r.item.target, r.item.value.bytes.getD [])) := by
  induction h with
  | nil => rfl
  | @cons r entry rs entries hhead _ ih =>
    have hrest := ih fun e he => hconfig e (List.mem_cons_of_mem entry he)
    obtain ⟨index, value, rfl, hvariable, hvalue, hkind, hheld⟩ := hhead
    have hname : (environmentEntry index r).name = r.item.target := rfl
    cases hkeeps : platform.keeps r.item.target with
    | true =>
      rw [List.filter_cons_of_neg (by simp [hname, hkeeps]),
        List.filter_cons_of_neg (by simp [hkeeps])]
      exact hrest
    | false =>
      rw [List.filter_cons_of_pos (by simp [hname, hkeeps]),
        List.filter_cons_of_pos (by simp [hkeeps]), List.mapM_cons, hrest,
        hconfig _ List.mem_cons_self, hheld]
      have hsame : shellValue value = value := by
        simp only [isVariable, Bool.and_eq_true, decide_eq_true_eq] at hvariable
        rw [MaterializableKind, if_pos hvariable.1] at hkind
        obtain ⟨-, text, htext, hcontrol⟩ := hkind
        exact shellValue_eq htext hcontrol
      simp only [Option.map_some, hname, hsame, List.map_cons, hvalue, Option.getD_some]
      rfl

/-! ### Compression keeps what is read -/

/-- The pieces of a text have its bytes. -/
theorem flatMap_dictionaryChunks (value : String) :
    (dictionaryChunks value).flatMap Utf8.encode = Utf8.encode value := by
  have hlines : ∀ line : List Char,
      (Interning.splitInclusive ['\\', 'n'] line).flatMap (List.flatMap String.utf8EncodeChar)
        = line.flatMap String.utf8EncodeChar := by
    intro line
    conv_rhs => rw [← Interning.flatten_splitInclusive ['\\', 'n'] line]
    rw [List.flatten_eq_flatMap, List.flatMap_assoc]
    rfl
  rw [dictionaryChunks, List.flatMap_map]
  simp only [Utf8.encode_eq_flatMap, String.toList_ofList]
  rw [List.flatMap_assoc]
  simp only [hlines]
  conv_rhs => rw [← Interning.flatten_splitInclusive ['\n'] value.toList]
  rw [List.flatten_eq_flatMap, List.flatMap_assoc]
  rfl

/-- A dictionary gives its text back. -/
theorem decodeInjectedDictionary_encode {sizes : JsonSizes} {value : String}
    {dictionary : Dictionary} (h : encodeDictionary sizes value = some dictionary)
    {config : ConfigMap} (hdata : config.data[entry.dataKey]? = some (.dictionary dictionary))
    (hbytes : entry.decodedBytes = some (Utf8.encode value).length) :
    decodeInjectedDictionary config entry = some (Utf8.encode value) := by
  simp only [encodeDictionary] at h
  split_ifs at h
  obtain rfl := Option.some_inj.1 h
  simp [decodeInjectedDictionary, hdata, hbytes, Interning.unpack_pack, flatMap_dictionaryChunks]

/-- The same file in another encoding. -/
def SameFile (secret : ExtTreeMap String Bytes) (config config' : ConfigMap)
    (entry entry' : FileManifestEntry) : Prop :=
  entryBytes secret config' entry' = entryBytes secret config entry ∧
    entry' = { entry with encoding := entry'.encoding, decodedBytes := entry'.decodedBytes }

/-- One entry: it stays as it is, or its text is packed. -/
theorem compressEntry_spec {sizes : JsonSizes} {secret : ExtTreeMap String Bytes}
    {original result : ExtTreeMap String ConfigText} {binary : ExtTreeMap String Bytes}
    {entry : FileManifestEntry} (hplain : entry.encoding = none)
    (hsame : result[entry.dataKey]? = original[entry.dataKey]?) :
    ∃ packed, compressEntry sizes original result entry = .ok packed ∧
      (∀ key, key ≠ entry.dataKey → packed.1[key]? = result[key]?) ∧
      ∀ data : ExtTreeMap String ConfigText,
        data[entry.dataKey]? = packed.1[entry.dataKey]? →
        SameFile secret ⟨original, binary⟩ ⟨data, binary⟩ entry packed.2 := by
  -- an entry that stays reads the text that it has read before
  have hstay : ∀ data : ExtTreeMap String ConfigText,
      data[entry.dataKey]? = result[entry.dataKey]? →
      SameFile secret ⟨original, binary⟩ ⟨data, binary⟩ entry entry := by
    intro data hdata
    refine ⟨?_, rfl⟩
    have htext : data[entry.dataKey]? = original[entry.dataKey]? := hdata.trans hsame
    simp only [entryBytes, hplain, Option.getD_none, if_true]
    cases entry.object with
    | secret => rfl
    | configMap => simp only [projected, htext]
  simp only [compressEntry, hplain, reduceCtorEq, if_false, ne_eq, not_true_eq_false]
  split
  · exact ⟨_, rfl, fun _ _ => rfl, hstay⟩
  · rename_i hkind
    simp only [decide_not, Bool.or_eq_true, Bool.not_eq_true', decide_eq_false_iff_not, not_or,
      not_not] at hkind
    split
    · rename_i value hvalue
      split
      · rename_i dictionary hdictionary
        refine ⟨_, rfl, fun key hkey => ?_, fun data hdata => ⟨?_, rfl⟩⟩
        · rw [ExtTreeMap.getElem?_insert, if_neg]
          exact fun heq => hkey (LawfulEqOrd.eq_of_compare heq).symm
        · have hencoding : dictionaryEncoding ≠ "" := by decide
          rw [ExtTreeMap.getElem?_insert_self] at hdata
          simp only [entryBytes, Option.getD_some, hencoding, if_false, hkind, decide_true,
            Bool.and_self, if_true, hplain, Option.getD_none, projected, hvalue]
          exact decodeInjectedDictionary_encode hdictionary hdata rfl
      · exact ⟨_, rfl, fun _ _ => rfl, hstay⟩
    · exact ⟨_, rfl, fun _ _ => rfl, hstay⟩

/-- What the loop of the compression leaves: every file reads as before, and only the texts of
files have changed. -/
theorem compressEntries_spec {sizes : JsonSizes} {secret : ExtTreeMap String Bytes}
    {original result : ExtTreeMap String ConfigText} (binary : ExtTreeMap String Bytes)
    {entries : List FileManifestEntry}
    (hplain : ∀ entry ∈ entries, entry.encoding = none)
    (hdistinct : (entries.map FileManifestEntry.dataKey).Nodup)
    (hsame : ∀ entry ∈ entries, result[entry.dataKey]? = original[entry.dataKey]?) :
    ∃ packed, compressEntries sizes original result entries = .ok packed ∧
      (∀ key, key ∉ entries.map FileManifestEntry.dataKey → packed.1[key]? = result[key]?) ∧
      ∀ data : ExtTreeMap String ConfigText,
        (∀ entry ∈ entries, data[entry.dataKey]? = packed.1[entry.dataKey]?) →
        List.Forall₂ (SameFile secret ⟨original, binary⟩ ⟨data, binary⟩) entries packed.2 := by
  induction entries generalizing result with
  | nil => exact ⟨(result, []), rfl, fun _ _ => rfl, fun _ _ => .nil⟩
  | cons entry rest ih =>
    rw [List.map_cons, List.nodup_cons] at hdistinct
    obtain ⟨first, hfirst, hothers, hread⟩ :=
      @compressEntry_spec sizes secret original result binary entry
        (hplain entry List.mem_cons_self) (hsame entry List.mem_cons_self)
    have hne : ∀ e ∈ rest, e.dataKey ≠ entry.dataKey :=
      fun e he heq => hdistinct.1 (heq ▸ List.mem_map_of_mem he)
    obtain ⟨packed, hpacked, hkeys, hfiles⟩ := @ih first.1
      (fun e he => hplain e (List.mem_cons_of_mem entry he)) hdistinct.2
      (fun e he => (hothers _ (hne e he)).trans (hsame e (List.mem_cons_of_mem entry he)))
    refine ⟨(packed.1, first.2 :: packed.2), ?_, ?_, ?_⟩
    · exact bind_eq_ok.2 ⟨first, hfirst, bind_eq_ok.2 ⟨packed, hpacked, rfl⟩⟩
    · intro key hkey
      rw [List.map_cons, List.mem_cons, not_or] at hkey
      rw [hkeys key hkey.2, hothers key hkey.1]
    · intro data hdata
      refine .cons (hread data ?_) (hfiles data fun e he => hdata e (List.mem_cons_of_mem _ he))
      rw [hdata entry List.mem_cons_self, hkeys _ hdistinct.1]

theorem MaterializedData.encoding_of_heldFile (h : List.Forall₂ (HeldFile data) items files) :
    ∀ entry ∈ files, entry.encoding = none := by
  induction h with
  | nil => simp
  | cons hhead _ ih =>
    obtain ⟨index, value, rfl, -⟩ := hhead
    exact List.forall_mem_cons.2 ⟨rfl, ih⟩

theorem decodeEntry_of_sameFile {secret config config' entry entry'}
    (h : SameFile secret config config' entry entry') :
    decodeEntry platform secret config entry = decodeEntry platform secret config' entry' := by
  obtain ⟨hbytes, hentry⟩ := h
  rw [decodeEntry, decodeEntry, hbytes, hentry]

/-- A ConfigMap that reads like the one of `data`: the files in some encoding, and the variables. -/
structure ReadsLike (data : MaterializedData) (config : ConfigMap) : Prop where
  files : ∃ entries, config.data[fileManifestKey]? = some (.files 1 entries) ∧
    List.Forall₂ (SameFile data.secretFiles data.config config) data.files entries
  environment : config.data[environmentManifestKey]? = some (.environment 1 data.environment)
  projectedVariable : ∀ j object, projected data.secretFiles config object (dataKey "env" j)
    = data.held object (dataKey "env" j)

theorem readsLike_self (data : MaterializedData) : ReadsLike data data.config where
  files := ⟨data.files, config_files, List.forall₂_same.2 fun _ _ => ⟨rfl, rfl⟩⟩
  environment := config_environment
  projectedVariable j object := projected_config (manifestKey_ne_dataKey j).1
    (manifestKey_ne_dataKey j).2.2.1 object

/-- Compression succeeds, and its ConfigMap reads like the original one. -/
theorem compress_readsLike (sizes : JsonSizes)
    (hplain : ∀ entry ∈ data.files, entry.encoding = none)
    (hkeys : ∀ entry ∈ data.files, ∃ j, entry.dataKey = dataKey "file" j)
    (hdistinct : (data.files.map FileManifestEntry.dataKey).Nodup) :
    ∃ config, compress sizes data.config = .ok config ∧ ReadsLike data config := by
  obtain ⟨packed, hpacked, hothers, hfiles⟩ := @compressEntries_spec sizes data.secretFiles
    data.config.data data.config.data data.configBinaryFiles data.files hplain hdistinct
    fun _ _ => rfl
  have hnot : ∀ key, (∀ j, key ≠ dataKey "file" j) →
      key ∉ data.files.map FileManifestEntry.dataKey := by
    intro key hkey hmem
    obtain ⟨entry, hentry, rfl⟩ := List.mem_map.1 hmem
    obtain ⟨j, hj⟩ := hkeys entry hentry
    exact hkey j hj
  have hmanifest := hothers _ (hnot fileManifestKey fun j => (manifestKey_ne_dataKey j).2.1)
  have henvironment := hothers _
    (hnot environmentManifestKey fun j => (manifestKey_ne_dataKey j).2.2.2)
  have hvariable : ∀ j, packed.1[dataKey "env" j]? = data.config.data[dataKey "env" j]? :=
    fun j => hothers _ (hnot _ fun i => dataKey_env_ne_file j i)
  -- what the texts of the result say once they agree with the packed ones
  have hreads : ∀ texts : ExtTreeMap String ConfigText,
      texts[fileManifestKey]? = some (ConfigText.files 1 packed.2) →
      (∀ key, key ≠ fileManifestKey → texts[key]? = packed.1[key]?) →
      ReadsLike data ⟨texts, data.configBinaryFiles⟩ := by
    intro texts htexts hagree
    refine ⟨⟨packed.2, htexts, hfiles texts fun entry hentry => ?_⟩, ?_, fun j object => ?_⟩
    · obtain ⟨j, hj⟩ := hkeys entry hentry
      rw [hj]
      exact hagree _ (manifestKey_ne_dataKey j).2.1.symm
    · rw [hagree _ manifestKeys_ne.symm, henvironment, config_environment]
    · rw [← (readsLike_self data).projectedVariable j object]
      have htext : texts[dataKey "env" j]? = data.config.data[dataKey "env" j]? := by
        rw [hagree _ (manifestKey_ne_dataKey j).1.symm, hvariable]
      cases object with
      | secret => rfl
      | configMap =>
        simp only [projected, htext]
        rfl
  simp only [compress, config_files]
  by_cases hchanged : packed.2 = data.files
  · refine ⟨⟨packed.1, data.configBinaryFiles⟩, ?_, hreads packed.1 ?_ fun _ _ => rfl⟩
    · exact bind_eq_ok.2 ⟨packed, hpacked, by rw [if_pos hchanged]; rfl⟩
    · rw [hmanifest, config_files, hchanged]
  · refine ⟨⟨packed.1.insert fileManifestKey (.files 1 packed.2), data.configBinaryFiles⟩, ?_,
      hreads _ ExtTreeMap.getElem?_insert_self fun key hkey => ?_⟩
    · exact bind_eq_ok.2 ⟨packed, hpacked, by rw [if_neg hchanged]; rfl⟩
    · rw [ExtTreeMap.getElem?_insert, if_neg]
      exact fun heq => hkey (LawfulEqOrd.eq_of_compare heq).symm

open MaterializedData in
/-- The bootstrap reads what was resolved. -/
theorem bootstrap_reads {config : ConfigMap} (hsafe : ∀ r ∈ resolved, ShellSafe r)
    (hholds : Holds .empty data 0 resolved files environment) (hreads : ReadsLike data config) :
    syncInjectedFiles platform data.secretFiles config = some (expectedFiles platform resolved) ∧
      sshEnvironment platform data.secretFiles config
        = some (expectedEnvironment platform resolved) := by
  have hfilesEq : data.files = files := hholds.files_eq
  have henvironmentEq : data.environment = environment := hholds.environment_eq
  constructor
  · obtain ⟨entries, hmanifest, hsame⟩ := hreads.files
    have hdecoded : entries.mapM (decodeEntry platform data.secretFiles config)
        = some ((resolved.filter isFile).map fun r =>
            expectedFile platform r (r.item.value.bytes.getD [])) := by
      rw [← mapM_eq_of_forall₂ (hsame.imp fun _ _ h => decodeEntry_of_sameFile h), hfilesEq]
      exact mapM_decodeEntry (fun r hr => hsafe r (List.mem_filter.1 hr).1) hholds.held_files
    rw [syncInjectedFiles, hmanifest]
    simp only [hdecoded, Option.map_some]
    rfl
  · rw [sshEnvironment, hreads.environment, henvironmentEq]
    refine (mapM_environment hholds.held_variables ?_).trans ?_
    · intro entry hentry
      obtain ⟨j, hj⟩ := hholds.environment_keys entry hentry
      rw [hj]
      exact hreads.projectedVariable j _
    · rw [expectedEnvironment, List.filter_filter]
      simp only [Bool.and_comm]

/-! ### Secrecy -/

/-- The same item up to the value of a sensitive one. -/
def SameButSensitive (r r' : ResolvedInjection) : Prop :=
  r'.source = r.source ∧ r'.item = { r.item with value := r'.item.value } ∧
    (r.item.sensitive = false → r'.item.value = r.item.value)

namespace MaterializedData

/-- Everything but the Secrets. -/
structure SamePublic (data data' : MaterializedData) : Prop where
  configEnvironment : data'.configEnvironment = data.configEnvironment
  configFiles : data'.configFiles = data.configFiles
  configBinaryFiles : data'.configBinaryFiles = data.configBinaryFiles
  files : data'.files = data.files
  environment : data'.environment = data.environment

/-- The public part of a placement depends on the public part before it. -/
theorem SamePublic.place (h : SamePublic data data') (index : ℕ) (r : ResolvedInjection)
    (value : Bytes) :
    SamePublic (data.place index r value) (data'.place index r value) := by
  simp only [MaterializedData.place, placeEnvironment, placeFile]
  split
  · split
    · exact h
    · split
      · exact ⟨h.1, h.2, h.3, h.4, by rw [h.5]⟩
      · exact ⟨by rw [h.1], by rw [h.2], h.3, h.4, by rw [h.5]⟩
  · split
    · exact ⟨h.1, h.2, h.3, by rw [h.4], h.5⟩
    · split
      · exact ⟨h.1, by rw [h.2], h.3, by rw [h.4], h.5⟩
      · exact ⟨h.1, h.2, by rw [h.3], by rw [h.4], h.5⟩

/-- The value of a sensitive item does not reach the public part. -/
theorem SamePublic.place_sensitive (h : SamePublic data data') (index : ℕ)
    {r r' : ResolvedInjection} (hr : SameButSensitive r r') (hsensitive : r.item.sensitive = true)
    (value value' : Bytes) :
    SamePublic (data.place index r value) (data'.place index r' value') := by
  obtain ⟨hsource, hitem, -⟩ := hr
  have hkind : r'.item.kind = r.item.kind := by rw [hitem]
  have htarget : r'.item.target = r.item.target := by rw [hitem]
  have hsensitive' : r'.item.sensitive = true := by rw [hitem]; exact hsensitive
  have hsecret : useSecret r.item = true := by simp [useSecret, hsensitive]
  have hsecret' : useSecret r'.item = true := by simp [useSecret, hsensitive']
  have hentry : fileEntry index r' = fileEntry index r := by
    rw [fileEntry, fileEntry, hsecret, hsecret', hsource, hitem]
  simp only [MaterializedData.place, placeEnvironment, placeFile, hkind, htarget, hsensitive,
    hsensitive', hsecret, hsecret', hentry, hsource, if_true]
  split
  · split
    · exact h
    · exact ⟨h.1, h.2, h.3, h.4, by rw [h.5]⟩
  · exact ⟨h.1, h.2, h.3, by rw [h.4], h.5⟩

theorem insertAll_samePublic {items' : List ResolvedInjection}
    (hitems : List.Forall₂ SameButSensitive items items') {final final' : MaterializedData}
    {index : ℕ} (h : SamePublic data data') (hrun : data.insertAll index items = .ok final)
    (hrun' : data'.insertAll index items' = .ok final') : SamePublic final final' := by
  induction hitems generalizing data data' index with
  | nil =>
    obtain rfl := pure_eq_ok.1 hrun
    obtain rfl := pure_eq_ok.1 hrun'
    exact h
  | @cons r r' rest rest' hr _ ih =>
    obtain ⟨data₁, hinsert, hrest⟩ := bind_eq_ok.1 hrun
    obtain ⟨data₁', hinsert', hrest'⟩ := bind_eq_ok.1 hrun'
    obtain ⟨-, value, hvalue, -, rfl⟩ := insert_eq_ok.1 hinsert
    obtain ⟨-, value', hvalue', -, rfl⟩ := insert_eq_ok.1 hinsert'
    have htargets : SamePublic (data.addTarget r.item.target) (data'.addTarget r'.item.target) :=
      ⟨h.1, h.2, h.3, h.4, h.5⟩
    refine ih ?_ hrest hrest'
    cases hsensitive : r.item.sensitive with
    | true => exact htargets.place_sensitive index hr hsensitive value value'
    | false =>
      obtain ⟨hsource, hitem, hplain⟩ := hr
      have hsame : r' = r := by
        cases r
        cases r'
        simp only at hsource hitem hplain hsensitive
        rw [hplain hsensitive] at hitem
        rw [hsource, hitem]
      subst hsame
      obtain rfl := Option.some_inj.1 (hvalue.symm.trans hvalue')
      exact htargets.place index r' value

end MaterializedData

/-- **What the bootstrap reads.**  From the objects of a materialization, compressed or not, it
reads exactly the resolved files (with public keys as lines of `authorized_keys`) and the resolved
variables, except `RUSTUP_HOME` and, for SSH sessions, the names that it keeps for the platform.
The ConfigMaps are the same for every value of the sensitive items. -/
theorem materialized_round_trip (platform : BootstrapPlatform) (sizes : JsonSizes)
    (resolved : List ResolvedInjection) (hsafe : ∀ r ∈ resolved, ShellSafe r)
    {materialization : InjectionMaterialization} (h : build resolved = .ok materialization) :
    (∃ config, compress sizes materialization.fileConfigMap = .ok config) ∧
      (∀ config, config = materialization.fileConfigMap ∨
          compress sizes materialization.fileConfigMap = .ok config →
        syncInjectedFiles platform materialization.fileSecret config
            = some (expectedFiles platform resolved) ∧
          sshEnvironment platform materialization.fileSecret config
            = some (expectedEnvironment platform resolved)) ∧
      ∀ resolved' materialization', List.Forall₂ SameButSensitive resolved resolved' →
        build resolved' = .ok materialization' →
        materialization'.environmentConfigMap = materialization.environmentConfigMap ∧
          materialization'.fileConfigMap = materialization.fileConfigMap := by
  obtain ⟨data, hdata, rfl⟩ := build_eq_ok.1 h
  have hempty : MaterializedData.empty.Fresh 0 := by
    intro j _
    simp [MaterializedData.empty]
  obtain ⟨files, environment, hholds⟩ := MaterializedData.insertAll_holds hempty hdata
  have hfilesEq : data.files = files := hholds.files_eq
  have hplain : ∀ entry ∈ data.files, entry.encoding = none := by
    intro entry hentry
    exact MaterializedData.encoding_of_heldFile hholds.held_files entry (hfilesEq ▸ hentry)
  obtain ⟨config, hconfig, hreads⟩ := compress_readsLike sizes hplain
    (fun entry hentry => by
      obtain ⟨j, -, hj⟩ := hholds.file_keys entry (hfilesEq ▸ hentry)
      exact ⟨j, hj⟩)
    (hfilesEq ▸ hholds.distinct)
  refine ⟨⟨config, hconfig⟩, ?_, ?_⟩
  · rintro other (rfl | hother)
    · exact bootstrap_reads hsafe hholds (readsLike_self data)
    · obtain rfl : config = other := Except.ok.inj (hconfig.symm.trans hother)
      exact bootstrap_reads hsafe hholds hreads
  · intro resolved' materialization' hitems h'
    obtain ⟨data', hdata', rfl⟩ := build_eq_ok.1 h'
    have hpublic := MaterializedData.insertAll_samePublic hitems ⟨rfl, rfl, rfl, rfl, rfl⟩ hdata
      hdata'
    refine ⟨hpublic.configEnvironment, ?_⟩
    simp only [MaterializedData.config, hpublic.configFiles, hpublic.files, hpublic.environment,
      hpublic.configBinaryFiles]

/-- A workspace that runs as its own user, with the platform's kubeconfig. -/
def samplePlatform : BootstrapPlatform := ⟨"dev", "dev", true, false⟩

def sampleResolved : List ResolvedInjection :=
  [⟨.organization, samplePolicy⟩, ⟨.user, { sampleEditor with sensitive := true }⟩,
    ⟨.user, sampleKey⟩]

theorem sampleResolved_shellSafe : ∀ r ∈ sampleResolved, ShellSafe r := by
  intro r hr
  simp only [sampleResolved, List.mem_cons, List.not_mem_nil, or_false] at hr
  rcases hr with rfl | rfl | rfl <;> refine ⟨by decide, fun name hname => ?_⟩ <;>
    rcases hname with h | h <;> cases h

theorem materialized_round_trip_sample :
    ∃ materialization, build sampleResolved = .ok materialization ∧
      syncInjectedFiles samplePlatform materialization.fileSecret materialization.fileConfigMap
        = some (expectedFiles samplePlatform sampleResolved) ∧
      sshEnvironment samplePlatform materialization.fileSecret materialization.fileConfigMap
        = some [("EDITOR", Utf8.encode "vi")] := by
  have hok : (build sampleResolved).isOk = true := by decide +kernel
  cases h : build sampleResolved with
  | error e =>
    rw [h] at hok
    cases hok
  | ok materialization =>
    obtain ⟨hfiles, henvironment⟩ := (materialized_round_trip samplePlatform
      ⟨fun _ => 0, fun _ => 0⟩ sampleResolved sampleResolved_shellSafe h).2.1 _ (.inl rfl)
    refine ⟨materialization, rfl, hfiles, henvironment.trans ?_⟩
    decide +kernel

def sampleCargoHome : InjectionItem :=
  { sampleEditor with key := "cargo", target := "CARGO_HOME", value := .utf8 "/home/dev/cargo" }

/-- The variable is valid and in the manifest, and the bootstrap does not pass it on. -/
theorem cargo_home_not_passed :
    validateInjectionItem asciiChecks sampleCargoHome = .ok () ∧
      ∃ materialization, build [⟨.user, sampleCargoHome⟩] = .ok materialization ∧
        sampleCargoHome.target ≠ "RUSTUP_HOME" ∧
        sshEnvironment samplePlatform materialization.fileSecret materialization.fileConfigMap
          = some [] := by
  refine ⟨by decide +kernel, ?_⟩
  have hread : (build [⟨.user, sampleCargoHome⟩]).toOption.bind (fun materialization =>
      sshEnvironment samplePlatform materialization.fileSecret materialization.fileConfigMap)
      = some [] := by decide +kernel
  cases h : build [⟨.user, sampleCargoHome⟩] with
  | error e =>
    rw [h] at hread
    cases hread
  | ok materialization =>
    rw [h] at hread
    exact ⟨materialization, rfl, by decide, hread⟩

end WorkspaceControl
