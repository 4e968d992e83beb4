/-
**Bundles of plugins.**

`src/src/plugin_distribution/bundle.rs` takes a bundle apart: the manifest, an optional component
and a list of assets, each behind its length.  The manifest is checked against a map of the assets,
in which a later asset replaces an earlier one with the same path, while the package keeps the list.
The digest of the package is that of the parts in their order, each behind its length.

Main definitions:

* `decodeParts`, `BundleParts.encode` — a bundle and its parts;
* `validateExtensions`, `validateContent` — the checks of a manifest, with `BundleTools`;
* `prepare`, `decodeBundle` — the package of a bundle; `BundleFailure.overflow` is a sum of declared
  sizes that does not fit in 64 bits.

Main results:

* `decodeParts_eq_some` — a bundle is what its parts are encoded as;
* `digest_identifies_bundle` — **bundles with one digest are the same**, for an injective hash;
* `accepted_assets_are_declared` — **the assets of a package are the declared ones, exactly when**
  the parts of the bundle are unambiguous;
* `bundle_with_asset_twice` — an asset that stands twice in the bundle is twice in the package, and
  the sum may overflow.
-/
import Mathlib.Data.List.Perm.Subperm
import Mathlib.Data.List.Sort
import WorkspaceControl.ByteFrames
import WorkspaceControl.PluginDownload

set_option autoImplicit false

namespace WorkspaceControl

open Fallible ByteText ByteFrames

/-! ### Parts -/

structure BundleAsset where
  path : String
  mediaType : String
  content : Bytes
deriving DecidableEq

structure BundleParts where
  manifest : Bytes
  component : Option Bytes
  assets : List BundleAsset
deriving DecidableEq

def bundleMagic : Bytes := Utf8.encode "MWCPKG01"

def maxManifestBytes : ℕ := 1024 * 1024

def maxComponentBytes : ℕ := 64 * 1024 * 1024

def decodeAsset (bytes : Bytes) : Option (BundleAsset × Bytes) := do
  let (pathLength, bytes) ← takeNat 2 bytes
  let (mediaLength, bytes) ← takeNat 2 bytes
  let (contentLength, bytes) ← takeNat 4 bytes
  let (path, bytes) ← takeBytes pathLength bytes
  let path ← Utf8.decode path
  let (mediaType, bytes) ← takeBytes mediaLength bytes
  let mediaType ← Utf8.decode mediaType
  let (content, bytes) ← takeBytes contentLength bytes
  some (⟨path, mediaType, content⟩, bytes)

def decodeAssets : ℕ → Bytes → Option (List BundleAsset × Bytes)
  | 0, bytes => some ([], bytes)
  | count + 1, bytes => do
    let (asset, bytes) ← decodeAsset bytes
    let (assets, bytes) ← decodeAssets count bytes
    some (asset :: assets, bytes)

/-- The first part of `decode_bundle`. -/
def decodeParts (bytes : Bytes) : Option BundleParts := do
  guard (bytes.length ≤ maxPackageBytes)
  let (magic, rest) ← takeBytes 8 bytes
  guard (magic = bundleMagic)
  let (manifestLength, rest) ← takeNat 4 rest
  let (componentLength, rest) ← takeNat 4 rest
  let (assetCount, rest) ← takeNat 2 rest
  guard (manifestLength ≤ maxManifestBytes ∧ componentLength ≤ maxComponentBytes ∧ assetCount ≤ 64)
  let (manifest, rest) ← takeBytes manifestLength rest
  let (component, rest) ← takeBytes componentLength rest
  let (assets, rest) ← decodeAssets assetCount rest
  guard (rest = [])
  some ⟨manifest, if componentLength = 0 then none else some component, assets⟩

/-- The byte strings of an asset. -/
def BundleAsset.strings (asset : BundleAsset) : List Bytes :=
  [Utf8.encode asset.path, Utf8.encode asset.mediaType, asset.content]

def BundleAsset.encode (asset : BundleAsset) : Bytes :=
  ofNat 2 (Utf8.encode asset.path).length ++ ofNat 2 (Utf8.encode asset.mediaType).length ++
    ofNat 4 asset.content.length ++ asset.strings.flatten

namespace BundleParts

def componentBytes (parts : BundleParts) : Bytes := parts.component.getD []

/-- The byte strings of a bundle, in their order. -/
def strings (parts : BundleParts) : List Bytes :=
  parts.manifest :: parts.componentBytes :: parts.assets.flatMap BundleAsset.strings

def encode (parts : BundleParts) : Bytes :=
  bundleMagic ++ ofNat 4 parts.manifest.length ++ ofNat 4 parts.componentBytes.length ++
    ofNat 2 parts.assets.length ++ parts.manifest ++ parts.componentBytes ++
    parts.assets.flatMap BundleAsset.encode

/-- None of the byte strings is longer than its length can say. -/
def Short (strings : List Bytes) : Prop := ∀ s ∈ strings, s.length < 256 ^ 8

end BundleParts

variable {bytes rest : Bytes} {asset : BundleAsset} {assets assets' : List BundleAsset}
  {parts parts' : BundleParts}

theorem lt_of_lt_pow {n w : ℕ} (h : n < 256 ^ w) (hw : w ≤ 8) : n < 256 ^ 8 :=
  h.trans_le (Nat.pow_le_pow_right (by decide) hw)

theorem decodeAsset_eq_some (h : decodeAsset bytes = some (asset, rest)) :
    bytes = asset.encode ++ rest ∧ BundleParts.Short asset.strings := by
  simp only [decodeAsset, Option.bind_eq_bind, Option.bind_eq_some_iff, Prod.exists,
    Option.some.injEq, Prod.mk.injEq] at h
  obtain ⟨_, _, h₁, _, _, h₂, _, _, h₃, _, _, h₄, path, hpath, _, _, h₅, mediaType, hmedia,
    _, _, h₆, rfl, rfl⟩ := h
  obtain ⟨rfl, hpathLength⟩ := takeNat_eq_some h₁
  obtain ⟨rfl, hmediaLength⟩ := takeNat_eq_some h₂
  obtain ⟨rfl, hcontentLength⟩ := takeNat_eq_some h₃
  obtain ⟨rfl, rfl⟩ := takeBytes_eq_some h₄
  obtain ⟨rfl, rfl⟩ := takeBytes_eq_some h₅
  obtain ⟨rfl, rfl⟩ := takeBytes_eq_some h₆
  rw [Utf8.decode_eq_some] at hpath hmedia
  subst hpath hmedia
  refine ⟨by simp [BundleAsset.encode, BundleAsset.strings], ?_⟩
  intro s hs
  simp only [BundleAsset.strings, List.mem_cons, List.not_mem_nil, or_false] at hs
  rcases hs with rfl | rfl | rfl
  · exact lt_of_lt_pow hpathLength (by decide)
  · exact lt_of_lt_pow hmediaLength (by decide)
  · exact lt_of_lt_pow hcontentLength (by decide)

theorem decodeAssets_eq_some {count : ℕ} (h : decodeAssets count bytes = some (assets, rest)) :
    bytes = assets.flatMap BundleAsset.encode ++ rest ∧ assets.length = count ∧
      BundleParts.Short (assets.flatMap BundleAsset.strings) := by
  induction count generalizing bytes assets with
  | zero =>
    cases h
    exact ⟨rfl, rfl, nofun⟩
  | succ count ih =>
    simp only [decodeAssets, Option.bind_eq_bind, Option.bind_eq_some_iff, Prod.exists,
      Option.some.injEq, Prod.mk.injEq] at h
    obtain ⟨asset, _, hasset, assets, _, hassets, rfl, rfl⟩ := h
    obtain ⟨rfl, hshort⟩ := decodeAsset_eq_some hasset
    obtain ⟨rfl, hlength, hshorts⟩ := ih hassets
    refine ⟨by simp, by simp [hlength], ?_⟩
    intro s hs
    rw [List.flatMap_cons, List.mem_append] at hs
    rcases hs with hs | hs
    · exact hshort s hs
    · exact hshorts s hs

/-- **A bundle is what its parts are encoded as.** -/
theorem decodeParts_eq_some (h : decodeParts bytes = some parts) :
    bytes = parts.encode ∧ bytes.length ≤ maxPackageBytes ∧ BundleParts.Short parts.strings := by
  simp only [decodeParts, Option.bind_eq_bind, Option.bind_eq_some_iff, Prod.exists,
    Option.guard_eq_some', exists_const, Option.some.injEq] at h
  obtain ⟨hbytes, magic, _, h₁, rfl, _, _, h₂, _, _, h₃, _, _, h₄, -, manifest, _, h₅, component, _,
    h₆, assets, _, h₇, rfl, rfl⟩ := h
  obtain ⟨rfl, -⟩ := takeBytes_eq_some h₁
  obtain ⟨rfl, hmanifestLength⟩ := takeNat_eq_some h₂
  obtain ⟨rfl, hcomponentLength⟩ := takeNat_eq_some h₃
  obtain ⟨rfl, -⟩ := takeNat_eq_some h₄
  obtain ⟨rfl, rfl⟩ := takeBytes_eq_some h₅
  obtain ⟨rfl, rfl⟩ := takeBytes_eq_some h₆
  obtain ⟨rfl, rfl, hshort⟩ := decodeAssets_eq_some h₇
  -- no component and an empty one are written alike
  have hcomponent : (if component.length = 0 then none else some component).getD [] = component :=
    by cases component <;> simp
  refine ⟨?_, hbytes, ?_⟩
  · simp only [BundleParts.encode, BundleParts.componentBytes, hcomponent, List.append_assoc,
      List.append_nil]
  intro s hs
  simp only [BundleParts.strings, BundleParts.componentBytes, hcomponent, List.mem_cons] at hs
  rcases hs with rfl | rfl | hs
  · exact lt_of_lt_pow hmanifestLength (by decide)
  · exact lt_of_lt_pow hcomponentLength (by decide)
  · exact hshort s hs

theorem assets_eq_of_strings
    (h : assets.flatMap BundleAsset.strings = assets'.flatMap BundleAsset.strings) :
    assets = assets' := by
  have hencode : ∀ {a b : String}, Utf8.encode a = Utf8.encode b → a = b := by
    intro a b hab
    exact Option.some.inj ((Utf8.decode_eq_some.2 rfl).symm.trans (Utf8.decode_eq_some.2 hab))
  induction assets generalizing assets' with
  | nil => cases assets' with
    | nil => rfl
    | cons asset assets' => simp [BundleAsset.strings] at h
  | cons asset assets ih => cases assets' with
    | nil => simp [BundleAsset.strings] at h
    | cons asset' assets' =>
      simp only [List.flatMap_cons, BundleAsset.strings, List.cons_append, List.nil_append,
        List.cons.injEq] at h
      obtain ⟨hpath, hmedia, hcontent, h⟩ := h
      have hasset : asset = asset' := by
        obtain ⟨_, _, _⟩ := asset
        rw [BundleAsset.mk.injEq]
        exact ⟨hencode hpath, hencode hmedia, hcontent⟩
      rw [hasset, ih h]

/-! ### Checks of the manifest -/

structure PluginAssetDescriptor where
  path : String
  mediaType : String
  sha256 : String
  sizeBytes : ℕ
deriving DecidableEq

inductive BundleFailure where
  | invalid
  /-- A sum exceeds 64 bits. -/
  | overflow
deriving DecidableEq

/-- What a bundle is checked with: the JSON parser, the other checks of the manifest, the compiler
of components and the hash. -/
structure BundleTools (M : Type) where
  parse : Bytes → Option M
  assets : M → List PluginAssetDescriptor
  wasm : M → Bool
  metadataValid : M → Bool
  contributionsValid : M → Bool
  componentValid : Bytes → Bool
  schemaValid : M → Bool
  contributions : M → List String
  sha256 : Bytes → String

def maxAssetBytes : ℕ := 2 * 1024 * 1024

def maxTotalAssetBytes : ℕ := 8 * 1024 * 1024

def assetMediaTypes : List String :=
  ["text/html", "text/css", "application/javascript", "application/json", "image/png", "image/jpeg",
    "image/webp", "image/svg+xml"]

def safeAssetPath (value : String) : Bool :=
  value ≠ "" && (Utf8.encode value).length ≤ 240 &&
    value.toList.head? ≠ some '/' && !(value.toList.any fun c => c = '\\' || c = '\x00') &&
    (Text.split '/' value.toList).all fun part => part ≠ [] && part ≠ ['.'] && part ≠ ['.', '.'] &&
      part.all fun c => Text.isAlphanumeric c || c = '.' || c = '-' || c = '_'

def PluginAssetDescriptor.valid (asset : PluginAssetDescriptor) : Bool :=
  asset.sizeBytes ≤ maxAssetBytes && safeAssetPath asset.path &&
    (Utf8.encode asset.sha256).length = 64 && asset.sha256.toList.all isAsciiHexdigit &&
    assetMediaTypes.contains asset.mediaType

/-- The sum of 64-bit numbers. -/
def checkedSum (numbers : List ℕ) : Except BundleFailure ℕ := do
  ensure (numbers.sum < 2 ^ 64) .overflow
  pure numbers.sum

variable {M : Type} (tools : BundleTools M)

def validateExtensions (manifest : M) : Except BundleFailure Unit := do
  let declared := tools.assets manifest
  ensure (declared.length ≤ 64) .invalid
  let total ← checkedSum (declared.map (·.sizeBytes))
  ensure (total ≤ maxTotalAssetBytes) .invalid
  ensure (declared.all (·.valid) && (declared.map (·.path)).Nodup) .invalid
  ensure (tools.contributionsValid manifest) .invalid

/-- The asset that a path has in the map: the last one. -/
def assetMap (assets : List BundleAsset) (path : String) : Option BundleAsset :=
  assets.reverse.find? (·.path = path)

/-- What the manifest should declare of an asset. -/
def BundleAsset.describe (asset : BundleAsset) : PluginAssetDescriptor :=
  ⟨asset.path, asset.mediaType, tools.sha256 asset.content, asset.content.length⟩

/-- `validate_plugin_content`. -/
def validateContent (parts : BundleParts) : Except BundleFailure M := do
  ensure (parts.manifest ≠ [] && parts.manifest.length ≤ maxManifestBytes) .invalid
  ensure (parts.component.all fun component => component.length ≤ maxComponentBytes) .invalid
  let manifest ← okOr (tools.parse parts.manifest) .invalid
  ensure (tools.metadataValid manifest) .invalid
  validateExtensions tools manifest
  ensure (tools.wasm manifest = parts.component.isSome) .invalid
  let declared := tools.assets manifest
  let expected := (declared.map (·.path)).dedup
  let keys := (parts.assets.map (·.path)).dedup
  ensure (expected.length = declared.length && expected.length = keys.length &&
    keys.all (· ∈ expected)) .invalid
  ensure (declared.all fun asset =>
    (assetMap parts.assets asset.path).any (·.describe tools = asset)) .invalid
  ensure (parts.component.all tools.componentValid) .invalid
  ensure (tools.schemaValid manifest) .invalid
  pure manifest

structure PreparedPluginPackage (M : Type) where
  manifest : M
  manifestJson : String
  component : Option Bytes
  assets : List PluginAssetBlob
  digest : String
  sizeBytes : ℕ
  declaredContributions : List String
deriving DecidableEq

def BundleAsset.blob (asset : BundleAsset) : PluginAssetBlob :=
  ⟨asset.path, asset.mediaType, asset.content, tools.sha256 asset.content⟩

def prepare (parts : BundleParts) : Except BundleFailure (PreparedPluginPackage M) := do
  ensure (parts.manifest.length ≤ maxManifestBytes &&
    parts.component.all fun component => component.length ≤ maxComponentBytes) .invalid
  let manifest ← validateContent tools parts
  let manifestJson ← okOr (Utf8.decode parts.manifest) .invalid
  let blobs := (parts.assets.map (·.blob tools)).insertionSort fun a b => a.path ≤ b.path
  let sizeBytes ← checkedSum
    (parts.manifest.length :: parts.componentBytes.length :: blobs.map (·.content.length))
  pure ⟨manifest, manifestJson, parts.component, blobs, tools.sha256 (frames parts.strings),
    sizeBytes, tools.contributions manifest⟩

def decodeBundle (bytes : Bytes) : Except BundleFailure (PreparedPluginPackage M) := do
  prepare tools (← okOr (decodeParts bytes) .invalid)

/-! ### Results -/

variable {tools} {package package' : PreparedPluginPackage M} {manifest : M}

theorem prepare_eq_ok (h : prepare tools parts = .ok package) :
    validateContent tools parts = .ok package.manifest ∧
      package.assets.Perm (parts.assets.map (·.blob tools)) ∧
      (Utf8.decode parts.manifest).isSome = true ∧
      package.digest = tools.sha256 (frames parts.strings) := by
  simp only [prepare, bind_eq_ok, ensure_eq_ok, okOr_eq_ok, pure_eq_ok] at h
  obtain ⟨-, -, manifest, hmanifest, _, hjson, -, -, rfl⟩ := h
  exact ⟨hmanifest, List.perm_insertionSort .., by rw [hjson]; rfl, rfl⟩

theorem decodeBundle_eq_ok (h : decodeBundle tools bytes = .ok package) :
    ∃ parts, decodeParts bytes = some parts ∧ prepare tools parts = .ok package := by
  simpa only [decodeBundle, bind_eq_ok, okOr_eq_ok] using h

/-- **Bundles with one digest are the same.** -/
theorem digest_identifies_bundle (tools : BundleTools M) (hsha : Function.Injective tools.sha256)
    {bytes bytes' : Bytes} {package package' : PreparedPluginPackage M}
    (h : decodeBundle tools bytes = .ok package) (h' : decodeBundle tools bytes' = .ok package') :
    package.digest = package'.digest ↔ bytes = bytes' := by
  constructor
  · intro hdigest
    obtain ⟨parts, hparts, hprepare⟩ := decodeBundle_eq_ok h
    obtain ⟨parts', hparts', hprepare'⟩ := decodeBundle_eq_ok h'
    obtain ⟨rfl, -, hshort⟩ := decodeParts_eq_some hparts
    obtain ⟨rfl, -, hshort'⟩ := decodeParts_eq_some hparts'
    rw [(prepare_eq_ok hprepare).2.2.2, (prepare_eq_ok hprepare').2.2.2] at hdigest
    have hstrings : parts.strings = parts'.strings :=
      frames_injective hshort hshort' (hsha hdigest)
    simp only [BundleParts.strings, List.cons.injEq] at hstrings
    obtain ⟨hmanifest, hcomponent, hassets⟩ := hstrings
    rw [BundleParts.encode, hmanifest, hcomponent, assets_eq_of_strings hassets,
      ← BundleParts.encode]
  · rintro rfl
    rw [h] at h'
    cases h'
    rfl

/-- Manifests that declare one asset, or two assets whose sizes cannot be summed up, or none. -/
def sampleTools (sha256 : Bytes → String) : BundleTools (List PluginAssetDescriptor) where
  parse bytes :=
    let digest := String.ofList (List.replicate 64 '0')
    if bytes = [65] then some [⟨"a.html", "text/html", digest, 64⟩]
    else if bytes = [66] then
      some [⟨"a.html", "text/html", digest, 2 ^ 63⟩, ⟨"b.html", "text/html", digest, 2 ^ 63⟩]
    else some []
  assets declared := declared
  wasm _ := true
  metadataValid _ := true
  contributionsValid _ := true
  componentValid _ := true
  schemaValid _ := true
  contributions _ := []
  sha256 := sha256

def sampleAsset : BundleAsset := ⟨"a.html", "text/html", List.replicate 64 48⟩

def sampleBundle (manifest component : UInt8) (assets : List BundleAsset) : Bytes :=
  BundleParts.encode ⟨[manifest], some [component], assets⟩

/-- A hash that is injective: the bytes as characters. -/
def latin1 (bytes : Bytes) : String := String.ofList (bytes.map fun b => Char.ofNat b.toNat)

theorem latin1_injective : Function.Injective latin1 := by
  have hbyte : ∀ n < 256, (Char.ofNat n).toNat = n := by decide +kernel
  intro bytes bytes' h
  refine List.map_injective_iff.2 ?_ (String.ofList_injective h)
  intro a b h
  have h := congrArg Char.toNat h
  rw [hbyte _ a.toNat_lt, hbyte _ b.toNat_lt] at h
  exact UInt8.toNat_inj.1 h

/-- Two bundles that differ in their component only. -/
theorem digest_identifies_bundle_sample : ∃ package package',
    decodeBundle (sampleTools latin1) (sampleBundle 65 1 [sampleAsset]) = .ok package ∧
      decodeBundle (sampleTools latin1) (sampleBundle 65 2 [sampleAsset]) = .ok package' ∧
      package.digest ≠ package'.digest := by
  have haccepted : ∀ component ∈ [1, 2], ((decodeBundle (sampleTools latin1)
      (sampleBundle 65 component [sampleAsset])).map fun _ => ()) = .ok () := by decide +kernel
  obtain ⟨package, h, -⟩ := map_eq_ok.1 (haccepted 1 (by decide))
  obtain ⟨package', h', -⟩ := map_eq_ok.1 (haccepted 2 (by decide))
  refine ⟨package, package', h, h', fun hdigest => ?_⟩
  exact absurd ((digest_identifies_bundle _ latin1_injective h h').1 hdigest) (by decide +kernel)

/-- The manifest passes the checks before the sum of the declared sizes. -/
def BundleParts.Declares (tools : BundleTools M) (parts : BundleParts) (manifest : M) : Prop :=
  (parts.manifest ≠ [] ∧ parts.manifest.length ≤ maxManifestBytes) ∧
    (parts.component.all fun component => component.length ≤ maxComponentBytes) = true ∧
    tools.parse parts.manifest = some manifest ∧ tools.metadataValid manifest = true ∧
    (tools.assets manifest).length ≤ 64

/-- The sizes that are summed up fit in 64 bits, and no path stands twice in a bundle whose content
is accepted. -/
structure BundleParts.Unambiguous (tools : BundleTools M) (parts : BundleParts) : Prop where
  sizes : ∀ manifest, parts.Declares tools manifest →
    ((tools.assets manifest).map (·.sizeBytes)).sum < 2 ^ 64
  paths : (validateContent tools parts).isOk = true → (Utf8.decode parts.manifest).isSome = true →
    (parts.assets.map (·.path)).Nodup

theorem checkedSum_eq_error {numbers : List ℕ} :
    checkedSum numbers = .error .overflow ↔ ¬numbers.sum < 2 ^ 64 := by
  simp only [checkedSum, bind_eq_error, ensure_eq_error, pure_ne_error, decide_eq_false_iff_not,
    and_true, and_false, exists_false, or_false]

theorem validateContent_overflow : validateContent tools parts = .error .overflow ↔
    ∃ manifest, parts.Declares tools manifest ∧
      ¬((tools.assets manifest).map (·.sizeBytes)).sum < 2 ^ 64 := by
  simp only [validateContent, validateExtensions, bind_eq_error, ensure_eq_error, ensure_eq_ok,
    okOr_eq_error, okOr_eq_ok, checkedSum_eq_error, pure_ne_error, reduceCtorEq, and_false,
    exists_false, false_or, or_false, BundleParts.Declares, exists_const, Bool.and_eq_true,
    decide_eq_true_eq, and_assoc, exists_and_left]

/-- The parts of a bundle are smaller than it. -/
theorem sizes_le_encode : parts.manifest.length + (parts.componentBytes.length +
    (parts.assets.map (·.content.length)).sum) ≤ parts.encode.length := by
  have hassets : ∀ assets : List BundleAsset, (assets.map (·.content.length)).sum ≤
      (assets.flatMap BundleAsset.encode).length := by
    intro assets
    induction assets with
    | nil => exact Nat.le_refl 0
    | cons asset assets ih =>
      simp only [List.map_cons, List.sum_cons, List.flatMap_cons, List.length_append,
        BundleAsset.encode, BundleAsset.strings, List.flatten_cons]
      omega
  have hparts := hassets parts.assets
  simp only [BundleParts.encode, List.length_append]
  omega

/-- The sum of the sizes of a bundle's parts. -/
theorem exists_size (tools : BundleTools M) (hparts : decodeParts bytes = some parts) :
    ∃ size, checkedSum (parts.manifest.length :: parts.componentBytes.length ::
      ((parts.assets.map (·.blob tools)).insertionSort fun a b => a.path ≤ b.path).map
        (·.content.length)) = .ok size := by
  obtain ⟨rfl, hlength, -⟩ := decodeParts_eq_some hparts
  refine ⟨_, bind_eq_ok.2 ⟨(), ensure_eq_ok.2 (decide_eq_true ?_), rfl⟩⟩
  have hblobs := ((List.perm_insertionSort (fun a b : PluginAssetBlob => a.path ≤ b.path)
    (parts.assets.map (·.blob tools))).map (·.content.length)).sum_eq
  rw [List.sum_cons, List.sum_cons, hblobs, List.map_map]
  exact (sizes_le_encode.trans hlength).trans_lt (by decide)

/-- Only the declared sizes can overflow: the package is no longer than the bundle. -/
theorem decodeBundle_overflow : decodeBundle tools bytes = .error .overflow ↔
    ∃ parts, decodeParts bytes = some parts ∧ ∃ manifest, parts.Declares tools manifest ∧
      ¬((tools.assets manifest).map (·.sizeBytes)).sum < 2 ^ 64 := by
  simp only [decodeBundle, prepare, bind_eq_error, ensure_eq_error, ensure_eq_ok, okOr_eq_error,
    okOr_eq_ok, reduceCtorEq, and_false, false_or, ← validateContent_overflow]
  refine exists_congr fun parts => and_congr_right fun hparts => ?_
  obtain ⟨size, hsize⟩ := exists_size tools hparts
  simp only [hsize, pure_ne_error, reduceCtorEq, and_false, exists_false, or_false, exists_const]
  refine and_iff_right_of_imp fun h => ?_
  obtain ⟨_, ⟨⟨-, hmanifest⟩, hcomponent, -⟩, -⟩ := validateContent_overflow.1 h
  simp [hmanifest, hcomponent]

theorem exists_package (hparts : decodeParts bytes = some parts)
    (hcontent : (validateContent tools parts).isOk = true)
    (hutf8 : (Utf8.decode parts.manifest).isSome = true) :
    ∃ package, decodeBundle tools bytes = .ok package := by
  obtain ⟨size, hsize⟩ := exists_size tools hparts
  obtain ⟨json, hjson⟩ := Option.isSome_iff_exists.1 hutf8
  cases hvalid : validateContent tools parts with
  | error e => simp [hvalid, Except.isOk, Except.toBool] at hcontent
  | ok manifest =>
    have hbounds := hvalid
    simp only [validateContent, bind_eq_ok, ensure_eq_ok, Bool.and_eq_true, decide_eq_true_eq]
      at hbounds
    obtain ⟨_, ⟨-, hmanifest⟩, _, hcomponent, -⟩ := hbounds
    simp only [decodeBundle, prepare, bind_eq_ok, okOr_eq_ok, ensure_eq_ok]
    exact ⟨_, parts, hparts, (), by simp [hmanifest, hcomponent], manifest, hvalid, json, hjson,
      size, hsize, rfl⟩

theorem validateContent_eq_ok (h : validateContent tools parts = .ok manifest) :
    ((tools.assets manifest).map (·.sizeBytes)).sum ≤ maxTotalAssetBytes ∧
      (∀ d ∈ tools.assets manifest, d.sizeBytes ≤ maxAssetBytes) ∧
      ((tools.assets manifest).map (·.path)).Nodup ∧
      (tools.assets manifest).length = (parts.assets.map (·.path)).dedup.length ∧
      ∀ d ∈ tools.assets manifest, ∃ asset ∈ parts.assets, asset.describe tools = d := by
  simp only [validateContent, validateExtensions, checkedSum, bind_eq_ok, ensure_eq_ok, okOr_eq_ok,
    pure_eq_ok, Bool.and_eq_true, decide_eq_true_eq, List.all_eq_true] at h
  obtain ⟨-, -, -, -, _, -, -, -, -, ⟨-, -, _, ⟨-, -, rfl⟩, -, htotal, -, ⟨hvalid, hnodup⟩, -⟩, -,
    -, -, ⟨⟨hexpected, hkeys⟩, -⟩, -, hfound, -, -, -, -, rfl⟩ := h
  refine ⟨htotal, ?_, hnodup, hexpected.symm.trans hkeys, ?_⟩
  · intro d hd
    have hd := hvalid d hd
    simp only [PluginAssetDescriptor.valid, Bool.and_eq_true, decide_eq_true_eq] at hd
    exact hd.1.1.1.1
  · intro d hd
    have hany := hfound d hd
    rw [Option.any_eq_true] at hany
    obtain ⟨asset, hasset, hdescribe⟩ := hany
    exact ⟨asset, List.mem_reverse.1 (List.mem_of_find?_eq_some hasset),
      of_decide_eq_true hdescribe⟩

/-- Declarations of different paths are the assets if each declares one and they are as many. -/
theorem declared_perm {declared : List PluginAssetDescriptor}
    (hassets : (assets.map (·.path)).Nodup) (hdeclared : (declared.map (·.path)).Nodup)
    (hlength : declared.length = (assets.map (·.path)).dedup.length)
    (hfound : ∀ d ∈ declared, ∃ asset ∈ assets, asset.describe tools = d) :
    (assets.map (·.describe tools)).Perm declared := by
  have hsubset : declared ⊆ assets.map (·.describe tools) :=
    fun d hd => List.mem_map.2 (hfound d hd)
  have hsubperm := List.subperm_of_subset hdeclared.of_map hsubset
  rw [hassets.dedup, List.length_map] at hlength
  exact (hsubperm.perm_of_length_le (by rw [List.length_map, hlength])).symm

/-- A stored asset, as the manifest would declare it. -/
def PluginAssetBlob.describe (blob : PluginAssetBlob) : PluginAssetDescriptor :=
  ⟨blob.path, blob.mediaType, blob.digest, blob.content.length⟩

/-- **The assets of a package are the declared ones**, each of them once and within the limits, and
no sum overflows, **exactly when** the parts of the bundle are unambiguous. -/
theorem accepted_assets_are_declared (tools : BundleTools M) (bytes : Bytes) :
    (decodeBundle tools bytes ≠ .error .overflow ∧
      ∀ package, decodeBundle tools bytes = .ok package →
        (package.assets.map (·.describe)).Perm (tools.assets package.manifest) ∧
        (package.assets.map (·.path)).Nodup ∧
        (∀ a ∈ package.assets, a.digest = tools.sha256 a.content) ∧
        (∀ a ∈ package.assets, a.content.length ≤ maxAssetBytes) ∧
        (package.assets.map (·.content.length)).sum ≤ maxTotalAssetBytes) ↔
      ∀ parts, decodeParts bytes = some parts → parts.Unambiguous tools := by
  constructor
  · rintro ⟨hfits, hdeclared⟩ parts hparts
    refine ⟨fun manifest hdeclares => ?_, fun hcontent hutf8 => ?_⟩
    · by_contra hsum
      exact hfits (decodeBundle_overflow.2 ⟨parts, hparts, manifest, hdeclares, hsum⟩)
    · -- the bundle is accepted, and the package has the paths of its parts
      obtain ⟨package, hpackage⟩ := exists_package hparts hcontent hutf8
      obtain ⟨parts', hparts', hprepare⟩ := decodeBundle_eq_ok hpackage
      obtain rfl := Option.some_inj.1 (hparts.symm.trans hparts')
      have hpaths := ((prepare_eq_ok hprepare).2.1.map (·.path)).nodup_iff.1
        (hdeclared package hpackage).2.1
      rwa [List.map_map] at hpaths
  · intro hbytes
    refine ⟨fun h => ?_, fun package h => ?_⟩
    · obtain ⟨parts, hparts, manifest, hdeclares, hsum⟩ := decodeBundle_overflow.1 h
      exact hsum ((hbytes parts hparts).sizes manifest hdeclares)
    · obtain ⟨parts, hparts, hprepare⟩ := decodeBundle_eq_ok h
      obtain ⟨hcontent, hblobs, hutf8, -⟩ := prepare_eq_ok hprepare
      obtain ⟨htotal, hsize, hnodup, hlength, hfound⟩ := validateContent_eq_ok hcontent
      have hpaths := (hbytes parts hparts).paths (by rw [hcontent]; rfl) hutf8
      have hdeclared := declared_perm hpaths hnodup hlength hfound
      have hmap := hblobs.map (·.describe)
      rw [List.map_map] at hmap
      have hperm := hmap.trans hdeclared
      refine ⟨hperm, ?_, ?_, ?_, ?_⟩
      · have hpaths := (hperm.map (·.path)).nodup_iff.2 hnodup
        rwa [List.map_map] at hpaths
      · intro a ha
        obtain ⟨asset, -, rfl⟩ := List.mem_map.1 (hblobs.subset ha)
        rfl
      · intro a ha
        exact hsize _ (hperm.subset (List.mem_map_of_mem ha))
      · have hsum := (hperm.map (·.sizeBytes)).sum_eq
        rw [List.map_map] at hsum
        exact hsum.trans_le htotal

/-- The hash that the sample manifest names. -/
abbrev zeroTools : BundleTools (List PluginAssetDescriptor) :=
  sampleTools fun _ => String.ofList (List.replicate 64 '0')

theorem accepted_assets_are_declared_sample :
    ∃ package, decodeBundle zeroTools (sampleBundle 65 1 [sampleAsset]) = .ok package ∧
      (package.assets.map (·.describe)).Perm package.manifest := by
  have haccepted : ((decodeBundle zeroTools (sampleBundle 65 1 [sampleAsset])).map fun _ => ()) =
    .ok () := by decide +kernel
  obtain ⟨package, hpackage, -⟩ := map_eq_ok.1 haccepted
  have hparts : decodeParts (sampleBundle 65 1 [sampleAsset]) =
      some ⟨[65], some [1], [sampleAsset]⟩ := by
    decide +kernel
  refine ⟨package, hpackage, (((accepted_assets_are_declared zeroTools _).2 ?_).2 package
    hpackage).1⟩
  intro parts h
  obtain rfl := Option.some.inj (hparts.symm.trans h)
  refine ⟨?_, fun _ _ => by decide⟩
  rintro _ ⟨-, -, ⟨⟩, -⟩
  decide

/-- **Sizes that cannot be summed up, and an asset that is twice in a package** although it is
declared once. -/
theorem bundle_with_asset_twice :
    decodeBundle zeroTools (sampleBundle 66 1 []) = .error .overflow ∧
      ∃ package, decodeBundle zeroTools (sampleBundle 65 1 [sampleAsset, sampleAsset]) = .ok package ∧
        package.assets.length = 2 ∧ package.manifest.length = 1 := by
  have hlengths : ((decodeBundle zeroTools (sampleBundle 65 1 [sampleAsset, sampleAsset])).map
    fun package => (package.assets.length, package.manifest.length)) = .ok (2, 1) := by
    decide +kernel
  obtain ⟨package, hpackage, hlengths⟩ := map_eq_ok.1 hlengths
  exact ⟨by decide +kernel, package, hpackage, Prod.mk.inj hlengths⟩

end WorkspaceControl
