/-
**Downloads of plugin packages.**

`src/src/plugin_distribution/download.rs` fetches a package over https, hop by hop: each URL is
checked, its host is looked up, the addresses that were found are checked and pinned for the
connection, and a redirection leads to the next hop.  Names, redirections and bodies are those of an
adversary: what the environment answers at each hop is arbitrary.  A failure of the environment and
the timeout of the whole download have the same error.

Main definitions:

* `forbiddenIp` — the addresses that are not connected to;
* `validateAndResolve`, `readBody`, `downloadFrom`, `download` — the download, with the connections
  that it opens.

Main results:

* `download_confined` — **every connection goes to checked addresses of its own hop over https on
  port 443, at most three redirections are followed, on GitHub only to its hosts, and the content
  has the expected digest**.
-/
import Mathlib.Data.List.Chain
import WorkspaceControl.ByteText
import WorkspaceControl.PluginStore
import WorkspaceControl.Webhooks

set_option autoImplicit false

namespace WorkspaceControl

open Fallible AddressBlocks ByteText

/-! ### Addresses -/

def forbiddenV4 (ip : BitVec 32) : Bool :=
  let a := (ip >>> 24).toNat
  let b := (ip >>> 16).toNat % 256
  a = 0 || a = 10 || a = 127 || 224 ≤ a || (a = 100 && 64 ≤ b && b ≤ 127) || (a = 169 && b = 254) ||
    (a = 172 && 16 ≤ b && b ≤ 31) || (a = 192 && b = 168) || (a = 192 && b = 0) ||
    (a = 192 && b = 88) || (a = 198 && (b = 18 || b = 19 || b = 51)) || (a = 203 && b = 0)

/-- `Ipv6Addr::to_ipv4_mapped`. -/
def toIpv4Mapped (ip : BitVec 128) : Option (BitVec 32) :=
  if ip >>> 32 = 0xffff then some (ip.truncate 32) else none

def forbiddenIp : IpAddr → Bool
  | .v4 ip => forbiddenV4 ip
  | .v6 ip =>
    let segment := (ip >>> 112).toNat
    (toIpv4Mapped ip).any forbiddenV4 || ip = 1 || ip = 0 || segment / 2 ^ 8 = 0xff ||
      segment / 2 ^ 9 = 0xfc00 / 2 ^ 9 || segment / 2 ^ 6 = 0xfe80 / 2 ^ 6

/-! ### The download -/

/-- A URL with the parts that a download looks at. -/
structure DownloadUrl extends Url where
  port : Option ℕ
  fragment : Option String

inductive DownloadError
  | rejected
  | failed
  | digestMismatch

def maxPackageBytes : ℕ := 80 * 1024 * 1024

/-- A response; a chunk that could not be read ends its body. -/
structure Response where
  status : ℕ
  location : Option String
  contentLength : Option ℕ
  chunks : List (Option Bytes)

/-- What the environment answers at a hop. -/
structure HopAnswer where
  lookup : Option (List IpAddr)
  response : Option Response

/-- A connection: the URL, the number of the hop, the host and the addresses that are pinned. -/
structure Connection where
  url : DownloadUrl
  hop : ℕ
  host : List Char
  addresses : List IpAddr

/-- `Url::parse`, `Url::join`, `Url::host_str` and the hexadecimal text of SHA-256. -/
structure DownloadTools where
  parse : String → Option DownloadUrl
  join : DownloadUrl → String → Option DownloadUrl
  hostStr : Host → List Char
  sha256 : Bytes → List Char

def githubHost (redirect : ℕ) (host : List Char) : Bool :=
  host = "github.com".toList ||
    (0 < redirect && ".githubusercontent.com".toList.isSuffixOf host)

def validateAndResolve (tools : DownloadTools) (url : DownloadUrl) (github : Bool) (redirect : ℕ)
    (lookup : Option (List IpAddr)) : Except DownloadError (List Char × List IpAddr) := do
  ensure (url.scheme = "https" && url.username.isEmpty && url.password.isNone &&
    url.fragment.isNone && url.port.all fun port => port = 443) .rejected
  let host ← okOr url.host .rejected
  let host := (tools.hostStr host).map Char.toLower
  ensure (!github || githubHost redirect host) .rejected
  let addresses ← okOr lookup .failed
  ensure (!addresses.isEmpty && !addresses.any forbiddenIp) .rejected
  pure (host, addresses)

/-- The chunks of the body, one after the other; `saturating_add` on 64 bits. -/
def readBody : List (Option Bytes) → Bytes → Except DownloadError Bytes
  | [], body => pure body
  | none :: _, _ => throw .failed
  | some chunk :: chunks, body => do
    ensure (min (body.length + chunk.length) (2 ^ 64 - 1) ≤ maxPackageBytes) .rejected
    readBody chunks (body ++ chunk)

/-- A response that is not a redirection. -/
def readContent (tools : DownloadTools) (expected : String) (response : Response) :
    Except DownloadError Bytes := do
  ensure (200 ≤ response.status && response.status ≤ 299) .failed
  ensure (response.contentLength.all fun length => length ≤ maxPackageBytes) .rejected
  let body ← readBody response.chunks []
  ensure ((tools.sha256 body).map Char.toLower = expected.toList.map Char.toLower) .digestMismatch
  pure body

/-- The loop over `redirect`, with the number of hops that are left. -/
def downloadFrom (tools : DownloadTools) (expected : String) (github : Bool) (env : ℕ → HopAnswer) :
    ℕ → DownloadUrl → List Connection × Except DownloadError Bytes
  | 0, _ => ([], .error .rejected)
  | left + 1, current =>
    let redirect := 3 - left
    match validateAndResolve tools current github redirect (env redirect).lookup with
    | .error e => ([], .error e)
    | .ok (host, addresses) =>
      let connection := ⟨current, redirect, host, addresses⟩
      match (env redirect).response with
      | none => ([connection], .error .failed)
      | some response =>
        if 300 ≤ response.status && response.status ≤ 399 then
          if !github || redirect = 3 then ([connection], .error .rejected)
          else
            match response.location.bind (tools.join current) with
            | none => ([connection], .error .rejected)
            | some next =>
              let rest := downloadFrom tools expected github env left next
              (connection :: rest.1, rest.2)
        else ([connection], readContent tools expected response)

/-- The download, with the connections that are opened. -/
def download (tools : DownloadTools) (url expected : String) (github : Bool) (env : ℕ → HopAnswer) :
    List Connection × Except DownloadError Bytes :=
  if Text.len expected.toList = 64 && expected.toList.all isAsciiHexdigit then
    match tools.parse url with
    | none => ([], .error .rejected)
    | some current => downloadFrom tools expected github env 4 current
  else ([], .error .rejected)

/-! ### What is connected to -/

/-- The connection is one that its own hop allows; the addresses are pinned for the host of its
URL. -/
structure Connection.Checked (tools : DownloadTools) (github : Bool) (env : ℕ → HopAnswer)
    (c : Connection) : Prop where
  https : c.url.scheme = "https"
  port : c.url.port.getD 443 = 443
  host : c.url.host.map (fun host => (tools.hostStr host).map Char.toLower) = some c.host
  resolved : (env c.hop).lookup = some c.addresses
  nonempty : c.addresses ≠ []
  allowed : ∀ address ∈ c.addresses, forbiddenIp address = false
  github : github = true → githubHost c.hop c.host = true

/-- The first connection leads to a redirection, which is followed to the URL of the second. -/
def Connection.LeadsTo (tools : DownloadTools) (env : ℕ → HopAnswer) (c c' : Connection) : Prop :=
  ∃ response, (env c.hop).response = some response ∧
    (300 ≤ response.status ∧ response.status ≤ 399) ∧
    response.location.bind (tools.join c.url) = some c'.url

variable {tools : DownloadTools} {expected : String} {github : Bool} {env : ℕ → HopAnswer}
  {starts : DownloadUrl → Prop}

theorem checked_of_validate {url : DownloadUrl} {redirect : ℕ} {host : List Char}
    {addresses : List IpAddr} (h : validateAndResolve tools url github redirect
      (env redirect).lookup = .ok (host, addresses)) :
    (⟨url, redirect, host, addresses⟩ : Connection).Checked tools github env := by
  obtain ⟨hurl, h⟩ := ensure_bind_eq_ok.1 h
  obtain ⟨_, hhost, h⟩ := okOr_bind_eq_ok.1 h
  obtain ⟨hgithub, h⟩ := ensure_bind_eq_ok.1 h
  obtain ⟨_, hlookup, h⟩ := okOr_bind_eq_ok.1 h
  obtain ⟨hallowed, h⟩ := ensure_bind_eq_ok.1 h
  obtain ⟨rfl, rfl⟩ := Prod.mk.inj (pure_eq_ok.1 h)
  simp only [Bool.and_eq_true, decide_eq_true_eq, Bool.not_eq_true', List.any_eq_false,
    List.isEmpty_eq_false_iff] at hurl hallowed
  refine ⟨hurl.1.1.1.1, ?_, by rw [hhost]; rfl, hlookup, hallowed.1, ?_, ?_⟩
  · cases hport : url.port with
    | none => rfl
    | some port => simpa [hport] using hurl.2
  · intro address haddress
    simpa using hallowed.2 address haddress
  · intro hmode
    simpa [hmode] using hgithub

/-- What a loop from some hop on opens and returns. -/
structure Follows (tools : DownloadTools) (expected : String) (github : Bool) (env : ℕ → HopAnswer)
    (starts : DownloadUrl → Prop) (hop left : ℕ)
    (result : List Connection × Except DownloadError Bytes) : Prop where
  first : ∀ c ∈ result.1.head?, starts c.url
  chain : result.1.IsChain (Connection.LeadsTo tools env)
  checked : ∀ c ∈ result.1, c.Checked tools github env
  hops : result.1.map Connection.hop = List.range' hop result.1.length
  length : result.1.length ≤ left
  direct : github = false → result.1.length ≤ 1
  content : ∀ body, result.2 = .ok body → body.length ≤ maxPackageBytes ∧
    (tools.sha256 body).map Char.toLower = expected.toList.map Char.toLower

/-- The body never grows beyond the limit. -/
theorem length_of_readBody {chunks : List (Option Bytes)} {body content : Bytes}
    (hbody : body.length ≤ maxPackageBytes) (h : readBody chunks body = .ok content) :
    content.length ≤ maxPackageBytes := by
  induction chunks generalizing body with
  | nil =>
    obtain rfl := pure_eq_ok.1 h
    exact hbody
  | cons chunk chunks ih =>
    cases chunk with
    | none => cases h
    | some chunk =>
      obtain ⟨hlength, h⟩ := ensure_bind_eq_ok.1 h
      refine ih ?_ h
      have hlimit := of_decide_eq_true hlength
      simp only [List.length_append, maxPackageBytes] at hlimit ⊢
      omega

theorem content_of_readContent {response : Response} {body : Bytes}
    (h : readContent tools expected response = .ok body) : body.length ≤ maxPackageBytes ∧
      (tools.sha256 body).map Char.toLower = expected.toList.map Char.toLower := by
  obtain ⟨-, h⟩ := ensure_bind_eq_ok.1 h
  obtain ⟨-, h⟩ := ensure_bind_eq_ok.1 h
  obtain ⟨content, hread, h⟩ := bind_eq_ok.1 h
  obtain ⟨hdigest, h⟩ := ensure_bind_eq_ok.1 h
  obtain rfl := pure_eq_ok.1 h
  exact ⟨length_of_readBody (Nat.zero_le _) hread, of_decide_eq_true hdigest⟩

theorem follows_single {c : Connection} {left : ℕ} {result : Except DownloadError Bytes}
    (hstart : starts c.url) (hchecked : c.Checked tools github env)
    (hcontent : ∀ body, result = .ok body → body.length ≤ maxPackageBytes ∧
      (tools.sha256 body).map Char.toLower = expected.toList.map Char.toLower) :
    Follows tools expected github env starts c.hop (left + 1) ([c], result) where
  first := by simpa using hstart
  chain := .singleton c
  checked := by simpa using hchecked
  hops := rfl
  length := Nat.le_add_left 1 left
  direct _ := le_refl 1
  content := hcontent

theorem follows_none {hop left : ℕ} {e : DownloadError} :
    Follows tools expected github env starts hop left ([], .error e) :=
  ⟨nofun, .nil, nofun, rfl, Nat.zero_le _, fun _ => Nat.zero_le 1, nofun⟩

/-- A redirection that is followed. -/
theorem Follows.cons {c : Connection} {next : DownloadUrl} {left : ℕ} {rest}
    (h : Follows tools expected github env (next = ·) (c.hop + 1) left rest) (hstart : starts c.url)
    (hchecked : c.Checked tools github env) (hgithub : github = true)
    (hleads : ∀ c', next = c'.url → c.LeadsTo tools env c') :
    Follows tools expected github env starts c.hop (left + 1) (c :: rest.1, rest.2) where
  first := by simpa using hstart
  chain := List.isChain_cons.2 ⟨fun c' hc' => hleads c' (h.first c' hc'), h.chain⟩
  checked := List.forall_mem_cons.2 ⟨hchecked, h.checked⟩
  hops := by rw [List.map_cons, h.hops, List.length_cons, List.range'_succ]
  length := Nat.succ_le_succ h.length
  direct hmode := by cases hgithub.symm.trans hmode
  content := h.content

/-- **The loop**, by induction on the hops that are left. -/
theorem downloadFrom_follows (left : ℕ) (hleft : left ≤ 4) (current : DownloadUrl) :
    Follows tools expected github env (current = ·) (4 - left)
      left (downloadFrom tools expected github env left current) := by
  induction left generalizing current with
  | zero => exact follows_none
  | succ left ih =>
    have hhop : 4 - (left + 1) = 3 - left := by omega
    rw [downloadFrom, hhop]
    split
    · exact follows_none
    · rename_i host addresses hresolved
      have hchecked := checked_of_validate hresolved
      split
      · exact follows_single rfl hchecked nofun
      · rename_i response hresponse
        split
        · rename_i hredirects
          split
          · exact follows_single rfl hchecked nofun
          · rename_i hgithub
            split
            · exact follows_single rfl hchecked nofun
            · -- the redirection is followed: one hop fewer is left
              rename_i next hnext
              simp only [Bool.or_eq_true, Bool.not_eq_true', decide_eq_true_eq, not_or,
                Bool.not_eq_false] at hgithub
              have hrest := ih (by omega) next
              have hcount : 4 - left = 3 - left + 1 := by omega
              rw [hcount] at hrest
              refine hrest.cons rfl hchecked hgithub.1 ?_
              rintro c' rfl
              exact ⟨response, hresponse, by simpa using hredirects, hnext⟩
        · exact follows_single rfl hchecked fun body hbody => content_of_readContent hbody

/-- **A download is confined.**  The first connection is to the URL that is asked for, each other one
to where the one before was redirected.  Every connection is made over https on port 443 to addresses
that are those of its own hop's lookup and passed the check, for the host of its URL; the hops are
counted from 0 and at most three redirections are followed, none outside the GitHub mode and there
only to the hosts of GitHub; what is returned has at most 80 MiB and the expected digest. -/
theorem download_confined (tools : DownloadTools) (url expected : String) (github : Bool)
    (env : ℕ → HopAnswer) :
    Follows tools expected github env (fun start => tools.parse url = some start) 0 4
      (download tools url expected github env) := by
  unfold download
  split
  · split
    · exact follows_none
    · rename_i current hparse
      have h : Follows tools expected github env (current = ·) 0 4 _ :=
        downloadFrom_follows 4 (le_refl 4) current
      exact { h with first := fun c hc => h.first c hc ▸ hparse }
  · exact follows_none

def sampleUrl (host : String) : DownloadUrl := ⟨⟨"https", "", none, some (.domain host)⟩, none, none⟩

def sampleDownload : List Connection × Except DownloadError Bytes :=
  download ⟨fun _ => some (sampleUrl "github.com"),
      fun _ location => some (sampleUrl location),
      fun | .domain name => name.toList | _ => [],
      fun _ => List.replicate 64 '0'⟩
    "https://github.com/a/b/releases/download/c/d" (String.ofList (List.replicate 64 '0')) true
    fun hop => ⟨some [.v4 (ipv4 8 8 8 8)], some (if hop = 0
      then ⟨302, some "objects.githubusercontent.com", none, []⟩ else ⟨200, none, none, [some [1]]⟩)⟩

theorem download_confined_sample :
    sampleDownload.1.map (·.host) = ["github.com".toList, "objects.githubusercontent.com".toList] ∧
      sampleDownload.2.toOption = some [1] ∧
      ∀ c ∈ sampleDownload.1, ∀ address ∈ c.addresses, forbiddenIp address = false :=
  ⟨by decide +kernel, by decide +kernel,
    fun c hc => ((download_confined _ _ _ true _).checked c hc).allowed⟩

end WorkspaceControl
