import BuzzSolo.Checks
import BuzzSolo.PercentText
import BuzzSolo.ProofLedger

/-! The QR code of a device pairing, a `nostrpair://` URI with a key, a secret and relays. Relay
URLs are percent-encoded, so none of their characters meets the delimiters of the URI. -/
namespace BuzzSolo.PairingQr

open Checks HexText LineText List
open ProofLedger (splitOnce splitOnce_eq)

structure QrPayload where
  sourcePubkey : PublicKey
  sessionSecret : FixedBytes 32
  relays : List String
  version : ℕ

inductive QrError
  | invalidQr (text : String)

structure Url where
  scheme : String
  host : Option String

/-- The crates behind the QR code: nostr at public keys, url, and the texts of errors. -/
structure Crates where
  publicKeyFromHex : String → Except String PublicKey
  parseUrl : String → Except String Url
  hexError : String → String
  /-- The `Debug` text of a string. -/
  debugText : String → String
  fromUtf8Lossy : List UInt8 → String
  fromUtf8Lossy_utf8 : ∀ text, fromUtf8Lossy (ByteText.utf8 text) = text

def u32Count : ℕ := 2^32
def uriLimit : ℕ := 2048

def urlEncode (text : String) : String := String.ofList (PercentText.encode (ByteText.utf8 text))

def encodeQr (payload : QrPayload) : String :=
  payload.relays.foldl (fun uri relay => uri ++ "&relay=" ++ urlEncode relay)
    ("nostrpair://" ++ payload.sourcePubkey.toHex ++ "?secret=" ++ payload.sessionSecret.toHex) ++ "&v=1"

variable (X : Crates)

def urlDecode (text : String) : String := X.fromUtf8Lossy (PercentText.decode (ByteText.utf8 text))

structure Params where
  secretHex : Option String
  relays : List String
  version : Option ℕ

def readPair (found : Params) (pair : String) : Params :=
  match splitOnce '=' pair with
  | none => found
  | some (key,value) =>
    if key = "secret" then { found with secretHex := some value }
    else if key = "relay" then { found with relays := found.relays ++ [urlDecode X value] }
    else if key = "v" then { found with version := DecimalText.parseUnsigned u32Count value.toList }
    else found

def pairs (query : String) : List String := (query.toList.splitOn '&').map String.ofList

def readQuery (query : String) : Params := (pairs query).foldl (readPair X) ⟨none,[],none⟩

def isHex64 (text : String) : Bool := text.utf8ByteSize = 64 && text.toList.all isLowerHexChar

def decodeSecret (secret : String) : Except QrError (FixedBytes 32) := do
  require (isHex64 secret = true)
    (.invalidQr ("secret must be 64 lowercase hex chars, got " ++ X.debugText secret))
  let bytes ← okOr (decode secret.toList) (.invalidQr ("invalid secret hex: " ++ X.hexError secret))
  if h : bytes.length = 32 then .ok ⟨bytes,h⟩ else .error (.invalidQr "secret must be exactly 32 bytes")

def validateRelay (relay : String) : Except QrError Unit := do
  let parsed ← (X.parseUrl relay).mapError fun e =>
    .invalidQr ("invalid relay URL " ++ X.debugText relay ++ ": " ++ e)
  require (parsed.scheme = "wss" ∨ parsed.scheme = "ws")
    (.invalidQr ("relay URL must use wss:// or ws:// scheme, got " ++ X.debugText parsed.scheme))
  require (parsed.host ≠ none) (.invalidQr ("relay URL has no host: " ++ X.debugText relay))

def decodeQr (uri : String) : Except QrError QrPayload := do
  require (uri.utf8ByteSize ≤ uriLimit)
    (.invalidQr ("URI exceeds 2048-character limit (" ++ uri.utf8ByteSize.repr ++ " chars)"))
  let rest ← okOr (stripStart "nostrpair://" uri) (.invalidQr "URI must start with nostrpair://")
  let parts ← okOr (splitOnce '?' rest)
    (.invalidQr "missing query string (expected ?secret=…&relay=…)")
  require (isHex64 parts.1 = true)
    (.invalidQr ("pubkey must be 64 lowercase hex chars, got " ++ X.debugText parts.1))
  let sourcePubkey ← (X.publicKeyFromHex parts.1).mapError fun e => .invalidQr ("invalid pubkey: " ++ e)
  let found := readQuery X parts.2
  let version := found.version.getD 1
  require (version = 1) (.invalidQr ("unsupported protocol version " ++ version.repr ++ ", expected 1"))
  let secret ← okOr found.secretHex (.invalidQr "missing 'secret' query parameter")
  let sessionSecret ← decodeSecret X secret
  require (sessionSecret ≠ .ofNat 32 0) (.invalidQr "session_secret must not be all zeros")
  require (found.relays ≠ []) (.invalidQr "at least one 'relay' query parameter is required")
  let _ ← collect (validateRelay X) found.relays
  .ok ⟨sourcePubkey,sessionSecret,found.relays,version⟩

variable {X} (found : Params)

section

/-- The query of a URI: what follows its first question mark. -/
def queryOf (uri : String) : String := ((splitOnce '?' uri).map Prod.snd).getD ""

/-- The value of a pair, if it is a version parameter. -/
def versionValue (pair : String) : Option String :=
  match splitOnce '=' pair with
  | some (key,value) => if key = "v" then some value else none
  | none => none

def versionValues (uri : String) : List String := (pairs (queryOf uri)).filterMap versionValue

def parseVersion (value : String) : Option ℕ := DecimalText.parseUnsigned u32Count value.toList

lemma readPair_version (pair : String) :
    (readPair X found pair).version = ((versionValue pair).map parseVersion).getD found.version := by
  unfold readPair versionValue
  cases splitOnce '=' pair with
  | none => rfl
  | some parts =>
    obtain ⟨key,v⟩ := parts
    dsimp only
    by_cases hv : key = "v"
    · subst hv
      rfl
    · split_ifs <;> rfl

/-- The last version parameter decides. -/
lemma readPairs_version (ps : List String) : (ps.foldl (readPair X) found).version =
      ((ps.filterMap versionValue).getLast?.map parseVersion).getD found.version := by
  induction ps generalizing found with
  | nil => rfl
  | cons pair ps ih =>
    rw [foldl_cons,ih,readPair_version]
    cases hv : versionValue pair with
    | none => rw [filterMap_cons_none hv]; rfl
    | some v =>
      rw [filterMap_cons_some hv,getLast?_cons]
      cases (ps.filterMap versionValue).getLast? <;> rfl

structure Accepted (X : Crates) (uri : String) (payload : QrPayload) (pubkey query secret : String) :
    Prop where
  size : uri.utf8ByteSize ≤ uriLimit
  split : ∃ rest, stripStart "nostrpair://" uri = some rest ∧ splitOnce '?' rest = some (pubkey,query)
  pubkey_hex : isHex64 pubkey = true
  pubkey : X.publicKeyFromHex pubkey = .ok payload.sourcePubkey
  supported : (readQuery X query).version.getD 1 = 1
  secret_found : (readQuery X query).secretHex = some secret
  secret_decoded : decodeSecret X secret = .ok payload.sessionSecret
  secret_nonzero : payload.sessionSecret ≠ .ofNat 32 0
  relays : (readQuery X query).relays = payload.relays
  relays_ne_nil : payload.relays ≠ []
  relays_valid : ∀ relay ∈ payload.relays, validateRelay X relay = .ok ()
  version : payload.version = 1

variable {uri : String} {pay : QrPayload}

lemma decodeQr_eq_ok :
    decodeQr X uri = .ok pay ↔ ∃ pubkey query secret, Accepted X uri pay pubkey query secret := by
  simp only [decodeQr,bind_eq_ok,exists_unit,require_eq_ok,okOr_eq_ok,relabelled_ok]
  constructor
  · rintro ⟨hsi,rest,hs,⟨pubkey,query⟩,hsp,hh,key,hkey,hversion,secret,hf,bytes,hb,hz, hne,checks,hv,hp⟩
    cases hp
    refine ⟨pubkey,query,secret,hsi,⟨rest,hs,hsp⟩,hh,hkey,hversion,hf,hb,hz,rfl,hne,?_, hversion⟩
    intro rl hr
    obtain ⟨u,hu⟩ := ok_of_collect hv hr
    exact hu
  · rintro ⟨pubkey,query,secret,h⟩
    obtain ⟨rest,hs,hsp⟩ := h.split
    have hne : (readQuery X query).relays ≠ [] := by
      rw [h.relays]
      exact h.relays_ne_nil
    obtain ⟨checks,hc⟩ := exists_collect fun rl hr => ⟨(),h.relays_valid rl hr⟩
    refine ⟨h.size,rest,hs,(pubkey,query),hsp,h.pubkey_hex,_,h.pubkey,h.supported,secret,h.secret_found,
      _,h.secret_decoded,h.secret_nonzero,hne,checks,?_,?_⟩
    · rw [h.relays]
      exact hc
    · rw [h.relays,h.supported,← h.version]

lemma of_splitOnce {sep : Char} {t fr back : String} (h : splitOnce sep t = some (fr,back)) :
    t.toList = fr.toList ++ sep :: back.toList ∧ sep ∉ fr.toList := by
  unfold splitOnce at h
  rw [span_eq_takeWhile_dropWhile] at h
  cases hd : t.toList.dropWhile (· ≠ sep) with
  | nil =>
    rw [hd] at h
    cases h
  | cons c rest =>
    rw [hd] at h
    cases h
    have hc : c = sep := by
      have hh := head?_dropWhile_not (fun x => decide (x ≠ sep)) t.toList
      rw [hd] at hh
      simpa using hh
    subst hc
    rw [String.toList_ofList,String.toList_ofList,← hd,takeWhile_append_dropWhile]
    exact ⟨rfl,fun hm => by simpa using mem_takeWhile_imp hm⟩

lemma queryOf_of_accepted {pubkey query secret : String}
    (h : Accepted X uri pay pubkey query secret) : queryOf uri = query := by
  obtain ⟨rest,hst,hsp⟩ := h.split
  obtain ⟨hr,hn⟩ := of_splitOnce hsp
  have hu : uri.toList = ("nostrpair://".toList ++ pubkey.toList) ++ '?' :: query.toList := by
    rw [stripStart_eq_some.1 hst,String.toList_append,hr,append_assoc]
  have hs : '?' ∉ "nostrpair://".toList ++ pubkey.toList := by
    rw [mem_append,not_or]
    exact ⟨by decide,hn⟩
  rw [queryOf,splitOnce_eq hu hs]
  exact String.ofList_toList

lemma parseVersion_eq_one {v : String} : parseVersion v = some 1 ↔ DecimalText.SpellsOne v.toList :=
  DecimalText.parseUnsigned_eq_one (by decide)

end

variable (payload : QrPayload) (vs : List String)

section

lemma urlDecode_urlEncode (t : String) : urlDecode X (urlEncode t) = t := by
  have ha : ∀ c ∈ (urlEncode t).toList, c.toNat < 128 := by
    intro c hc
    rw [urlEncode,String.toList_ofList] at hc
    rcases PercentText.mem_encode hc with rfl | hp
    · decide
    · have hr := PercentText.isPlain_iff.1 hp
      omega
  rw [urlDecode,ByteText.utf8_of_ascii ha,urlEncode,String.toList_ofList,PercentText.decode_encode,
    X.fromUtf8Lossy_utf8]

variable {c : Char}

lemma delimiter_notMem_urlEncode (hc : PercentText.isPlain c = false) (hpe : c ≠ '%')
    (t : String) : c ∉ (urlEncode t).toList := by
  intro hm
  rw [urlEncode,String.toList_ofList] at hm
  rcases PercentText.mem_encode hm with rfl | hp
  · exact hpe rfl
  · rw [hc] at hp
    cases hp

lemma delimiter_notMem_toHex (hc : isLowerHexChar c = false) {n : ℕ} (b : FixedBytes n) :
    c ∉ b.toHex.toList := by
  intro hm
  rw [FixedBytes.toHex,String.toList_ofList] at hm
  rw [isLowerHexChar_of_mem_encode _ _ hm] at hc
  cases hc

lemma isHex64_toHex (b : FixedBytes 32) : isHex64 b.toHex = true := by
  have hlo : ∀ c ∈ b.toHex.toList, isLowerHexChar c = true := by
    rw [FixedBytes.toHex,String.toList_ofList]
    exact isLowerHexChar_of_mem_encode _
  have ha : ∀ c ∈ b.toHex.toList, c.toNat < 128 := by
    intro c hc
    have hr : (48 ≤ c.toNat ∧ c.toNat ≤ 57) ∨ (97 ≤ c.toNat ∧ c.toNat ≤ 102) := by
      simpa [isLowerHexChar,Char.le_def,UInt32.le_iff_toNat_le] using hlo c hc
    omega
  have hl := FixedBytes.length_of_fromHex (FixedBytes.fromHex_toHex b)
  rw [isHex64,Bool.and_eq_true,all_eq_true,ByteText.utf8ByteSize_of_ascii ha,hl]
  exact ⟨rfl,hlo⟩

lemma decodeSecret_toHex (b : FixedBytes 32) : decodeSecret X b.toHex = .ok b := by
  have hd : decode b.toHex.toList = some b.bytes := by
    rw [FixedBytes.toHex,String.toList_ofList,decode_encode]
  simp only [decodeSecret,bind_eq_ok,exists_unit,require_eq_ok,okOr_eq_ok]
  exact ⟨isHex64_toHex b,b.bytes,hd,dif_pos b.length_bytes⟩

def shownUri (payload : QrPayload) (versions : List String) : String :=
  versions.foldl (fun uri version => uri ++ "&v=" ++ version) (encodeQr payload)

def shownPairs (payload : QrPayload) (versions : List String) : List String :=
  ("secret=" ++ payload.sessionSecret.toHex) ::
    (payload.relays.map (fun relay => "relay=" ++ urlEncode relay) ++ ("1" :: versions).map ("v=" ++ ·))

lemma toList_append_pairs {key key' : String} (hkey : key.toList = '&' :: key'.toList)
    (write : String → String)
    (vs : List String) (s0 : String) :
    (vs.foldl (fun uri v => uri ++ key ++ write v) s0).toList =
      s0.toList ++ ((vs.map fun v => key' ++ write v).map String.toList).flatMap ('&' :: ·) := by
  induction vs generalizing s0 with
  | nil => simp
  | cons v vs ih =>
    rw [foldl_cons,ih]
    simp [hkey]

lemma toList_shownUri : (shownUri payload vs).toList =
    ("nostrpair://".toList ++ payload.sourcePubkey.toHex.toList) ++
      '?' :: ['&'].intercalate ((shownPairs payload vs).map String.toList) := by
  have hs : "?secret=".toList = '?' :: "secret=".toList := rfl
  have hversion : "&v=1".toList = '&' :: ("v=" ++ "1").toList := rfl
  have hr := toList_append_pairs (show "&relay=".toList = '&' :: "relay=".toList from rfl) urlEncode
    payload.relays
  have hv := toList_append_pairs (show "&v=".toList = '&' :: "v=".toList from rfl) id vs
  simp only [id] at hv
  rw [shownUri,hv,encodeQr,String.toList_append,hr,shownPairs,map_cons,map_append,
    LineText.intercalate_cons,flatMap_append,map_cons,map_cons,flatMap_cons]
  simp only [String.toList_append,hs,hversion,append_assoc,cons_append]

lemma pairs_shown {vs : List String} (h : ∀ v ∈ vs, '&' ∉ v.toList) :
    pairs (String.ofList (['&'].intercalate ((shownPairs payload vs).map String.toList))) =
      shownPairs payload vs := by
  have hn : ∀ l ∈ (shownPairs payload vs).map String.toList, '&' ∉ l := by
    intro l hl
    obtain ⟨pair,hp,rfl⟩ := mem_map.1 hl
    simp only [shownPairs,mem_cons,mem_append,mem_map] at hp
    rcases hp with rfl | ⟨relay,-,rfl⟩ | ⟨v,hv,rfl⟩ <;> rw [String.toList_append,mem_append,not_or]
    · exact ⟨by decide,delimiter_notMem_toHex (by decide) _⟩
    · exact ⟨by decide,delimiter_notMem_urlEncode (by decide) (by decide) _⟩
    · rcases hv with rfl | hv
      · decide
      · exact ⟨by decide,h v hv⟩
  rw [pairs,String.toList_ofList,splitOn_intercalate _ hn (by simp [shownPairs]),map_map]
  exact (map_congr_left fun pair _ => String.ofList_toList).trans (map_id _)

lemma splitOnce_pair {key s0 : String} (hs : s0 = key ++ "=") (hkey : '=' ∉ key.toList)
    (v : String) : splitOnce '=' (s0 ++ v) = some (key,v) := by
  have hp : (s0 ++ v).toList = key.toList ++ '=' :: v.toList := by
    simp [hs]
  rw [splitOnce_eq hp hkey,String.ofList_toList,String.ofList_toList]

lemma splitOnce_relay (v : String) : splitOnce '=' ("relay=" ++ v) = some ("relay",v) :=
  splitOnce_pair (by decide) (by decide) v

lemma splitOnce_secret (v : String) : splitOnce '=' ("secret=" ++ v) = some ("secret",v) :=
  splitOnce_pair (by decide) (by decide) v

lemma splitOnce_version (v : String) : splitOnce '=' ("v=" ++ v) = some ("v",v) :=
  splitOnce_pair (by decide) (by decide) v

lemma readPairs_relays (relays : List String) :
    (relays.map fun rl => "relay=" ++ urlEncode rl).foldl (readPair X) found =
      { found with relays := found.relays ++ relays } := by
  induction relays generalizing found with
  | nil => simp
  | cons rl relays ih =>
    rw [map_cons,foldl_cons,readPair,splitOnce_relay,ih]
    simp [urlDecode_urlEncode]

lemma readPairs_versions : (vs.map ("v=" ++ ·)).foldl (readPair X) found =
      { found with version := (vs.getLast?.map parseVersion).getD found.version } := by
  induction vs generalizing found with
  | nil => rfl
  | cons v vs ih =>
    rw [map_cons,foldl_cons,readPair,splitOnce_version,ih,getLast?_cons]
    cases vs.getLast? <;> rfl

lemma readPairs_shown : (shownPairs payload vs).foldl (readPair X) ⟨none,[],none⟩ =
      ⟨some payload.sessionSecret.toHex,payload.relays,parseVersion (vs.getLast?.getD "1")⟩ := by
  rw [shownPairs,foldl_cons,readPair,splitOnce_secret,foldl_append,readPairs_relays,readPairs_versions,
    getLast?_cons]
  rfl

lemma versionValues_shownUri {versions : List String}
    (h : ∀ v ∈ versions, '&' ∉ v.toList) : versionValues (shownUri payload versions) = "1" :: versions := by
  have hq : '?' ∉ "nostrpair://".toList ++ payload.sourcePubkey.toHex.toList := by
    rw [mem_append,not_or]
    exact ⟨by decide,delimiter_notMem_toHex (by decide) _⟩
  rw [versionValues,queryOf,splitOnce_eq (toList_shownUri payload versions) hq]
  have hv : ∀ vs : List String, (vs.map ("v=" ++ ·)).filterMap versionValue = vs := by
    simp [Function.comp_def,versionValue,splitOnce_version]
  rw [Option.map_some,Option.getD_some,pairs_shown payload h,shownPairs,filterMap_cons,filterMap_append, hv]
  simp [versionValue,splitOnce_secret,splitOnce_relay]

/-- The URI of a payload is accepted whatever versions stand before the last one, if that is
read as the supported one or not read at all. -/
lemma decodeQr_shownUri {vs : List String} (h : ∀ v ∈ vs, '&' ∉ v.toList)
    (hl : (parseVersion (vs.getLast?.getD "1")).getD 1 = 1)
    (hkey : X.publicKeyFromHex payload.sourcePubkey.toHex = .ok payload.sourcePubkey)
    (hs : payload.sessionSecret ≠ .ofNat 32 0) (hne : payload.relays ≠ [])
    (hre : ∀ rl ∈ payload.relays, ∃ url, X.parseUrl rl = .ok url ∧
      (url.scheme = "wss" ∨ url.scheme = "ws") ∧ url.host ≠ none)
    (hsi : (shownUri payload vs).utf8ByteSize ≤ uriLimit) :
    decodeQr X (shownUri payload vs) = .ok { payload with version := 1 } := by
  have hr : readQuery X (String.ofList (['&'].intercalate ((shownPairs payload vs).map String.toList))) =
      ⟨some payload.sessionSecret.toHex,payload.relays,parseVersion (vs.getLast?.getD "1")⟩ := by
    rw [readQuery,pairs_shown payload h,readPairs_shown]
  rw [decodeQr_eq_ok]
  refine ⟨payload.sourcePubkey.toHex,String.ofList (['&'].intercalate ((shownPairs payload vs).map
    String.toList)),payload.sessionSecret.toHex,?_⟩
  refine ⟨hsi,?_,isHex64_toHex _,hkey,?_,?_,decodeSecret_toHex _,hs,?_,hne,?_,rfl⟩
  · have hq : '?' ∉ payload.sourcePubkey.toHex.toList := delimiter_notMem_toHex (by decide) _
    refine ⟨String.ofList (payload.sourcePubkey.toHex.toList ++
      '?' :: ['&'].intercalate ((shownPairs payload vs).map String.toList)),?_,?_⟩
    · rw [stripStart_eq_some,← String.toList_inj]
      simp only [toList_shownUri,String.toList_append,String.toList_ofList,append_assoc]
    · rw [splitOnce_eq (String.toList_ofList ..) hq,String.ofList_toList]
  · rw [hr]
    exact hl
  · rw [hr]
  · rw [hr]
  · intro rl hrl
    obtain ⟨url,hu,hsc,hh⟩ := hre rl hrl
    simp only [validateRelay,bind_eq_ok,exists_unit,require_eq_ok,relabelled_ok]
    exact ⟨url,hu,hsc,hh⟩

end

section

/-- A UTF-8 reader that gives one replacement character for a text that is none. -/
def readLossy (bytes : List UInt8) : String := (ByteText.fromUtf8 bytes).getD "�"

lemma readLossy_utf8 (t : String) : readLossy (ByteText.utf8 t) = t := by
  rw [readLossy,ByteText.fromUtf8_utf8]
  rfl

/-- The crates as they act on keys of the right length and on absolute URLs of the scheme. -/
def qrCrates : Crates where
  publicKeyFromHex := fun text => okOr (FixedBytes.fromHex 32 text) "invalid hex"
  parseUrl := fun text =>
    match stripStart "wss://" text with
    | some rest => .ok ⟨"wss",some (String.ofList (rest.toList.takeWhile (· ≠ '/')))⟩
    | none => .error "relative URL without a base"
  hexError := fun _ => "invalid length"
  debugText := id
  fromUtf8Lossy := readLossy
  fromUtf8Lossy_utf8 := readLossy_utf8

/-- A payload whose second relay has every delimiter of the URI in it. -/
def shownPayload : QrPayload where
  sourcePubkey := firstKey
  sessionSecret := .ofNat 32 0xa1b2c3d4e5f60718293a4b5c6d7e8f90
  relays := ["wss://relay.example","wss://relay.example/path?token=a&flag=1#x%20y"]
  version := 1

lemma publicKeyFromHex_shown :
    qrCrates.publicKeyFromHex shownPayload.sourcePubkey.toHex = .ok shownPayload.sourcePubkey := by
  simp only [qrCrates,FixedBytes.fromHex_toHex,okOr]

lemma parseUrl_shown : ∀ rl ∈ shownPayload.relays, ∃ url, qrCrates.parseUrl rl = .ok url ∧
    (url.scheme = "wss" ∨ url.scheme = "ws") ∧ url.host ≠ none := by
  intro rl hr
  rcases mem_pair.1 hr with rfl | rfl
  · exact ⟨_,rfl,.inl rfl,by decide⟩
  · exact ⟨_,rfl,.inl rfl,by decide⟩

lemma decodeQr_shown {vs : List String} (h : ∀ v ∈ vs, '&' ∉ v.toList)
    (hl : (parseVersion (vs.getLast?.getD "1")).getD 1 = 1)
    (hs : (shownUri shownPayload vs).utf8ByteSize ≤ uriLimit) :
    decodeQr qrCrates (shownUri shownPayload vs) = .ok shownPayload :=
  decodeQr_shownUri shownPayload h hl publicKeyFromHex_shown (by decide +kernel) (by decide) parseUrl_shown hs

end

/-- The version of an accepted URI is supported exactly when its version parameters are
readable and agree: an unreadable one counts as absent, and of several only the last counts. -/
theorem accepted_version_supported_iff {uri : String} {payload : QrPayload}
    (h : decodeQr X uri = .ok payload) :
    (∀ v ∈ versionValues uri, DecimalText.SpellsOne v.toList) ↔
      ∀ v ∈ versionValues uri, ∃ n, parseVersion v = some n ∧
        ∀ w ∈ versionValues uri, parseVersion w = some n := by
  obtain ⟨pubkey,query,secret,ha⟩ := decodeQr_eq_ok.1 h
  have hq := queryOf_of_accepted ha
  have hl := ha.supported
  rw [readQuery,readPairs_version,← hq] at hl
  change (((versionValues uri).getLast?.map parseVersion).getD none).getD 1 = 1 at hl
  constructor
  · intro ho v hv
    exact ⟨1,parseVersion_eq_one.2 (ho v hv),fun w hw => parseVersion_eq_one.2 (ho w hw)⟩
  · intro hag v hv
    obtain ⟨n,hn,hs⟩ := hag v hv
    cases he : (versionValues uri).getLast? with
    | none =>
      rw [getLast?_eq_none_iff.1 he] at hv
      cases hv
    | some w =>
      rw [he,Option.map_some,Option.getD_some,hs w (mem_of_getLast? he)] at hl
      rw [← parseVersion_eq_one,hn]
      exact congrArg some hl

theorem accepted_version_supported_spellings :
    decodeQr qrCrates (shownUri shownPayload ["+01"]) = .ok shownPayload ∧
    versionValues (shownUri shownPayload ["+01"]) = ["1","+01"] ∧
    ∀ v ∈ versionValues (shownUri shownPayload ["+01"]), DecimalText.SpellsOne v.toList := by
  have hd : decodeQr qrCrates (shownUri shownPayload ["+01"]) = .ok shownPayload :=
    decodeQr_shown (by decide) (by decide) (by decide +kernel)
  have hva : versionValues (shownUri shownPayload ["+01"]) = ["1","+01"] :=
    versionValues_shownUri shownPayload (by decide)
  have ho : ∀ v ∈ versionValues (shownUri shownPayload ["+01"]), parseVersion v = some 1 := by
    rw [hva]
    decide
  exact ⟨hd,hva,(accepted_version_supported_iff hd).2 fun v hv => ⟨1,ho v hv,ho⟩⟩

/-- A version beyond the machine word is accepted, and so is an unsupported one before a
supported one. -/
theorem other_versions_accepted :
    (decodeQr qrCrates (shownUri shownPayload ["4294967298"]) = .ok shownPayload ∧
      versionValues (shownUri shownPayload ["4294967298"]) = ["1","4294967298"] ∧
      ¬DecimalText.SpellsOne "4294967298".toList) ∧
    decodeQr qrCrates (shownUri shownPayload ["2","1"]) = .ok shownPayload ∧
      versionValues (shownUri shownPayload ["2","1"]) = ["1","2","1"] ∧
        ¬DecimalText.SpellsOne "2".toList := by
  refine ⟨⟨decodeQr_shown (by decide) (by decide +kernel) (by decide +kernel),
    versionValues_shownUri _ (by decide),?_⟩,
    decodeQr_shown (by decide) (by decide) (by decide +kernel),versionValues_shownUri _ (by decide),?_⟩
  · rw [← parseVersion_eq_one]
    decide
  · rw [← parseVersion_eq_one]
    decide

/-- A payload that the target may accept is read back as it was shown. -/
theorem decodeQr_encodeQr (payload : QrPayload)
    (hkey : X.publicKeyFromHex payload.sourcePubkey.toHex = .ok payload.sourcePubkey)
    (hsecret : payload.sessionSecret ≠ .ofNat 32 0) (hne : payload.relays ≠ [])
    (hrelays : ∀ relay ∈ payload.relays, ∃ url, X.parseUrl relay = .ok url ∧
      (url.scheme = "wss" ∨ url.scheme = "ws") ∧ url.host ≠ none)
    (hsize : (encodeQr payload).utf8ByteSize ≤ uriLimit) :
    decodeQr X (encodeQr payload) = .ok { payload with version := 1 } :=
  @decodeQr_shownUri X payload [] (by simp) (by decide) hkey hsecret hne hrelays hsize

theorem decodeQr_encodeQr_shown : (encodeQr shownPayload).utf8ByteSize ≤ uriLimit ∧
    decodeQr qrCrates (encodeQr shownPayload) = .ok shownPayload := by
  have hs : (encodeQr shownPayload).utf8ByteSize ≤ uriLimit := by decide +kernel
  exact ⟨hs,decodeQr_encodeQr shownPayload publicKeyFromHex_shown (by decide +kernel) (by decide)
    parseUrl_shown hs⟩

end BuzzSolo.PairingQr
