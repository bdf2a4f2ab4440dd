import BuzzSolo.AcpRelayState
import BuzzSolo.ByteText
import BuzzSolo.JsonText
import BuzzSolo.LocalRelay

/-! The signing program of git for Nostr keys: the signed message, the envelope and its armor,
signing with an optional owner attestation, and verification with the status lines it writes for
git. -/
namespace BuzzSolo.GitSign

open ByteText Checks HexText LineText
open Handoff (Json field)
open LocalRelay (asU64 asI64)

def domainSeparator : String := "nostr:git:v1:"
def armorBegin : String := "-----BEGIN SIGNED MESSAGE-----"
def armorEnd : String := "-----END SIGNED MESSAGE-----"
def maxPayload : ℕ := 100*1024*1024
def maxSigFile : ℕ := 8*1024
def maxJsonDecoded : ℕ := 2048
def maxBase64Line : ℕ := 4096
def maxAuthTag : ℕ := 1024
def maxTimestamp : ℕ := 4294967295

abbrev Digest := FixedBytes 32

/-- The crates that the program calls. Errors come with the text the crate gives them. -/
structure Crates (Key : Type) where
  parseSecretKey : String → Except String Key
  publicKey : Key → PublicKey
  signSchnorr : Key → Digest → Signature
  verifySchnorr : Signature → Digest → PublicKey → Bool
  fromHex : String → Except String PublicKey
  xonly : PublicKey → Except String Unit
  fromBech32 : String → Option PublicKey
  sha256 : List UInt8 → Digest
  parseJson : String → Except String Json
  base64Error : String → String
  date : ℕ → String

inductive Error
  | fatal (message : String)
  | verifyFailed (pk : Option String) (message : String)

/-- An owner attestation: the owner's key, the conditions, and the owner's signature. -/
structure OwnerTag where
  owner : String
  conditions : String
  sig : String

section

def parseDecimalU32 (s : List Char) : Option ℕ :=
  if s = [] then none
  else if s.head? = some '+' ∨ s.head? = some '-' then none
  else if 1 < s.length ∧ s.head? = some '0' then none
  else if !s.all Char.isDigit then none
  else DecimalText.parseUnsigned (2^32) s

def validateClause (clause : List Char) : Bool :=
  match clause.dropPrefix? "kind=".toList with
  | some value => (parseDecimalU32 value).any (· ≤ 65535)
  | none =>
    match clause.dropPrefix? "created_at<".toList with
    | some value => (parseDecimalU32 value).isSome
    | none =>
      match clause.dropPrefix? "created_at>".toList with
      | some value => (parseDecimalU32 value).isSome
      | none => false

def validateConditions (conditions : String) : Bool :=
  conditions.toList.isEmpty ||
    (conditions.toList.splitOn '&').all fun clause => !clause.isEmpty && validateClause clause

def clauseViolation (t : ℕ) (clause : List Char) : Option String :=
  match clause.dropPrefix? "created_at<".toList with
  | some value =>
    (parseDecimalU32 value).bind fun limit =>
      if limit ≤ t then
        some ("timestamp " ++ t.repr ++ " violates auth tag constraint created_at<" ++ limit.repr)
      else none
  | none =>
    match clause.dropPrefix? "created_at>".toList with
    | some value =>
      (parseDecimalU32 value).bind fun limit =>
        if t ≤ limit then
          some ("timestamp " ++ t.repr ++ " violates auth tag constraint created_at>" ++ limit.repr)
        else none
    | none => none

def enforceConditions (conditions : String) (t : ℕ) : Except String Unit :=
  match (conditions.toList.splitOn '&').findSome? (clauseViolation t) with
  | some message => .error message
  | none => .ok ()

end

section

def oaBinding : Option OwnerTag → List UInt8
  | none => []
  | some oa =>
    utf8 oa.owner ++ utf8 ":" ++ utf8 oa.conditions ++ utf8 ":" ++ utf8 oa.sig ++ utf8 ":"

def signingInput (timestamp : ℕ) (oa : Option OwnerTag) (payload : List UInt8) : List UInt8 :=
  utf8 domainSeparator ++ utf8 timestamp.repr ++ utf8 ":" ++ oaBinding oa ++ payload

def oaText : Option OwnerTag → String
  | none => ""
  | some oa => ",\"oa\":[\"" ++ oa.owner ++ "\",\"" ++ oa.conditions ++ "\",\"" ++ oa.sig ++ "\"]"

/-- The envelope in its canonical form; the fields are put in as they are. -/
def buildEnvelope (pk sig : String) (t : ℕ) (oa : Option OwnerTag) : String :=
  "\x7b\"v\":1,\"pk\":\"" ++ pk ++ "\",\"sig\":\"" ++ sig ++ "\",\"t\":" ++ t.repr ++ oaText oa ++ "\x7d"

def armor (json : List UInt8) : String :=
  armorBegin ++ "\n" ++ String.ofList (ByteText.encode json) ++ "\n" ++ armorEnd ++ "\n"

def endsInBlank (line : List Char) : Bool :=
  line.getLast? = some ' ' || line.getLast? = some '\t' || line.getLast? = some '\r'

def parseArmor (content : String) : Except String String := do
  require (content.toList.getLast? = some '\n') "armor must end with a newline"
  let lines := content.toList.dropLast.splitOn '\n'
  require (lines.length = 3)
    ("armor must have exactly 3 lines (BEGIN, base64, END), got " ++ lines.length.repr)
  require (lines[0]? = some armorBegin.toList) "missing or malformed BEGIN marker"
  require (lines[2]? = some armorEnd.toList) "missing or malformed END marker"
  require (lines.findIdx? endsInBlank = none)
    ("trailing whitespace on line " ++ ((lines.findIdx? endsInBlank).getD 0 + 1).repr)
  .ok (String.ofList (lines[1]?.getD []))

/-- Whether whitespace stands outside the strings of a JSON text. -/
def scanWhitespace : Bool → Bool → List Char → Bool
  | _, _, [] => false
  | inString, true, _ :: cs => scanWhitespace inString false cs
  | true, false, c :: cs =>
    if c = '\\' then scanWhitespace true true cs
    else if c = '"' then scanWhitespace false false cs
    else scanWhitespace true false cs
  | false, false, c :: cs =>
    if c = '"' then scanWhitespace true false cs
    else if OwnerAttestation.isAsciiWhitespace c then true
    else scanWhitespace false false cs

def hasNonStringWhitespace (s : String) : Bool := scanWhitespace false false s.toList

def validateHexField (val : String) (expectedLen : ℕ) (name : String) : Except String Unit := do
  require (val.utf8ByteSize = expectedLen)
    (name ++ " must be exactly " ++ expectedLen.repr ++ " characters, got " ++ val.utf8ByteSize.repr)
  require (val.toList.all isLowerHexChar) (name ++ " must be lowercase hex")

/-- The key in a text that may not parse, for the report of an error. -/
def extractPkBestEffort (json : String) : Option String :=
  (AcpRelay.afterFirst "\"pk\":\"".toList json.toList).bind fun rest =>
    if (rest.take 64).length = 64 ∧ (rest.take 64).all isLowerHexChar then some (String.ofList (rest.take 64))
    else none

end

structure Envelope where
  pk : String
  sig : String
  t : ℕ
  oa : Option OwnerTag

inductive OaVerifyResult
  | absent
  | valid
  | invalidSignature
  | conditionsViolated

def OaVerifyResult.asStatusStr : OaVerifyResult → String
  | .absent => "none"
  | .valid => "valid"
  | .invalidSignature => "invalid_signature"
  | .conditionsViolated => "expired"

section

variable {Key : Type} (X : Crates Key)

def computeSigningHash (timestamp : ℕ) (oa : Option OwnerTag) (payload : List UInt8) : Digest :=
  X.sha256 (signingInput timestamp oa payload)

def parseBip340Pubkey (hexPk : String) : Except String PublicKey := do
  let pk ← X.fromHex hexPk
  X.xonly pk
  .ok pk

def validateOa (pk : String) (oa : OwnerTag) : Except String Unit := do
  validateHexField oa.owner 64 "oa[0]"
  validateHexField oa.sig 128 "oa[2]"
  require (validateConditions oa.conditions)
    "oa[1] conditions contain invalid characters (allowed: alphanumeric, _=<>&)"
  let _ ← (parseBip340Pubkey X oa.owner).mapError
    fun e => "oa[0] is not a valid BIP-340 public key: " ++ e
  require (oa.owner ≠ pk) "oa[0] (owner) must not equal pk (self-attestation)"

def parseOa (pk : String) (value : Json) : Except String OwnerTag := do
  let items ← okOr value.asArray "oa must be an array"
  require (items.length = 3) ("oa must have exactly 3 elements, got " ++ items.length.repr)
  let owner ← okOr (items[0]?.bind Json.asStr) "oa[0] must be a string"
  let conditions ← okOr (items[1]?.bind Json.asStr) "oa[1] must be a string"
  let sig ← okOr (items[2]?.bind Json.asStr) "oa[2] must be a string"
  validateOa X pk ⟨owner,conditions,sig⟩
  .ok ⟨owner,conditions,sig⟩

def envelopeKeys : List String := ["v","pk","sig","t","oa"]

def isNumber : Json → Bool
  | .number _ => true
  | _ => false

def parseEnvelope (json : String) : Except String Envelope := do
  let val ← (X.parseJson json).mapError fun e => "invalid JSON: " ++ e
  let obj ← okOr val.asObject "JSON must be an object"
  require (∀ f ∈ obj, f.1 ∈ envelopeKeys) ("unknown key in v=1 envelope: " ++
      ((obj.find? fun f => f.1 ∉ envelopeKeys).map fun f => JsonText.quote f.1).getD "")
  let v ← okOr (field obj "v") "missing required field: v"
  let v ← okOr (asU64 v) "v must be an integer"
  require (v = 1) ("unsupported version: " ++ v.repr)
  let pk ← okOr (field obj "pk") "missing required field: pk"
  let pk ← okOr pk.asStr "pk must be a string"
  validateHexField pk 64 "pk"
  let sig ← okOr (field obj "sig") "missing required field: sig"
  let sig ← okOr sig.asStr "sig must be a string"
  validateHexField sig 128 "sig"
  let t ← okOr (field obj "t") "missing required field: t"
  -- a number that is no 64-bit integer is kept as a float
  require (isNumber t = false ∨ (asU64 t).isSome ∨ (asI64 t).isSome) "t must be an integer, not a float"
  let t ← okOr (asU64 t) "t must be a non-negative integer"
  require (t ≤ maxTimestamp) ("t out of range: " ++ t.repr)
  match field obj "oa" with
  | none => .ok ⟨pk,sig,t,none⟩
  | some value => do
    let oa ← parseOa X pk value
    .ok ⟨pk,sig,t,some oa⟩

def verifyOa (agentPk : String) (oa : OwnerTag) : Bool :=
  match parseBip340Pubkey X oa.owner, FixedBytes.fromHex 64 oa.sig with
  | .ok owner, some sig =>
    X.verifySchnorr sig (X.sha256 (utf8 ("nostr:agent-auth:" ++ agentPk ++ ":" ++ oa.conditions))) owner
  | _, _ => false

/-- The configured attestation; the setting comes as its text, or as the error of reading it. -/
def loadAuthTag (configured : Except String (Option String)) : Except Error (Option OwnerTag) :=
  match configured with
  | .error e => .error (.fatal ("failed to read nostr.authtag: " ++ e))
  | .ok none => .ok none
  | .ok (some text) => do
    require (text.utf8ByteSize ≤ maxAuthTag) (.fatal "auth tag exceeds 1024-byte size limit")
    let value ← (X.parseJson text).mapError fun e => .fatal ("BUZZ_AUTH_TAG is not valid JSON: " ++ e)
    let items ← okOr value.asArray (.fatal "BUZZ_AUTH_TAG must be a JSON array")
    require (items.length = 4) (.fatal "BUZZ_AUTH_TAG must have exactly 4 elements")
    require (items[0]?.bind Json.asStr = some "auth") (.fatal "BUZZ_AUTH_TAG[0] must be \"auth\"")
    let owner ← okOr (items[1]?.bind Json.asStr) (.fatal "BUZZ_AUTH_TAG[1] must be a string")
    let conditions ← okOr (items[2]?.bind Json.asStr) (.fatal "BUZZ_AUTH_TAG[2] must be a string")
    let sig ← okOr (items[3]?.bind Json.asStr) (.fatal "BUZZ_AUTH_TAG[3] must be a string")
    require (validateConditions conditions) (.fatal "BUZZ_AUTH_TAG conditions contain invalid characters")
    require (owner.utf8ByteSize = 64 ∧ owner.toList.all isLowerHexChar)
      (.fatal "BUZZ_AUTH_TAG owner must be 64 lowercase hex chars")
    require (sig.utf8ByteSize = 128 ∧ sig.toList.all isLowerHexChar)
      (.fatal "BUZZ_AUTH_TAG signature must be 128 lowercase hex chars")
    .ok (some ⟨owner,conditions,sig⟩)

def isHexDigit (c : Char) : Bool := isLowerHexChar c || ('A' ≤ c && c ≤ 'F')

def normalizeKeyId (keyId : String) : Option String :=
  let trimmed := trim keyId
  if (stripStart "npub1" trimmed).isSome then (X.fromBech32 trimmed).map FixedBytes.toHex
  else if trimmed.toList.length = 64 ∧ trimmed.toList.all isHexDigit then some trimmed.toLower
  else none

def readPayload (payload : List UInt8) : Except Error (List UInt8) := do
  require (payload.length ≤ maxPayload) (.fatal "payload exceeds 100 MB limit")
  .ok payload

/-- What signing reads: the `-u` argument, the key, standard input, the clock in seconds and the
configured attestation. -/
structure SignInput where
  keyId : String
  rawKey : Except String String
  payload : List UInt8
  clock : Option ℕ
  authTag : Except String (Option String)

def checkAuthTag (pk : String) (t : ℕ) : Option OwnerTag → Except Error Unit
  | none => .ok ()
  | some oa => do
    let _ ← (parseBip340Pubkey X oa.owner).mapError fun _ =>
      .fatal "auth tag owner (oa[0]) is not a valid BIP-340 public key"
    require (oa.owner ≠ pk) (.fatal "auth tag owner (oa[0]) must not equal signing key (self-attestation)")
    require (verifyOa X pk oa) (.fatal ("auth tag owner signature (oa[2]) verification failed — " ++
        "the configured BUZZ_AUTH_TAG is invalid or stale"))
    (enforceConditions oa.conditions t).mapError fun e =>
      .fatal ("auth tag conditions not satisfied: " ++ e)

/-- What signing produces: the envelope, its armored text and the status lines. -/
structure Signed where
  envelope : Envelope
  armored : String
  status : List String

def doSign (i : SignInput) : Except Error Signed := do
  let rawKey ← i.rawKey.mapError .fatal
  let key ← (X.parseSecretKey rawKey).mapError fun e => .fatal ("invalid nostr private key: " ++ e)
  let pk := (X.publicKey key).toHex
  require (i.keyId.isEmpty ∨ (normalizeKeyId X i.keyId).isSome)
    (.fatal ("signing key argument (" ++ i.keyId ++ ") is not a recognized key format " ++
      "(expected 64-char hex or npub1...)"))
  require (i.keyId.isEmpty ∨ normalizeKeyId X i.keyId = some pk)
    (.fatal ("signing key argument (" ++ i.keyId ++ ") does not match loaded key (" ++ pk ++ ")"))
  let payload ← readPayload i.payload
  let t ← okOr i.clock (.fatal "system clock is before Unix epoch")
  require (t ≤ maxTimestamp) (.fatal ("timestamp " ++ t.repr ++ " exceeds NIP-GS u32 range (max 4294967295)"))
  let oa ← loadAuthTag X i.authTag
  checkAuthTag X pk t oa
  let sig := (X.signSchnorr key (computeSigningHash X t oa payload)).toHex
  .ok ⟨⟨pk,sig,t,oa⟩,armor (utf8 (buildEnvelope pk sig t oa)),
    ["BEGIN_SIGNING","SIG_CREATED D 8 1 00 " ++ t.repr ++ " " ++ pk]⟩

/-- The status lines of a failed verification, and its error. -/
abbrev Failure := List String × Error

def errsig (pk : Option String) : String := "ERRSIG " ++ pk.getD "0000000000000000" ++ " 0 0 00 0 9"

def failure (pk : Option String) (message : String) : Failure := ([errsig pk],.verifyFailed pk message)

def readEnvelope (path file : String) : Except Failure Envelope := do
  require (file.utf8ByteSize ≤ maxSigFile)
    ([errsig none],.fatal ("signature file " ++ path ++ " exceeds 8192 byte limit"))
  let b64 ← (parseArmor file).mapError (failure none)
  require (b64.utf8ByteSize ≤ maxBase64Line) (failure none "base64 line exceeds 4096 bytes")
  let decoded ← okOr (ByteText.decode b64.toList) (failure none ("invalid base64: " ++ X.base64Error b64))
  require (decoded.length ≤ maxJsonDecoded) (failure none "decoded JSON exceeds 2048 bytes")
  let json ← okOr (fromUtf8 decoded) (failure none "decoded bytes are not valid UTF-8")
  require (hasNonStringWhitespace json = false)
    (failure (extractPkBestEffort json) "JSON contains whitespace outside string values")
  let e ← (parseEnvelope X json).mapError (failure (extractPkBestEffort json))
  require (buildEnvelope e.pk e.sig e.t e.oa = json) (failure (some e.pk) "JSON is not in canonical form")
  .ok e

def checkOa (e : Envelope) : Except Failure OaVerifyResult :=
  match e.oa with
  | none => .ok .absent
  | some oa => do
    let _ ← (parseBip340Pubkey X oa.owner).mapError fun _ =>
      failure (some e.pk) "oa[0] owner pubkey is not a valid BIP-340 key"
    if verifyOa X e.pk oa = false then .ok .invalidSignature
    else
      match enforceConditions oa.conditions e.t with
      | .error _ => .ok .conditionsViolated
      | .ok _ => .ok .valid

def checkSignature (e : Envelope) (payload : List UInt8) : Except Failure OaVerifyResult := do
  let pk ← (parseBip340Pubkey X e.pk).mapError fun err =>
    failure (some e.pk) ("pk is not a valid BIP-340 public key: " ++ err)
  let payload ← (readPayload payload).mapError fun err => ([errsig (some e.pk)],err)
  let sigBytes ← okOr (HexText.decode e.sig.toList) (failure (some e.pk) "invalid signature hex")
  let sig ← okOr (if h : sigBytes.length = 64 then some (⟨sigBytes,h⟩ : Signature) else none)
    (failure (some e.pk) "invalid BIP-340 signature")
  require (X.verifySchnorr sig (computeSigningHash X e.t e.oa payload) pk)
    (["NEWSIG","BADSIG " ++ e.pk ++ " " ++ e.pk], .verifyFailed
      (some e.pk) "BIP-340 signature verification failed")
  checkOa X e

def determineTrust (signingKey : Option String) (pk : String) : String :=
  if signingKey.bind (normalizeKeyId X) = some pk then "TRUST_FULLY" else "TRUST_UNDEFINED"

def oaLines (e : Envelope) (result : OaVerifyResult) : List String :=
  match e.oa with
  | some oa =>
    ["NOTATION_NAME nostr-oa-status","NOTATION_DATA " ++ result.asStatusStr,
      "NOTATION_NAME nostr-oa-owner","NOTATION_DATA " ++ oa.owner]
  | none => ["NOTATION_NAME nostr-oa-status","NOTATION_DATA none"]

def goodsig (pk : String) : String := "GOODSIG " ++ pk ++ " " ++ pk

def doVerify (path file : String) (signingKey : Option String) (payload : List UInt8) :
    Except Failure (List String) := do
  let e ← readEnvelope X path file
  let oa ← checkSignature X e payload
  .ok (["NEWSIG",goodsig e.pk, "VALIDSIG " ++ e.pk ++ " " ++ X.date e.t ++ " " ++ e.t.repr ++
    " 0 - - - - - " ++ e.pk, determineTrust X signingKey e.pk ++ " 0 shell","NOTATION_NAME nostr-trust-model",
      "NOTATION_DATA advisory-config-match-only"] ++ oaLines e oa)

end

end BuzzSolo.GitSign
