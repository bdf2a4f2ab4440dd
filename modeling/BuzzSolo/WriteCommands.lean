import BuzzSolo.Engram
import BuzzSolo.QueryVisibility

/-! The write commands of the command-line client. Each reads what is there, signs a replacement and
submits it; what it reports rests on the text of the relay's answer, of which `superseded` is taken
for a success. -/
namespace BuzzSolo.Cli

open Checks Ingest LatestRegister EventStore LineText Option Except
open Engram (Body Conversation kindAgentEngram coreSlug memPrefix validateSlug validateAndDecrypt
  selectHead monotonicCreatedAt)
open Handoff (Json field)

inductive CliError
  | usage (text : String)
  | relay (status : ℕ) (body : String)
  | network (text : String)
  | conflict (text : String)
  | notFound (text : String)
  | deliveryUnknown (text : String)
  | other (text : String)
  deriving DecidableEq

section

inductive Line
  | context (text : String)
  | delete (text : String)
  | insert (text : String)
  deriving DecidableEq

structure Hunk where
  oldStart : ℕ
  newStart : ℕ
  lines : List Line
  deriving DecidableEq

structure Patch where
  hunks : List Hunk
  deriving DecidableEq

end

/-- Libraries the commands call: the digest, `diffy`, the bech32 form of a coordinate and the
quoted form of a character, besides those that memories need. -/
structure Tools extends Engram.Crates where
  sha256Hex : String → String
  patchFromStr : String → Except String Patch
  applyPatch : String → Patch → Except String String
  naddr : PublicKey → String → Except String String
  debugChar : Char → String

/-- The client with its keys. A signed event has the fields it was asked to sign. -/
structure Client where
  nostr : Nostr
  publicKey : PublicKey
  authTag : Option Tag
  publicKeyFromHex : String → Except String PublicKey
  conversation : PublicKey → Conversation
  encrypt : PublicKey → String → Except String String
  signWithKeys : EventBody → Except String Event
  signed_body : ∀ body event, signWithKeys body = .ok event → event.toEventBody = body

/-- What one run of a command meets. `query` answers with the events of the relay's array, each
decoded or not; `submit` answers with the relay's JSON to the last attempt that got through. -/
structure World where
  now : ℕ
  stdin : ℕ → Except String String
  readFile : String → Except String String
  query : Filter → Except CliError (List (Except String Event))
  submit : Event → Except CliError Json

variable (T : Tools) (C : Client) (W : World)

def asBool : Json → Option Bool
  | .bool value => some value
  | _ => none

def member (reply : Json) (name : String) : Option Json :=
  reply.asObject.bind fun members => field members name

/-- The client's reading of the relay's answer to a submission. -/
def checkReply (reply : Json) : Except CliError Unit := do
  let accepted := ((member reply "accepted").bind asBool).getD false
  let message := ((member reply "message").bind Json.asStr).getD ""
  require (accepted = true) (.other ("relay rejected event: " ++ message))
  require (¬("duplicate:".toList.isPrefixOf message.toList = true ∨ message = "duplicate"))
    (.conflict "relay reported event as duplicate / dominated by a newer head")

def submitEngram (event : Event) : Except CliError Unit := do
  let reply ← W.submit event
  checkReply reply

/-- A value given on the command line, or read from standard input for `-`. -/
def stdinOr (raw : String) (limit : ℕ) (allowEmpty : Bool) (tooLarge empty : CliError) :
    Except CliError String :=
  if raw = "-" then do
    let buf ← (W.stdin (limit + 1)).mapError fun e => .other ("stdin read failed: " ++ e)
    require (buf.utf8ByteSize ≤ limit) tooLarge
    require (buf ≠ "" ∨ allowEmpty = true) empty
    .ok buf
  else .ok raw

section

def nip44PlaintextMax : ℕ := 65535

inductive BuildError
  | encrypt (why : String)
  | bodyTooLarge (bytes : ℕ)
  | sign (why : String)

def BuildError.text : BuildError → String
  | .encrypt why => "encrypt failed: " ++ why
  | .bodyTooLarge bytes => "body exceeds " ++ toString nip44PlaintextMax ++ "-byte plaintext limit (" ++
      toString bytes ++ " bytes)"
  | .sign why => "sign failed: " ++ why

def engramErrorText : Engram.EngramError → String
  | .invalidSlug why => "invalid slug: " ++ why
  | .invalidBody why => "invalid body: " ++ why
  | .invalidEnvelope why => "invalid envelope: " ++ why
  | .decrypt => "decrypt failed"

def normalizeSlug (raw : String) : Except Engram.EngramError String := do
  let slug := if raw = coreSlug ∨ memPrefix.toList.isPrefixOf raw.toList = true then raw else memPrefix ++ raw
  validateSlug T.toCrates slug
  .ok slug

def bodyText : Body → String
  | .core profile => "\x7b\"slug\":" ++ JsonText.quote coreSlug ++ ",\"profile\":" ++ JsonText.quote
    profile ++ "\x7d"
  | .memory slug (some value) => "\x7b\"slug\":" ++ JsonText.quote slug ++ ",\"value\":" ++
      JsonText.quote value ++ "\x7d"
  | .memory slug none => "\x7b\"slug\":" ++ JsonText.quote slug ++ ",\"value\":null\x7d"

def buildEvent (owner : PublicKey) (body : Body) (createdAt : ℕ) : Except BuildError Event := do
  let plaintext := bodyText body
  require (plaintext.utf8ByteSize ≤ nip44PlaintextMax) (.bodyTooLarge plaintext.utf8ByteSize)
  let ciphertext ← (C.encrypt owner plaintext).mapError .encrypt
  let tags := [⟨"d",[(C.conversation owner).dTag body.slug]⟩,⟨"p",[owner.toHex]⟩]
  (C.signWithKeys ⟨C.publicKey,createdAt,kindAgentEngram,tags,ciphertext⟩).mapError .sign

def resolveOwner (ownerFlag : Option String) : Except CliError PublicKey :=
  match ownerFlag with
  | some s => (C.publicKeyFromHex s).mapError fun e =>
      .usage ("--owner must be a 64-hex pubkey: " ++ e)
  | none => do
    let tag ← okOr (C.authTag.bind Tag.content) (.usage
      "owner pubkey required (set BUZZ_AUTH_TAG with a NIP-OA attestation or pass --owner)")
    (C.publicKeyFromHex tag).mapError fun e => .other ("auth_tag owner pubkey is not valid hex: " ++ e)

def validWithBody (agent owner theirPubkey : PublicKey) (events : List (Except String Event)) :
    List (Event × Body) :=
  (events.filterMap Except.toOption).filterMap fun event =>
    if Verified C.nostr event then
      (validateAndDecrypt T.toCrates (C.conversation theirPubkey) event agent owner).toOption.map
        fun body => (event,body)
    else none

def fetchHead (agent owner : PublicKey) (slug : String) : Except CliError (Option Event × Option Body) := do
  let theirPubkey := if C.publicKey = agent then owner else agent
  let d := (C.conversation theirPubkey).dTag slug
  let events ← W.query { Filter.new with
    kinds := some [kindAgentEngram]
    authors := some [agent]
    genericTags := [('d',[d]),('p',[owner.toHex])]
    limit := some 16 }
  let valid := validWithBody T C agent owner theirPubkey events
  match selectHead (valid.map Prod.fst) with
  | none => .ok (none,none)
  | some head => .ok (some head,(valid.find? fun pair => pair.1.id = head.id).map Prod.snd)

/-- What the three memory commands end with: the replacement is signed, at a time after the head
that was read, and submitted. -/
def writeBody (owner : PublicKey) (body : Body) (priorCreatedAt : Option ℕ) : Except CliError Event := do
  let createdAt := monotonicCreatedAt W.now priorCreatedAt
  let event ← (buildEvent C owner body createdAt).mapError fun e =>
    .other ("build event failed: " ++ e.text)
  submitEngram W event
  .ok event

def bodyFor (slug value : String) : Body := if slug = coreSlug then .core value else .memory slug (some value)

def parsedSlug (raw : String) : Except CliError String :=
  (normalizeSlug T raw).mapError fun e => .usage ("invalid slug: " ++ engramErrorText e)

def cmdSet (rawSlug rawValue : String) (ownerFlag : Option String) (allowEmpty : Bool) :
    Except CliError (Option Event) := do
  let slug ← parsedSlug T rawSlug
  let value ← stdinOr W rawValue nip44PlaintextMax allowEmpty
    (.usage ("stdin value exceeds " ++ toString nip44PlaintextMax ++ "-byte NIP-44 plaintext limit"))
    (.usage ("refusing to write empty value from stdin (an upstream pipeline step likely failed). " ++
      "Pass --allow-empty to confirm, or use `buzz mem rm <slug>` to tombstone."))
  let owner ← resolveOwner C ownerFlag
  let head ← fetchHead T C W C.publicKey owner slug
  let event ← writeBody C W owner (bodyFor slug value) (head.1.map fun e => e.createdAt)
  .ok (some event)

def cmdRm (rawSlug : String) (ownerFlag : Option String) : Except CliError (Option Event) := do
  let slug ← parsedSlug T rawSlug
  require (slug ≠ coreSlug)
    (.usage "core cannot be tombstoned; overwrite it with `buzz mem set core ''` instead")
  let owner ← resolveOwner C ownerFlag
  let head ← fetchHead T C W C.publicKey owner slug
  let event ← writeBody C W owner (.memory slug none) (head.1.map fun e => e.createdAt)
  .ok (some event)

def fetchValue (agent owner : PublicKey) (slug : String) : Except CliError (Event × String) := do
  let head ← fetchHead T C W agent owner slug
  match head with
  | (none,_) => .error (.notFound ("not found: " ++ slug))
  | (_,none) => .error (.notFound ("not found: " ++ slug))
  | (_,some (.memory _ none)) => .error (.notFound ("tombstoned: " ++ slug))
  | (some head,some (.memory _ (some value))) => .ok (head,value)
  | (some head,some (.core profile)) => .ok (head,profile)

def preimageLine : Line → Option String
  | .context text => some text
  | .delete text => some text
  | .insert _ => none

/-- The lines of a hunk against those of the value, from the `offset`-th on. -/
def matchLines (number start : ℕ) : ℕ → List String → List String → Except String Unit
  | _,[],_ => .ok ()
  | _,_ :: _,[] => .error "index out of bounds"
  | offset,expected :: rest,actual :: others =>
    if expected ≠ actual then
      .error ("hunk #" ++ toString number ++ " preimage mismatch at line " ++ toString (start + offset + 1) ++
        ": patch expects " ++ T.debug expected ++ " but value has " ++ T.debug actual)
    else matchLines number start (offset + 1) rest others

/-- Each hunk applies at the line it declares; `number` is one-based. -/
def verifyHunks (current : List String) : ℕ → List Hunk → Except String Unit
  | _,[] => .ok ()
  | number,hunk :: rest => do
    let preimage := hunk.lines.filterMap preimageLine
    if preimage = [] then
      require (hunk.oldStart = 0) ("hunk #" ++ toString number ++ " has empty preimage at line " ++
        toString hunk.oldStart ++ "; pure no-context insertions into non-empty values are not " ++
        "supported (regenerate the patch with `diff -u` to include surrounding context)")
    else
      require (hunk.oldStart ≠ 0) ("hunk #" ++ toString number ++ " has invalid line number 0")
      let start := hunk.oldStart - 1
      require (start + preimage.length < 2^64) ("hunk #" ++ toString number ++ " line range overflows")
      require (start + preimage.length ≤ current.length) ("hunk #" ++ toString number ++ " expects " ++
        toString preimage.length ++ " preimage line(s) starting at line " ++ toString (start + 1) ++
        ", but the value only has " ++ toString current.length ++ " line(s)")
      matchLines T number start 0 preimage (current.drop start)
    verifyHunks current (number + 1) rest

def verifyHunksAtDeclaredPosition (current : String) (patch : Patch) : Except String Unit :=
  verifyHunks T ((splitInclusive current.toList).map String.ofList) 1 patch.hunks

def isAsciiHexdigit (c : Char) : Bool := ('0' ≤ c && c ≤ '9') || ('a' ≤ c && c ≤ 'f') || ('A' ≤ c && c ≤ 'F')

/-- Exactly one of the two base-hash flags, and a digest in the first. -/
def checkBaseHash (baseHash : Option String) (noBaseHash : Bool) : Except CliError Unit :=
  match baseHash, noBaseHash with
  | some _,true => .error (.usage "--base-hash and --no-base-hash are mutually exclusive")
  | none,false => .error (.usage ("missing --base-hash <hex> (run `buzz mem hash <slug>` to get it). " ++
      "Pass --no-base-hash to skip this check at your own risk."))
  | some h,false => require (h.utf8ByteSize = 64 ∧ h.toList.all isAsciiHexdigit = true)
      (.usage "--base-hash must be a 64-character hex sha256 digest")
  | none,true => .ok ()

def readDiff (patchPath : Option String) : Except CliError String :=
  match patchPath with
  | some path => (W.readFile path).mapError fun e =>
      .usage ("failed to read --patch-file " ++ path ++ ": " ++ e)
  | none => do
    let buf ← (W.stdin (nip44PlaintextMax + 1)).mapError fun e => .other ("stdin read failed: " ++ e)
    require (buf ≠ "") (.usage ("refusing to apply empty patch from stdin (an upstream pipeline step " ++
      "likely failed)"))
    .ok buf

def patchedValue (slug current diffText : String) (allowEmpty : Bool) : Except CliError String := do
  let fileHeaderCount := ((LineText.lines diffText).filter fun l => "--- ".toList.isPrefixOf l.toList).length
  require (fileHeaderCount ≤ 1) (.usage ("multi-file patch not supported (found " ++
    toString fileHeaderCount ++ " `--- ` headers); a memory slug is a single virtual file"))
  let patch ← (T.patchFromStr diffText).mapError fun e => .usage ("malformed unified diff: " ++ e)
  (verifyHunksAtDeclaredPosition T current patch).mapError fun msg =>
    .usage ("patch did not apply cleanly to slug `" ++ slug ++ "`: " ++ msg ++
      ". Context must match the current value verbatim at the declared line numbers — no fuzz, no offset.")
  let newValue ← (T.applyPatch current patch).mapError fun e =>
    .usage ("patch did not apply cleanly to slug `" ++ slug ++ "`: " ++ e ++
      ". Context must match the current value verbatim — no fuzz, no offset.")
  require (newValue.utf8ByteSize ≤ nip44PlaintextMax)
    (.usage ("patched value would exceed " ++ toString nip44PlaintextMax ++
      "-byte NIP-44 plaintext limit (got " ++ toString newValue.utf8ByteSize ++ " bytes)"))
  require (newValue ≠ "" ∨ allowEmpty = true)
    (.usage ("refusing to write empty value (patch result is empty). " ++
      "Pass --allow-empty to confirm, or use `buzz mem rm <slug>` to tombstone."))
  .ok newValue

/-- A dry run reports success without a submission. -/
def cmdPatch (rawSlug : String) (patchPath baseHash : Option String) (noBaseHash dryRun allowEmpty : Bool)
    (ownerFlag : Option String) : Except CliError (Option Event) := do
  let slug ← parsedSlug T rawSlug
  checkBaseHash baseHash noBaseHash
  let diffText ← readDiff W patchPath
  let owner ← resolveOwner C ownerFlag
  let found ← fetchValue T C W C.publicKey owner slug
  require (∀ expected ∈ baseHash, T.sha256Hex found.2 = String.ofList (expected.toList.map Char.toLower))
    (.conflict ("slug `" ++ slug ++ "` has changed since patch was generated (expected sha256 " ++
      baseHash.getD "" ++ ", got " ++ T.sha256Hex found.2 ++ "). Re-fetch and regenerate the patch."))
  let newValue ← patchedValue T slug found.2 diffText allowEmpty
  if dryRun then .ok none
  else do
    let event ← writeBody C W owner (bodyFor slug newValue) (some found.1.createdAt)
    .ok (some event)

end

section

def kindLongForm : ℕ := 30023
def noteSlugMaxLen : ℕ := 80
def setStdinMaxBytes : ℕ := 1024 * 1024

def slugChar (c : Char) : Bool :=
  ('a' ≤ c && c ≤ 'z') || ('0' ≤ c && c ≤ '9') || c = '-' || c = '_' || c = '.'

def parseSlug (raw : String) : Except CliError String := do
  require (raw ≠ "") (.usage "slug cannot be empty")
  require (raw.utf8ByteSize ≤ noteSlugMaxLen) (.usage ("slug too long (" ++ toString raw.utf8ByteSize ++
    " > " ++ toString noteSlugMaxLen ++ " chars)"))
  match raw.toList.find? fun c => !slugChar c with
  | some c =>
    .error (.usage ("slug contains invalid character " ++ T.debugChar c ++ "; allowed: a-z 0-9 - _ ."))
  | none => .ok raw

structure NoteSnapshot where
  title : String
  summary : Option String
  tags : List String
  publishedAt : Option ℕ

/-- One tag of the note; of a repeated one the last counts. The first component tells whether
there was a `d` tag. -/
def absorbTag (acc : Bool × NoteSnapshot) (tag : Tag) : Bool × NoteSnapshot :=
  let value := tag.content.getD ""
  if tag.name = "d" then (true,acc.2)
  else if tag.name = "title" then (acc.1,{ acc.2 with title := value })
  else if tag.name = "summary" then (acc.1,{ acc.2 with summary := some value })
  else if tag.name = "t" ∧ value ≠ "" then (acc.1,{ acc.2 with tags := acc.2.tags ++ [value] })
  else if tag.name = "published_at" then
    (acc.1,{ acc.2 with publishedAt := DecimalText.parseUnsigned (2^64) value.toList })
  else acc

def NoteSnapshot.fromEvent (event : Event) : Except CliError NoteSnapshot := do
  require (event.kind = kindLongForm)
    (.other ("expected kind:" ++ toString kindLongForm ++ ", got " ++ toString event.kind))
  let found := event.tags.foldl absorbTag (false,⟨"",none,[],none⟩)
  require (found.1 = true) (.other "kind:30023 event is missing the required `d` tag")
  .ok found.2

/-- The newest of the author's notes under the slug. -/
def fetchOwnNote (slug : String) : Except CliError (Option Event) := do
  let answer ← W.query { Filter.new with
    kinds := some [kindLongForm]
    authors := some [C.publicKey]
    genericTags := [('d',[slug])]
    limit := some 1 }
  let events ← collect
    (fun e => e.mapError fun why => CliError.other ("failed to parse relay response: " ++ why))
    answer
  .ok (events.insertionSort fun a b => b.createdAt ≤ a.createdAt).head?

def buildSetEvent (author : PublicKey) (prior : Option NoteSnapshot) (slug : String)
    (title summary : Option String) (tags : Option (List String)) (content : String) (now : ℕ) :
    Except CliError EventBody := do
  let titleValue ← okOr (title <|> prior.map NoteSnapshot.title)
    (.usage "--title is required on first publish (NIP-23)")
  let summaryValue := summary <|> prior.bind NoteSnapshot.summary
  let topicTags := (tags <|> prior.map NoteSnapshot.tags).getD []
  let publishedAt := (prior.bind NoteSnapshot.publishedAt).getD now
  .ok {
    pubkey := author
    createdAt := now
    kind := kindLongForm
    tags := ⟨"d",[slug]⟩ :: ⟨"title",[titleValue]⟩ ::
      (summaryValue.toList.map (fun s => ⟨"summary",[s]⟩) ++ topicTags.map (fun t => ⟨"t",[t]⟩) ++
        [⟨"published_at",[publishedAt.repr]⟩])
    content := content }

/-- Signs with the attestation of the client added, which must be the only one. -/
def signEvent (body : EventBody) : Except CliError Event := do
  let event ← (C.signWithKeys { body with tags := body.tags ++ C.authTag.toList }).mapError fun e =>
    .other ("signing failed: " ++ e)
  let authCount := (event.tags.filter fun t => t.name = "auth").length
  let expected := if C.authTag.isSome then 1 else 0
  require (authCount = expected) (.other ("event has " ++ toString authCount ++ " auth tags — expected " ++
    toString expected ++ "; callers must not add auth tags manually"))
  .ok event

def cmdSetNote (slug : String) (title summary : Option String) (tags : Option (List String))
    (content : String) (allowEmpty : Bool) : Except CliError (Option Event) := do
  let body ← stdinOr W content setStdinMaxBytes allowEmpty
    (.usage ("stdin body exceeds " ++ toString setStdinMaxBytes ++ "-byte limit"))
    (.usage ("refusing to publish an empty body from stdin (an upstream pipeline step likely failed). " ++
      "Pass --allow-empty to confirm."))
  let priorEvent ← fetchOwnNote C W slug
  let prior ← collect NoteSnapshot.fromEvent priorEvent.toList
  let builder ← buildSetEvent C.publicKey prior.head? slug title summary tags body W.now
  let event ← signEvent C builder
  let reply ← W.submit event
  checkReply reply
  let _ ← (T.naddr event.pubkey slug).mapError fun e => CliError.other ("naddr encoding failed: " ++ e)
  .ok (some event)

def dispatchSetNote (name : String) (title summary : Option String) (tags : List String)
    (clearTags : Bool) (content : String) (allowEmpty : Bool) : Except CliError (Option Event) := do
  let slug ← parseSlug T name
  require (¬(clearTags = true ∧ tags ≠ []))
    (.usage "--clear-tags is mutually exclusive with --tag; pick one")
  let tagsArg := if clearTags then some [] else if tags = [] then none else some tags
  cmdSetNote T C W slug title summary tagsArg content allowEmpty

end

inductive Command
  | memSet (slug value : String) (owner : Option String) (allowEmpty : Bool)
  | memPatch (slug : String) (patchFile baseHash : Option String) (noBaseHash dryRun allowEmpty : Bool)
    (owner : Option String)
  | memRm (slug : String) (owner : Option String)
  | notesSet (name : String) (title summary : Option String) (tags : List String) (clearTags : Bool)
    (content : String) (allowEmpty : Bool)

/-- The event a successful command wrote; there is none after a dry run. -/
def dispatch : Command → Except CliError (Option Event)
  | .memSet slug value owner allowEmpty => cmdSet T C W slug value owner allowEmpty
  | .memPatch slug patchFile baseHash noBaseHash dryRun allowEmpty owner =>
    cmdPatch T C W slug patchFile baseHash noBaseHash dryRun allowEmpty owner
  | .memRm slug owner => cmdRm T C W slug owner
  | .notesSet name title summary tags clearTags content allowEmpty =>
    dispatchSetNote T C W name title summary tags clearTags content allowEmpty

/-- The relay's answer to `POST /events`; a store error is an internal server error. -/
def answer (describe : StoreError → String) : Except StoreError WriteResult → Except CliError Json
  | .ok w => .ok (.object [("event_id",.string w.eventId),("accepted",.bool w.accepted),
      ("message",.string w.message)])
  | .error e => .error (.relay 500 (describe e))

/-- The event is the one effective event of its author, kind and `d` tag. -/
structure IsEffective (effective : List StoredEvent) (event : Event) : Prop where
  stored : ∃ s ∈ effective, s.event = event
  sole : ∀ s ∈ effective, replacementKey s.event = replacementKey event → s.event = event

variable {T C W}

section

variable {e : Event}
variable {ow : PublicKey} {body : Body}

lemma buildEvent_body {createdAt : ℕ} (h : buildEvent C ow body createdAt = .ok e) :
    e.pubkey = C.publicKey ∧ e.kind = kindAgentEngram ∧ e.createdAt = createdAt := by
  simp only [buildEvent,bind_eq_ok,relabelled_ok,exists_unit] at h
  obtain ⟨-,ciphertext,-,hs⟩ := h
  rw [C.signed_body _ _ hs]
  exact ⟨rfl,rfl,rfl⟩

/-- A submission that the client takes for a success. -/
def TakenForSuccess (W : World) (event : Event) : Prop :=
  ∃ reply, W.submit event = .ok reply ∧ checkReply reply = .ok ()

lemma writeBody_spec {prior : Option ℕ} (h : writeBody C W ow body prior = .ok e) :
    TakenForSuccess W e ∧ e.kind = kindAgentEngram := by
  simp only [writeBody,submitEngram,bind_eq_ok,relabelled_ok,exists_unit,ok.injEq] at h
  obtain ⟨built,hb,⟨rp,hr,hc⟩,rfl⟩ := h
  exact ⟨⟨rp,hr,hc⟩,(buildEvent_body hb).2.1⟩

lemma signEvent_kind {body : EventBody} (h : signEvent C body = .ok e) : e.kind = body.kind := by
  simp only [signEvent,bind_eq_ok,relabelled_ok,exists_unit,ok.injEq] at h
  obtain ⟨signed,hs,-,rfl⟩ := h
  rw [C.signed_body _ _ hs]

variable {slug cont : String} {title summary : Option String} {tags : Option (List String)}

lemma buildSetEvent_kind {author : PublicKey} {prior : Option NoteSnapshot} {now : ℕ}
    {body : EventBody} (h : buildSetEvent author prior slug title summary tags cont now = .ok body) :
    body.kind = kindLongForm := by
  simp only [buildSetEvent,bind_eq_ok,ok.injEq] at h
  obtain ⟨titleValue,-,rfl⟩ := h
  rfl

lemma cmdSetNote_spec {allowEmpty : Bool}
    (h : cmdSetNote T C W slug title summary tags cont allowEmpty = .ok (some e)) :
    TakenForSuccess W e ∧ e.kind = kindLongForm := by
  simp only [cmdSetNote,bind_eq_ok,exists_unit,ok.injEq,some.injEq] at h
  obtain ⟨body,-,priorEvent,-,prior,-,builder,hb,signed,hs,rp,hr,hc,-,-,rfl⟩ := h
  exact ⟨⟨rp,hr,hc⟩,(signEvent_kind hs).trans (buildSetEvent_kind hb)⟩

/-- Every command that reports a write has submitted an addressable event and taken the answer
for a success. -/
lemma dispatch_spec {command : Command} (h : dispatch T C W command = .ok (some e)) :
    TakenForSuccess W e ∧ (e.kind = kindAgentEngram ∨ e.kind = kindLongForm) := by
  cases command with
  | memSet slug v ow allowEmpty =>
    simp only [dispatch,cmdSet,bind_eq_ok,ok.injEq,some.injEq] at h
    obtain ⟨slug,-,v,-,ow,-,hd,-,written,hw,rfl⟩ := h
    exact ⟨(writeBody_spec hw).1,.inl (writeBody_spec hw).2⟩
  | memPatch slug patchFile baseHash noBaseHash dryRun allowEmpty ow =>
    simp only [dispatch,cmdPatch,bind_eq_ok,exists_unit] at h
    obtain ⟨slug,-,-,diffText,-,ow,-,found,-,-,newValue,-,hl⟩ := h
    cases dryRun with
    | true => simp at hl
    | false =>
      simp only [Bool.false_eq_true,if_false,bind_eq_ok,ok.injEq,some.injEq] at hl
      obtain ⟨written,hw,rfl⟩ := hl
      exact ⟨(writeBody_spec hw).1,.inl (writeBody_spec hw).2⟩
  | memRm slug ow =>
    simp only [dispatch,cmdRm,bind_eq_ok,exists_unit,ok.injEq,some.injEq] at h
    obtain ⟨slug,-,-,ow,-,hd,-,written,hw,rfl⟩ := h
    exact ⟨(writeBody_spec hw).1,.inl (writeBody_spec hw).2⟩
  | notesSet name title summary tags clearTags cont allowEmpty =>
    simp only [dispatch,dispatchSetNote,bind_eq_ok,exists_unit] at h
    obtain ⟨slug,-,-,hs⟩ := h
    exact ⟨(cmdSetNote_spec hs).1,.inr (cmdSetNote_spec hs).2⟩

end

section

variable {X : Crates} {io : AppendOutcome} {s : Store} {e : Event}

lemma decideEvent_fresh (hs : Separated stream s.events) (hdu : isEphemeralKind e.kind = false)
    (hf : decideEvent s.events (e.id ∈ s.seenIds) e ≠ .duplicate) :
    (∀ cur ∈ s.events, cur.event.id ≠ e.id) ∧
      decideEvent s.events (e.id ∈ s.seenIds) e = decideEvent s.events false e ∧
      decideEvent s.events false e =
        if Covered stream s.events (storedEvent X e) then .superseded else .stored := by
  have hd := fun seen => @decideEvent_durable s.events seen (storedEvent X e) hs hdu
  have hk : ¬(decide (e.id ∈ s.seenIds) = true ∨
      ∃ cur ∈ s.events, cur.event.id = (storedEvent X e).event.id) := by
    intro hk
    exact hf ((hd _).trans (if_pos hk))
  have hid : ¬∃ cur ∈ s.events, cur.event.id = (storedEvent X e).event.id := fun hid => hk (.inr hid)
  have hp := (hd false).trans (if_neg (by simpa using hid))
  exact ⟨fun cur hc heq => hid ⟨cur,hc,heq⟩, ((hd _).trans (if_neg hk)).trans hp.symm,hp⟩

/-- After an answer that is neither a rejection nor `duplicate`, the event is effective exactly
when it outranks every effective event of its key. -/
lemma isEffective_accept_iff {w : WriteResult} (hse : Separated stream s.events)
    (hkey : replacementKey e ≠ none) (hdu : isEphemeralKind e.kind = false)
    (h : (accept X io s e).2 = .ok w) (ha : w.accepted = true)
    (hmessage : w.message ≠ "duplicate") : IsEffective (accept X io s e).1.events e ↔
      ∀ cur ∈ s.events, replacementKey cur.event = replacementKey e → rank cur.event < rank e := by
  have hout := accept_outcome X io s e
  have hf := decideEvent_fresh (X := X) hse hdu
  have hri : ∀ cur : StoredEvent, replacementKey cur.event = replacementKey e →
      Rivals stream cur (storedEvent X e) := fun cur hs => ⟨hkey,hs⟩
  generalize accept X io s e = res at h hout
  obtain ⟨aft,verdict⟩ := res
  subst h
  cases hout with
  | rejected why hv => simp [WriteResult.ofRejected] at ha
  | duplicate hv hd => simp [WriteResult.ofAccepted] at hmessage
  | ephemeral hv hd =>
    obtain ⟨-,hs,hp⟩ := hf (by simp [hd])
    rw [hs,hp] at hd
    split at hd <;> simp at hd
  | superseded hv hd =>
    obtain ⟨hid,hs,hp⟩ := hf (by simp [hd])
    have hco : Covered stream s.events (storedEvent X e) := by
      by_contra hn
      rw [hs,hp,if_neg hn] at hd
      simp at hd
    obtain ⟨cur,hc,hr,hle⟩ := (covered_iff_rival hid).1 hco
    constructor
    · rintro ⟨⟨kept,hk,rfl⟩,-⟩
      exact absurd rfl (hid kept hk)
    · intro hal
      exact absurd (hal cur hc hr.2) (not_lt.2 hle)
  | stored wr hv hd =>
    obtain ⟨-,hs,hp⟩ := hf (by simp [hd])
    have hst := hs.symm.trans hd
    have hn := (decideEvent_stored_iff (storedEvent X e) hse hdu).1 hst
    obtain ⟨hm,hso⟩ := @sole_of_stored _ (storedEvent X e) hse hdu hst
    constructor
    · intro _ cur hc hke
      by_contra hlt
      exact hn ⟨cur,hc,.inr ⟨hri cur hke,not_lt.1 hlt⟩⟩
    · intro _
      exact ⟨⟨_,hm,rfl⟩,fun kept hk hke => by rw [hso kept hk (hri kept hke)]; rfl⟩

lemma accepted_of_checkReply {describe : StoreError → String} {verdict : Except StoreError WriteResult}
    {rp : Json} (hr : answer describe verdict = .ok rp) (hc : checkReply rp = .ok ()) :
    ∃ w, verdict = .ok w ∧ w.accepted = true ∧ w.message ≠ "duplicate" := by
  cases verdict with
  | error e => simp [answer] at hr
  | ok w =>
    have ho := ok.inj hr
    subst ho
    simp only [checkReply,bind_eq_ok,require_eq_ok,exists_unit] at hc
    obtain ⟨ha,hm⟩ := hc
    have hw : w.accepted = true := ha
    exact ⟨w,rfl,hw,fun hd => hm (.inr hd)⟩

end

/-- A write command that reports success has written the effective event of its author, kind and
`d` tag exactly when its event outranks the effective event the relay had there. -/
theorem reported_write_took_iff (T : Tools) (C : Client) (W : World) (X : Crates) (io : AppendOutcome)
    (describe : StoreError → String) (s : Store) (hsep : Separated stream s.events)
    (hsubmit : ∀ e, W.submit e = answer describe (accept X io s e).2)
    (command : Command) (event : Event) (hsuccess : dispatch T C W command = .ok (some event)) :
    IsEffective (accept X io s event).1.events event ↔
      ∀ current ∈ s.events, replacementKey current.event = replacementKey event →
        rank current.event < rank event := by
  obtain ⟨⟨reply,hr,hc⟩,hk⟩ := dispatch_spec hsuccess
  rw [hsubmit] at hr
  obtain ⟨w,hw,ha,hmessage⟩ := accepted_of_checkReply hr hc
  have hkey : replacementKey event ≠ none := by
    rcases hk with hk | hk <;> simp [replacementKey,hk,kindAgentEngram,kindLongForm]
  have hd : isEphemeralKind event.kind = false := by
    rcases hk with hk | hk <;> rw [hk] <;> rfl
  exact isEffective_accept_iff hsep hkey hd hw ha hmessage

def firstDraft : Event where
  pubkey := firstKey
  createdAt := 1700000000
  kind := 30023
  tags := [⟨"d",["guide"]⟩,⟨"title",["Guide"]⟩,⟨"published_at",["1700000000"]⟩]
  content := "first draft"
  id := .ofNat 32 0xbc3a0a0f8653bff9b9b42caa06b29d6d3993c532c3e91e4c62178138ad2dbeb3
  sig := .ofNat 64 0xbdb1c8e8207c89529b25f1cee4cc93ac5b81e53478f4181ac05d8aa86471907bd576d036a67718f4d26a3bb830673846f4dbda324daed5633fd37f27d857add4

def secondDraft : Event :=
  { firstDraft with
    content := "second draft"
    id := .ofNat 32 0x22219969a2b919d37ad678b003f5faa0cb1c832f846f84bd4497372235779507
    sig := .ofNat 64 0x704f469a94acdce61e63a1be0cd30f5c7290ea761af76f6f40d85e3ccdbe0324f24246f700508a945bb17504898e86626ba45fb6365567bd55b4398d63893dff }

def revisedDraft : Event :=
  { firstDraft with
    content := "revised draft"
    id := .ofNat 32 0xc6bf642fadb4bff6d55042af761c162224d7dbad44705f16e4d9a5b2fb24321e
    sig := .ofNat 64 0xcf5320ae17d506aa41cd8d719f4da92f6e273681114540110443d2dd024ab40aa10501a87f3843d11b5ffd6ba2b262ab93c5cc0e4b18b8706c02bed7ce58075f }

def guideDrafts : List Event := [firstDraft,secondDraft,revisedDraft]

def guideCrates : Crates := signedOnly guideDrafts fun _ => none

def guideStore : Store := acceptAll guideCrates none [firstDraft]

def openRelay : Query.Relay := ⟨none,none,fun _ => none,Query.noPulse_kind⟩

/-- The author of the drafts, who signs these and nothing else. -/
def guideAuthor : Client where
  nostr := guideCrates.toNostr
  publicKey := firstDraft.pubkey
  authTag := none
  publicKeyFromHex _ := .error "odd number of digits"
  conversation _ := ⟨fun _ => .ofNat 32 0,fun _ => none⟩
  encrypt _ _ := .error "no key"
  signWithKeys body := okOr (guideDrafts.find? fun e => e.toEventBody = body) "not asked for"
  signed_body := by
    intro body event h
    simpa using List.find?_some (okOr_eq_ok.1 h)

def guideTools : Tools where
  debug := id
  parseStrictJson _ := .error .decrypt
  sha256Hex := id
  patchFromStr _ := .error "no patch"
  applyPatch _ _ := .error "no patch"
  naddr _ slug := .ok slug
  debugChar := String.singleton

/-- The relay answers the reading and the submission from one and the same state. -/
def guideWorld : World where
  now := 1700000000
  stdin _ := .error "closed"
  readFile _ := .error "not found"
  query f :=
    match Query.queryForCursors guideCrates openRelay guideStore none [⟨f,none⟩] with
    | .ok events => .ok (events.map .ok)
    | .error _ => .error (.relay 400 "bad request")
  submit e := answer (fun _ => "store failure") (accept guideCrates .synced guideStore e).2

/-- `notes set --name guide --content ...`, with the title carried forward. -/
def setGuide (content : String) : Command := .notesSet "guide" none none [] false content false

lemma separated_guideStore : Separated stream guideStore.events := by
  have ho : guideStore.events = [storedEvent guideCrates firstDraft] := by decide +kernel
  exact List.pairwise_singleton _ _

/-- The second draft has the smaller id and takes the place of the first. -/
theorem reported_write_took_second :
    dispatch guideTools guideAuthor guideWorld (setGuide "second draft") = .ok (some secondDraft) ∧
    IsEffective (accept guideCrates .synced guideStore secondDraft).1.events secondDraft := by
  have hs : dispatch guideTools guideAuthor guideWorld (setGuide "second draft") =
      .ok (some secondDraft) := by decide +kernel
  exact ⟨hs,(reported_write_took_iff guideTools guideAuthor guideWorld guideCrates .synced _
    guideStore separated_guideStore (fun _ => rfl) _ _ hs).2 (by decide +kernel)⟩

/-- The revised draft has the greater id. The relay answers `superseded`, the command reports
success, and the first draft stays. -/
theorem superseded_write_reported : (accept guideCrates .synced guideStore revisedDraft).2 =
      .ok (.ofAccepted revisedDraft "superseded" false) ∧
    dispatch guideTools guideAuthor guideWorld (setGuide "revised draft") = .ok (some revisedDraft) ∧
    (accept guideCrates .synced guideStore revisedDraft).1.events.map StoredEvent.event = [firstDraft] ∧
    replacementKey revisedDraft = replacementKey firstDraft := by
  decide +kernel

end BuzzSolo.Cli
