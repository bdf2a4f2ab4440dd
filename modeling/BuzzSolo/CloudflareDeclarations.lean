import BuzzSolo.CloudflareNode
import BuzzSolo.Handoff
import BuzzSolo.LineText

/-! Configuration from the journal on the Cloudflare node: the owner's declaration heads become
trusted peers, readers and exported streams. A head that cannot be read stops the evaluation with an
exception. -/
namespace BuzzSolo.CloudflareNode

open Checks LineText
open Handoff (Json field)

def kindSyncDeclaration : ℕ := 30700

structure ReplicationPeerTrust where
  principal : String
  verificationKeys : List String

inductive StreamExport
  | mirror
  | filter (filters : List Json)
  | fromSource (source : String)

/-- The own properties of an object that is used as a map. -/
abbrev Properties (α : Type) := List (String × α)

/-- `object[key] = value`. The key `__proto__` sets the prototype and no own property. -/
def assign {α : Type} (key : String) (value : α) (properties : Properties α) : Properties α :=
  if key = "__proto__" then properties
  else if properties.any fun p => p.1 = key then
    properties.map fun p => if p.1 = key then (key,value) else p
  else properties ++ [(key,value)]

/-- A domain is absent when the owner has no head in it. -/
structure DeclarationConfig where
  peers : Option (Properties ReplicationPeerTrust)
  readers : Option (Properties ReplicationPeerTrust)
  streams : Option (Properties StreamExport)

def DeclarationConfig.unclaimed : DeclarationConfig := ⟨none,none,none⟩

structure MalformedDeclarationError where
  dTag : String
  eventId : String
  reason : String
  deriving DecidableEq

def MalformedDeclarationError.message (e : MalformedDeclarationError) : String :=
  "malformed declaration " ++ e.dTag ++ " (event " ++ e.eventId ++ "): " ++ e.reason

def tagValue (event : JsEvent) (name : String) : Option String :=
  (event.tags.find? fun tag => tag.head? = some name).bind fun tag => tag[1]?

section

variable (parseJson : String → Option Json)

def declarationContent (event : JsEvent) (dTag : String) :
    Except MalformedDeclarationError (Properties Json) :=
  match parseJson event.content with
  | none => .error ⟨dTag,event.id,"content is not JSON"⟩
  | some parsed => okOr parsed.asObject ⟨dTag,event.id,"content must be a JSON object"⟩

def isActive (content : Properties Json) : Bool :=
  match field content "status" with
  | none => true
  | some .null => true
  | some (.string status) => status = "active"
  | some _ => false

def pTagValues (event : JsEvent) : List String :=
  event.tags.filterMap fun tag => if tag.head? = some "p" then tag[1]? else none

def peerEntry (event : JsEvent) (dTag : String) :
    Except MalformedDeclarationError (Option ReplicationPeerTrust) := do
  let content ← declarationContent parseJson event dTag
  if !isActive content then .ok none else
  let principal ← okOr (((field content "principal").bind Json.asStr).filter fun p => p ≠ "")
    ⟨dTag,event.id,"active head requires a string principal"⟩
  require (pTagValues event ≠ []) ⟨dTag,event.id,"active head requires at least one p-tag verification key"⟩
  .ok (some ⟨principal,pTagValues event⟩)

/-- The selection an object spells. An array is an object with none of these properties. -/
def selectionOf (entry : Properties Json) : Option StreamExport :=
  match field entry "mirror" with
  | some (.bool true) => some .mirror
  | _ =>
    match field entry "filter" with
    | some (.array filters) => some (.filter filters)
    | _ =>
      match field entry "from_source" with
      | some (.string source) => if source ≠ "" then some (.fromSource source) else none
      | _ => none

def selectionProperties : Option Json → Option (Properties Json)
  | some (.object entry) => some entry
  | some (.array _) => some []
  | _ => none

def exportEntry (event : JsEvent) (dTag : String) :
    Except MalformedDeclarationError (Option StreamExport) := do
  let content ← declarationContent parseJson event dTag
  if !isActive content then .ok none else
  let entry ← okOr (selectionProperties (field content "selection"))
    ⟨dTag,event.id,"active export head requires a selection object"⟩
  let selection ← okOr (selectionOf entry) ⟨dTag,event.id,
    "selection must be \x7bmirror:true\x7d, \x7bfilter:[...]\x7d, or \x7bfrom_source:\"...\"\x7d"⟩
  .ok (some selection)

/-- Claims the domain, and enters the head when it is active. -/
def enter {α : Type} (key : String) (entry : Option α) (domain : Option (Properties α)) :
    Option (Properties α) :=
  some (match entry with
    | none => domain.getD []
    | some value => assign key value (domain.getD []))

variable (owner nodeLabel : String)

def governingTag (event : JsEvent) : Option String :=
  if event.kind = kindSyncDeclaration ∧ event.pubkey = owner ∧ tagValue event "n" = some nodeLabel then
    tagValue event "d"
  else none

inductive Domain
  | admitted (source : String)
  | read (stream : String)
  | exported (stream : String)

def Domain.dTag : Domain → String
  | .admitted source => "admit/" ++ source
  | .read stream => "read/" ++ stream
  | .exported stream => "export/" ++ stream

def domainOf (dTag : String) : Option Domain :=
  match stripStart "admit/" dTag with
  | some source => some (.admitted source)
  | none =>
    match stripStart "read/" dTag with
    | some stream => some (.read stream)
    | none => (stripStart "export/" dTag).map .exported

def evaluateHead (config : DeclarationConfig) (event : JsEvent) :
    Except MalformedDeclarationError DeclarationConfig :=
  match governingTag owner nodeLabel event with
  | none => .ok config
  | some dTag =>
    match domainOf dTag with
    | none => .ok config
    | some (.admitted source) => do
      let entry ← peerEntry parseJson event dTag
      .ok { config with peers := enter source entry config.peers }
    | some (.read stream) => do
      let entry ← peerEntry parseJson event dTag
      .ok { config with readers := enter stream entry config.readers }
    | some (.exported stream) => do
      let entry ← exportEntry parseJson event dTag
      .ok { config with streams := enter stream entry config.streams }

def evaluateFrom (config : DeclarationConfig) : List JsEvent →
    Except MalformedDeclarationError DeclarationConfig
  | [] => .ok config
  | event :: events => do
    let config ← evaluateHead parseJson owner nodeLabel config event
    evaluateFrom config events

def evaluateDeclarations (events : List JsEvent) : Except MalformedDeclarationError DeclarationConfig :=
  evaluateFrom parseJson owner nodeLabel .unclaimed events

/-- A head that governs this node and stops the evaluation. -/
def malformedHead (event : JsEvent) : Bool :=
  match governingTag owner nodeLabel event with
  | none => false
  | some dTag =>
    match domainOf dTag with
    | none => false
    | some (.exported _) => !(exportEntry parseJson event dTag).toBool
    | some _ => !(peerEntry parseJson event dTag).toBool

end

lemma domainOf_eq_some {dTag : String} {dom : Domain} : domainOf dTag = some dom ↔ dTag = dom.dTag := by
  constructor
  · intro h
    unfold domainOf at h
    split at h
    next src hs =>
      cases h
      exact stripStart_eq_some.1 hs
    · split at h
      next str hs =>
        cases h
        exact stripStart_eq_some.1 hs
      · obtain ⟨str,hs,rfl⟩ := Option.map_eq_some_iff.1 h
        exact stripStart_eq_some.1 hs
  · rintro rfl
    cases dom with
    | admitted src => simp [domainOf,Domain.dTag,stripStart_eq_some.2 rfl]
    | read str =>
      have ha : stripStart "admit/" ("read/" ++ str) = none := stripStart_eq_none (by simp)
      simp [domainOf,Domain.dTag,ha,stripStart_eq_some.2 rfl]
    | exported str =>
      have ha : stripStart "admit/" ("export/" ++ str) = none := stripStart_eq_none (by simp)
      have hr : stripStart "read/" ("export/" ++ str) = none := stripStart_eq_none (by simp)
      simp [domainOf,Domain.dTag,ha,hr,stripStart_eq_some.2 rfl]

section

variable {parseJson : String → Option Json} {ow lbl : String}

lemma evaluateHead_ok_iff (cfg : DeclarationConfig) (e : JsEvent) :
    (∃ next, evaluateHead parseJson ow lbl cfg e = .ok next) ↔ malformedHead parseJson ow lbl e = false := by
  cases hg : governingTag ow lbl e with
  | none => simp [evaluateHead,malformedHead,hg]
  | some dTag =>
    cases hd : domainOf dTag with
    | none => simp [evaluateHead,malformedHead,hg,hd]
    | some dom =>
      simp only [evaluateHead,malformedHead,hg,hd]
      cases dom with
      | admitted | read => cases peerEntry parseJson e dTag <;> simp [Except.toBool]
      | exported str => cases exportEntry parseJson e dTag <;> simp [Except.toBool]

/-- The evaluation succeeds exactly when no governing head is malformed. -/
lemma evaluateFrom_ok_iff (cfg : DeclarationConfig) (es : List JsEvent) :
    (∃ res, evaluateFrom parseJson ow lbl cfg es = .ok res) ↔
      ∀ e ∈ es, malformedHead parseJson ow lbl e = false := by
  induction es generalizing cfg with
  | nil => simp [evaluateFrom]
  | cons e es ih =>
    rw [List.forall_mem_cons,← evaluateHead_ok_iff cfg e]
    constructor
    · rintro ⟨res,hr⟩
      obtain ⟨next,hn,hre⟩ := bind_eq_ok.1 hr
      exact ⟨⟨next,hn⟩,(ih next).1 ⟨res,hre⟩⟩
    · rintro ⟨⟨next,hn⟩,hre⟩
      obtain ⟨res,hr⟩ := (ih next).2 hre
      exact ⟨res,bind_eq_ok.2 ⟨next,hn,hr⟩⟩

lemma evaluateDeclarations_error_iff (es : List JsEvent) :
    (∃ e, evaluateDeclarations parseJson ow lbl es = .error e) ↔
      ∃ ev ∈ es, malformedHead parseJson ow lbl ev = true := by
  have hok := @evaluateFrom_ok_iff parseJson ow lbl .unclaimed es
  rw [← evaluateDeclarations] at hok
  cases hr : evaluateDeclarations parseJson ow lbl es with
  | error e =>
    have hn : ¬ ∀ ev ∈ es, malformedHead parseJson ow lbl ev = false := by
      rw [← hok,hr]
      simp
    simpa using hn
  | ok cfg =>
    have ha := hok.1 ⟨cfg,hr⟩
    simpa using ha

lemma kind_of_malformedHead {e : JsEvent}
    (h : malformedHead parseJson ow lbl e = true) : e.kind = kindSyncDeclaration := by
  by_contra hk
  simp [malformedHead,governingTag,hk] at h

end

end BuzzSolo.CloudflareNode
