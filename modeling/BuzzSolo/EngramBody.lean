import BuzzSolo.ByteText
import BuzzSolo.Engram
import BuzzSolo.JsonReader

/-! The body of a memory as bytes. The writer spells it as a JSON object of its own; the reader
refuses any document that repeats a key, at whatever depth, before it looks at the members. -/
namespace BuzzSolo.Engram

open Checks JsonReader List
open Handoff (Json field)

mutual

/-- The strict visitor: the value of a document, or the key that an object in it repeats. -/
def strictValue : Doc → Except String Json
  | .null => .ok .null
  | .bool value => .ok (.bool value)
  | .number token => .ok (.number token)
  | .string value => .ok (.string value)
  | .array items => do
    let values ← visitSeq items
    .ok (.array values)
  | .object members => do
    let values ← visitMap [] members
    .ok (.object values)

def visitSeq : List Doc → Except String (List Json)
  | [] => .ok []
  | item :: items => do
    let value ← strictValue item
    let values ← visitSeq items
    .ok (value :: values)

def visitMap (seen : List String) : List (String × Doc) → Except String (List (String × Json))
  | [] => .ok []
  | (key,doc) :: members => do
    require (key ∉ seen) key
    let value ← strictValue doc
    let values ← visitMap (key :: seen) members
    .ok ((key,value) :: values)

end

/-- serde_json: the document of a text with what it says of text that trails it, and the places
and texts of its errors. A compact object of two strings or nulls is read as it is spelled. -/
structure JsonCrate where
  debug : String → String
  document : String → Except String (Doc × Option String)
  located : String → String → String
  utf8Error : List UInt8 → String
  document_pair : ∀ text doc, readPair text.toList = some doc → document text = .ok (doc,none)

variable (J : JsonCrate)

def parseStrictJson (text : String) : Except EngramError Json :=
  match J.document text with
  | .error e => .error (.invalidBody ("invalid JSON body: " ++ e))
  | .ok (doc,trailing) =>
    match strictValue doc, trailing with
    | .error key,_ => .error (.invalidBody
      ("invalid JSON body: " ++ J.located text ("duplicate object member name: " ++ key)))
    | .ok _,some e => .error (.invalidBody ("trailing data after JSON body: " ++ e))
    | .ok value,none => .ok value

def bodyCrates : Crates := ⟨J.debug,parseStrictJson J⟩

def Body.text (body : Body) : String :=
  "\x7b" ++ "\"slug\":" ++ JsonText.quote body.slug ++ (match body with
    | .memory _ (some value) => ",\"value\":" ++ JsonText.quote value
    | .memory _ none => ",\"value\":null"
    | .core profile => ",\"profile\":" ++ JsonText.quote profile) ++ "\x7d"

def Body.toJsonBytes (body : Body) : List UInt8 := ByteText.utf8 body.text

/-- Bytes that are no UTF-8 are no JSON: a character beyond ASCII stands in a string only. -/
def Body.fromJsonSlice (bytes : List UInt8) : Except EngramError Body :=
  match ByteText.fromUtf8 bytes with
  | none => .error (.invalidBody (J.utf8Error bytes))
  | some text => Body.fromJsonBytes (bodyCrates J) text

section

lemma visitSeq_ok {xs : List Doc} {vs : List Json} (h : visitSeq xs = .ok vs) :
    ∀ d ∈ xs, ∃ v, strictValue d = .ok v := by
  induction xs generalizing vs with
  | nil => simp
  | cons item xs ih =>
    simp only [visitSeq,bind_eq_ok] at h
    obtain ⟨v,hv,rest,hr,-⟩ := h
    exact forall_mem_cons.2 ⟨⟨v,hv⟩,ih hr⟩

lemma visitMap_ok {seen : List String} {ms : List (String × Doc)} {vs : List (String × Json)}
    (h : visitMap seen ms = .ok vs) : (ms.map Prod.fst).Nodup ∧ (∀ key ∈ seen, key ∉ ms.map Prod.fst) ∧
      ∀ m ∈ ms, ∃ v, strictValue m.2 = .ok v := by
  induction ms generalizing seen vs with
  | nil => simp
  | cons m ms ih =>
    simp only [visitMap,bind_eq_ok,exists_unit,require_eq_ok] at h
    obtain ⟨hnew,v,hv,rest,hr,-⟩ := h
    obtain ⟨hn,hse,ha⟩ := ih hr
    refine ⟨nodup_cons.2 ⟨hse m.1 mem_cons_self,hn⟩,?_, forall_mem_cons.2 ⟨⟨v,hv⟩,ha⟩⟩
    intro key hkey hm
    rcases mem_cons.1 hm with rfl | hm
    · exact hnew hkey
    · exact hse key (mem_cons_of_mem _ hkey) hm

lemma nodup_of_strictValue {ms : List (String × Doc)} {doc : Doc} {v : Json}
    (h : strictValue doc = .ok v) (hw : Within (.object ms) doc) : (ms.map Prod.fst).Nodup := by
  induction hw generalizing v with
  | self =>
    obtain ⟨vs,hv,-⟩ := bind_eq_ok.1 h
    exact (visitMap_ok hv).1
  | item hd _ ih =>
    obtain ⟨vs,hv,-⟩ := bind_eq_ok.1 h
    obtain ⟨v,hva⟩ := visitSeq_ok hv _ hd
    exact ih hva
  | member hm _ ih =>
    obtain ⟨vs,hv,-⟩ := bind_eq_ok.1 h
    obtain ⟨v,hva⟩ := (visitMap_ok hv).2.2 _ hm
    exact ih hva

end

variable {J}

lemma parseStrictJson_eq_ok {t : String} {v : Json} : parseStrictJson J t = .ok v ↔
    ∃ doc, J.document t = .ok (doc,none) ∧ strictValue doc = .ok v := by
  unfold parseStrictJson
  cases J.document t with
  | error e => simp
  | ok read =>
    obtain ⟨doc,trailing⟩ := read
    cases hd : strictValue doc <;> cases trailing <;> simp_all

def valueJson : Option String → Json
  | some value => .string value
  | none => .null

lemma strictValue_valueDoc (v : Option String) : strictValue (valueDoc v) = .ok (valueJson v) := by
  cases v <;> rfl

lemma parseStrictJson_pair {t key key' : String} {value value' : Option String} (hne : key ≠ key')
    (ht : t = "\x7b" ++ memberText key value ++ "," ++ memberText key' value' ++ "\x7d") :
    (bodyCrates J).parseStrictJson t = .ok (.object [(key,valueJson value),(key',valueJson value')]) := by
  have hr := readPair_memberText key key' value value'
  rw [← ht] at hr
  refine parseStrictJson_eq_ok.2 ⟨_,J.document_pair _ _ hr,?_⟩
  simp [strictValue,visitMap,strictValue_valueDoc,hne.symm]

lemma quote_slug : JsonText.quote "slug" = "\"slug\"" := by decide
lemma quote_value : JsonText.quote "value" = "\"value\"" := by decide
lemma quote_profile : JsonText.quote "profile" = "\"profile\"" := by decide

lemma text_memory (slug : String) (v : Option String) : (Body.memory slug v).text =
    "\x7b" ++ memberText "slug" (some slug) ++ "," ++ memberText "value" v ++ "\x7d" := by
  cases v <;>
    simp [← String.toList_inj,Body.text,Body.slug,memberText,valueText,quote_slug,quote_value]

lemma text_core (profile : String) : (Body.core profile).text =
    "\x7b" ++ memberText "slug" (some coreSlug) ++ "," ++ memberText "profile" (some profile) ++ "\x7d" := by
  simp [← String.toList_inj,Body.text,Body.slug,memberText,valueText,quote_slug,quote_profile]

lemma fromJsonBytes_memory {slug : String} (hs : validateSlug (bodyCrates J) slug = .ok ())
    (hne : slug ≠ coreSlug) (v : Option String) :
    Body.fromJsonBytes (bodyCrates J) (Body.memory slug v).text = .ok (.memory slug v) := by
  have hp := @parseStrictJson_pair J _ _ _ _ _ (by decide) (text_memory slug v)
  cases v <;>
    simp [Body.fromJsonBytes,hp,textMember,field,Json.asObject,hs,hne,valueJson]

lemma fromJsonBytes_core (profile : String) :
    Body.fromJsonBytes (bodyCrates J) (Body.core profile).text = .ok (.core profile) := by
  have hp := @parseStrictJson_pair J _ _ _ _ _ (by decide) (text_core profile)
  have hs : validateSlug (bodyCrates J) coreSlug = .ok () := if_pos rfl
  simp [Body.fromJsonBytes,hp,textMember,field,Json.asObject,hs,valueJson]

/-- A body that names no other entry than its own is read back from its bytes, and whatever is
read repeats no key at any depth. -/
theorem body_codec (J : JsonCrate) : (∀ body : Body, (∀ slug value, body = .memory slug value →
        validateSlug (bodyCrates J) slug = .ok () ∧ slug ≠ coreSlug) →
      Body.fromJsonSlice J body.toJsonBytes = .ok body) ∧
        ∀ bytes body, Body.fromJsonSlice J bytes = .ok body →
      ∃ text doc, ByteText.utf8 text = bytes ∧ J.document text = .ok (doc,none) ∧
        ∀ members, Within (.object members) doc → (members.map Prod.fst).Nodup := by
  constructor
  · intro body hb
    unfold Body.fromJsonSlice Body.toJsonBytes
    rw [ByteText.fromUtf8_utf8]
    cases body with
    | core profile => exact fromJsonBytes_core profile
    | memory slug value =>
      obtain ⟨hsl,hne⟩ := hb slug value rfl
      exact fromJsonBytes_memory hsl hne value
  · intro bytes body h
    unfold Body.fromJsonSlice at h
    cases ht : ByteText.fromUtf8 bytes with
    | none =>
      rw [ht] at h
      cases h
    | some text =>
      rw [ht] at h
      obtain ⟨raw,hr,-⟩ := bind_eq_ok.1 h
      obtain ⟨doc,hd,hs⟩ := parseStrictJson_eq_ok.1 hr
      exact ⟨text,doc,ByteText.utf8_of_fromUtf8 ht,hd,fun members => nodup_of_strictValue hs⟩

def pairDocument (text : String) : Except String (Doc × Option String) :=
  match readPair text.toList with
  | some doc => .ok (doc,none)
  | none => .error "expected an object of two members"

lemma pairDocument_of_readPair (t : String) (doc : Doc) (h : readPair t.toList = some doc) :
    pairDocument t = .ok (doc,none) := by
  simp only [pairDocument,h]

def pairCrate : JsonCrate :=
  ⟨id,pairDocument,fun _ message => message,fun _ => "invalid unicode",pairDocument_of_readPair⟩

theorem body_codec_note : Body.fromJsonSlice pairCrate
    (Body.memory "mem/a" (some "\"quoted\"\n")).toJsonBytes =
      .ok (.memory "mem/a" (some "\"quoted\"\n")) := by
  refine (body_codec pairCrate).1 _ fun slug value h => ?_
  cases h
  exact ⟨by decide +kernel,by decide⟩

end BuzzSolo.Engram
