import BuzzSolo.AdapterAgreement
import BuzzSolo.CloudflareArtifacts
import BuzzSolo.LocalDeclarations

/-! Artifact access on both nodes. Each reads the owner's heads in its own way; on
declarations both can read, and for a hash that the journal spells in lower case, each gives
the answer of one rule. -/
namespace BuzzSolo.ArtifactAgreement

open Ingest EventStore Query AdapterAgreement CloudflareNode List
open LocalDeclarations hiding Crates
open Handoff (Json field)
open LocalRelay (eventTagValue)

/-- The store and the node hold one journal and the same effective events. -/
structure SameRecord (store : Store) (node : Node) : Prop where
  effective : EffectiveSet store.events
  tables : Tables node
  journal_eq : journal node = store.journal.map wire
  effective_iff : ∀ j, j ∈ effectiveEvents node ↔ ∃ s ∈ store.events, wire s.event = j

lemma nodeAfter_tables (N : NodeEnv) (src prin : Option String) (es : List Event) :
    Tables (nodeAfter N src prin es) := by
  induction es using reverseRecOn with
  | nil => exact tables_empty
  | append_singleton es e ih =>
    rw [nodeAfter,foldl_append]
    exact ih.applyEvent N (wire e) src prin

/-- Both adapters hold one record once they were given the same events. -/
lemma sameRecord_after {X : Crates} {N : NodeEnv} {es : List Event} (h : Shared X N es)
    (wr : Option ByteArray) (src prin : Option String) :
    SameRecord (acceptAll X wr es) (nodeAfter N src prin es) := by
  have hn := nodeAfter_refines src prin es h
  have hst := acceptAll_refines wr es h.no_collision h.serializes
  refine ⟨acceptAll_effectiveSet X wr es,nodeAfter_tables N src prin es,?_,?_⟩
  · rw [hn.journal_eq,← hst.history_eq,map_map]
    rfl
  · intro j
    rw [hst.events_eq]
    simp only [effectiveEvents,mem_map,mem_filter]
    constructor
    · rintro ⟨row,⟨hr,he⟩,rfl⟩
      exact (hn.effective_iff row hr).1 he
    · rintro ⟨s,hs,rfl⟩
      obtain ⟨row,hr,hev,he⟩ := hn.row_of_kept h.no_collision hs
      exact ⟨row,⟨hr,he⟩,hev⟩

section

variable (J : JsCrates) (nodeLabel : String)

def Active (content : Json) : Prop :=
  index content "status" = none ∨ index content "status" = some .null ∨
    index content "status" = some (.string "active")

structure ActiveHead (dTag : String) (head : Event) (content : Json) : Prop where
  label_eq : nTag head = some nodeLabel
  dTag_eq : LocalDeclarations.dTag head = some dTag
  parsed : J.parseJson head.content = some content
  active : Active content

def References (e : Event) (sha : String) : Prop := ∃ tag ∈ e.tagsNamed "x", tag.content = some sha

def selectionField (content : Json) (name : String) : Option Json :=
  (index content "selection").bind fun selection => index selection name

def Selected (content : Json) (e : Event) : Prop :=
  selectionField content "mirror" = some (.bool true) ∨
    ∃ filters, selectionField content "filter" = some (.array filters) ∧
      J.matchFilters filters (wire e) = true

/-- The rule: some stream is granted to the reader, and its export selects an event of the
journal that names the hash. -/
def MayFetch (heads journal : List Event) (reader : PublicKey) (sha : String) : Prop :=
  ∃ stream, (∃ head ∈ heads, ∃ content, ActiveHead J nodeLabel (Domain.read stream).dTag head content ∧
      reader.toHex ∈ pTags head) ∧
    ∃ head ∈ heads, ∃ content, ActiveHead J nodeLabel (Domain.exported stream).dTag head content ∧
      ∃ e ∈ journal, References e sha ∧ Selected J content e

/-- A head that both nodes read alike: one JSON value with a plain status, well formed for
the Cloudflare node, no stream with the name of the prototype, and a selection that is a
mirror or a filter both libraries understand. -/
structure PlainHead (X : LocalDeclarations.Crates) (owner : PublicKey) (journal : List Event)
    (head : Event) : Prop where
  parsed : (X.parseJson head.content).toOption = J.parseJson head.content
  wellFormed : malformedHead J.parseJson owner.toHex nodeLabel (wire head) = false
  status : ∀ content status, J.parseJson head.content = some content →
    index content "status" = some status → status = .null ∨ ∃ text, status = .string text
  stream : LocalDeclarations.dTag head ≠ some (Domain.read "__proto__").dTag
  filters : ∀ content filters, J.parseJson head.content = some content →
    selectionField content "filter" = some (.array filters) →
      ∃ parsed, X.filtersFromValue filters = .ok parsed ∧
        ∀ e ∈ journal, Filter.filtersMatch parsed ⟨e,none⟩ = J.matchFilters filters (wire e)
  unsourced : ∀ content source, J.parseJson head.content = some content →
    ((selectionProperties (index content "selection")).bind
      selectionOf) ≠ some (.fromSource source)

/-- The declarations of the owner: no more than one query shows, each read alike. -/
structure PlainDeclarations (X : LocalDeclarations.Crates) (owner : PublicKey)
    (journal heads : List Event) : Prop where
  shown : heads.length ≤ defaultQueryLimit
  dTag_eq : ∀ head ∈ heads, tagValue (wire head) "d" = LocalDeclarations.dTag head
  nTag_eq : ∀ head ∈ heads, tagValue (wire head) "n" = nTag head
  plain : ∀ head ∈ heads, nTag head = some nodeLabel → PlainHead J nodeLabel X owner journal head

/-- Every `x` tag that spells the hash spells it in lower case. -/
def LowerCase (journal : List Event) (sha : String) : Prop :=
  ∀ e ∈ journal, ∀ tag ∈ e.tagsNamed "x", ∀ value ∈ tag.content, value.toLower = sha → value = sha

instance (journal : List Event) (sha : String) : Decidable (LowerCase journal sha) :=
  inferInstanceAs (Decidable (∀ e ∈ journal, ∀ tag ∈ e.tagsNamed "x", ∀ value ∈ tag.content,
    value.toLower = sha → value = sha))

end

section

variable {J : JsCrates} {lbl : String} {X : LocalDeclarations.Crates} {ow : PublicKey}
  {store : Store} {node : Node}
variable {e : Event}

lemma mem_allHeads {es : List StoredEvent} {ow : PublicKey} :
    e ∈ allHeads es ow ↔ e ∈ es.map StoredEvent.event ∧ e.kind = LocalRelay.kindSyncDeclaration ∧
      e.pubkey = ow := by
  simp only [allHeads,mem_map,mem_filter,mem_orderedEvents,Bool.and_eq_true,decide_eq_true_eq]
  constructor
  · rintro ⟨s,⟨hs,hk,ha⟩,rfl⟩
    exact ⟨⟨s,hs,rfl⟩,hk,ha⟩
  · rintro ⟨⟨s,hs,rfl⟩,hk,ha⟩
    exact ⟨s,⟨hs,hk,ha⟩,rfl⟩

lemma mem_declarationHeads (h : SameRecord store node) (he : e ∈ allHeads store.events ow) :
    wire e ∈ declarationHeadEvents node := by
  obtain ⟨hm,hk,_⟩ := mem_allHeads.1 he
  obtain ⟨s,hs,rfl⟩ := mem_map.1 hm
  exact mem_filter.2 ⟨(h.effective_iff _).2 ⟨s,hs,rfl⟩,decide_eq_true hk⟩

variable {dTag : String}

lemma head_of_governing (h : SameRecord store node) {j : JsEvent}
    (hj : j ∈ declarationHeadEvents node) (hgo : governingTag ow.toHex lbl j = some dTag) :
    ∃ e ∈ allHeads store.events ow, wire e = j := by
  obtain ⟨hm,_⟩ := mem_filter.1 hj
  obtain ⟨s,hs,rfl⟩ := (h.effective_iff j).1 hm
  unfold governingTag at hgo
  split at hgo
  next hg =>
    refine ⟨s.event,mem_allHeads.2 ⟨mem_map_of_mem hs,hg.1,?_⟩,rfl⟩
    exact HexText.FixedBytes.toHex_injective hg.2.1
  · simp at hgo

lemma governingTag_wire {journal : List Event}
    (hp : PlainDeclarations J lbl X ow journal (allHeads store.events ow))
    (he : e ∈ allHeads store.events ow) (dTag : String) : governingTag ow.toHex lbl (wire e) = some dTag ↔
      nTag e = some lbl ∧ LocalDeclarations.dTag e = some dTag := by
  obtain ⟨_,hki,hau⟩ := mem_allHeads.1 he
  have hk : (wire e).kind = CloudflareNode.kindSyncDeclaration := hki
  have ha : (wire e).pubkey = ow.toHex := by rw [← hau]; rfl
  unfold governingTag
  rw [hp.dTag_eq e he,hp.nTag_eq e he]
  simp only [hk,ha,true_and]
  split
  next hn => simp [hn]
  next hn => simp [hn]

lemma pTagValues_wire (e : Event) : pTagValues (wire e) = pTags e := by
  have hl : ∀ tags : List Tag, (tags.map Tag.asSlice).filterMap
      (fun tag => if tag.head? = some "p" then tag[1]? else none) =
        (tags.filter fun t => t.name = "p").filterMap Tag.content := by
    intro tags
    induction tags with
    | nil => rfl
    | cons t tags ih =>
      by_cases ht : t.name = "p"
      · simp [Tag.asSlice,ht,Tag.content,head?_eq_getElem?,← ih,filterMap_cons]
      · simp [Tag.asSlice,ht,← ih]
  exact hl e.tags

lemma isActive_iff (fds : List (String × Json)) : isActive fds = true ↔ Active (.object fds) := by
  unfold isActive Active index
  simp only [Json.asObject,Option.bind_some]
  cases field fds "status" with
  | none => simp
  | some status => cases status <;> simp

variable {event : JsEvent}

lemma declarationContent_ok {fds : List (String × Json)} :
    declarationContent J.parseJson event dTag = .ok fds ↔ J.parseJson event.content = some (.object fds) := by
  unfold declarationContent
  cases J.parseJson event.content with
  | none => simp
  | some cont => cases cont <;> simp [Json.asObject]

lemma peerEntry_grants {key : String} (h : (peerEntry J.parseJson event dTag).toBool = true) :
    (∃ tr, peerEntry J.parseJson event dTag = .ok (some tr) ∧ key ∈ tr.verificationKeys) ↔
      ∃ cont, J.parseJson event.content = some cont ∧ Active cont ∧ key ∈ pTagValues event := by
  cases he : peerEntry J.parseJson event dTag with
  | error e => simp [he,Except.toBool] at h
  | ok en =>
    obtain ⟨fds,hc,hr⟩ := Checks.bind_eq_ok.1 he
    rw [declarationContent_ok] at hc
    by_cases ha : isActive fds = true
    · simp only [ha] at hr
      obtain ⟨prin,_,hr⟩ := Checks.bind_eq_ok.1 hr
      obtain ⟨_,_,hr⟩ := Checks.bind_eq_ok.1 hr
      cases hr
      simp [hc,(isActive_iff fds).1 ha]
    · simp only [ha] at hr
      cases hr
      simp [hc,mt (isActive_iff fds).2 ha]

lemma selectionOf_selects {cont : Json} {sel : StreamExport}
    (h : (selectionProperties (index cont "selection")).bind
      selectionOf = some sel)
    (hso : ∀ src, sel ≠ .fromSource src) (row : Row)
    (hr : row.event = wire e) : selects J sel row = true ↔ Selected J cont e := by
  obtain ⟨en,he,hs⟩ := Option.bind_eq_some_iff.1 h
  have ho : index cont "selection" = some (.object en) := by
    unfold selectionProperties at he
    split at he
    next fds hfi =>
      cases he
      exact hfi
    · cases he
      simp [selectionOf,field] at hs
    · simp at he
  have hf : ∀ name, selectionField cont name = field en name := by
    intro name
    rw [selectionField,ho]
    rfl
  unfold Selected
  rw [hf,hf]
  unfold selectionOf at hs
  split at hs
  next hm =>
    cases hs
    simp [selects,hm]
  next hm =>
    split at hs
    next fs hfilter =>
      cases hs
      have hn : field en "mirror" ≠ some (.bool true) := hm
      simp [selects,hfilter,hn,hr]
    · -- what is left is a selection by source
      split at hs
      next src _ =>
        split at hs
        · cases hs
          exact absurd rfl (hso src)
        · simp at hs
      · simp at hs

lemma exportEntry_selects (h : (exportEntry J.parseJson event dTag).toBool = true)
    (hso : ∀ cont src, J.parseJson event.content = some cont →
      ((selectionProperties (index cont "selection")).bind
        selectionOf) ≠ some (.fromSource src)) (row : Row)
    (hro : row.event = wire e) : (∃ sel, exportEntry J.parseJson event dTag = .ok (some sel) ∧
        selects J sel row = true) ↔
      ∃ cont, J.parseJson event.content = some cont ∧ Active cont ∧ Selected J cont e := by
  cases he : exportEntry J.parseJson event dTag with
  | error e => simp [he,Except.toBool] at h
  | ok en =>
    obtain ⟨fds,hc,hr⟩ := Checks.bind_eq_ok.1 he
    rw [declarationContent_ok] at hc
    by_cases ha : isActive fds = true
    · simp only [ha] at hr
      obtain ⟨props,hp,hr⟩ := Checks.bind_eq_ok.1 hr
      obtain ⟨sel,hs,hr⟩ := Checks.bind_eq_ok.1 hr
      rw [Checks.okOr_eq_ok] at hp hs
      cases hr
      have hb : (selectionProperties (index (.object fds) "selection")).bind
          selectionOf = some sel := by
        rw [Option.bind_eq_some_iff]
        exact ⟨props,hp,hs⟩
      have hplain : ∀ src, sel ≠ .fromSource src := by
        intro src heq
        exact hso _ src hc (heq ▸ hb)
      simp [hc,(isActive_iff fds).1 ha,selectionOf_selects hb hplain row hro]
    · simp only [ha] at hr
      cases hr
      simp [hc,mt (isActive_iff fds).2 ha]

lemma wellFormed_read {ow str : String} (h : malformedHead J.parseJson ow lbl event = false)
    (hg : governingTag ow lbl event = some (Domain.read str).dTag) :
    (peerEntry J.parseJson event (Domain.read str).dTag).toBool = true := by
  simpa [malformedHead,hg,domainOf_eq_some.2 rfl] using h

lemma wellFormed_export {ow str : String} (h : malformedHead J.parseJson ow lbl event = false)
    (hg : governingTag ow lbl event = some (Domain.exported str).dTag) :
    (exportEntry J.parseJson event (Domain.exported str).dTag).toBool = true := by
  simpa [malformedHead,hg,domainOf_eq_some.2 rfl] using h

lemma parsed_of_wellFormed {ow : String} {dom : Domain} (h : malformedHead J.parseJson ow lbl event = false)
    (hg : governingTag ow lbl event = some dom.dTag) :
    ∃ cont, J.parseJson event.content = some cont := by
  cases hp : J.parseJson event.content with
  | some cont => exact ⟨cont,rfl⟩
  | none =>
    have hb : ∀ d, declarationContent J.parseJson event d = .error ⟨d,event.id,"content is not JSON"⟩ := by
      simp [declarationContent,hp]
    simp only [malformedHead,hg,domainOf_eq_some.2 rfl] at h
    cases dom <;> simp [peerEntry,exportEntry,hb,bind,Except.bind, Except.toBool] at h

end

variable {sha : String}

section

lemma toLower_of_isLowerHexChar {c : Char} (h : HexText.isLowerHexChar c = true) : c.toLower = c := by
  simp only [HexText.isLowerHexChar,Char.le_def, UInt32.le_iff_toNat_le] at h
  unfold Char.toLower
  split
  next hu =>
    simp only [UInt32.le_iff_toNat_le] at hu
    simp at h hu
    omega
  · rfl

lemma toLower_of_isShaText (h : isShaText sha = true) : sha.toLower = sha := by
  simp only [isShaText,Bool.and_eq_true,all_eq_true] at h
  have hs : sha.toList.map Char.toLower = sha.toList.map id :=
    map_congr_left fun c hc => toLower_of_isLowerHexChar (h.2 c hc)
  unfold String.toLower
  rw [← String.toList_inj,String.toList_map,hs,map_id]

lemma namesHash_wire {journal : List Event} {sha : String} (hsh : isShaText sha = true)
    (hca : LowerCase journal sha) {e : Event} (he : e ∈ journal) :
    NamesHash (wire e) sha ↔ References e sha := by
  constructor
  · rintro ⟨value,rest,ht,hv⟩
    obtain ⟨tag,hm,hs⟩ := mem_map.1 ht
    have hn : tag.name = "x" ∧ tag.rest = value :: rest := by simpa [Tag.asSlice] using hs
    have hx : tag ∈ e.tagsNamed "x" := mem_filter.2 ⟨hm,decide_eq_true hn.1⟩
    have hc : tag.content = some value := by simp [Tag.content,hn.2]
    exact ⟨tag,hx,by rw [hc,hca e he tag hx value hc hv]⟩
  · rintro ⟨tag,ht,hc⟩
    obtain ⟨hm,hn⟩ := mem_filter.1 ht
    obtain ⟨rest,hr⟩ := head?_eq_some_iff.1 hc
    refine ⟨sha,rest,mem_map.2 ⟨tag,hm,?_⟩,toLower_of_isShaText hsh⟩
    rw [Tag.asSlice,of_decide_eq_true hn,hr]

end

section

variable {J : JsCrates} {lbl : String} {X : LocalDeclarations.Crates} {ow : PublicKey}
  {store : Store} {node : Node} (hsame : SameRecord store node)
  (hplain : PlainDeclarations J lbl X ow store.journal (allHeads store.events ow))

variable {cont : Json}

lemma parseJson_ok {journal : List Event} {hd : Event} (hp : PlainHead J lbl X ow journal hd)
    (hc : J.parseJson hd.content = some cont) :
    X.parseJson hd.content = .ok cont :=
  Checks.toOption_eq_some.1 (hp.parsed.trans hc)

lemma active_iff {journal : List Event} {hd : Event} (hp : PlainHead J lbl X ow journal hd)
    (hc : J.parseJson hd.content = some cont) :
    active X hd = true ↔ Active cont := by
  unfold active Active
  rw [parseJson_ok hp hc]
  cases hs : index cont "status" with
  | none => simp [hs]
  | some status =>
    rcases hp.status cont status hc hs with rfl | ⟨text,rfl⟩
    · simp [hs,Json.asStr]
    · simp [hs,Json.asStr]

variable {referencing : List Event}

lemma someStreamSelects_iff {hds : List Event} {P : String → Prop} {streams : List String}
    (h : ∀ str ∈ streams, ∃ sel, streamSelects X lbl hds referencing
      str = .ok sel ∧ (sel = true ↔ P str)) :
    ∃ allowed, someStreamSelects X lbl hds referencing streams = .ok allowed ∧
      (allowed = true ↔ ∃ str ∈ streams, P str) := by
  induction streams with
  | nil => exact ⟨false,rfl,by simp⟩
  | cons str streams ih =>
    obtain ⟨sel,hs,hi⟩ := h str (mem_cons_self ..)
    obtain ⟨rest,hre,hr⟩ := ih fun o ho => h o (mem_cons_of_mem _ ho)
    unfold someStreamSelects
    rw [hs]
    cases sel with
    | true => exact ⟨true,rfl,iff_of_true rfl ⟨str,mem_cons_self ..,hi.1 rfl⟩⟩
    | false =>
      refine ⟨rest,hre,?_⟩
      have hn : ¬ P str := fun hP => Bool.false_ne_true (hi.2 hP)
      simp [hr,hn]

include hplain

lemma content_of_domain {head : Event} (hh : head ∈ allHeads store.events ow) {dom : Domain}
    (hn : nTag head = some lbl) (hd : LocalDeclarations.dTag head = some dom.dTag) :
    ∃ cont, J.parseJson head.content = some cont :=
  parsed_of_wellFormed (hplain.plain head hh hn).wellFormed ((governingTag_wire hplain hh _).2 ⟨hn,hd⟩)

lemma mem_grantedStreams (rdr : PublicKey) (str : String) :
    str ∈ grantedStreams X lbl rdr (allHeads store.events ow) ↔ ∃ head ∈ allHeads store.events ow, ∃ cont,
        ActiveHead J lbl (Domain.read str).dTag head cont ∧ rdr.toHex ∈ pTags head := by
  simp only [grantedStreams,mem_filterMap,mem_filter,Bool.and_eq_true,
    decide_eq_true_eq,contains_iff_mem,Option.bind_eq_some_iff,LineText.stripStart_eq_some]
  constructor
  · rintro ⟨head,⟨⟨hh,hn,ha⟩,hkey⟩,d,hd,rfl⟩
    obtain ⟨cont,hc⟩ := @content_of_domain _ _ _ _ _ hplain _ hh (.read str) hn hd
    have hp := hplain.plain head hh hn
    exact ⟨head,hh,cont,⟨hn,hd,hc,(active_iff hp hc).1 ha⟩,hkey⟩
  · rintro ⟨head,hh,cont,ha,hkey⟩
    have hp := hplain.plain head hh ha.label_eq
    exact ⟨head,⟨⟨hh,ha.label_eq,(active_iff hp ha.parsed).2 ha.active⟩,hkey⟩,_, ha.dTag_eq,rfl⟩

include hsame

lemma granted_iff (key str : String) : (∃ head ∈ declarationHeadEvents node, ∃ tr,
      declaredReader J.parseJson ow.toHex lbl head = some (str,tr) ∧ key ∈ tr.verificationKeys) ↔
      ∃ head ∈ allHeads store.events ow, ∃ cont,
        ActiveHead J lbl (Domain.read str).dTag head cont ∧ key ∈ pTags head := by
  simp only [declaredReader, declaredIn_eq_some readStream_eq_some]
  constructor
  · rintro ⟨j,hj,tr,⟨hg,hen⟩,hkey⟩
    obtain ⟨e,he,rfl⟩ := head_of_governing hsame hj hg
    obtain ⟨hn,hd⟩ := (governingTag_wire hplain he _).1 hg
    have hs := wellFormed_read (hplain.plain e he hn).wellFormed hg
    obtain ⟨cont,hpa,ha,hp⟩ := (peerEntry_grants hs).1 ⟨tr,hen,hkey⟩
    rw [pTagValues_wire] at hp
    exact ⟨e,he,cont,⟨hn,hd,hpa,ha⟩,hp⟩
  · rintro ⟨e,he,cont,hh,hkey⟩
    have hg := (governingTag_wire hplain he _).2 ⟨hh.label_eq,hh.dTag_eq⟩
    have hs := wellFormed_read (hplain.plain e he hh.label_eq).wellFormed hg
    rw [← pTagValues_wire] at hkey
    obtain ⟨tr,hen,hm⟩ := (peerEntry_grants hs).2 ⟨cont,hh.parsed,hh.active,hkey⟩
    exact ⟨wire e,mem_declarationHeads hsame he,tr,⟨hg,hen⟩,hm⟩

lemma exported_iff (hsh : isShaText sha = true) (hc : LowerCase store.journal sha)
    (str : String) : (∃ head ∈ declarationHeadEvents node, ∃ sel,
      declaredStream J.parseJson ow.toHex lbl head = some (str,sel) ∧
        ∃ row ∈ referencingRows node sha, selects J sel row = true) ↔
          ∃ head ∈ allHeads store.events ow, ∃ cont,
        ActiveHead J lbl (Domain.exported str).dTag head cont ∧
          ∃ e ∈ store.journal, References e sha ∧ Selected J cont e := by
  -- the rows of the index are the journal events that name the hash
  have hev : ∀ row ∈ node.eventJournal, ∃ e ∈ store.journal, wire e = row.event := by
    intro row hr
    have hm : row.event ∈ journal node := mem_map_of_mem hr
    rw [hsame.journal_eq] at hm
    exact mem_map.1 hm
  have hr : ∀ e ∈ store.journal, ∃ row ∈ node.eventJournal, row.event = wire e := by
    intro e he
    have hm : wire e ∈ journal node := by
      rw [hsame.journal_eq]
      exact mem_map_of_mem he
    exact mem_map.1 hm
  simp only [declaredStream, declaredIn_eq_some exportStream_eq_some, mem_referencingRows hsame.tables hsh]
  constructor
  · rintro ⟨j,hj,sel,⟨hg,hen⟩,row,⟨hm,hna⟩,hse⟩
    obtain ⟨head,hh,rfl⟩ := head_of_governing hsame hj hg
    obtain ⟨hn,hd⟩ := (governingTag_wire hplain hh _).1 hg
    have hp := hplain.plain head hh hn
    obtain ⟨e,he,hw⟩ := hev row hm
    obtain ⟨cont,hpa,ha,hs⟩ := (exportEntry_selects
      (wellFormed_export hp.wellFormed hg) hp.unsourced row hw.symm).1 ⟨sel,hen,hse⟩
    rw [← hw] at hna
    exact ⟨head,hh,cont,⟨hn,hd,hpa,ha⟩,e,he,(namesHash_wire hsh hc he).1 hna, hs⟩
  · rintro ⟨head,hh,cont,ha,e,he,hre,hs⟩
    have hg := (governingTag_wire hplain hh _).2 ⟨ha.label_eq,ha.dTag_eq⟩
    have hp := hplain.plain head hh ha.label_eq
    obtain ⟨row,hm,hw⟩ := hr e he
    obtain ⟨sel,hen,hse⟩ := (exportEntry_selects (wellFormed_export hp.wellFormed hg) hp.unsourced row hw).2
        ⟨cont,ha.parsed,ha.active,hs⟩
    exact ⟨wire head,mem_declarationHeads hsame hh,sel,⟨hg,hen⟩,row,
      ⟨hm,hw ▸ (namesHash_wire hsh hc he).2 hre⟩,hse⟩

/-- The Cloudflare node answers by the rule. -/
lemma fetchable_iff (hs : isShaText sha = true) (hc : LowerCase store.journal sha) (rdr : PublicKey) :
    Fetchable J node ow.toHex lbl rdr.toHex sha ↔
      MayFetch J lbl (allHeads store.events ow) store.journal rdr sha := by
  unfold Fetchable MayFetch
  simp only [granted_iff hsame hplain,exported_iff hsame hplain hs hc]
  constructor
  · rintro ⟨stream,_,hr,he⟩
    exact ⟨stream,hr,he⟩
  · rintro ⟨stream,hr,he⟩
    refine ⟨stream,?_,hr,he⟩
    rintro rfl
    obtain ⟨hd,hh,_,ha,_⟩ := hr
    exact (hplain.plain hd hh ha.label_eq).stream ha.dTag_eq

lemma head_unique {a b : Event} (ha : a ∈ allHeads store.events ow)
    (hb : b ∈ allHeads store.events ow) {dTag : String} (hna : nTag a = some lbl)
    (hnb : nTag b = some lbl) (hda : LocalDeclarations.dTag a = some dTag)
    (hdb : LocalDeclarations.dTag b = some dTag) : a = b :=
  wire_injective (hsame.tables.head_unique (mem_declarationHeads hsame ha)
    (mem_declarationHeads hsame hb) ((governingTag_wire hplain ha dTag).2 ⟨hna,hda⟩)
    ((governingTag_wire hplain hb dTag).2 ⟨hnb,hdb⟩))

/-- The export head is the only one of its stream, so that its content alone selects. -/
lemma export_selects_iff {sha str : String} {exported : Event}
    (hm : ∀ e, e ∈ referencing ↔ e ∈ store.journal ∧ References e sha)
    (hhe : exported ∈ allHeads store.events ow)
    (ha : ActiveHead J lbl (Domain.exported str).dTag exported cont) :
    (∃ hd ∈ allHeads store.events ow, ∃ cont, ActiveHead J lbl (Domain.exported str).dTag hd cont ∧
        ∃ e ∈ store.journal, References e sha ∧ Selected J cont e) ↔
          ∃ e ∈ referencing, Selected J cont e := by
  constructor
  · rintro ⟨hd,hh,other,ho,e,he,hr,hs⟩
    rw [head_unique hsame hplain hh hhe ho.label_eq ha.label_eq ho.dTag_eq
      ha.dTag_eq] at ho
    rw [Option.some.inj (ho.parsed.symm.trans ha.parsed)] at hs
    exact ⟨e,(hm e).2 ⟨he,hr⟩,hs⟩
  · rintro ⟨e,he,hs⟩
    obtain ⟨hj,hr⟩ := (hm e).1 he
    exact ⟨exported,hhe,cont,ha,e,hj,hr,hs⟩

lemma streamSelects_iff (hne : referencing ≠ [])
    (hme : ∀ e, e ∈ referencing ↔ e ∈ store.journal ∧ References e sha) (str : String) :
    ∃ sel, streamSelects X lbl (allHeads store.events ow) referencing
        str = .ok sel ∧ (sel = true ↔ ∃ head ∈ allHeads store.events ow, ∃ cont,
        ActiveHead J lbl (Domain.exported str).dTag head cont ∧
          ∃ e ∈ store.journal, References e sha ∧ Selected J cont e) := by
  unfold streamSelects
  split
  next hfn =>
    refine ⟨false,rfl,?_⟩
    simp only [Bool.false_eq_true,false_iff]
    rintro ⟨head,hh,cont,ha,_⟩
    have hp := hplain.plain head hh ha.label_eq
    have hno := find?_eq_none.1 hfn head hh
    have hd : LocalDeclarations.dTag head = some ("export/" ++ str) := ha.dTag_eq
    simp [ha.label_eq,(active_iff hp ha.parsed).2 ha.active,hd] at hno
  next exported hfn =>
    have hh := mem_of_find?_eq_some hfn
    have hco := find?_some hfn
    simp only [Bool.and_eq_true,decide_eq_true_eq] at hco
    obtain ⟨⟨hn,ha⟩,hd⟩ := hco
    obtain ⟨cont,hc⟩ := @content_of_domain _ _ _ _ _ hplain _ hh (.exported str) hn hd
    have hp := hplain.plain exported hh hn
    rw [export_selects_iff hsame hplain hme hh ⟨hn,hd,hc,(active_iff hp hc).1 ha⟩, parseJson_ok hp hc]
    simp only
    split
    next hmi =>
      refine ⟨true,rfl,?_⟩
      obtain ⟨e,he⟩ := exists_mem_of_ne_nil _ hne
      exact iff_of_true rfl ⟨e,he,.inl hmi⟩
    next hmi =>
      have hno : selectionField cont "mirror" ≠ some (.bool true) := hmi
      split
      next fs hfi =>
        obtain ⟨parsed,hpa,hag⟩ := hp.filters cont fs hc hfi
        have hf : selectionField cont "filter" = some (.array fs) := hfi
        rw [hpa]
        refine ⟨_,rfl,?_⟩
        simp only [any_eq_true,Selected,hno,false_or,hf,Option.some.injEq,Json.array.injEq, exists_eq_left']
        constructor
        · rintro ⟨e,he,hmatch⟩
          exact ⟨e,he,by rw [← hag e ((hme e).1 he).1,hmatch]⟩
        · rintro ⟨e,he,hmatch⟩
          exact ⟨e,he,by rw [hag e ((hme e).1 he).1,hmatch]⟩
      next hfi =>
        refine ⟨false,rfl,?_⟩
        simp only [Bool.false_eq_true,false_iff]
        rintro ⟨e,_,hm | ⟨fs,hf,_⟩⟩
        · exact hno hm
        · exact hfi fs hf

/-- The laptop answers by the rule. -/
lemma artifactFetchAllowed_iff (rdr : PublicKey) (sha : String) :
    ∃ allowed, artifactFetchAllowed X lbl store ow rdr sha = .ok allowed ∧
      (allowed = true ↔ MayFetch J lbl (allHeads store.events ow) store.journal rdr sha) := by
  have hm : ∀ e, e ∈ journalEventsReferencing store.journal sha ↔ e ∈ store.journal ∧ References e sha := by
    simp [journalEventsReferencing,References]
  have hh : declarationHeads store.events ow = .ok (allHeads store.events ow) := by
    rw [declarationHeads_eq hsame.effective,take_of_length_le hplain.shown]
  unfold artifactFetchAllowed
  simp only [hh]
  split
  next hem =>
    refine ⟨false,rfl,?_⟩
    simp only [Bool.false_eq_true,false_iff]
    rintro ⟨_,_,_,_,_,_,e,he,hr,_⟩
    have hin := (hm e).2 ⟨he,hr⟩
    rw [isEmpty_iff.1 hem] at hin
    simp at hin
  next hne =>
    have hg := mem_grantedStreams hplain rdr
    split
    next hem =>
      refine ⟨false,rfl,?_⟩
      simp only [Bool.false_eq_true,false_iff]
      rintro ⟨str,hre,_⟩
      have hin := (hg str).2 hre
      rw [isEmpty_iff.1 hem] at hin
      simp at hin
    · obtain ⟨allowed,ha,hi⟩ := someStreamSelects_iff fun str _ =>
        streamSelects_iff hsame hplain (fun hn => hne (by rw [hn]; rfl)) hm str
      refine ⟨allowed,ha,hi.trans ?_⟩
      simp only [hg,MayFetch]

end

/-- Both nodes give one answer, that of the rule, to every reader but the owner: where they
hold one record, the deployment has no bootstrap readers or streams, the declarations for
the node are plain, and the journal spells the hash in lower case. -/
theorem artifact_rules_agree (J : JsCrates) (X : LocalDeclarations.Crates) (E : Env) (nodeLabel : String)
    (owner reader : PublicKey) (sha : String) {store : Store} {node : Node}
    (hsame : SameRecord store node) (hE : Anchored E owner.toHex nodeLabel)
    (hreader : reader ≠ owner) (hsha : isShaText sha = true) (hcase : LowerCase store.journal sha)
    (hplain : PlainDeclarations J nodeLabel X owner store.journal (allHeads store.events owner)) :
    ∃ allowed : Bool, artifactFetchAllowed X nodeLabel store owner reader sha = .ok allowed ∧
      authorizeArtifactFetch J E node sha (.ok reader.toHex) =
        .ok (if allowed then .ok reader.toHex else .error "scope_denied") ∧
      (allowed = true ↔ MayFetch J nodeLabel (allHeads store.events owner) store.journal reader sha) := by
  obtain ⟨laptop,hla,hl⟩ := artifactFetchAllowed_iff hsame hplain reader sha
  have hs : ∀ head ∈ declarationHeadEvents node, malformedHead J.parseJson owner.toHex nodeLabel head =
      false := by
    intro head hh
    cases hg : governingTag owner.toHex nodeLabel head with
    | none => simp [malformedHead,hg]
    | some dTag =>
      obtain ⟨e,he,rfl⟩ := head_of_governing hsame hh hg
      exact (hplain.plain e he ((governingTag_wire hplain he dTag).1 hg).1).wellFormed
  have ho : reader.toHex ≠ owner.toHex := fun h => hreader (HexText.FixedBytes.toHex_injective h)
  obtain ⟨cloud,hcl,hc⟩ := authorizeArtifactFetch_iff hsame.tables hE hs
    ho sha
  have heq : cloud = laptop := by
    rw [Bool.eq_iff_iff,hc,hl]
    exact fetchable_iff hsame hplain hsha hcase reader
  subst heq
  exact ⟨cloud,hla,hcl,hl⟩

/-! A phone that may read the notes of the laptop, and a photo among them. -/

def grantText : String := "\x7b\"principal\":\"phone\"\x7d"
def exportText : String := "\x7b\"selection\":\x7b\"filter\":[\x7b\"kinds\":[1]\x7d]\x7d\x7d"

def readNotes : Event where
  pubkey := firstKey
  createdAt := 1700000000
  kind := 30700
  tags := [⟨"d",["read/notes"]⟩, ⟨"n",["laptop"]⟩, ⟨"p",[secondKey.toHex]⟩]
  content := grantText
  id := .ofNat 32 0x1332ac8b7eedfdc9d770d7b5d180679b059dabdf1ba7a7c0d61bc0813b040527
  sig := .ofNat 64 0xfba0c179dc4c72719706a98db33f83ad4abb430506fb69f3a8503165b3b7b30780849f5fb719189b17f18241c87e148d4a45b844549c51541f30999fe63e89ab

def exportNotes : Event :=
  { readNotes with
    createdAt := 1700000001
    tags := [⟨"d",["export/notes"]⟩, ⟨"n",["laptop"]⟩]
    content := exportText
    id := .ofNat 32 0x661c3fa4e2152a74fc271c43e027da9ec4a4f8b95175364b968f6518624e2a08
    sig := .ofNat 64 0x04c54b03a74bb4433d779a514409d0f53dd383836135952f3fd389c7fc66aa491af10422462a3263f46be050807508f1f899084c40c6ff86941ad7f5dae6fa7c }

def photo : Event where
  pubkey := firstKey
  createdAt := 1700000002
  kind := 1
  tags := [⟨"x",["55c64d0fcd6f9d5f7c828093857e3fdfda68478bb4e9bd24d481ef391c7804e8"]⟩]
  content := "photo"
  id := .ofNat 32 0xf5f5772615bb1ab0078489de0ed509d2c6bd4cf53fd275aed5d401d7268e2b44
  sig := .ofNat 64 0x3c04f4011f2999de7463477cd3f448fb366947a9d54a30a0ad4fc0f2cce8516210cb254cd31bee2ac0078f17ac3a59e37688ae22188da10a2b176314ab99c914

def photoHash : String := "55c64d0fcd6f9d5f7c828093857e3fdfda68478bb4e9bd24d481ef391c7804e8"

def phoneKey : PublicKey := secondKey

def grantJson : Json := .object [("principal",.string "phone")]
def filterJson : Json := .object [("kinds",.array [.number "1"])]
def exportJson : Json := .object [("selection",.object [("filter",.array [filterJson])])]

def noteJson (text : String) : Option Json :=
  if text = grantText then some grantJson
  else if text = exportText then some exportJson
  else none

/-- The laptop's crates on the two texts; their one filter asks for kind 1. -/
def noteCrates : LocalDeclarations.Crates where
  parseJson := fun text => Checks.okOr (noteJson text) "expected value at line 1 column 1"
  filtersFromValue := fun _ => .ok [{ Filter.new with kinds := some [1] }]
  publicKeyFromHex := HexText.FixedBytes.fromHex 32
  debugText := id

def noteJsCrates : JsCrates where
  parseJson := noteJson
  stringify := fun _ => ""
  safeInteger := String.toInt?
  verifySafely := fun _ => true
  validSecret := fun _ => true
  publicKey := fun _ => ""
  sign := fun _ template => ⟨"","",template.createdAt,template.kind,template.tags,template.content,""⟩
  matchFilters := fun _ event => event.kind = 1

def noteEnv : Env where
  nodeSecret := none
  ownerPubkey := some readNotes.pubkey.toHex
  nodeLabel := some "laptop"
  requireAuth := some "1"
  replicationPeers := none
  replicationReaders := none
  replicationStreams := none

lemma anchored_noteEnv : Anchored noteEnv readNotes.pubkey.toHex "laptop" :=
  ⟨rfl,by decide +kernel,rfl,by decide,rfl,rfl⟩

variable (journal : List Event)

lemma plain_readNotes : PlainHead noteJsCrates "laptop" noteCrates readNotes.pubkey journal readNotes := by
  have hp : noteJsCrates.parseJson readNotes.content = some grantJson := by
    simp [noteJsCrates,noteJson,readNotes]
  constructor
  case parsed => rfl
  case wellFormed => decide +kernel
  case stream => decide +kernel
  all_goals
    intro cont _ hc
    cases hp.symm.trans hc
    simp [grantJson,selectionField,index,Json.asObject,field,selectionProperties]

lemma plain_exportNotes :
    PlainHead noteJsCrates "laptop" noteCrates readNotes.pubkey journal exportNotes := by
  have hne : exportText ≠ grantText := by decide +kernel
  have hp : noteJsCrates.parseJson exportNotes.content = some exportJson := by
    simp [noteJsCrates,noteJson,exportNotes,hne]
  constructor
  case parsed => rfl
  case wellFormed => decide +kernel
  case stream => decide +kernel
  case status =>
    intro cont _ hc
    cases hp.symm.trans hc
    simp [exportJson,index,Json.asObject,field]
  case filters =>
    intro cont fls hc _
    refine ⟨_,rfl,?_⟩
    simp [Filter.filtersMatch,Filter.filterMatchOne,Filter.new,noteJsCrates,wire]
  case unsourced =>
    intro cont _ hc
    cases hp.symm.trans hc
    simp [exportJson,index,Json.asObject,field,selectionProperties, selectionOf]

lemma plain_notes : PlainDeclarations noteJsCrates "laptop" noteCrates readNotes.pubkey journal
      [exportNotes,readNotes] := by
  refine ⟨by decide,by decide +kernel,by decide +kernel,?_⟩
  intro hd hh _
  simp only [mem_cons,not_mem_nil,or_false] at hh
  rcases hh with rfl | rfl
  · exact plain_exportNotes journal
  · exact plain_readNotes journal

lemma sameRecord_notes {e : Event} (hi : IdsMatch [readNotes,exportNotes,e])
    (hk : Ingest.isEphemeralKind e.kind = false) (hvs : ¬ HiddenIdentifier e) :
    SameRecord (acceptAll (signedOnly [readNotes,exportNotes,e] fun _ => none) none [readNotes,exportNotes,e])
      (nodeAfter (quietEnv [readNotes,exportNotes,e]) none none [readNotes,exportNotes,e]) := by
  have hd : ∀ a ∈ [readNotes,exportNotes,e], Ingest.isEphemeralKind a.kind = false := by
    simp only [forall_mem_cons]
    exact ⟨by decide,by decide,hk,by simp⟩
  have hvi : ∀ a ∈ [readNotes,exportNotes,e], ¬ HiddenIdentifier a := by
    simp only [forall_mem_cons]
    exact ⟨by decide +kernel,by decide +kernel,hvs,by simp⟩
  have hv : ∀ a ∈ [readNotes,exportNotes,e], (quietEnv [readNotes,exportNotes,e]).verifySafely (wire a) =
      true := by
    intro a ha
    exact any_eq_true.2 ⟨a,ha,decide_eq_true rfl⟩
  exact sameRecord_after ⟨noCollision_signedOnly hi,
    fun a ha => ⟨verified_signedOnly hi ha,hd a ha⟩,hvi,hv,fun _ _ => rfl⟩ none none none

theorem artifact_rules_agree_photo :
    artifactFetchAllowed noteCrates "laptop" (acceptAll (signedOnly [readNotes,exportNotes,photo]
      fun _ => none) none [readNotes,exportNotes,photo]) readNotes.pubkey phoneKey photoHash = .ok true ∧
    authorizeArtifactFetch noteJsCrates noteEnv (nodeAfter (quietEnv [readNotes,exportNotes,photo]) none none
      [readNotes,exportNotes,photo]) photoHash (.ok phoneKey.toHex) = .ok (.ok phoneKey.toHex) := by
  have hsame := @sameRecord_notes photo (by decide +kernel) (by decide) (by decide +kernel)
  have hh : allHeads (acceptAll (signedOnly [readNotes,exportNotes,photo] fun _ => none) none
      [readNotes,exportNotes,photo]).events readNotes.pubkey = [exportNotes,readNotes] := by
    decide +kernel
  have ha : artifactFetchAllowed noteCrates "laptop" (acceptAll (signedOnly
      [readNotes,exportNotes,photo] fun _ => none) none [readNotes,exportNotes,photo]) readNotes.pubkey
        phoneKey photoHash = .ok true := by decide +kernel
  obtain ⟨allowed,hl,hc,-⟩ := artifact_rules_agree noteJsCrates noteCrates noteEnv "laptop"
    readNotes.pubkey phoneKey photoHash hsame anchored_noteEnv (by decide +kernel) (by decide +kernel)
    (by decide +kernel) (hh ▸ plain_notes _)
  cases ha.symm.trans hl
  exact ⟨ha,hc⟩

def photoUpper : Event :=
  { photo with
    tags := [⟨"x",["55C64D0FCD6F9D5F7C828093857E3FDFDA68478BB4E9BD24D481EF391C7804E8"]⟩]
    id := .ofNat 32 0x3195e0f64fea3a8920fdfb1a06548402d6e9c18cc459117b9a21110876d49756
    sig := .ofNat 64 0xe1fd119f90373b31e76345d7e1065c07ee7519926c2ea6b1a5d6ca97e37e566873b35c4c17895877542167b6ffc49af301dc9da6dcd34cd159a59cae6e9c514f }

/-- Where the event spells the hash in upper case, the laptop refuses the photo and the
Cloudflare node serves it. -/
theorem upper_case_hash_splits_nodes :
    SameRecord (acceptAll (signedOnly [readNotes,exportNotes,photoUpper] fun _ => none) none
        [readNotes,exportNotes,photoUpper])
      (nodeAfter (quietEnv [readNotes,exportNotes,photoUpper]) none none
        [readNotes,exportNotes,photoUpper]) ∧ isShaText photoHash = true ∧
    artifactFetchAllowed noteCrates "laptop" (acceptAll (signedOnly [readNotes,exportNotes,photoUpper]
      fun _ => none) none [readNotes,exportNotes,photoUpper]) readNotes.pubkey phoneKey photoHash =
        .ok false ∧
    authorizeArtifactFetch noteJsCrates noteEnv (nodeAfter (quietEnv [readNotes,exportNotes,photoUpper])
      none none [readNotes,exportNotes,photoUpper]) photoHash (.ok phoneKey.toHex) =
        .ok (.ok phoneKey.toHex) := by
  refine ⟨sameRecord_notes (by decide +kernel) (by decide) (by decide +kernel),by decide +kernel,
    by decide +kernel,by decide +kernel⟩

end BuzzSolo.ArtifactAgreement
