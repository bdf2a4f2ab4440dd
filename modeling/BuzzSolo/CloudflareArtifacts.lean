import BuzzSolo.CloudflarePulse

/-! Artifact access on the Cloudflare node: the index of `x` tags that every append fills,
and the rule that serves a blob to the readers of a stream that selects an event naming it. -/
namespace BuzzSolo.CloudflareNode

open Checks LineText JsonText List
open Handoff (Json field)

section

variable (J : JsCrates) (E : Env)

/-- One entry of the configured streams; what is not well formed exports nothing. -/
def streamEntry (streams : Properties StreamExport) (candidate : String × Json) : Properties StreamExport :=
  match (selectionProperties (some candidate.2)).bind selectionOf with
  | none => streams
  | some selection => assign candidate.1 selection streams

def parseStreamExports (raw : Option String) : Properties StreamExport :=
  match (raw.bind J.parseJson).bind Json.asObject with
  | none => []
  | some entries => entries.foldl streamEntry []

def resolvedStreams (node : Node) : Except MalformedDeclarationError (Properties StreamExport) :=
  (ownerDeclarations J E node).map fun config =>
    config.streams.getD (parseStreamExports J E.replicationStreams)

/-- `properties[key]`. What an object inherits has neither a mode nor a source and selects
nothing, as if it were absent. -/
def getProperty {α : Type} (properties : Properties α) (key : String) : Option α :=
  (properties.find? fun p => p.1 = key).map Prod.snd

def referencingRows (node : Node) (sha : String) : List Row :=
  (node.artifactRefs.filter fun ref => ref.1 = sha).flatMap fun ref =>
    node.eventJournal.filter fun row => row.eventId = ref.2

def selects (selection : StreamExport) (row : Row) : Bool :=
  match selection with
  | .mirror => true
  | .filter filters => J.matchFilters filters row.event
  | .fromSource source => row.ingestSource = some source

/-- The rule, for evidence that names a principal or was denied. -/
def authorizeArtifactFetch (node : Node) (sha : String) (verified : Except String String) :
    Except MalformedDeclarationError (Except String String) :=
  match verified with
  | .error denied => .ok (.error denied)
  | .ok principal =>
    if E.ownerPubkey.getD "" ≠ "" ∧ principal = E.ownerPubkey.getD "" then .ok (.ok principal)
    else do
      let readers ← resolvedReaders J E node
      let streams ← resolvedStreams J E node
      let readable := readers.filter fun entry => entry.2.verificationKeys.contains principal
      if readable.isEmpty then .ok (.error "scope_denied")
      else if readable.any fun entry =>
          (getProperty streams entry.1).any fun selection =>
            (referencingRows node sha).any (selects J selection) then .ok (.ok principal)
      else .ok (.error "scope_denied")

end

def NamesHash (event : JsEvent) (sha : String) : Prop :=
  ∃ value rest, ("x" :: value :: rest) ∈ event.tags ∧ value.toLower = sha

section

def tagRef (tag : List String) : Option String :=
  match tag with
  | "x" :: value :: _ => if isShaText value.toLower then some value.toLower else none
  | _ => none

variable {sha : String}

lemma tagRef_eq_some {tag : List String} : tagRef tag = some sha ↔
      isShaText sha = true ∧ ∃ v rest, tag = "x" :: v :: rest ∧ v.toLower = sha := by
  unfold tagRef
  split
  next v rest =>
    simp only [Option.ite_none_right_eq_some,Option.some.injEq,cons.injEq,true_and]
    constructor
    · rintro ⟨hs,rfl⟩
      exact ⟨hs,v,rest,⟨rfl,rfl⟩,rfl⟩
    · rintro ⟨hs,_,_,⟨rfl,rfl⟩,rfl⟩
      exact ⟨hs,rfl⟩
  next hn =>
    simp only [reduceCtorEq,false_iff]
    rintro ⟨_,v,rest,rfl,_⟩
    exact hn v rest rfl

lemma mem_indexTag (eid : String) (tag : List String) (refs : List (String × String))
    (ref : String × String) :
    ref ∈ indexArtifactRefs eid [tag] refs ↔ ref ∈ refs ∨
    (tagRef tag).map (fun sha => (sha,eid)) = some ref := by
  simp only [indexArtifactRefs,foldl_cons,foldl_nil,tagRef]
  split
  next v rest =>
    by_cases hs : isShaText v.toLower = true
    · by_cases hin : (v.toLower,eid) ∈ refs
      · have han : (refs.any fun r => r = (v.toLower,eid)) = true :=
          any_eq_true.2 ⟨_,hin,by simp⟩
        simp only [hs,han,if_true,Option.map_some,Option.some.injEq]
        constructor
        · exact .inl
        · rintro (h | rfl)
          · exact h
          · exact hin
      · have han : (refs.any fun r => r = (v.toLower,eid)) = false :=
          any_eq_false.2 fun r hr heq => hin (of_decide_eq_true heq ▸ hr)
        simp [hs,han,eq_comm]
    · simp [hs]
  · simp

lemma mem_indexArtifactRefs (eid : String) (tags : List (List String))
    (refs : List (String × String)) (ref : String × String) : ref ∈ indexArtifactRefs eid tags refs ↔
      ref ∈ refs ∨ (ref.2 = eid ∧ ∃ tag ∈ tags, tagRef tag = some ref.1) := by
  induction tags generalizing refs with
  | nil => simp [indexArtifactRefs]
  | cons tag tags ih =>
    have hc : indexArtifactRefs eid (tag :: tags) refs =
        indexArtifactRefs eid tags (indexArtifactRefs eid [tag] refs) := rfl
    have ho : (tagRef tag).map (fun sha => (sha,eid)) = some ref ↔ ref.2 = eid ∧ tagRef tag = some ref.1 := by
      cases tagRef tag <;> simp [Prod.ext_iff,and_comm,eq_comm]
    rw [hc,ih,mem_indexTag,ho]
    simp only [mem_cons,exists_eq_or_imp,or_assoc,and_or_left]

structure Tables (node : Node) : Prop where
  row_id : ∀ row ∈ node.eventJournal, row.eventId = row.event.id
  row_key : ∀ row ∈ node.eventJournal, row.replacementKey = replacementKey row.event
  nodup : (node.eventJournal.map Row.eventId).Nodup
  one_effective : ∀ a ∈ node.eventJournal, ∀ b ∈ node.eventJournal, a.effective = true →
    b.effective = true → a.replacementKey = b.replacementKey → a.replacementKey ≠ none → a = b
  refs_iff : ∀ sha i, (sha,i) ∈ node.artifactRefs ↔
    isShaText sha = true ∧ ∃ row ∈ node.eventJournal, row.eventId = i ∧ NamesHash row.event sha

lemma tables_empty : Tables Node.empty :=
  ⟨by simp [Node.empty],by simp [Node.empty],by simp [Node.empty],by simp [Node.empty], by simp [Node.empty]⟩

variable {node sto : Node} {event : JsEvent} {src : Option String}

lemma Tables.storeEvent (ht : Tables node)
    (h : storeEvent node event (replacementKey event) src = .ok sto) : Tables sto := by
  obtain ⟨seq,hro,hre,hf⟩ := storeEvent_ok h
  have hm : ∀ row, row ∈ sto.eventJournal ↔
      (∃ old ∈ node.eventJournal, retireRow (replacementKey event) old = row) ∨
        row = ⟨seq,event.id,event,replacementKey event,true,src⟩ := by
    intro row
    rw [hro,mem_append,mem_singleton,retire,mem_map]
  have his : (node.eventJournal.map (retireRow (replacementKey event))).map Row.eventId =
      node.eventJournal.map Row.eventId := by simp
  constructor
  case row_id =>
    intro row hr
    rcases (hm row).1 hr with ⟨old,hold,rfl⟩ | rfl
    · simpa using ht.row_id old hold
    · rfl
  case row_key =>
    intro row hr
    rcases (hm row).1 hr with ⟨old,hold,rfl⟩ | rfl
    · simpa using ht.row_key old hold
    · rfl
  case nodup =>
    rw [hro,retire,map_append,his,nodup_append]
    refine ⟨ht.nodup,by simp,?_⟩
    intro i hi j hj
    obtain ⟨row,hr,rfl⟩ := mem_map.1 hi
    simp only [map_cons,map_nil,mem_singleton] at hj
    rw [hj]
    exact hf row hr
  case one_effective =>
    intro a ha b hb hae hbe hkey hso
    rcases (hm a).1 ha with ⟨x,hx,rfl⟩ | rfl
    · rcases (hm b).1 hb with ⟨y,hy,rfl⟩ | rfl
      · rw [ht.one_effective x hx y hy ((retireRow_effective _ x).1 hae).1
          ((retireRow_effective _ y).1 hbe).1 (by simpa using hkey) (by simpa using hso)]
      · -- the retired rows of the key are not eff
        rcases ((retireRow_effective _ x).1 hae).2 with hno | ho
        · exact absurd (hkey.trans hno) hso
        · exact absurd (by simpa using hkey) ho
    · rcases (hm b).1 hb with ⟨y,hy,rfl⟩ | rfl
      · rcases ((retireRow_effective _ y).1 hbe).2 with hno | ho
        · exact absurd hno hso
        · exact absurd (by simpa using hkey.symm) ho
      · rfl
  case refs_iff =>
    intro sha i
    rw [hre,mem_indexArtifactRefs,ht.refs_iff]
    simp only [tagRef_eq_some,hm]
    constructor
    · rintro (⟨hs,row,hr,hid,hn⟩ | ⟨rfl,tag,hta,hs,v,rest,rfl,hv⟩)
      · exact ⟨hs,_,.inl ⟨row,hr,rfl⟩,by simpa using hid,by simpa using hn⟩
      · exact ⟨hs,_,.inr rfl,rfl,v,rest,hta,hv⟩
    · rintro ⟨hs,row,⟨old,hold,rfl⟩ | rfl,hid,hn⟩
      · exact .inl ⟨hs,old,hold,by simpa using hid,by simpa using hn⟩
      · obtain ⟨v,rest,hta,hv⟩ := hn
        exact .inr ⟨hid.symm,_,hta,hs,v,rest,rfl,hv⟩

lemma Tables.applyEvent (ht : Tables node) (N : NodeEnv) (ev : JsEvent)
    (src prin : Option String) : Tables (applyEvent N node ev src prin).1 := by
  unfold CloudflareNode.applyEvent
  split_ifs
  · exact ht
  · exact ht
  · exact ht
  · exact ht
  · exact ht
  · cases insertAccepted ev.id .superseded node.acceptedEventIds with
    | error e => exact ht
    | ok acc => exact ⟨ht.row_id,ht.row_key,ht.nodup,ht.one_effective,ht.refs_iff⟩
  · cases hs : CloudflareNode.storeEvent node ev (replacementKey ev) src with
    | error e => exact ht
    | ok sto =>
      have hst := ht.storeEvent hs
      simp only
      cases N.emitPulse sto <;> exact hst

lemma mem_referencingRows (ht : Tables node) (hs : isShaText sha = true) (row : Row) :
    row ∈ referencingRows node sha ↔ row ∈ node.eventJournal ∧ NamesHash row.event sha := by
  have hi := inj_on_of_nodup_map ht.nodup
  simp only [referencingRows,mem_flatMap,mem_filter,decide_eq_true_eq,Prod.exists]
  constructor
  · rintro ⟨_,i,⟨hre,rfl⟩,hr,rfl⟩
    obtain ⟨_,o,ho,hid,hn⟩ := (ht.refs_iff _ _).1 hre
    rw [hi ho hr hid] at hn
    exact ⟨hr,hn⟩
  · rintro ⟨hr,hn⟩
    exact ⟨sha,row.eventId,⟨(ht.refs_iff _ _).2 ⟨hs,row,hr,rfl,hn⟩,rfl⟩,hr,rfl⟩

end

section

variable {α : Type}
variable {key : String}

lemma mem_assign (hkey : key ≠ "__proto__") (v : α) (props : Properties α) (en : String × α) :
    en ∈ assign key v props ↔ en = (key,v) ∨ (en.1 ≠ key ∧ en ∈ props) := by
  unfold assign
  rw [if_neg hkey]
  split
  next han =>
    obtain ⟨old,hold,hk⟩ := any_eq_true.1 han
    simp only [decide_eq_true_eq] at hk
    rw [mem_map]
    constructor
    · rintro ⟨p,hp,rfl⟩
      split
      · exact .inl rfl
      next hne => exact .inr ⟨hne,hp⟩
    · rintro (rfl | ⟨hne,hp⟩)
      · exact ⟨old,hold,by simp [hk]⟩
      · exact ⟨en,hp,by simp [hne]⟩
  next hn =>
    simp only [any_eq_true,decide_eq_true_eq,not_exists,not_and] at hn
    rw [mem_append,mem_singleton]
    constructor
    · rintro (hp | rfl)
      · exact .inr ⟨hn en hp,hp⟩
      · exact .inl rfl
    · rintro (rfl | ⟨_,hp⟩)
      · exact .inr rfl
      · exact .inl hp

def assignAll (entries properties : Properties α) : Properties α :=
  entries.foldl (fun properties entry => assign entry.1 entry.2 properties) properties

/-- Where no key is given two values, an object holds what was assigned to it. -/
lemma mem_assignAll {ents : Properties α} (hon : ∀ a ∈ ents, ∀ b ∈ ents, a.1 = b.1 → a = b)
    (props : Properties α)
    (en : String × α) : en ∈ assignAll ents props ↔ (en.1 ≠ "__proto__" ∧ en ∈ ents) ∨
        (en ∈ props ∧ (en.1 = "__proto__" ∨ ∀ o ∈ ents, o.1 ≠ en.1)) := by
  induction ents generalizing props with
  | nil => simp [assignAll]
  | cons first ents ih =>
    have hr := ih (fun a ha b hb => hon a (mem_cons_of_mem _ ha) b (mem_cons_of_mem _ hb))
      (assign first.1 first.2 props)
    have hf : ∀ o ∈ ents, o.1 = first.1 → o = first := fun o ho =>
      hon o (mem_cons_of_mem _ ho) first (mem_cons_self ..)
    rw [assignAll,foldl_cons,← assignAll,hr,forall_mem_cons,mem_cons]
    by_cases hp : first.1 = "__proto__"
    · have hs : assign first.1 first.2 props = props := by simp [assign,hp]
      rw [hs]
      by_cases he : en.1 = "__proto__"
      · simp [he]
      · have hne : en ≠ first := by
          intro h
          rw [h] at he
          exact he hp
        have hkey : first.1 ≠ en.1 := fun h => he (h ▸ hp)
        simp [hne,hkey]
    · rw [mem_assign hp]
      by_cases heq : en = first
      · subst heq
        by_cases hin : en ∈ ents
        · simp [hp,hin]
        · have hno : ∀ o ∈ ents, o.1 ≠ en.1 := fun o ho hk =>
            hin (hf o ho hk ▸ ho)
          simp only [hp,not_false_eq_true,ne_eq,true_and,true_or,iff_true]
          exact .inr (.inr hno)
      · by_cases hkey : en.1 = first.1
        · have hn : en ∉ ents := fun hin => heq (hf en hin hkey)
          simp [heq,hkey,hp]
        · have hkey' : first.1 ≠ en.1 := fun h => hkey h.symm
          simp [heq,hkey,hkey']

lemma getProperty_eq_some {props : Properties α} (ho : ∀ a ∈ props, ∀ b ∈ props, a.1 = b.1 → a = b) {v : α} :
    getProperty props key = some v ↔ (key,v) ∈ props := by
  unfold getProperty
  constructor
  · intro h
    obtain ⟨en,hf,rfl⟩ := Option.map_eq_some_iff.1 h
    have hkey := find?_some hf
    simp only [decide_eq_true_eq] at hkey
    rw [← hkey]
    exact mem_of_find?_eq_some hf
  · intro hm
    cases hf : props.find? fun p => p.1 = key with
    | none =>
      have hn := find?_eq_none.1 hf _ hm
      simp at hn
    | some en =>
      have hkey := find?_some hf
      simp only [decide_eq_true_eq] at hkey
      rw [ho en (mem_of_find?_eq_some hf) _ hm hkey]
      rfl

end

def Domain.readStream : Domain → Option String
  | .read stream => some stream
  | _ => none

def Domain.exportStream : Domain → Option String
  | .exported stream => some stream
  | _ => none

section

variable {α : Type} (parseJson : String → Option Json) (owner nodeLabel : String)

/-- The entry of an active head in one domain, under the name the domain gives it. -/
def declaredIn (name : Domain → Option String)
    (entryOf : JsEvent → String → Except MalformedDeclarationError (Option α)) (event : JsEvent) :
    Option (String × α) :=
  (governingTag owner nodeLabel event).bind fun dTag => ((domainOf dTag).bind name).bind fun key =>
    (entryOf event dTag).toOption.join.map fun value => (key,value)

def declaredReader : JsEvent → Option (String × ReplicationPeerTrust) :=
  declaredIn owner nodeLabel Domain.readStream (peerEntry parseJson)

def declaredStream : JsEvent → Option (String × StreamExport) :=
  declaredIn owner nodeLabel Domain.exportStream (exportEntry parseJson)

variable {parseJson owner nodeLabel}
variable {e : JsEvent}

lemma declaredIn_eq_some {name : Domain → Option String} {domain : String → Domain}
    (hn : ∀ d key, name d = some key ↔ d = domain key)
    {entryOf : JsEvent → String → Except MalformedDeclarationError (Option α)}
    {key : String} {value : α} : declaredIn owner nodeLabel name entryOf e = some (key,value) ↔
      governingTag owner nodeLabel e = some (domain key).dTag ∧
        entryOf e (domain key).dTag = .ok (some value) := by
  have he : ∀ {out : Except MalformedDeclarationError (Option α)},
      out.toOption.join = some value ↔ out = .ok (some value) := by
    intro out
    cases out <;> simp [Except.toOption]
  simp only [declaredIn,Option.bind_eq_some_iff,Option.map_eq_some_iff,Prod.mk.injEq]
  constructor
  · rintro ⟨dTag,hg,found,⟨d,hd,hkey⟩,v,hv,rfl,rfl⟩
    rw [domainOf_eq_some,(hn d found).1 hkey] at hd
    subst hd
    exact ⟨hg,he.1 hv⟩
  · rintro ⟨hg,hv⟩
    exact ⟨_,hg,key,⟨domain key,domainOf_eq_some.2 rfl,(hn _ _).2 rfl⟩,value,he.2 hv,rfl,rfl⟩

lemma readStream_eq_some (d : Domain) (key : String) : d.readStream = some key ↔ d = .read key := by
  cases d <;> simp [Domain.readStream]

lemma exportStream_eq_some (d : Domain) (key : String) : d.exportStream = some key ↔ d = .exported key := by
  cases d <;> simp [Domain.exportStream]

lemma enter_getD (key : String) (en : Option α) (domain : Option (Properties α)) :
    (enter key en domain).getD [] = assignAll (en.map fun v => (key,v)).toList (domain.getD []) := by
  cases en <;> rfl

variable {cfg : DeclarationConfig}

lemma evaluateHead_domains {next : DeclarationConfig}
    (h : evaluateHead parseJson owner nodeLabel cfg e = .ok next) : next.readers.getD [] =
        assignAll (declaredReader parseJson owner nodeLabel e).toList (cfg.readers.getD []) ∧
      next.streams.getD [] =
        assignAll (declaredStream parseJson owner nodeLabel e).toList (cfg.streams.getD []) := by
  unfold evaluateHead at h
  unfold declaredReader declaredStream declaredIn
  cases hg : governingTag owner nodeLabel e with
  | none =>
    simp only [hg,Except.ok.injEq] at h
    subst h
    exact ⟨rfl,rfl⟩
  | some dTag =>
    simp only [hg] at h
    cases hd : domainOf dTag with
    | none =>
      simp only [hd,Except.ok.injEq] at h
      subst h
      simp [hd,assignAll]
    | some domain =>
      simp only [hd] at h
      simp only [Option.bind_some,hd]
      cases domain with
      | admitted source =>
        obtain ⟨en,_,hn⟩ := bind_eq_ok.1 h
        cases hn
        exact ⟨rfl,rfl⟩
      | read str =>
        obtain ⟨en,he,hn⟩ := bind_eq_ok.1 h
        cases hn
        rw [he]
        exact ⟨enter_getD ..,rfl⟩
      | exported str =>
        obtain ⟨en,he,hn⟩ := bind_eq_ok.1 h
        cases hn
        rw [he]
        exact ⟨rfl,enter_getD ..⟩

lemma assignAll_filterMap_cons (f : JsEvent → Option (String × α)) (e : JsEvent)
    (es : List JsEvent) (props : Properties α) : assignAll ((e :: es).filterMap f) props =
      assignAll (es.filterMap f) (assignAll (f e).toList props) := by
  cases hf : f e <;> simp [assignAll,hf]

lemma evaluateFrom_domains {res : DeclarationConfig} {es : List JsEvent}
    (h : evaluateFrom parseJson owner nodeLabel cfg es = .ok res) : res.readers.getD [] =
        assignAll (es.filterMap (declaredReader parseJson owner nodeLabel)) (cfg.readers.getD []) ∧
      res.streams.getD [] =
        assignAll (es.filterMap (declaredStream parseJson owner nodeLabel)) (cfg.streams.getD []) := by
  induction es generalizing cfg with
  | nil =>
    cases h
    exact ⟨rfl,rfl⟩
  | cons e es ih =>
    obtain ⟨next,hn,hre⟩ := bind_eq_ok.1 h
    obtain ⟨hr,hs⟩ := evaluateHead_domains hn
    rw [assignAll_filterMap_cons,assignAll_filterMap_cons,← hr,← hs]
    exact ih hre

end

section

variable {α : Type} {J : JsCrates} {E : Env} {node : Node} {owner lab : String}

lemma Tables.head_unique (ht : Tables node) {a b : JsEvent} {dTag : String}
    (ha : a ∈ declarationHeadEvents node) (hb : b ∈ declarationHeadEvents node)
    (hga : governingTag owner lab a = some dTag)
    (hgb : governingTag owner lab b = some dTag) : a = b := by
  have hkey : ∀ e : JsEvent, governingTag owner lab e = some dTag → replacementKey e =
        some (array [quote "parameterized",quote owner, kindSyncDeclaration.repr,quote dTag]) := by
    intro e he
    unfold governingTag at he
    split at he
    next hg =>
      obtain ⟨hk,hau,_⟩ := hg
      have hid : identifier e = dTag := by
        rw [identifier,← tagValue,he]
        rfl
      simp [replacementKey,hk,hau,hid,kindSyncDeclaration]
    · simp at he
  obtain ⟨ra,hra,rfl⟩ := mem_map.1 (mem_filter.1 ha).1
  obtain ⟨rb,hrb,rfl⟩ := mem_map.1 (mem_filter.1 hb).1
  obtain ⟨hra,hae⟩ := mem_filter.1 hra
  obtain ⟨hrb,hbe⟩ := mem_filter.1 hrb
  have hs : ra.replacementKey = rb.replacementKey := by
    rw [ht.row_key ra hra,ht.row_key rb hrb,hkey _ hga,hkey _ hgb]
  have hso : ra.replacementKey ≠ none := by
    rw [ht.row_key ra hra,hkey _ hga]
    simp
  rw [ht.one_effective ra hra rb hrb hae hbe hs hso]

lemma Tables.declared_unique (ht : Tables node) {name : Domain → Option String}
    {domain : String → Domain} (hn : ∀ d key, name d = some key ↔ d = domain key)
    (entryOf : JsEvent → String → Except MalformedDeclarationError (Option α)) :
    ∀ a ∈ (declarationHeadEvents node).filterMap (declaredIn owner lab name entryOf),
      ∀ b ∈ (declarationHeadEvents node).filterMap (declaredIn owner lab name entryOf), a.1 = b.1 →
        a = b := by
  rintro ⟨key,v⟩ ha ⟨_,w⟩ hb rfl
  obtain ⟨x,hx,hv⟩ := mem_filterMap.1 ha
  obtain ⟨y,hy,hw⟩ := mem_filterMap.1 hb
  have hxy : x = y := ht.head_unique hx hy ((declaredIn_eq_some hn).1 hv).1 ((declaredIn_eq_some hn).1 hw).1
  rw [hxy] at hv
  exact Option.some.inj (hv.symm.trans hw)

variable {name : Domain → Option String} {dom : String → Domain}

variable (ht : Tables node) (hn : ∀ d key, name d = some key ↔ d = dom key)
  (entryOf : JsEvent → String → Except MalformedDeclarationError (Option α))
include ht hn entryOf

lemma Tables.mem_declared (en : String × α) : en ∈ assignAll ((declarationHeadEvents node).filterMap
        (declaredIn owner lab name entryOf)) [] ↔ en.1 ≠ "__proto__" ∧ ∃ hd ∈ declarationHeadEvents node,
        declaredIn owner lab name entryOf hd = some en := by
  rw [mem_assignAll (ht.declared_unique hn entryOf),mem_filterMap]
  simp

lemma Tables.getProperty_declared (key : String) (v : α) :
    getProperty (assignAll ((declarationHeadEvents node).filterMap
        (declaredIn owner lab name entryOf)) []) key = some v ↔
      key ≠ "__proto__" ∧ ∃ hd ∈ declarationHeadEvents node,
        declaredIn owner lab name entryOf hd = some (key,v) := by
  have ho := @declared_unique α node owner lab ht name dom hn entryOf
  rw [getProperty_eq_some,ht.mem_declared hn]
  intro a ha b hb hkey
  obtain ⟨_,x,hx,hxa⟩ := (ht.mem_declared hn entryOf a).1 ha
  obtain ⟨_,y,hy,hyb⟩ := (ht.mem_declared hn entryOf b).1 hb
  exact ho a (mem_filterMap.2 ⟨x,hx,hxa⟩) b (mem_filterMap.2 ⟨y,hy,hyb⟩) hkey

omit ht hn entryOf

/-- The deployment is anchored to the owner and the label, and has no bootstrap readers or
streams. -/
structure Anchored (E : Env) (owner nodeLabel : String) : Prop where
  owner_eq : E.ownerPubkey = some owner
  owner_ne : owner ≠ ""
  label_eq : E.nodeLabel = some nodeLabel
  label_ne : nodeLabel ≠ ""
  readers_eq : E.replicationReaders = none
  streams_eq : E.replicationStreams = none

/-- A principal that may fetch the blob, by the heads of the node. -/
def Fetchable (J : JsCrates) (node : Node) (owner nodeLabel principal sha : String) : Prop :=
  ∃ stream, stream ≠ "__proto__" ∧ (∃ head ∈ declarationHeadEvents node, ∃ trust,
      declaredReader J.parseJson owner nodeLabel head = some (stream,trust) ∧
        principal ∈ trust.verificationKeys) ∧
    ∃ head ∈ declarationHeadEvents node, ∃ selection,
      declaredStream J.parseJson owner nodeLabel head = some (stream,selection) ∧
        ∃ row ∈ referencingRows node sha, selects J selection row = true

/-- For a principal other than the owner the rule answers by the declared readers and
streams, unless a head is malformed. -/
lemma authorizeArtifactFetch_iff (ht : Tables node) (hE : Anchored E owner lab)
    (hso : ∀ head ∈ declarationHeadEvents node, malformedHead J.parseJson owner lab head = false)
    {prin : String} (ho : prin ≠ owner) (sha : String) :
    ∃ allowed : Bool, authorizeArtifactFetch J E node sha (.ok prin) =
        .ok (if allowed then .ok prin else .error "scope_denied") ∧
      (allowed = true ↔ Fetchable J node owner lab prin sha) := by
  obtain ⟨config,hc⟩ := (evaluateFrom_ok_iff .unclaimed (declarationHeadEvents node)).2 hso
  obtain ⟨hre,hsr⟩ := evaluateFrom_domains hc
  have hde : ownerDeclarations J E node = .ok config := by
    simp [ownerDeclarations,hE.owner_eq,hE.owner_ne,hE.label_eq,hE.label_ne,evaluateDeclarations,hc]
  have hr : resolvedReaders J E node = .ok (config.readers.getD []) := by
    simp [resolvedReaders,hde,hE.readers_eq,parsePeerTrust,Except.map]
  have hs : resolvedStreams J E node = .ok (config.streams.getD []) := by
    simp [resolvedStreams,hde,hE.streams_eq,parseStreamExports,Except.map]
  refine ⟨(config.readers.getD []).any fun en => en.2.verificationKeys.contains prin &&
    (getProperty (config.streams.getD []) en.1).any fun sel =>
      (referencingRows node sha).any (selects J sel),?_,?_⟩
  · simp only [authorizeArtifactFetch,hE.owner_eq,Option.getD_some,ho,and_false,if_false,hr,hs,
      bind,Except.bind]
    rw [← any_filter]
    split
    next hem =>
      rw [isEmpty_iff.1 hem]
      rfl
    · split <;> rfl
  · simp only [any_eq_true,Bool.and_eq_true,contains_iff_mem,Option.any_eq_true]
    rw [hre,hsr]
    constructor
    · rintro ⟨⟨stream,trust⟩,hen,hkey,sel,hse,hro⟩
      obtain ⟨hp,hra⟩ := (ht.mem_declared readStream_eq_some (peerEntry J.parseJson) _).1 hen
      obtain ⟨_,he⟩ := (ht.getProperty_declared exportStream_eq_some (exportEntry J.parseJson)
        stream sel).1 hse
      obtain ⟨head,hh,hd⟩ := hra
      obtain ⟨o,hm,hst⟩ := he
      exact ⟨stream,hp,⟨head,hh,trust,hd,hkey⟩,o,hm,sel,hst,hro⟩
    · rintro ⟨stream,hp,⟨head,hh,trust,hd,hkey⟩,o,hm,sel,hst,hro⟩
      exact ⟨(stream,trust),(ht.mem_declared readStream_eq_some (peerEntry J.parseJson) _).2
        ⟨hp,head,hh,hd⟩,hkey,sel,(ht.getProperty_declared exportStream_eq_some
          (exportEntry J.parseJson) stream sel).2 ⟨hp,o,hm,hst⟩,hro⟩

end

end BuzzSolo.CloudflareNode
