import BuzzSolo.Convergence
import BuzzSolo.CloudflareNode

/-! The laptop store and the Cloudflare node side by side. Both hold the register of the events they
were given, so they agree as long as they file each event under the same key. They do not when the
first `d` tag has no value and a later one has. -/
namespace BuzzSolo.AdapterAgreement

open Ingest LatestRegister EventStore JsonText List
open CloudflareNode hiding identifier replacementKey replacementCandidateWins isEphemeralKind

variable {X : Crates} {N : NodeEnv}

def keyText : ReplacementKey → String
  | .replaceable author kind => array [quote "replaceable",quote author.toHex,kind.repr]
  | .parameterized author kind identifier =>
    array [quote "parameterized",quote author.toHex,kind.repr,quote identifier]

/-- The first `d` tag of a parameterized event has no value, and the value of a later one
is not empty. -/
def HiddenIdentifier (e : Event) : Prop :=
  (30000 ≤ e.kind ∧ e.kind < 40000) ∧ ((e.tagsNamed "d").head?.bind Tag.content) = none ∧ identifier e ≠ ""

instance (e : Event) : Decidable (HiddenIdentifier e) := inferInstanceAs (Decidable (_ ∧ _ ∧ _))

lemma keyText_injective : Function.Injective keyText := by
  have hc : ∀ t : String, ("," ++ t).toList.head? = some ',' := by
    simp
  intro a b h
  cases a with
  | replaceable pa ka =>
    cases b with
    | replaceable pb kb =>
      simp only [keyText,array,arrayTail,String.append_assoc,String.append_right_inj] at h
      obtain ⟨hp,h⟩ := delimited_quote _ _ _ _ h
      obtain ⟨hk,-⟩ := repr_unique (c := ']') (d := ']') (by decide) (by decide) (by decide) (by decide)
        (String.append_right_inj _ |>.1 h)
      rw [HexText.FixedBytes.toHex_injective hp,hk]
    | parameterized pb kb ib =>
      simp only [keyText,array,String.append_assoc,String.append_right_inj] at h
      exact absurd (delimited_quote _ _ _ _ h).1 (by decide)
  | parameterized pa ka ia =>
    cases b with
    | replaceable pb kb =>
      simp only [keyText,array,String.append_assoc,String.append_right_inj] at h
      exact absurd (delimited_quote _ _ _ _ h).1 (by decide)
    | parameterized pb kb ib =>
      simp only [keyText,array,arrayTail,String.append_assoc,String.append_right_inj] at h
      obtain ⟨hp,h⟩ := delimited_quote _ _ _ _ h
      obtain ⟨hk,h⟩ := repr_unique (hc _) (hc _) (by decide) (by decide) (String.append_right_inj _ |>.1 h)
      obtain ⟨hi,-⟩ := delimited_quote _ _ _ _ (String.append_right_inj _ |>.1 h)
      rw [HexText.FixedBytes.toHex_injective hp,hk,hi]

lemma find_wire_tag (name : String) (tags : List Tag) :
    ((tags.map Tag.asSlice).find? fun tag => tag.head? = some name).bind (fun tag => tag[1]?) =
      (tags.filter fun t => t.name = name).head?.bind Tag.content := by
  induction tags with
  | nil => rfl
  | cons t tags ih =>
    by_cases ht : t.name = name
    · simp [Tag.asSlice,ht,Tag.content,head?_eq_getElem?]
    · simpa [Tag.asSlice,ht] using ih

lemma identifier_wire {e : Event} (hk : 30000 ≤ e.kind ∧ e.kind < 40000)
    (h : ¬ HiddenIdentifier e) : CloudflareNode.identifier (wire e) = identifier e := by
  rw [CloudflareNode.identifier,wire,find_wire_tag,← EventBody.tagsNamed]
  cases hd : e.tagsNamed "d" with
  | nil => simp [identifier,hd]
  | cons first rest =>
    cases hc : first.content with
    | some v => simp [identifier,hd,hc]
    | none =>
      have hn : ((e.tagsNamed "d").head?.bind Tag.content) = none := by simp [hd,hc]
      have he : identifier e = "" := by
        by_contra hne
        exact h ⟨hk,hn,hne⟩
      simp [he,hc]

/-- Away from hidden identifiers the node's key is the text of the laptop's key. -/
lemma replacementKey_wire {e : Event} (h : ¬ HiddenIdentifier e) :
    CloudflareNode.replacementKey (wire e) = (replacementKey e).map keyText := by
  unfold CloudflareNode.replacementKey replacementKey
  by_cases hr : e.kind = 0 ∨ e.kind = 3 ∨ (10000 ≤ e.kind ∧ e.kind < 20000)
  · simp [wire,hr,keyText]
  · by_cases hp : 30000 ≤ e.kind ∧ e.kind < 40000
    · rw [identifier_wire hp h]
      simp [wire,hr,hp,keyText]
    · simp [wire,hr,hp]

lemma replacementKey_wire_eq_iff {a b : Event} (ha : ¬ HiddenIdentifier a) (hb : ¬ HiddenIdentifier b) :
    CloudflareNode.replacementKey (wire a) = CloudflareNode.replacementKey (wire b) ↔
      replacementKey a = replacementKey b := by
  rw [replacementKey_wire ha,replacementKey_wire hb]
  exact (Option.map_injective keyText_injective).eq_iff

lemma not_rivals_iff {a b : Event} (ha : ¬ HiddenIdentifier a) (hb : ¬ HiddenIdentifier b) :
    ¬ Rivals stream (storedEvent X a) (storedEvent X b) ↔ CloudflareNode.replacementKey (wire b) = none ∨
        CloudflareNode.replacementKey (wire a) ≠ CloudflareNode.replacementKey (wire b) := by
  have hn : CloudflareNode.replacementKey (wire b) = none ↔ replacementKey b = none := by
    rw [replacementKey_wire hb,Option.map_eq_none_iff]
  rw [hn,ne_eq,replacementKey_wire_eq_iff ha hb]
  simp only [Rivals]
  tauto

lemma wins_wire (a b : Event) : CloudflareNode.replacementCandidateWins (wire a) (wire b) =
    replacementCandidateWins a b := rfl

structure NodeRefines (X : Crates) (events : List Event) (node : Node) : Prop where
  journal_eq : journal node = (ledger X events).history.map fun s => wire s.event
  row_key : ∀ row ∈ node.eventJournal, row.eventId = row.event.id ∧
    row.replacementKey = CloudflareNode.replacementKey row.event
  effective_iff : ∀ row ∈ node.eventJournal,
    row.effective = true ↔ ∃ s ∈ (ledger X events).kept, wire s.event = row.event
  accepted_iff : ∀ i, (∃ row ∈ node.acceptedEventIds, row.1 = i) ↔ ∃ e ∈ events, e.id.toHex = i

lemma nodeRefines_empty : NodeRefines X [] Node.empty :=
  ⟨rfl,by simp [Node.empty],by simp [Node.empty],by simp [Node.empty]⟩

section

variable {es : List Event} {node : Node} {e : Event}

variable (hc : NoCollision X.toNostr es) (h : NodeRefines X es node)
include hc h

lemma NodeRefines.mem_events
    {row : Row} (hr : row ∈ node.eventJournal) : ∃ a ∈ es, Admitted X a ∧ wire a = row.event := by
  have hm : row.event ∈ journal node := mem_map_of_mem hr
  rw [h.journal_eq] at hm
  obtain ⟨s,hs,hse⟩ := mem_map.1 hm
  obtain ⟨a,ha,had,rfl⟩ := mem_admitted.1 ((sound_ledger hc).history_mem s hs)
  exact ⟨a,ha,had,hse⟩

lemma NodeRefines.row_of_kept {s : StoredEvent} (hs : s ∈ (ledger X es).kept) :
    ∃ row ∈ node.eventJournal, row.event = wire s.event ∧ row.effective = true := by
  have hm : wire s.event ∈ journal node := by
    rw [h.journal_eq]
    exact mem_map_of_mem (f := fun s => wire s.event) ((sound_ledger hc).kept_mem s hs)
  obtain ⟨row,hr,hev⟩ := mem_map.1 hm
  exact ⟨row,hr,hev,(h.effective_iff row hr).2 ⟨s,hs,hev.symm⟩⟩

omit hc h

lemma NodeRefines.accepted_any (h : NodeRefines X es node) :
    (node.acceptedEventIds.any fun row => row.1 = (wire e).id) = true ↔ ∃ a ∈ es, a.id = e.id := by
  have hi := h.accepted_iff e.id.toHex
  simp only [HexText.FixedBytes.toHex_inj] at hi
  constructor
  · intro hany
    obtain ⟨row,hr,hid⟩ := any_eq_true.1 hany
    exact hi.1 ⟨row,hr,of_decide_eq_true hid⟩
  · intro hex
    obtain ⟨row,hr,hid⟩ := hi.2 hex
    exact any_eq_true.2 ⟨row,hr,decide_eq_true hid⟩

/-- A candidate with a new id loses on the node exactly when the register covers it. -/
lemma NodeRefines.loses_iff (hc : NoCollision X.toNostr es)
    (hv : ∀ a ∈ es ++ [e], ¬ HiddenIdentifier a) (h : NodeRefines X es node)
    (hfr : ∀ a ∈ es, a.id ≠ e.id) : loses node (wire e) = true ↔
      Covered stream (ledger X es).kept (storedEvent X e) := by
  have hei : ¬ HiddenIdentifier e := hv e (by simp)
  have hke : ∀ s ∈ (ledger X es).kept, stream.ident s ≠ stream.ident (storedEvent X e) := by
    intro s hs
    obtain ⟨a,ha,-,rfl⟩ := mem_of_mem_kept hc hs
    exact hfr a ha
  rw [loses,replacementKey_wire hei]
  cases hkey : replacementKey e with
  | none => simp [covered_iff_rival hke,Rivals,hkey]
  | some key =>
    simp only [Option.map_some,effectiveReplacement]
    cases hf : node.eventJournal.find?
        (fun row => row.replacementKey = some (keyText key) && row.effective) with
    | none =>
      simp only [Option.map_none,Bool.false_eq_true,false_iff,covered_iff_rival hke]
      rintro ⟨s,hs,hr,-⟩
      obtain ⟨row,hro,hev,he⟩ := h.row_of_kept hc hs
      obtain ⟨a,ha,-,rfl⟩ := mem_of_mem_kept hc hs
      have hk : row.replacementKey = some (keyText key) := by
        rw [(h.row_key row hro).2,hev,storedEvent_event,replacementKey_wire (hv a (by simp [ha])),
          show replacementKey a = some key from hr.2.trans hkey]
        rfl
      have hn := find?_eq_none.1 hf row hro
      simp [hk,he] at hn
    | some row =>
      have hro := mem_of_find?_eq_some hf
      obtain ⟨hk,he⟩ : row.replacementKey = some (keyText key) ∧ row.effective = true := by
        simpa using find?_some hf
      obtain ⟨s,hs,hev⟩ := (h.effective_iff row hro).1 he
      obtain ⟨a,ha,-,rfl⟩ := mem_of_mem_kept hc hs
      have hak : replacementKey a = some key := by
        have hw := replacementKey_wire (hv a (by simp [ha]))
        rw [(h.row_key row hro).2,← hev,storedEvent_event,hw] at hk
        exact Option.map_injective keyText_injective hk
      have hr : Rivals stream (storedEvent X a) (storedEvent X e) := ⟨by simp [hkey],by simp [hak,hkey]⟩
      rw [(sound_ledger hc).separated.covered_iff_rank hke hs hr]
      simp only [Option.map_some,← hev,wins_wire,Bool.not_eq_true',
        ← Bool.not_eq_true,replacementCandidateWins_iff,not_lt]
      rfl

def nodeAfterStore (node : Node) (e : Event) (ingestSource : Option String) : Node :=
  let key := CloudflareNode.replacementKey (wire e)
  let retired := retire key node.eventJournal
  ⟨node.acceptedEventIds ++ [(e.id.toHex,.stored)],
    retired ++ [⟨nextSequence retired,e.id.toHex,wire e,key,true,ingestSource⟩],
    indexArtifactRefs e.id.toHex (wire e).tags node.artifactRefs⟩

/-- No uniqueness constraint of the tables stops a candidate with a new id. -/
lemma NodeRefines.storeEvent_eq (hc : NoCollision X.toNostr es)
    (h : NodeRefines X es node) (hf : ∀ a ∈ es, a.id ≠ e.id) (src : Option String) :
    storeEvent node (wire e) (CloudflareNode.replacementKey (wire e)) src =
      .ok (nodeAfterStore node e src) := by
  have hnew : (node.acceptedEventIds.any fun row => row.1 = (wire e).id) = false := by
    rw [← Bool.not_eq_true,h.accepted_any]
    exact fun ⟨a,ha,hid⟩ => hf a ha hid
  have hid : ((retire (CloudflareNode.replacementKey (wire e))
      node.eventJournal).any fun r => r.eventId = (wire e).id) = false := by
    rw [any_eq_false]
    intro r hr
    obtain ⟨row,hro,rfl⟩ := mem_map.1 hr
    obtain ⟨a,ha,-,hev⟩ := h.mem_events hc hro
    have hne : a.id.toHex ≠ e.id.toHex := by simpa using hf a ha
    simpa [(h.row_key row hro).1,← hev,wire] using hne
  have hkey : ((CloudflareNode.replacementKey (wire e)).isSome &&
      (retire (CloudflareNode.replacementKey (wire e)) node.eventJournal).any
        fun r => r.effective && r.replacementKey = CloudflareNode.replacementKey (wire e)) = false := by
    cases hk : CloudflareNode.replacementKey (wire e) with
    | none => rfl
    | some key =>
      simp only [Option.isSome_some,Bool.true_and,any_eq_false]
      intro r hr
      obtain ⟨row,hro,rfl⟩ := mem_map.1 hr
      simp only [Bool.and_eq_true,retireRow_effective,decide_eq_true_eq, retireRow_replacementKey]
      rintro ⟨⟨-,hn | hne⟩,heq⟩
      · simp at hn
      · exact hne heq
  simp only [storeEvent,insertAccepted,insertRow,hnew, hid,hkey,Bool.true_and]
  rfl

lemma NodeRefines.store (hco : NoCollision X.toNostr (es ++ [e]))
    (had : Admitted X e) (hv : ∀ a ∈ es ++ [e], ¬ HiddenIdentifier a)
    (h : NodeRefines X es node) (hf : ∀ a ∈ es, a.id ≠ e.id)
    (hc : ¬ Covered stream (ledger X es).kept (storedEvent X e)) (src : Option String) :
    NodeRefines X (es ++ [e]) (nodeAfterStore node e src) := by
  have hco' : NoCollision X.toNostr es := hco.subset fun _ => mem_append_left _
  have hl : ledger X (es ++ [e]) = ⟨place stream (storedEvent X e) (ledger X es).kept,
      (ledger X es).history ++ [storedEvent X e]⟩ := by
    rw [ledger_append,if_pos had,submit,if_neg hc]
  have hp : ∀ s, s ∈ place stream (storedEvent X e) (ledger X es).kept ↔
      s = storedEvent X e ∨ (s ∈ (ledger X es).kept ∧ ¬ Rivals stream s (storedEvent X e)) :=
    fun s => mem_place_iff (sound_ledger hco').separated
  refine ⟨?_,?_,?_,?_⟩
  · have hj := h.journal_eq
    simp only [journal] at hj
    simp only [journal,nodeAfterStore,retire,hl,map_append,
      map_cons,map_nil,map_map,Function.comp_def,retireRow_event,hj, storedEvent_event]
  · intro row hro
    rcases mem_append.1 hro with hro | hro
    · obtain ⟨old,hold,rfl⟩ := mem_map.1 hro
      simpa using h.row_key old hold
    · have hr := mem_singleton.1 hro
      subst hr
      exact ⟨rfl,rfl⟩
  · intro row hro
    rw [hl]
    simp only [hp]
    rcases mem_append.1 hro with hro | hro
    · obtain ⟨old,hold,rfl⟩ := mem_map.1 hro
      obtain ⟨a,ha,-,hev⟩ := h.mem_events hco' hold
      have hkey : old.replacementKey = CloudflareNode.replacementKey (wire a) := hev ▸ (h.row_key old hold).2
      rw [retireRow_effective,h.effective_iff old hold,retireRow_event, hkey]
      rw [← not_rivals_iff (X := X) (hv a (by simp [ha])) (hv e (by simp))]
      have hsa : ∀ {s : StoredEvent}, wire s.event = old.event → s.event = a := fun hse =>
        wire_injective (hse.trans hev.symm)
      constructor
      · rintro ⟨⟨s,hs,hse⟩,hr⟩
        refine ⟨s,.inr ⟨hs,?_⟩,hse⟩
        simpa [Rivals,hsa hse] using hr
      · rintro ⟨s,rfl | ⟨hs,hr⟩,hse⟩
        · exact absurd (congrArg Event.id (hsa hse)).symm (hf a ha)
        · refine ⟨⟨s,hs,hse⟩,?_⟩
          simpa [Rivals,hsa hse] using hr
    · have hr := mem_singleton.1 hro
      subst hr
      simp only [true_iff]
      exact ⟨storedEvent X e,.inl rfl,rfl⟩
  · intro i
    have hi := h.accepted_iff i
    simp only [nodeAfterStore,mem_append,mem_singleton,or_and_right,exists_or,hi, exists_eq_left]

def verdict (X : Crates) (events : List Event) (e : Event) : Message :=
  if ∃ a ∈ events, a.id = e.id then .duplicate
  else if Covered stream (ledger X events).kept (storedEvent X e) then .superseded
  else .stored

lemma NodeRefines.keep {acc : List (String × Decision)} (h : NodeRefines X es node) (had : Admitted X e)
    (hc : Covered stream (ledger X es).kept (storedEvent X e))
    (ha : ∀ i, (∃ row ∈ acc, row.1 = i) ↔ ∃ a ∈ es ++ [e], a.id.toHex = i) :
    NodeRefines X (es ++ [e]) { node with acceptedEventIds := acc } := by
  have hl := ledger_append_of_covered had hc
  refine ⟨?_,h.row_key,?_,ha⟩
  · rw [hl]
    exact h.journal_eq
  · rw [hl]
    exact h.effective_iff

/-! What one call of the node does to a verified durable event, branch by branch. -/

section

variable {src prin : Option String} (hjs : N.verifySafely (wire e) = true)

include hjs in
lemma applyEvent_duplicate (hany : (node.acceptedEventIds.any fun row => row.1 = (wire e).id) = true) :
    applyEvent N node (wire e) src prin = (node,.ok ⟨e.id.toHex,true,.duplicate⟩) := by
  simp only [applyEvent,hjs,hany,Bool.not_true,Bool.false_eq_true,if_false,if_true]
  rfl

variable (hdur : isEphemeralKind e.kind = false)
variable (hany : (node.acceptedEventIds.any fun row => row.1 = (wire e).id) = false)

include hdur in
lemma kind_ne_beaconResponse : (wire e).kind ≠ kindBeaconResponse := by
  intro hk
  rw [show e.kind = kindBeaconResponse from hk] at hdur
  exact absurd hdur (by decide)

include hjs hdur hany

lemma applyEvent_superseded (hl : loses node (wire e) = true) : applyEvent N node (wire e) src prin =
      ({ node with acceptedEventIds := node.acceptedEventIds ++ [(e.id.toHex,.superseded)] },
        .ok ⟨e.id.toHex,true,.superseded⟩) := by
  have he : CloudflareNode.isEphemeralKind (wire e).kind = false := hdur
  simp only [applyEvent,hjs,hany,kind_ne_beaconResponse hdur,he,hl, insertAccepted]
  rfl

lemma applyEvent_stored {st : Node} (hl : loses node (wire e) = false)
    (hs : storeEvent node (wire e) (CloudflareNode.replacementKey (wire e)) src = .ok st) :
    (applyEvent N node (wire e) src prin).1 = st ∧ (N.emitPulse st = .ok () →
        (applyEvent N node (wire e) src prin).2 = .ok ⟨e.id.toHex,true,.stored⟩) := by
  have he : CloudflareNode.isEphemeralKind (wire e).kind = false := hdur
  simp only [applyEvent,hjs,hany,kind_ne_beaconResponse hdur,he,hl,hs]
  cases hp : N.emitPulse st with
  | error why => exact ⟨rfl,fun h => by simp at h⟩
  | ok u => exact ⟨rfl,fun _ => rfl⟩

end

/-- One call of the node submits its event to the register and answers with its verdict,
unless the pulse throws. -/
lemma applyEvent_refines (hco : NoCollision X.toNostr (es ++ [e])) (ham : ∀ a ∈ es ++ [e], Admitted X a)
    (hvi : ∀ a ∈ es ++ [e], ¬ HiddenIdentifier a) (hjs : N.verifySafely (wire e) = true)
    (h : NodeRefines X es node) (src prin : Option String) :
    NodeRefines X (es ++ [e]) (applyEvent N node (wire e) src prin).1 ∧
    (N.emitPulse (applyEvent N node (wire e) src prin).1 = .ok () →
      (applyEvent N node (wire e) src prin).2 = .ok ⟨e.id.toHex,true,verdict X es e⟩) := by
  have hco' : NoCollision X.toNostr es := hco.subset fun _ => mem_append_left _
  have had := ham e (by simp)
  by_cases hk : ∃ a ∈ es, a.id = e.id
  · rw [applyEvent_duplicate hjs (h.accepted_any.2 hk)]
    refine ⟨?_,fun _ => by simp [verdict,hk]⟩
    obtain ⟨a,ha,hid⟩ := hk
    have hva := (ham a (mem_append_left _ ha)).1
    refine h.keep had (covered_of_id hco ha hva had hid) fun i => ?_
    rw [h.accepted_iff i]
    constructor
    · exact fun ⟨b,hb,hbi⟩ => ⟨b,mem_append_left _ hb,hbi⟩
    · rintro ⟨b,hb,hbi⟩
      rcases mem_append.1 hb with hb | hb
      · exact ⟨b,hb,hbi⟩
      · exact ⟨a,ha,by rw [hid,← mem_singleton.1 hb,hbi]⟩
  · have hany : (node.acceptedEventIds.any fun row => row.1 = (wire e).id) = false := by
      rw [← Bool.not_eq_true,h.accepted_any]
      exact hk
    have hf : ∀ a ∈ es, a.id ≠ e.id := fun a ha hid => hk ⟨a,ha,hid⟩
    have hl := h.loses_iff hco' hvi hf
    by_cases hc : Covered stream (ledger X es).kept (storedEvent X e)
    · rw [applyEvent_superseded hjs had.2 hany (hl.2 hc)]
      refine ⟨h.keep had hc fun i => ?_,fun _ => by simp [verdict,hk,hc]⟩
      simp only [mem_append,mem_singleton,or_and_right,exists_or,h.accepted_iff i, exists_eq_left]
    · have hlo : loses node (wire e) = false := by
        rw [← Bool.not_eq_true,hl]
        exact hc
      have hv : verdict X es e = .stored := by simp [verdict,hk,hc]
      obtain ⟨hst,han⟩ := @applyEvent_stored N node e src prin hjs had.2 hany _ hlo
        (h.storeEvent_eq hco' hf src)
      rw [hst,hv]
      exact ⟨h.store hco had hvi hf hc src,han⟩

end

def nodeAfter (N : NodeEnv) (src principal : Option String) (events : List Event) : Node :=
  events.foldl (fun node e => (applyEvent N node (wire e) src principal).1) Node.empty

/-- What both adapters are promised of the events they are given. -/
structure Shared (X : Crates) (N : NodeEnv) (events : List Event) : Prop where
  no_collision : NoCollision X.toNostr events
  admitted : ∀ e ∈ events, Admitted X e
  visible : ∀ e ∈ events, ¬ HiddenIdentifier e
  verified : ∀ e ∈ events, N.verifySafely (wire e) = true
  serializes : ∀ e ∈ events, Serializes X e

lemma Shared.subset {es sub : List Event} (h : Shared X N es) (hs : ∀ e ∈ sub, e ∈ es) : Shared X N sub :=
  ⟨h.no_collision.subset hs,fun e he => h.admitted e (hs e he),
    fun e he => h.visible e (hs e he),fun e he => h.verified e (hs e he), fun e he =>
      h.serializes e (hs e he)⟩

lemma nodeAfter_refines (src prin : Option String) (es : List Event)
    (h : Shared X N es) : NodeRefines X es (nodeAfter N src prin es) := by
  induction es using reverseRecOn with
  | nil => exact nodeRefines_empty
  | append_singleton es e ih =>
    have hr := ih (h.subset fun _ => mem_append_left _)
    have hst := (applyEvent_refines h.no_collision h.admitted h.visible
      (h.verified e (by simp)) hr src prin).1
    simpa [nodeAfter] using hst

lemma acceptAll_seenIds (wr : Option ByteArray) (es : List Event) (h : Shared X N es) (i : EventId) :
    i ∈ (acceptAll X wr es).seenIds ↔ ∃ a ∈ es, a.id = i := by
  induction es using reverseRecOn with
  | nil => simp [acceptAll]
  | append_singleton es e ih =>
    have h' := h.subset fun _ => mem_append_left _
    have hr := ih h'
    have hs := acceptAll_refines wr es h'.no_collision h'.serializes
    have hst := (hs.accept_result h'.no_collision (h.serializes e (by simp)) (h.admitted e (by simp))).2
    simp only [acceptAll,foldl_append,foldl_cons,foldl_nil] at hr hst ⊢
    simp only [hst,Finset.mem_insert,hr,mem_append,mem_singleton,or_and_right,exists_or, exists_eq_left]
    rw [or_comm,eq_comm]

/-- Both adapters, given the same verified durable events none of which hides its
identifier, make the same decision at every step and hold the same journal and the same
effective events, as long as no pulse throws. -/
theorem adapters_agree (X : Crates) (N : NodeEnv) (writer : Option ByteArray)
    (src principal : Option String) (events : List Event) (hadm : ∀ e ∈ events, Admitted X e)
    (hjs : ∀ e ∈ events, N.verifySafely (wire e) = true) (hser : ∀ e ∈ events, Serializes X e)
    (hcol : NoCollision X.toNostr events) (hvis : ∀ e ∈ events, ¬ HiddenIdentifier e)
    (hpulse : ∀ before, before <+: events → N.emitPulse (nodeAfter N src principal before) = .ok ())
    (before : List Event) (e : Event) (hpre : before ++ [e] <+: events) :
    (∃ message ∈ [Message.stored,.duplicate,.superseded], ∃ live,
      (accept X .synced (acceptAll X writer before) e).2 = .ok ⟨e.id.toHex,true,message.text,live⟩ ∧
      (applyEvent N (nodeAfter N src principal before) (wire e) src principal).2 =
        .ok ⟨e.id.toHex,true,message⟩) ∧
    (acceptAll X writer (before ++ [e])).journal.map wire =
      journal (nodeAfter N src principal (before ++ [e])) ∧
    ∀ j, j ∈ (acceptAll X writer (before ++ [e])).events.map (fun s => wire s.event) ↔
      j ∈ effectiveEvents (nodeAfter N src principal (before ++ [e])) := by
  have hnew : Shared X N (before ++ [e]) := Shared.subset ⟨hcol,hadm,hvis,hjs,hser⟩ fun a ha => hpre.subset ha
  have hold : Shared X N before := hnew.subset fun a ha => mem_append_left _ ha
  have he : e ∈ before ++ [e] := by simp
  have hn := nodeAfter_refines src principal before hold
  have hst := acceptAll_refines writer before hold.no_collision hold.serializes
  have hn' := nodeAfter_refines src principal (before ++ [e]) hnew
  have hst' := acceptAll_refines writer (before ++ [e]) hnew.no_collision hnew.serializes
  have haf : (applyEvent N (nodeAfter N src principal before) (wire e) src principal).1 =
      nodeAfter N src principal (before ++ [e]) := by simp [nodeAfter]
  refine ⟨?_,?_,?_⟩
  · have hseen := acceptAll_seenIds writer before hold e.id
    have hl := (hst.accept_result hold.no_collision (hnew.serializes e he) (hnew.admitted e he)).1
    have hc := (applyEvent_refines hnew.no_collision hnew.admitted hnew.visible
      (hnew.verified e he) hn src principal).2 (by rw [haf]; exact hpulse _ hpre)
    rw [hl,hc,hst.events_eq]
    refine ⟨verdict X before e,?_,?_⟩
    · unfold verdict
      split_ifs <;> simp
    · unfold verdict
      simp only [hseen]
      split_ifs <;> exact ⟨_,rfl,trivial⟩
  · rw [hn'.journal_eq,← hst'.history_eq,map_map]
    rfl
  · intro j
    rw [hst'.events_eq]
    simp only [effectiveEvents,mem_map,mem_filter]
    constructor
    · rintro ⟨s,hs,rfl⟩
      obtain ⟨row,hr,hev,hef⟩ := hn'.row_of_kept hnew.no_collision hs
      exact ⟨row,⟨hr,hef⟩,hev⟩
    · rintro ⟨row,⟨hr,hef⟩,rfl⟩
      exact (hn'.effective_iff row hr).1 hef

def quietEnv (signed : List Event) : NodeEnv where
  verifySafely j := signed.any fun e => wire e = j
  recordBeaconResponse _ _ _ := false
  emitPulse _ := .ok ()

/-! Two lists whose first `d` tag has no value, and a third that starts with its value. -/

def listX : Event where
  pubkey := firstKey
  createdAt := 1700000200
  kind := 30000
  tags := [⟨"d",[]⟩, ⟨"d",["x"]⟩]
  content := "x"
  id := .ofNat 32 0xfac9b658c0f6e63cf3d84d413963f03a5fc1b38fcc8a6667da9bc5d4f67c6493
  sig := .ofNat 64 0xf561f8c0de5dcc6887e523bdf368cbd4d28c4711b1d7b12670ee5187348e3e97529ea994ad2d81b1d067e48dac55a56510397d6d78d8e6169ea364b11137bcd7

def listY : Event :=
  { listX with
    createdAt := 1700000100
    tags := [⟨"d",[]⟩, ⟨"d",["y"]⟩]
    content := "y"
    id := .ofNat 32 0xb2c136ce99dfa7f8fcfb87a5c134a73ee0b00224784e323967aa6272bc723d5b
    sig := .ofNat 64 0x05a54576245f5baa82597f0d57ab39cca4a98207c23a344b915961d342c00091a6747a027998e8745608603bbfd3eba098e473f65a23c58cf3f9f372379ef74a }

def listZ : Event :=
  { listX with
    createdAt := 1700000300
    tags := [⟨"d",["x"]⟩, ⟨"d",[]⟩]
    content := "z"
    id := .ofNat 32 0x5a0b5baa80df068bdd8b63897125aceb3cc3d81a4919a533f0dd0341984c4a72
    sig := .ofNat 64 0x15c079bdcc410fc5093f111a700ac305eb1136cc7e926c682b33ec02f311596b5f3140ac95d7851748b16106d1aed21ef392fb4c54e5e9f892efab2866f42556 }

theorem adapters_agree_lists : let X := signedOnly [listZ,newProfile] fun _ => none
    let N := quietEnv [listZ,newProfile]
    (∃ message ∈ [Message.stored,.duplicate,.superseded], ∃ live,
      (accept X .synced (acceptAll X none [newProfile,listZ]) newProfile).2 =
        .ok ⟨newProfile.id.toHex,true,message.text,live⟩ ∧
      (applyEvent N (nodeAfter N none none [newProfile,listZ]) (wire newProfile) none none).2 =
        .ok ⟨newProfile.id.toHex,true,message⟩) ∧
    (acceptAll X none ([newProfile,listZ] ++ [newProfile])).journal.map wire =
      journal (nodeAfter N none none ([newProfile,listZ] ++ [newProfile])) ∧
    ∀ j, j ∈ (acceptAll X none ([newProfile,listZ] ++ [newProfile])).events.map (fun s => wire s.event) ↔
      j ∈ effectiveEvents (nodeAfter N none none ([newProfile,listZ] ++ [newProfile])) := by
  have hi : IdsMatch [listZ,newProfile] := by decide +kernel
  have hm : ∀ e ∈ [newProfile,listZ,newProfile], e ∈ [listZ,newProfile] := by simp
  have hdur : ∀ e ∈ [listZ,newProfile], isEphemeralKind e.kind = false := by decide
  have hv : ∀ e ∈ [listZ,newProfile], ¬ HiddenIdentifier e := by decide +kernel
  exact adapters_agree (signedOnly [listZ,newProfile] fun _ => none) (quietEnv [listZ,newProfile])
    none none none [newProfile,listZ,newProfile]
    (fun e he => ⟨verified_signedOnly hi (hm e he),hdur e (hm e he)⟩)
    (fun e he => any_eq_true.2 ⟨e,hm e he,by simp⟩) (fun _ _ => rfl)
    ((noCollision_signedOnly hi).subset hm) (fun e he => hv e (hm e he)) (fun _ _ => rfl)
    [newProfile,listZ] newProfile (prefix_refl _)

/-- The laptop files the two lists apart, the node files them together: the older one is
stored here and superseded there. -/
theorem hidden_identifier_splits_adapters : let X := signedOnly [listX,listY] fun _ => none
    let N := quietEnv [listX,listY]
    (∀ e ∈ [listX,listY], Admitted X e ∧ N.verifySafely (wire e) = true) ∧
    (accept X .synced (acceptAll X none [listX]) listY).2 = .ok ⟨listY.id.toHex,true,"stored",true⟩ ∧
    (applyEvent N (nodeAfter N none none [listX]) (wire listY) none none).2 =
      .ok ⟨listY.id.toHex,true,.superseded⟩ ∧
    (acceptAll X none [listX,listY]).journal.map wire = [wire listX,wire listY] ∧
    journal (nodeAfter N none none [listX,listY]) = [wire listX] := by
  decide +kernel

end BuzzSolo.AdapterAgreement
