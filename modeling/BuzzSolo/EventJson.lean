import BuzzSolo.EventStore
import BuzzSolo.JsonText

/-! The JSON text of an event, as the derive macro of the crate writes it. Different events have
different texts of one line, so the crates, restricted to events that were really signed, satisfy
what the store asks of them. -/
namespace BuzzSolo.EventStore

open HexText JsonText List

def tagText (t : Tag) : String := array (t.asSlice.map quote)

def eventText (e : Event) : String :=
  "\x7b\"id\":" ++ (quote e.id.toHex ++ (",\"pubkey\":" ++ (quote e.pubkey.toHex ++
    (",\"created_at\":" ++ (e.createdAt.repr ++ (",\"kind\":" ++ (e.kind.repr ++
      (",\"tags\":" ++ (array (e.tags.map tagText) ++ (",\"content\":" ++ (quote e.content ++
        (",\"sig\":" ++ (quote e.sig.toHex ++ "\x7d")))))))))))))

lemma delimited_tagText : Delimited tagText := by
  intro a b r u h
  have hq := delimited_array delimited_quote fun s => ⟨'"',by decide,toList_quote_head s⟩
  obtain ⟨hs,hru⟩ := hq a.asSlice b.asSlice r u h
  exact ⟨Tag.asSlice_injective hs,hru⟩

lemma delimited_tags : Delimited fun tags : List Tag => array (tags.map tagText) :=
  delimited_array delimited_tagText fun t => ⟨'[',by decide,toList_array_head _⟩

lemma comma_unique {n m : ℕ} {r u : String} (h : n.repr ++ ("," ++ r) = m.repr ++ ("," ++ u)) :
    n = m ∧ r = u := by
  have hh : ∀ t : String, ("," ++ t).toList.head? = some ',' := by
    simp
  obtain ⟨hnm,hru⟩ := repr_unique (hh r) (hh u) (by decide) (by decide) h
  exact ⟨hnm,by simpa using hru⟩

lemma eventText_injective : Function.Injective eventText := by
  intro a b h
  have hki : ",\"kind\":" = "," ++ "\"kind\":" := by decide
  have hta : ",\"tags\":" = "," ++ "\"tags\":" := by decide
  simp only [eventText,hki,hta,String.append_assoc] at h
  obtain ⟨hid,h⟩ := delimited_quote _ _ _ _ (String.append_right_inj _ |>.1 h)
  obtain ⟨hpk,h⟩ := delimited_quote _ _ _ _ (String.append_right_inj _ |>.1 h)
  obtain ⟨hc,h⟩ := comma_unique (String.append_right_inj _ |>.1 h)
  obtain ⟨hk,h⟩ := comma_unique (String.append_right_inj _ |>.1 h)
  obtain ⟨ht,h⟩ := delimited_tags _ _ _ _ (String.append_right_inj _ |>.1 h)
  obtain ⟨hco,h⟩ := delimited_quote _ _ _ _ (String.append_right_inj _ |>.1 h)
  obtain ⟨hs,-⟩ := delimited_quote _ _ _ _ (String.append_right_inj _ |>.1 h)
  obtain ⟨⟨pka,ca,ka,ta,xa⟩,ia,sa⟩ := a
  simp_all

lemma newline_not_mem_arrayTail (xs : List String) (h : ∀ x ∈ xs, '\n' ∉ x.toList) :
    '\n' ∉ (arrayTail xs).toList := by
  induction xs with
  | nil => simp [arrayTail]
  | cons x xs ih =>
    have hx := h x (by simp)
    have hxs := ih fun y hy => h y (by simp [hy])
    simp [arrayTail,hx,hxs]

lemma newline_not_mem_array (xs : List String) (h : ∀ x ∈ xs, '\n' ∉ x.toList) :
    '\n' ∉ (array xs).toList := by
  cases xs with
  | nil => simp [array]
  | cons x xs =>
    have hx := h x (by simp)
    have hxs := newline_not_mem_arrayTail xs fun y hy => h y (by simp [hy])
    simp [array,hx,hxs]

lemma newline_not_mem_toDigits (n : ℕ) : '\n' ∉ Nat.toDigits 10 n := by
  intro h
  have hd := Nat.isDigit_of_mem_toDigits (by decide) (by decide) h
  simp at hd

lemma newline_not_mem_eventText (e : Event) : '\n' ∉ (eventText e).toList := by
  have ht : '\n' ∉ (array (e.tags.map tagText)).toList := by
    apply newline_not_mem_array
    intro x hx
    obtain ⟨t,-,rfl⟩ := mem_map.1 hx
    apply newline_not_mem_array
    intro y hy
    obtain ⟨s,-,rfl⟩ := mem_map.1 hy
    exact newline_not_mem_quote s
  simp [eventText,ht,newline_not_mem_quote,newline_not_mem_toDigits]

lemma getLast_toList_append {s t : String} {c : Char} (h : t.toList.getLast? = some c) :
    (s ++ t).toList.getLast? = some c := by
  simp [h]

lemma getLast_eventText (e : Event) : (eventText e).toList.getLast? = some '\x7d' := by
  iterate 14 apply getLast_toList_append
  decide

/-- The crates as they act on the given signed events: ids are looked up by the hashed
fields, only the listed signatures verify, and a text is read as the event it spells. -/
def signedOnly (signed : List Event) (parseUuid : String → Option Uuid) : Crates where
  eventIdNew body := ((signed.find? fun e => e.toEventBody = body).map Event.id).getD (.ofNat 32 0)
  verifySignature e := e ∈ signed
  toVec e := .ok (eventText e)
  fromStr text :=
    match signed.find? fun e => eventText e = text with
    | some e => .ok e
    | none => .error "not the text of an event"
  parseUuid := parseUuid

/-- Ids and hashed fields determine each other. -/
def IdsMatch (signed : List Event) : Prop :=
  ∀ a ∈ signed, ∀ b ∈ signed, a.toEventBody = b.toEventBody ↔ a.id = b.id

instance (signed : List Event) : Decidable (IdsMatch signed) := inferInstanceAs (Decidable (∀ a ∈ signed, _))

section

variable {signed : List Event} {parseUuid : String → Option Uuid}

lemma exists_find {p : Event → Bool} {e : Event} (he : e ∈ signed) (hp : p e = true) :
    ∃ a, signed.find? p = some a := by
  rw [← Option.isSome_iff_exists,find?_isSome]
  exact ⟨e,he,hp⟩

lemma roundTrips_signedOnly {e : Event} (he : e ∈ signed) : RoundTrips (signedOnly signed parseUuid) e := by
  refine ⟨eventText e,rfl,?_,newline_not_mem_eventText e,getLast_eventText e⟩
  obtain ⟨a,ha⟩ := exists_find (p := fun a => eventText a = eventText e) he (by simp)
  have hae : a = e := eventText_injective (by simpa using find?_some ha)
  simp [signedOnly,ha,hae]

lemma eventIdNew_signedOnly (h : IdsMatch signed) {e : Event} (he : e ∈ signed) :
    (signedOnly signed parseUuid).eventIdNew e.toEventBody = e.id := by
  obtain ⟨a,ha⟩ := exists_find (p := fun a => a.toEventBody = e.toEventBody) he (by simp)
  have hb : a.toEventBody = e.toEventBody := by simpa using find?_some ha
  simp [signedOnly,ha,(h a (mem_of_find?_eq_some ha) e he).1 hb]

lemma verified_signedOnly (h : IdsMatch signed) {e : Event} (he : e ∈ signed) :
    Verified (signedOnly signed parseUuid).toNostr e :=
  (verified_iff _ _).2 ⟨eventIdNew_signedOnly h he,by simp [signedOnly,he]⟩

lemma noCollision_signedOnly (h : IdsMatch signed) :
    NoCollision (signedOnly signed parseUuid).toNostr signed := by
  intro a ha b hb hid
  rw [eventIdNew_signedOnly h ha,eventIdNew_signedOnly h hb] at hid
  exact (h a ha b hb).2 hid

end

def note : Event where
  pubkey := firstKey
  createdAt := 1700000000
  kind := 1
  tags := []
  content := "hello"
  id := .ofNat 32 0xbde202ea7642ff9910600c7edc948a1f4220f0cbf5e4fb2b7efafa681bbb5285
  sig := .ofNat 64 0x96ee7a4ebef51f83993655f363518c1676d9b0acee1473002955f0aaaeea823501b0142575ed2c37a54c91a3f6d293b2ba279447948c83f71d4385d372be8d52

end BuzzSolo.EventStore
