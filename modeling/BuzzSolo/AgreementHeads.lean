import BuzzSolo.AdmitDomain
import BuzzSolo.HashTable

/-! The heads of the agreement declarations as the command line selects them, and as the relay's
replacement rule does. The two rules differ where two declarations have the same time. -/
namespace BuzzSolo.Agreement

open HashTable HexText Ingest LatestRegister List

def agreementKind : ℕ := 30700

def tagValues (event : Event) (name : String) : List String :=
  event.tags.filterMap fun tag => if tag.asSlice.head? = some name then tag.asSlice[1]? else none

def firstTag (event : Event) (name : String) : Option String := (tagValues event name).head?

def headKey (author : PublicKey) (coordinate : String) : String := author.toHex ++ ":" ++ coordinate

def addHead (heads : Table String Event) (event : Event) : Table String Event :=
  match firstTag event "d" with
  | none => heads
  | some coordinate =>
    let key := headKey event.pubkey coordinate
    if ∀ current ∈ heads.lookup key, current.createdAt < event.createdAt ∨
        current.createdAt = event.createdAt ∧ current.id < event.id then
      heads.insert key event
    else heads

def effectiveHeads (events : List Event) : Table String Event := events.foldl addHead ∅

section

variable {author : PublicKey} {coordinate : String}

def Declares (author : PublicKey) (coordinate : String) (event : Event) : Prop :=
  event.pubkey = author ∧ firstTag event "d" = some coordinate

def age (event : Event) : ℕ ×ₗ EventId := toLex (event.createdAt,event.id)

/-- A declaration that none of the events comes after, where there is one. -/
structure Newest (events : List Event) (author : PublicKey) (coordinate : String) (head : Option Event) :
    Prop where
  mem : ∀ e ∈ head, e ∈ events ∧ Declares author coordinate e
  le : ∀ e ∈ events, Declares author coordinate e → ∃ h ∈ head, age e ≤ age h

lemma headKey_inj {a b : PublicKey} {c d : String} (h : headKey a c = headKey b d) : a = b ∧ c = d := by
  have hl (k : PublicKey) := FixedBytes.length_of_fromHex (FixedBytes.fromHex_toHex k)
  simp only [headKey,String.ext_iff,String.toList_append,append_assoc] at h
  obtain ⟨hk,hc⟩ := append_inj h ((hl a).trans (hl b).symm)
  exact ⟨FixedBytes.toHex_injective (String.ext hk),String.ext (append_cancel_left hc)⟩

lemma Newest.addHead {es : List Event} {hds : Table String Event}
    (h : Newest es author coordinate (hds.lookup (headKey author coordinate))) (ev : Event) :
    Newest (es ++ [ev]) author coordinate ((addHead hds ev).lookup (headKey author coordinate)) := by
  have ho (hn : ¬Declares author coordinate ev) :
      Newest (es ++ [ev]) author coordinate (hds.lookup (headKey author coordinate)) := by
    refine ⟨fun e he => ⟨mem_append_left _ (h.mem e he).1,(h.mem e he).2⟩,fun e he hd => ?_⟩
    obtain he | he := mem_append.1 he
    · exact h.le e he hd
    · exact absurd (mem_singleton.1 he ▸ hd) hn
  unfold Agreement.addHead
  cases ht : firstTag ev "d" with
  | none => exact ho fun hd => nomatch ht.symm.trans hd.2
  | some c =>
    dsimp only
    by_cases hk : headKey ev.pubkey c = headKey author coordinate
    · obtain ⟨rfl,rfl⟩ := headKey_inj hk
      split_ifs with hnew
      · rw [AList.lookup_insert]
        refine ⟨by simp [Declares,ht],fun e he hd => ⟨ev,rfl,?_⟩⟩
        obtain he | he := mem_append.1 he
        · obtain ⟨cur,hc,hle⟩ := h.le e he hd
          exact hle.trans (Prod.Lex.toLex_lt_toLex.2 (hnew cur hc)).le
        · rw [mem_singleton.1 he]
      · refine ⟨fun e he => ⟨mem_append_left _ (h.mem e he).1,(h.mem e he).2⟩,fun e he hd => ?_⟩
        obtain he | he := mem_append.1 he
        · exact h.le e he hd
        · obtain ⟨cur,hc,hle⟩ := not_forall₂.1 hnew
          exact ⟨cur,hc,mem_singleton.1 he ▸ not_lt.1 (mt Prod.Lex.toLex_lt_toLex.1 hle)⟩
    · have hn : ¬Declares author coordinate ev := by
        rintro ⟨rfl,hd⟩
        cases ht.symm.trans hd
        exact hk rfl
      split_ifs
      · rw [AList.lookup_insert_ne (Ne.symm hk)]
        exact ho hn
      · exact ho hn

lemma newest_effectiveHeads (es : List Event) :
    Newest es author coordinate ((effectiveHeads es).lookup (headKey author coordinate)) := by
  induction es using reverseRecOn with
  | nil => exact ⟨by simp [effectiveHeads],by simp⟩
  | append_singleton es e ih =>
    rw [effectiveHeads,foldl_append]
    exact ih.addHead e

lemma firstTag_d (e : Event) : firstTag e "d" = (e.tagsNamed "d").findSome? Tag.content := by
  rw [firstTag,tagValues,EventBody.tagsNamed,← head?_filterMap,filterMap_filter]
  simp [Tag.asSlice,Tag.content,head?_eq_getElem?]

lemma replacementKey_iff {e : Event} (hk : e.kind = agreementKind) (hd : firstTag e "d" ≠ none) :
    replacementKey e = some (.parameterized author agreementKind coordinate) ↔
      Declares author coordinate e := by
  obtain ⟨c,hc⟩ := Option.ne_none_iff_exists'.1 hd
  have hi : identifier e = c := by rw [identifier,← firstTag_d,hc]; rfl
  simp [replacementKey,hk,hi,agreementKind,Declares,hc]

/-- The two rules agree on an event only if no other has its time. -/
lemma eq_of_age_of_rank {a e : Event} (ht : e.createdAt ≤ a.createdAt) (ha : age a ≤ age e)
    (hr : rank a ≤ rank e) :
    a.id = e.id := by
  have he : a.createdAt = e.createdAt := (Prod.Lex.monotone_fst _ _ ha).antisymm ht
  simp only [age,rank,Prod.Lex.toLex_le_toLex,he,lt_irrefl,true_and,false_or,
    OrderDual.toDual_le_toDual] at ha hr
  exact ha.antisymm (not_lt.1 fun hlt => hr.not_gt (FixedBytes.toHex_lt hlt))

/-- The command line and the relay take the same event for the head of an author's coordinate exactly
when no two declarations of it have the newest time. -/
theorem heads_match_relay (scope : Event → Option Uuid) {events : List Event}
    (hk : ∀ e ∈ events, e.kind = agreementKind) (hd : ∀ e ∈ events, firstTag e "d" ≠ none)
    (hid : ∀ a ∈ events, ∀ b ∈ events, a.id = b.id → a = b) (author : PublicKey) (coordinate : String) :
    (effectiveHeads events).lookup (headKey author coordinate) =
      ((applyAll [] (events.map fun e => ⟨e,scope e⟩)).find?
        (sameStream (.parameterized author agreementKind coordinate))).map StoredEvent.event ↔
    ∀ a ∈ events, ∀ b ∈ events, Declares author coordinate a → Declares author coordinate b →
      a.createdAt = b.createdAt → (∀ e ∈ events, Declares author coordinate e → e.createdAt ≤ a.createdAt) →
        a = b := by
  let received : List StoredEvent := events.map fun e => ⟨e,scope e⟩
  let key := ReplacementKey.parameterized author agreementKind coordinate
  have hm : ∀ s ∈ received, s.event ∈ events := by simp [received]
  have ho : ∀ s t, s ∈ received → t ∈ received → s.event.id = t.event.id → s.event = t.event :=
    fun s t hs ht => hid _ (hm s hs) _ (hm t ht)
  have hS : Consistent stream (· ∈ received) :=
    ⟨fun s t hs ht h => by simp [ho s t hs ht h],fun s t hs ht h => by simp [ho s t hs ht h]⟩
  have hw : Winners stream received (applyAll [] received) :=
    @winners_applyAll [] received .nil (fun c hc => by simp [hk _ (hm c hc),isEphemeralKind,agreementKind]) hS
  -- the relay keeps a declaration that no other replaces
  have hke : ∀ e ∈ events, Declares author coordinate e → ∃ s ∈ applyAll [] received,
      sameStream key s = true ∧ rank e ≤ rank s.event := by
    rintro e he hde
    have hr : (⟨e,scope e⟩ : StoredEvent) ∈ received := mem_map_of_mem he
    have hek := (replacementKey_iff (hk e he) (hd e he)).2 hde
    obtain ⟨s,hs,⟨-,heq⟩,hle⟩ := hw.exists_kept hS hr (by simp [hek])
    refine ⟨s,hs,?_,hle⟩
    rw [sameStream,decide_eq_true_eq]
    exact heq.trans hek
  have hn := @newest_effectiveHeads author coordinate events
  cases hf : (applyAll [] received).find? (sameStream key) with
  | none =>
    have hno : ∀ e ∈ events, ¬Declares author coordinate e := by
      intro e he hde
      obtain ⟨s,hs,hsk,-⟩ := hke e he hde
      exact find?_eq_none.1 hf s hs hsk
    refine iff_of_true ?_ fun a ha _ _ hda => absurd hda (hno a ha)
    exact Option.eq_none_iff_forall_not_mem.2 fun e he => hno e (hn.mem e he).1 (hn.mem e he).2
  | some w =>
    have hwm := mem_of_find?_eq_some hf
    have hwk : replacementKey w.event = some key := by simpa [sameStream] using find?_some hf
    have hwe := hm w (hw.mem w hwm)
    have hwd := (replacementKey_iff (hk _ hwe) (hd _ hwe)).1 hwk
    have hwr : ∀ e ∈ events, Declares author coordinate e → rank e ≤ rank w.event := by
      intro e he hde
      obtain ⟨s,hs,hsk,hle⟩ := hke e he hde
      rwa [hw.separated.eq_of_rivals hs hwm ⟨by simp [hwk],(of_decide_eq_true hsk).trans hwk.symm⟩] at hle
    obtain ⟨h,hh,-⟩ := hn.le w.event hwe hwd
    obtain ⟨hhe,hhd⟩ := hn.mem h hh
    rw [hh] at hn ⊢
    have hha : ∀ e ∈ events, Declares author coordinate e → age e ≤ age h :=
      fun e he hde => by simpa using hn.le e he hde
    constructor
    · intro heq a ha b hb hda hdb hab hnew
      cases heq
      -- both are the head
      have hat {c} (hc : c ∈ events) (hdc : Declares author coordinate c) (hca : a.createdAt = c.createdAt) :
        c = w.event :=
        hid c hc _ hwe (eq_of_age_of_rank (hca ▸ hnew _ hwe hwd) (hha c hc hdc) (hwr c hc hdc))
      rw [hat ha hda rfl,hat hb hdb hab]
    · intro htie
      have hle := Prod.Lex.monotone_fst _ _ (hha w.event hwe hwd)
      have hge := Prod.Lex.monotone_fst _ _ (hwr h hhe hhd)
      exact congrArg some (htie h hhe w.event hwe hhd hwd (hge.antisymm hle)
        fun e he hde => Prod.Lex.monotone_fst _ _ (hha e he hde))

end

/-- Another declaration of the phone, made in the same second. -/
def phoneGrantAgain : Event := { LocalDeclarations.phoneGrant with content := "", id := .ofNat 32 1 }

open LocalDeclarations (phoneGrant)

theorem heads_match_relay_phone :
    (effectiveHeads [phoneGrant,phoneGrant]).lookup (headKey phoneGrant.pubkey "admit/phone") =
      some phoneGrant ∧
    ((applyAll [] [⟨phoneGrant,none⟩,⟨phoneGrant,none⟩]).find?
      (sameStream (.parameterized phoneGrant.pubkey agreementKind "admit/phone"))).map StoredEvent.event =
        some phoneGrant := by
  have h := (@heads_match_relay (fun _ => none) [phoneGrant,phoneGrant] (by decide) (by decide) (by simp)
    phoneGrant.pubkey "admit/phone").2 (by simp)
  have hl : (effectiveHeads [phoneGrant,phoneGrant]).lookup (headKey phoneGrant.pubkey "admit/phone") =
    some phoneGrant := by decide +kernel
  exact ⟨hl,h.symm.trans hl⟩

/-- Of two declarations with the same time the command line takes the one with the larger id, and
the relay the one with the smaller id. -/
theorem heads_differ_at_equal_times :
    (effectiveHeads [phoneGrant,phoneGrantAgain]).lookup (headKey phoneGrant.pubkey "admit/phone") =
      some phoneGrant ∧
    ((applyAll [] [⟨phoneGrant,none⟩,⟨phoneGrantAgain,none⟩]).find?
      (sameStream (.parameterized phoneGrant.pubkey agreementKind "admit/phone"))).map StoredEvent.event =
        some phoneGrantAgain ∧ phoneGrant ≠ phoneGrantAgain := by
  decide +kernel

end BuzzSolo.Agreement
