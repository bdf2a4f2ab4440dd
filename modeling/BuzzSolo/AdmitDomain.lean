import BuzzSolo.LocalDeclarations

/-! The admit domain and the query limit. The evaluation sees the newest heads that the query
shows; it answers as the evaluation of all heads does exactly when the heads beyond them
have nothing to add. -/
namespace BuzzSolo.LocalDeclarations

open Checks Ingest LineText Query List
open LocalRelay (kindSyncDeclaration)
open Authentication (RelayPeerTrust)

section

variable {X : Crates} {lab : String}

lemma admitFrom_append (acc : Admits) (fr rest : List Event) : admitFrom X lab acc (fr ++ rest) =
      (admitFrom X lab acc fr).bind fun acc => admitFrom X lab acc rest := by
  induction fr generalizing acc with
  | nil => rfl
  | cons ev fr ih =>
    simp only [cons_append,admitFrom]
    cases admitHead X lab acc ev with
    | error e => rfl
    | ok next => exact ih next

variable {next : Admits}

lemma admitHead_cases (acc : Admits) (ev : Event) (h : admitHead X lab acc ev = .ok next) :
    (admitSource lab ev = none ∧ next = acc) ∨ ∃ src en, admitSource lab ev = some src ∧
      admitEntry X ev src = .ok en ∧ next = ⟨true,acc.entries ++ en.toList⟩ := by
  unfold admitHead at h
  cases hs : admitSource lab ev with
  | none =>
    simp only [hs] at h
    cases h
    exact .inl ⟨rfl,rfl⟩
  | some src =>
    simp only [hs] at h
    cases he : admitEntry X ev src with
    | error e => simp [he] at h
    | ok en =>
      simp only [he] at h
      cases h
      exact .inr ⟨src,en,rfl,he,rfl⟩

variable {acc last : Admits} {hds : List Event}

lemma admitFrom_claimed (h : admitFrom X lab acc hds = .ok last) : last.claimed = true ↔
      acc.claimed = true ∨ ∃ hd ∈ hds, admitSource lab hd ≠ none := by
  induction hds generalizing acc with
  | nil =>
    cases h
    simp
  | cons hd hds ih =>
    obtain ⟨next,hn,hr⟩ := bind_eq_ok.1 h
    rw [ih hr]
    rcases admitHead_cases acc hd hn with ⟨hs,rfl⟩ | ⟨src,entry,hs,_,rfl⟩
    · simp [hs]
    · simp [hs]

lemma admitFrom_length
    (h : admitFrom X lab acc hds = .ok last) : acc.entries.length ≤ last.entries.length := by
  induction hds generalizing acc with
  | nil =>
    cases h
    exact le_refl _
  | cons hd hds ih =>
    obtain ⟨next,hn,hr⟩ := bind_eq_ok.1 h
    have hle := ih hr
    rcases admitHead_cases acc hd hn with ⟨_,rfl⟩ | ⟨src,entry,_,_,rfl⟩
    · exact hle
    · simp only [length_append] at hle
      omega

/-- An admit head of the node that makes no entry. -/
def Malformed (X : Crates) (nodeLabel : String) (head : Event) : Prop :=
  ∃ source e, admitSource nodeLabel head = some source ∧ admitEntry X head source = .error e

lemma exists_malformed_iff (acc : Admits) : (∃ hd ∈ hds, Malformed X lab hd) ↔
    ∃ e, admitFrom X lab acc hds = .error e := by
  induction hds generalizing acc with
  | nil => simp [admitFrom]
  | cons hd hds ih =>
    rw [admitFrom,exists_mem_cons_iff]
    cases hn : admitHead X lab acc hd with
    | error e =>
      refine iff_of_true (.inl ?_) ⟨e,rfl⟩
      unfold admitHead at hn
      split at hn
      · cases hn
      · rename_i src hs
        split at hn
        · rename_i e' he
          exact ⟨src,e',hs,he⟩
        · cases hn
    | ok next =>
      refine (or_iff_right ?_).trans (ih next)
      rintro ⟨src,e,hs,he⟩
      simp [admitHead,hs,he] at hn

def AddsNothing (X : Crates) (nodeLabel : String) (claimed : Bool) (head : Event) : Prop :=
  admitSource nodeLabel head = none ∨ (claimed = true ∧ ∃ source, admitSource nodeLabel head = some source ∧
      admitEntry X head source = .ok none)

lemma answer_inj (hc : next.claimed = true)
    (h : next.answer = acc.answer) : acc.claimed = true ∧ next.entries = acc.entries := by
  cases ha : acc.claimed with
  | false => simp [Admits.answer,hc,ha] at h
  | true => simpa [Admits.answer,hc,ha] using h

lemma AddsNothing.admitHead {hd : Event}
    (h : AddsNothing X lab acc.claimed hd) : admitHead X lab acc hd = .ok acc := by
  rcases h with hs | ⟨hc,src,hs,he⟩
  · simp [LocalDeclarations.admitHead,hs]
  · cases acc
    simp_all [LocalDeclarations.admitHead]

lemma admitFrom_of_addsNothing (h : ∀ hd ∈ hds, AddsNothing X lab acc.claimed hd) :
    admitFrom X lab acc hds = .ok acc := by
  induction hds with
  | nil => rfl
  | cons hd hds ih =>
    obtain ⟨hhe,hh⟩ := forall_mem_cons.1 h
    rw [admitFrom,hhe.admitHead]
    exact ih hh

/-- A head that the loop passes without changing its answer in the end adds nothing. -/
lemma addsNothing_of_answer {hd : Event} (hn : admitHead X lab acc hd = .ok next)
    (hla : admitFrom X lab next hds = .ok last) (h : last.answer = acc.answer) :
    AddsNothing X lab acc.claimed hd := by
  rcases admitHead_cases acc hd hn with ⟨hs,_⟩ | ⟨src,en,hs,he,rfl⟩
  · exact .inl hs
  · have hc := (admitFrom_claimed hla).2 (.inl rfl)
    obtain ⟨ha,hen⟩ := answer_inj hc h
    have hl := admitFrom_length hla
    rw [hen,length_append] at hl
    have hno : en = none := by
      cases en with
      | none => rfl
      | some v => simp at hl
    exact .inr ⟨ha,src,hs,by rw [he,hno]⟩

lemma admitFrom_answer_iff (acc : Admits) (hds : List Event) :
    (admitFrom X lab acc hds).map Admits.answer = .ok acc.answer ↔
      ∀ hd ∈ hds, AddsNothing X lab acc.claimed hd := by
  constructor
  · intro h
    induction hds with
    | nil => simp
    | cons hd hds ih =>
      cases hf : admitFrom X lab acc (hd :: hds) with
      | error e => simp [hf,Except.map] at h
      | ok last =>
        have ha : last.answer = acc.answer := by simpa [hf,Except.map] using h
        obtain ⟨next,hne,hr⟩ := bind_eq_ok.1 hf
        have hn := addsNothing_of_answer hne hr ha
        have hs : next = acc := by
          rw [hn.admitHead] at hne
          exact (Except.ok.inj hne).symm
        subst hs
        exact forall_mem_cons.2 ⟨hn,ih (by simp [hr,Except.map,ha])⟩
  · intro h
    rw [admitFrom_of_addsNothing h]
    rfl

end

def shownHeads (events : List StoredEvent) (owner : PublicKey) : List Event :=
  (allHeads events owner).take defaultQueryLimit

def hiddenHeads (events : List StoredEvent) (owner : PublicKey) : List Event :=
  (allHeads events owner).drop defaultQueryLimit

/-- A head that is shown is malformed, or each that is not shown is no admit head of this node, or a
revoked one while the domain is claimed by a head that is shown. -/
def HiddenAddNothing (X : Crates) (nodeLabel : String) (shown hidden : List Event) : Prop :=
  (∃ head ∈ shown, Malformed X nodeLabel head) ∨ ∀ head ∈ hidden, admitSource nodeLabel head = none ∨
      ((∃ other ∈ shown, admitSource nodeLabel other ≠ none) ∧
        ∃ source, admitSource nodeLabel head = some source ∧ admitEntry X head source = .ok none)

/-- The admit domain is that of all effective declarations of the owner exactly when those
beyond the query limit add nothing. -/
theorem admit_domain_sees_all (X : Crates) (nodeLabel : String) (events : List StoredEvent)
    (owner : PublicKey) (h : EffectiveSet events) :
    admitDomainFromJournal X nodeLabel events owner = admitDomain X nodeLabel (allHeads events owner) ↔
      HiddenAddNothing X nodeLabel (shownHeads events owner) (hiddenHeads events owner) := by
  have hs : allHeads events owner = shownHeads events owner ++ hiddenHeads events owner :=
    (take_append_drop _ _).symm
  have hsh : admitDomainFromJournal X nodeLabel events owner =
      admitDomain X nodeLabel (shownHeads events owner) := by
    simp only [admitDomainFromJournal,declarationHeads_eq h owner,shownHeads]
  rw [hsh,hs,HiddenAddNothing,exists_malformed_iff ⟨false,[]⟩]
  simp only [admitDomain,admitFrom_append]
  cases hf : admitFrom X nodeLabel ⟨false,[]⟩ (shownHeads events owner) with
  | error e => simp [Except.map,Except.bind]
  | ok acc =>
    have hc := admitFrom_claimed hf
    have ha := @admitFrom_answer_iff X nodeLabel acc (hiddenHeads events owner)
    simp only [AddsNothing,hc,Bool.false_eq_true,false_or] at ha
    simp only [Except.bind,← ha]
    simp [Except.map,eq_comm]

def phoneContent : String := "\x7b\"principal\":\"phone\"\x7d"

def phoneGrant : Event where
  pubkey := firstKey
  createdAt := 1700000000
  kind := 30700
  tags := [⟨"d",["admit/phone"]⟩, ⟨"n",["laptop"]⟩, ⟨"p",[secondKey.toHex]⟩]
  content := phoneContent
  id := .ofNat 32 0xb083f965b7e415d7dd08287dd3aa59c2b05309e91bc284d84d6e67e2d530348c
  sig := .ofNat 64 0xa03ea4d4d996210e47b73ac4e1e7ca5830cc39ba673de52ee3386d3d27370acfd45ed76169062ac3874276c375cfbcff25f8de152870ed415a41eaf8e9638967

/-- serde_json on the content of the grant, and keys of the right length. -/
def grantCrates : Crates where
  parseJson := fun text =>
    if text = phoneContent then .ok (.object [("principal",.string "phone")])
    else .error "expected value at line 1 column 1"
  filtersFromValue := fun _ => .ok []
  publicKeyFromHex := HexText.FixedBytes.fromHex 32
  debugText := id

theorem admit_domain_sees_all_phone : EffectiveSet [⟨phoneGrant,none⟩] ∧
    admitDomainFromJournal grantCrates "laptop" [⟨phoneGrant,none⟩] phoneGrant.pubkey =
      admitDomain grantCrates "laptop" (allHeads [⟨phoneGrant,none⟩] phoneGrant.pubkey) ∧
    (admitDomain grantCrates "laptop" (allHeads [⟨phoneGrant,none⟩] phoneGrant.pubkey)).map
      (Option.map fun entries => entries.map Prod.fst) = .ok (some ["phone"]) := by
  have hs : EffectiveSet [⟨phoneGrant,none⟩] := ⟨by simp,by simp; decide⟩
  refine ⟨hs,(admit_domain_sees_all grantCrates "laptop" [⟨phoneGrant,none⟩] phoneGrant.pubkey
    hs).2 (.inr ?_),by decide +kernel⟩
  have hn : hiddenHeads [⟨phoneGrant,none⟩] phoneGrant.pubkey = [] := by decide +kernel
  simp [hn]

/-- A newer declaration of the same owner that is about something else. -/
def exportHead (n : ℕ) : Event where
  pubkey := phoneGrant.pubkey
  createdAt := 1700000001 + n
  kind := 30700
  tags := [⟨"d",["export/" ++ n.repr]⟩,⟨"n",["laptop"]⟩]
  content := ""
  id := .ofNat 32 n
  sig := .ofNat 64 0

/-- The grant, and as many newer declarations as the query shows. -/
def crowdedEvents : List StoredEvent :=
  (range defaultQueryLimit).reverse.map (fun n => ⟨exportHead n,none⟩) ++ [⟨phoneGrant,none⟩]

lemma effectiveSet_crowdedEvents : EffectiveSet crowdedEvents := by
  constructor
  · have hid : crowdedEvents.map (fun s => s.event.id) =
        (range defaultQueryLimit).reverse.map (.ofNat 32) ++ [phoneGrant.id] := by
      simp [crowdedEvents,exportHead]
    rw [hid]
    refine nodup_append'.2 ⟨?_,by simp,?_⟩
    · apply List.Nodup.map_on
      · intro n hn m hm heq
        simp only [mem_reverse,mem_range,defaultQueryLimit] at hn hm
        exact HexText.FixedBytes.ofNat_inj_of_lt (by omega) (by omega) heq
      · exact nodup_reverse.2 nodup_range
    · intro i hi hg
      obtain ⟨n,hn,rfl⟩ := mem_map.1 hi
      simp only [mem_reverse,mem_range,defaultQueryLimit] at hn
      have hl := HexText.FixedBytes.ofNat_inj (hn.trans (by norm_num)) (by norm_num) (mem_singleton.1 hg)
      omega
  · intro s hs
    rcases mem_append.1 hs with hs | hs
    · obtain ⟨n,_,rfl⟩ := mem_map.1 hs
      rfl
    · rw [mem_singleton.1 hs]
      rfl

/-- With five hundred newer declarations the grant is no longer seen, and the node falls back
to its bootstrap configuration. -/
theorem crowded_grant_forgotten : EffectiveSet crowdedEvents ∧
    (admitDomainFromJournal grantCrates "laptop" crowdedEvents phoneGrant.pubkey).map
      Option.isSome = .ok false ∧
      (admitDomain grantCrates "laptop" (allHeads crowdedEvents phoneGrant.pubkey)).map
      Option.isSome = .ok true := by
  refine ⟨effectiveSet_crowdedEvents,?_,by decide +kernel⟩
  simp only [admitDomainFromJournal,declarationHeads_eq effectiveSet_crowdedEvents]
  decide +kernel

end BuzzSolo.LocalDeclarations
