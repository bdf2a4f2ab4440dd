import BuzzSolo.Checks
import BuzzSolo.DecimalText
import BuzzSolo.Event

/-! Owner attestations. An `auth` tag, in which an owner key signs the agent key under conditions,
makes the owner the effective owner of an event. The signature check belongs to a crate outside the
repository. -/
namespace BuzzSolo

open DecimalText HexText List

/-- Whether the key's Schnorr signature, given in hex, of the hash of the text verifies. -/
structure Schnorr where
  verify : PublicKey → String → String → Bool

variable (v : List Char)

namespace OwnerAttestation

def isAsciiWhitespace (c : Char) : Bool :=
  c.toNat = 0x20 || c.toNat = 9 || c.toNat = 10 || c.toNat = 12 || c.toNat = 13

def validateCanonicalDecimal (value : List Char) (low high : ℕ) : Bool :=
  !value.isEmpty && !(1 < value.length && value.head? = some '0') && value.all Char.isDigit &&
    match parseUnsigned (2^64) value with
    | some n => low ≤ n && n ≤ high
    | none => false

def validateClause (clause : List Char) : Bool :=
  match clause.dropPrefix? "kind=".toList with
  | some value => validateCanonicalDecimal value 0 65535
  | none =>
    match clause.dropPrefix? "created_at<".toList with
    | some value => validateCanonicalDecimal value 0 4294967295
    | none =>
      match clause.dropPrefix? "created_at>".toList with
      | some value => validateCanonicalDecimal value 0 4294967295
      | none => false

def validateConditions (conditions : String) : Bool :=
  conditions.isEmpty || (!conditions.toList.any isAsciiWhitespace &&
    (conditions.toList.splitOn '&').all fun clause => !clause.isEmpty && validateClause clause)

def buildPreimage (agent : PublicKey) (conditions : String) : String :=
  "nostr:agent-auth:" ++ agent.toHex ++ ":" ++ conditions

/-- The owner a tag proves for the agent. The tag comes as its array of strings, which
serde_json writes and reads back on the way. -/
def verifyAuthTag (S : Schnorr) (authTag : List String) (agent : PublicKey) : Option PublicKey :=
  match authTag with
  | [label,ownerHex,conditions,sigHex] =>
    if label ≠ "auth" then none
    else
      match FixedBytes.fromHex 32 ownerHex with
      | none => none
      | some owner =>
        if !validateConditions conditions then none
        else if owner = agent then none
        else if S.verify owner (buildPreimage agent conditions) sigHex then some owner
        else none
  | _ => none

def clauseCovers (kind createdAt : ℕ) (clause : List Char) : Bool :=
  if clause.isEmpty then true
  else
    match clause.dropPrefix? "kind=".toList with
    | some value => (parseUnsigned (2^16) value).any fun required => required = kind
    | none =>
      match clause.dropPrefix? "created_at<".toList with
      | some value => (parseUnsigned (2^64) value).any fun limit => createdAt < limit
      | none =>
        match clause.dropPrefix? "created_at>".toList with
        | some value => (parseUnsigned (2^64) value).any fun limit => limit < createdAt
        | none => false

def conditionsCover (conditions : String) (kind createdAt : ℕ) : Bool :=
  (conditions.toList.splitOn '&').all (clauseCovers kind createdAt)

def eventOwner (S : Schnorr) (event : EventBody) : Except String PublicKey :=
  match event.tagsNamed "auth" with
  | [] => .ok event.pubkey
  | [tag] =>
    match verifyAuthTag S tag.asSlice event.pubkey with
    | none => .error "owner-attestation signature is invalid"
    | some owner =>
      match tag.asSlice[2]? with
      | none => .error "owner-attestation conditions are missing"
      | some conditions =>
        if conditionsCover conditions event.kind event.createdAt then .ok owner
        else .error "owner-attestation conditions do not cover this event"
  | _ => .error "event must carry at most one owner-attestation tag"

inductive Clause
  | kind (n : ℕ)
  | createdBefore (n : ℕ)
  | createdAfter (n : ℕ)
  deriving DecidableEq, Inhabited

namespace Clause

def word : Clause → String
  | kind _ => "kind="
  | createdBefore _ => "created_at<"
  | createdAfter _ => "created_at>"

def value : Clause → ℕ
  | kind n | createdBefore n | createdAfter n => n

def limit : Clause → ℕ
  | kind _ => 65535
  | createdBefore _ | createdAfter _ => 4294967295

def text (c : Clause) : List Char := c.word.toList ++ Nat.toDigits 10 c.value

def Holds (eventKind createdAt : ℕ) : Clause → Prop
  | kind n => eventKind = n
  | createdBefore n => createdAt < n
  | createdAfter n => n < createdAt

end Clause

def conditionsText (clauses : List Clause) : String :=
  String.ofList (['&'].intercalate (clauses.map Clause.text))

lemma eq_toDigits_of_validateCanonicalDecimal {v : List Char} {hi : ℕ}
    (h : validateCanonicalDecimal v 0 hi = true) : ∃ n ≤ hi, v = Nat.toDigits 10 n := by
  simp only [validateCanonicalDecimal,Bool.and_eq_true,Bool.not_eq_true',isEmpty_eq_false_iff,
    all_eq_true,Bool.and_eq_false_iff,decide_eq_false_iff_not] at h
  obtain ⟨⟨⟨hne,hz⟩,ha⟩,hr⟩ := h
  have hd : Nat.toDigits 10 (Nat.ofDigitChars 10 v 0) = v := by
    apply toDigits_ofDigitChars hne ha
    intro hh
    have hl := length_pos_iff.2 hne
    rcases hz with hs | hh'
    · omega
    · exact absurd hh hh'
  refine ⟨Nat.ofDigitChars 10 v 0,?_,hd.symm⟩
  rw [← hd,parseUnsigned_toDigits_eq] at hr
  split_ifs at hr with hw
  simpa using hr

lemma dropPrefix_append (p v : List Char) : (p ++ v).dropPrefix? p = some v :=
  dropPrefix?_append_of_beq v (beq_self_eq_true p)

lemma eq_append_of_dropPrefix {clause p v : List Char} (h : clause.dropPrefix? p = some v) :
    clause = p ++ v := by
  obtain ⟨p',rfl,hp⟩ := dropPrefix?_eq_some_iff.1 h
  rw [eq_of_beq hp]

lemma before_ne_kind : ("created_at<".toList ++ v).dropPrefix? "kind=".toList = none := by
  simp [dropPrefix?]

lemma after_ne_kind : ("created_at>".toList ++ v).dropPrefix? "kind=".toList = none := by
  simp [dropPrefix?]

lemma after_ne_before : ("created_at>".toList ++ v).dropPrefix? "created_at<".toList = none := by
  simp [dropPrefix?]

lemma exists_clause_of_validateClause {clause : List Char} (h : validateClause clause = true) :
    ∃ c : Clause, c.value ≤ c.limit ∧ clause = c.text := by
  unfold validateClause at h
  cases hk : clause.dropPrefix? "kind=".toList with
  | some v =>
    rw [hk] at h
    obtain ⟨n,hn,rfl⟩ := eq_toDigits_of_validateCanonicalDecimal h
    exact ⟨.kind n,hn,eq_append_of_dropPrefix hk⟩
  | none =>
    rw [hk] at h
    cases hb : clause.dropPrefix? "created_at<".toList with
    | some v =>
      rw [hb] at h
      obtain ⟨n,hn,rfl⟩ := eq_toDigits_of_validateCanonicalDecimal h
      exact ⟨.createdBefore n,hn,eq_append_of_dropPrefix hb⟩
    | none =>
      rw [hb] at h
      cases ha : clause.dropPrefix? "created_at>".toList with
      | some v =>
        rw [ha] at h
        obtain ⟨n,hn,rfl⟩ := eq_toDigits_of_validateCanonicalDecimal h
        exact ⟨.createdAfter n,hn,eq_append_of_dropPrefix ha⟩
      | none =>
        rw [ha] at h
        cases h

lemma clauseCovers_text {c : Clause} (hr : c.value ≤ c.limit) (eventKind createdAt : ℕ) :
    clauseCovers eventKind createdAt c.text = true ↔ c.Holds eventKind createdAt := by
  have he : c.text.isEmpty = false := by
    simp [Clause.text]
  rw [clauseCovers,he,if_neg Bool.false_ne_true]
  unfold Clause.text
  cases c with
  | kind n =>
    have hn : n ≤ 65535 := hr
    have hp : parseUnsigned (2^16) (Nat.toDigits 10 n) = some n := parseUnsigned_toDigits (by omega)
    rw [Clause.word,dropPrefix_append]
    simp only [Clause.value,hp,Option.any_some,decide_eq_true_eq]
    exact eq_comm
  | createdBefore n =>
    have hn : n ≤ 4294967295 := hr
    have hp : parseUnsigned (2^64) (Nat.toDigits 10 n) = some n := parseUnsigned_toDigits (by omega)
    rw [Clause.word,before_ne_kind,dropPrefix_append]
    simp only [Clause.value,hp,Option.any_some,decide_eq_true_eq,Clause.Holds]
  | createdAfter n =>
    have hn : n ≤ 4294967295 := hr
    have hp : parseUnsigned (2^64) (Nat.toDigits 10 n) = some n := parseUnsigned_toDigits (by omega)
    rw [Clause.word,after_ne_kind,after_ne_before,dropPrefix_append]
    simp only [Clause.value,hp,Option.any_some,decide_eq_true_eq,Clause.Holds]

lemma exists_clauses_of_validateConditions {conds : String} (h : validateConditions conds = true) :
    conds = "" ∨ ∃ clauses : List Clause, (∀ c ∈ clauses, c.value ≤ c.limit) ∧
        conds.toList.splitOn '&' = clauses.map Clause.text := by
  rcases (Bool.or_eq_true _ _).mp h with he | hch
  · exact .inl (by simpa using he)
  · rw [Bool.and_eq_true,all_eq_true] at hch
    have hcl : ∀ p ∈ conds.toList.splitOn '&', ∃ c : Clause, c.value ≤ c.limit ∧ p = c.text := by
      intro p hp
      have hv := hch.2 p hp
      rw [Bool.and_eq_true] at hv
      exact exists_clause_of_validateClause hv.2
    choose! clauseOf hr ht using hcl
    refine .inr ⟨(conds.toList.splitOn '&').map clauseOf,?_,?_⟩
    · intro c hc
      obtain ⟨p,hp,rfl⟩ := mem_map.1 hc
      exact hr p hp
    · rw [map_map]
      exact (map_id _).symm.trans (map_congr_left ht)

lemma conditionsCover_iff {conds : String} {clauses : List Clause} (hr : ∀ c ∈ clauses, c.value ≤ c.limit)
    (hs : conds.toList.splitOn '&' = clauses.map Clause.text) (eventKind createdAt : ℕ) :
    conditionsCover conds eventKind createdAt = true ↔ ∀ c ∈ clauses, c.Holds eventKind createdAt := by
  rw [conditionsCover,hs,all_map,all_eq_true]
  exact forall₂_congr fun c hc => clauseCovers_text (hr c hc) eventKind createdAt

lemma validateConditions_of_verifyAuthTag {S : Schnorr} {authTag : List String}
    {ag ow : PublicKey} {conds : String} (h : verifyAuthTag S authTag ag = some ow)
    (hc : authTag[2]? = some conds) : validateConditions conds = true := by
  unfold verifyAuthTag at h
  split at h
  · cases hc
    split at h
    · cases h
    · split at h
      · cases h
      · split at h
        · cases h
        · rename_i hv
          simpa using hv
  · cases h

/-- An attestation's conditions mean what they say: a validated text is that of clauses, and
it covers the events of which every clause holds; a text that fails its validation is in no
tag that proves an owner. -/
theorem conditions_mean_clauses (S : Schnorr) (conditions : String) :
    (validateConditions conditions = true → ∃ clauses : List Clause,
      conditions = conditionsText clauses ∧ ∀ eventKind createdAt,
        conditionsCover conditions eventKind createdAt = true ↔ ∀ c ∈ clauses, c.Holds eventKind createdAt) ∧
    (validateConditions conditions = false → ∀ (event : EventBody) (tag : Tag),
      tag ∈ event.tags → tag.name = "auth" → tag.asSlice[2]? = some conditions →
        ∀ owner, eventOwner S event ≠ .ok owner) := by
  constructor
  · intro hv
    rcases exists_clauses_of_validateConditions hv with rfl | ⟨clauses,hr,hs⟩
    · exact ⟨[],rfl,by simp [conditionsCover,clauseCovers]⟩
    · refine ⟨clauses,?_,conditionsCover_iff hr hs⟩
      rw [conditionsText,← hs,intercalate_splitOn,String.ofList_toList]
  · intro hi event tag hm hn hc owner ho
    have ha : tag ∈ event.tagsNamed "auth" := by
      simp [EventBody.tagsNamed,hm,hn]
    unfold eventOwner at ho
    split at ho
    · rename_i hno
      simp [hno] at ha
    · rename_i only hon
      rw [hon,mem_singleton] at ha
      subst ha
      split at ho
      · cases ho
      · rename_i proved hp
        rw [validateConditions_of_verifyAuthTag hp hc] at hi
        cases hi
    · cases ho

theorem conditions_mean_clauses_kind : validateConditions "kind=1&created_at<100" = true ∧
      (∃ clauses : List Clause, "kind=1&created_at<100" = conditionsText clauses ∧
        ∀ c ∈ clauses, c.Holds 1 99) ∧
      validateConditions "kind=01" = false ∧ conditionsCover "kind=01" 1 99 = true ∧
      ∀ (S : Schnorr) (pubkey owner : PublicKey) (ownerHex sigHex : String),
        eventOwner S ⟨pubkey,99,1,[⟨"auth",[ownerHex,"kind=01",sigHex]⟩],""⟩ ≠ .ok owner := by
  refine ⟨by decide +kernel,?_,by decide +kernel,by decide +kernel,?_⟩
  · obtain ⟨clauses,ht,hc⟩ :=
      (conditions_mean_clauses ⟨fun _ _ _ => true⟩ "kind=1&created_at<100").1 (by decide +kernel)
    exact ⟨clauses,ht,(hc 1 99).1 (by decide +kernel)⟩
  · intro S pubkey owner ownerHex sigHex
    exact (conditions_mean_clauses S "kind=01").2 (by decide +kernel) _
      ⟨"auth",[ownerHex,"kind=01",sigHex]⟩ (by simp) rfl rfl owner

end OwnerAttestation
end BuzzSolo
