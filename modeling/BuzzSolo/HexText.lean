import Mathlib.Tactic

/-! Lowercase hexadecimal text for byte strings: the encoder, a decoder that also reads
uppercase digits, and the two round trips between them. -/
namespace BuzzSolo.HexText

open List String

abbrev Byte := Fin 256

instance neZero_byteCount : NeZero 256 := ⟨by decide⟩

def encodeByte (b : Byte) : List Char := [Nat.digitChar (b.val/16),Nat.digitChar (b.val%16)]

def encode (bs : List Byte) : List Char := bs.flatMap encodeByte

def isLowerHexChar (c : Char) : Bool := ('0' ≤ c && c ≤ '9') || ('a' ≤ c && c ≤ 'f')

def digitValue (c : Char) : Option ℕ :=
  if '0' ≤ c ∧ c ≤ '9' then some (c.toNat - 48)
  else if 'a' ≤ c ∧ c ≤ 'f' then some (c.toNat - 87)
  else if 'A' ≤ c ∧ c ≤ 'F' then some (c.toNat - 55)
  else none

def decode : List Char → Option (List Byte)
  | [] => some []
  | [_] => none
  | hi :: lo :: rest =>
    match digitValue hi, digitValue lo, decode rest with
    | some h, some l, some bs => some (Fin.ofNat 256 (16*h+l) :: bs)
    | _, _, _ => none

lemma digitValue_digitChar : ∀ n : Fin 16, digitValue (Nat.digitChar n.val) = some n.val := by
  decide

lemma isLowerHexChar_digitChar : ∀ n : Fin 16, isLowerHexChar (Nat.digitChar n.val) = true := by
  decide

lemma decode_encode (bs : List Byte) : decode (encode bs) = some bs := by
  induction bs with
  | nil => rfl
  | cons b bs ih =>
    have hh := digitValue_digitChar ⟨b.val/16,by omega⟩
    have hl := digitValue_digitChar ⟨b.val%16,by omega⟩
    have hb : Fin.ofNat 256 (16*(b.val/16)+b.val%16) = b := by
      apply Fin.ext
      simp only [Fin.ofNat]
      omega
    change decode (Nat.digitChar (b.val/16) :: Nat.digitChar (b.val%16) :: encode bs) = _
    simp only [decode,hh,hl,ih,hb]

lemma encode_injective : Function.Injective encode := by
  intro a b h
  have hd := congrArg decode h
  rw [decode_encode,decode_encode] at hd
  exact Option.some.inj hd

lemma digitChar_lt : ∀ m n : Fin 16, m < n → Nat.digitChar m.val < Nat.digitChar n.val := by
  decide

/-- The digits are ordered as the bytes are. -/
lemma encode_lt : ∀ {as bs : List Byte}, as < bs → encode as < encode bs
  | [],[],h => absurd h (lt_irrefl _)
  | [],_ :: _,_ => .nil
  | _ :: _,[],h => absurd h (not_lt_nil _)
  | a :: as,b :: bs,h => by
    simp only [encode,flatMap_cons,encodeByte,cons_append,nil_append,cons_lt_cons_iff] at h ⊢
    rcases h with h | ⟨rfl,h⟩
    · rcases (Nat.div_le_div_right (c := 16) h.le).lt_or_eq with hq | hq
      · exact .inl (digitChar_lt ⟨_,by omega⟩ ⟨_,by omega⟩ hq)
      · have hm : a.val%16 < b.val%16 := by rw [Fin.lt_def] at h; omega
        exact .inr ⟨by rw [hq],.inl (digitChar_lt ⟨_,by omega⟩ ⟨_,by omega⟩ hm)⟩
    · exact .inr ⟨rfl,.inr ⟨rfl,encode_lt h⟩⟩

lemma isLowerHexChar_of_mem_encode (bs : List Byte) (c : Char) (hc : c ∈ encode bs) :
    isLowerHexChar c = true := by
  obtain ⟨b,-,hb⟩ := mem_flatMap.1 hc
  have hh := isLowerHexChar_digitChar ⟨b.val/16,by omega⟩
  have hl := isLowerHexChar_digitChar ⟨b.val%16,by omega⟩
  rcases mem_cons.1 hb with rfl | hb
  · exact hh
  · exact mem_singleton.1 hb ▸ hl

lemma digitChar_of_digitValue (c : Char) (hc : isLowerHexChar c = true) :
    ∃ n : Fin 16, digitValue c = some n.val ∧ Nat.digitChar n.val = c := by
  have hm : c ∈ (finRange 16).map fun n : Fin 16 => Nat.digitChar n.val := by
    have hca : (48 ≤ c.toNat ∧ c.toNat ≤ 57) ∨ (97 ≤ c.toNat ∧ c.toNat ≤ 102) := by
      simpa [isLowerHexChar,Char.le_def,UInt32.le_iff_toNat_le] using hc
    have hl : c.toNat ∈ [48,49,50,51,52,53,54,55,56,57,97,98,99,100,101,102] := by
      simp only [mem_cons]
      omega
    have hof : c = Char.ofNat c.toNat := (Char.ofNat_toNat c).symm
    rw [hof]
    revert hl
    generalize c.toNat = n
    intro hl
    simp only [mem_cons,not_mem_nil,or_false] at hl
    rcases hl with rfl | rfl | rfl | rfl | rfl | rfl | rfl | rfl | rfl | rfl | rfl | rfl |
      rfl | rfl | rfl | rfl <;> decide
  obtain ⟨n,-,hn⟩ := mem_map.1 hm
  exact ⟨n,hn ▸ digitValue_digitChar n,hn⟩

lemma length_of_decode : ∀ (cs : List Char) (bs : List Byte), decode cs = some bs → cs.length = 2*bs.length
  | [], bs, h => by
    have hb : [] = bs := by simpa [decode] using h
    simp [← hb]
  | [_], bs, h => by simp [decode] at h
  | hi :: lo :: rest, bs, h => by
    cases hd : decode rest with
    | none => simp [decode,hd] at h
    | some tl =>
      have hl := length_of_decode rest tl hd
      simp only [decode,hd] at h
      split at h
      next hde =>
        cases h
        cases hde
        simp only [length_cons]
        omega
      · simp at h

/-- Decoding reads back what it was given whenever the text is lowercase. -/
lemma encode_decode : ∀ (cs : List Char) (bs : List Byte),
    (∀ c ∈ cs, isLowerHexChar c = true) → decode cs = some bs → encode bs = cs
  | [], bs, _, h => by
    have hb : [] = bs := by simpa [decode] using h
    subst hb
    rfl
  | [_], bs, _, h => by simp [decode] at h
  | hi :: lo :: rest, bs, hl, h => by
    obtain ⟨n,hn,hnc⟩ := digitChar_of_digitValue hi (hl hi (by simp))
    obtain ⟨m,hm,hmc⟩ := digitChar_of_digitValue lo (hl lo (by simp))
    cases ht : decode rest with
    | none => simp [decode,ht] at h
    | some tl =>
      have hb : Fin.ofNat 256 (16*n.val+m.val) :: tl = bs := by simpa [decode,hn,hm,ht] using h
      have hr := encode_decode rest tl (fun c hc => hl c (by simp [hc])) ht
      have hd : (16*n.val+m.val)%256/16 = n.val := by omega
      have hmo : (16*n.val+m.val)%256%16 = m.val := by omega
      subst hb
      change Nat.digitChar ((16*n.val+m.val)%256/16) :: Nat.digitChar ((16*n.val+m.val)%256%16) :: encode tl =
        _
      rw [hd,hmo,hnc,hmc,hr]

lemma exists_encode : ∀ (n : ℕ) (cs : List Char), cs.length = 2*n →
    (∀ c ∈ cs, isLowerHexChar c = true) → ∃ bs, bs.length = n ∧ encode bs = cs
  | 0,cs,hl,_ => ⟨[],rfl,(eq_nil_of_length_eq_zero hl).symm⟩
  | n + 1,[],hl,_ | n + 1,[_],hl,_ => by simp at hl; try omega
  | n + 1,hi :: lo :: rest,hl,h => by
    obtain ⟨k,-,rfl⟩ := digitChar_of_digitValue hi (h hi (by simp))
    obtain ⟨m,-,rfl⟩ := digitChar_of_digitValue lo (h lo (by simp))
    obtain ⟨bs,hb,rfl⟩ := exists_encode n rest (by simp at hl; omega) fun c hc => h c (by simp [hc])
    have hd : (16*k.val+m.val)/16 = k.val := by omega
    have hmo : (16*k.val+m.val)%16 = m.val := by omega
    refine ⟨⟨16*k.val+m.val,by omega⟩ :: bs,by simp [hb],?_⟩
    simp [encode,encodeByte,hd,hmo]

structure FixedBytes (n : ℕ) where
  bytes : List Byte
  length_bytes : bytes.length = n
  deriving DecidableEq

namespace FixedBytes

variable {n : ℕ}

lemma bytes_injective : Function.Injective (FixedBytes.bytes (n := n)) := by
  rintro ⟨a,ha⟩ ⟨b,hb⟩ h
  simpa using h

/-- Byte strings compare lexicographically. -/
instance : LinearOrder (FixedBytes n) := LinearOrder.lift' FixedBytes.bytes bytes_injective

def toHex (b : FixedBytes n) : String := String.ofList (encode b.bytes)

def fromHex (n : ℕ) (s : String) : Option (FixedBytes n) :=
  match decode s.toList with
  | none => none
  | some bs => if h : bs.length = n then some ⟨bs,h⟩ else none

def ofNat (n v : ℕ) : FixedBytes n := ⟨(range n).map fun i => Fin.ofNat 256 (v/256^(n-1-i)),by simp⟩

lemma eq_of_digits {v w : ℕ} (hv : v < 256^n) (hw : w < 256^n)
    (h : ∀ i < n, v/256^i%256 = w/256^i%256) : v = w := by
  induction n generalizing v w with
  | zero => omega
  | succ n ih =>
    have hl := h 0 (by omega)
    have hh : v/256 = w/256 := by
      refine ih (by omega) (by omega) fun i hi => ?_
      have hn := h (i+1) (by omega)
      rwa [pow_succ',← Nat.div_div_eq_div_mul,← Nat.div_div_eq_div_mul] at hn
    omega

lemma ofNat_inj {v w : ℕ} (hv : v < 256^n) (hw : w < 256^n) (h : ofNat n v = ofNat n w) : v = w := by
  refine eq_of_digits hv hw fun i hi => ?_
  have hb := congrArg (fun b : FixedBytes n => b.bytes[n-1-i]?) h
  have hin : n-1-(n-1-i) = i := by omega
  simpa [ofNat,show n-1-i < n by omega,hin,Fin.ext_iff] using hb

lemma ofNat_inj_of_lt {v w : ℕ} (hv : v < 65536) (hw : w < 65536) (h : ofNat 32 v = ofNat 32 w) : v = w :=
  ofNat_inj (hv.trans (by norm_num)) (hw.trans (by norm_num)) h

lemma toHex_injective : Function.Injective (toHex (n := n)) := by
  intro a b h
  have he : encode a.bytes = encode b.bytes := by
    simpa [toHex] using congrArg toList h
  exact bytes_injective (encode_injective he)

@[simp] lemma toHex_inj {a b : FixedBytes n} : a.toHex = b.toHex ↔ a = b := toHex_injective.eq_iff

lemma toHex_lt {a b : FixedBytes n} (h : a < b) : a.toHex < b.toHex := by
  rw [String.lt_iff,toHex,toHex,String.toList_ofList,String.toList_ofList]
  exact encode_lt h

lemma fromHex_toHex (b : FixedBytes n) : fromHex n b.toHex = some b := by
  simp [fromHex,toHex,decode_encode,b.length_bytes]

lemma length_of_fromHex {s : String} {b : FixedBytes n} (h : fromHex n s = some b) :
    s.toList.length = 2*n := by
  unfold fromHex at h
  cases hd : decode s.toList with
  | none => simp [hd] at h
  | some bs =>
    simp only [hd] at h
    split at h
    · rename_i hl
      rw [length_of_decode _ _ hd,hl]
    · simp at h

lemma toHex_of_fromHex {s : String} {b : FixedBytes n}
    (hl : ∀ c ∈ s.toList, isLowerHexChar c = true) (h : fromHex n s = some b) : b.toHex = s := by
  unfold fromHex at h
  cases hd : decode s.toList with
  | none => simp [hd] at h
  | some bs =>
    simp only [hd] at h
    split at h
    · have hb : bs = b.bytes := by rw [← Option.some.inj h]
      rw [toHex,← hb,encode_decode s.toList bs hl hd,ofList_toList]
    · simp at h

lemma exists_toHex {s : String} (h : ∀ c ∈ s.toList, isLowerHexChar c = true) (hl : s.toList.length = 2*n) :
    ∃ b : FixedBytes n, b.toHex = s := by
  obtain ⟨bs,hb,he⟩ := exists_encode n s.toList hl h
  exact ⟨⟨bs,hb⟩,by rw [toHex,he,ofList_toList]⟩

end FixedBytes

end BuzzSolo.HexText
