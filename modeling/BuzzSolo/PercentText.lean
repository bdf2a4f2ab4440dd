import BuzzSolo.ByteText
import BuzzSolo.HexText

/-! Percent-encoding of bytes that leaves nothing but letters and digits as they are. Decoding
gives the bytes back, and an encoded text contains no delimiter. -/
namespace BuzzSolo.PercentText

open HexText ByteText List

def upperDigit (n : ℕ) : Char := if n < 10 then Char.ofNat (n+48) else Char.ofNat (n+55)

def isPlain (c : Char) : Bool := ('0' ≤ c && c ≤ '9') || ('A' ≤ c && c ≤ 'Z') || ('a' ≤ c && c ≤ 'z')

def encodeByte (b : UInt8) : List Char :=
  if isPlain (Char.ofNat b.toNat) then [Char.ofNat b.toNat]
  else ['%',upperDigit (b.toNat/16),upperDigit (b.toNat%16)]

def encode (bytes : List UInt8) : List Char := bytes.flatMap encodeByte

/-- A percent sign without two digits after it stands for itself. -/
def decode : List UInt8 → List UInt8
  | [] => []
  | b :: rest =>
    if b = ascii '%' then
      match rest with
      | hi :: lo :: tail =>
        match digitValue (Char.ofNat hi.toNat), digitValue (Char.ofNat lo.toNat) with
        | some h, some l => UInt8.ofNat (16*h+l) :: decode tail
        | _, _ => b :: decode (hi :: lo :: tail)
      | rest => b :: decode rest
    else b :: decode rest

lemma isPlain_iff {c : Char} : isPlain c = true ↔
    (48 ≤ c.toNat ∧ c.toNat ≤ 57) ∨ (65 ≤ c.toNat ∧ c.toNat ≤ 90) ∨ (97 ≤ c.toNat ∧ c.toNat ≤ 122) := by
  simp [isPlain,Char.le_def,UInt32.le_iff_toNat_le,or_assoc]

lemma upperDigit_spec : ∀ n : Fin 16, isPlain (upperDigit n.val) = true ∧
    digitValue (Char.ofNat (ascii (upperDigit n.val)).toNat) = some n.val := by
  decide

lemma toNat_ofNat_byte (b : UInt8) : (Char.ofNat b.toNat).toNat = b.toNat := by
  have hb := b.toNat_lt
  have hv : b.toNat.isValidChar := .inl (by omega)
  rw [Char.ofNat,dif_pos hv]
  rfl

lemma mem_encode {bs : List UInt8} {c : Char} (h : c ∈ encode bs) : c = '%' ∨ isPlain c = true := by
  obtain ⟨b,-,hb⟩ := mem_flatMap.1 h
  have hby := b.toNat_lt
  unfold encodeByte at hb
  split at hb
  · rename_i hp
    rw [mem_singleton.1 hb]
    exact .inr hp
  · simp only [mem_cons,not_mem_nil,or_false] at hb
    rcases hb with rfl | rfl | rfl
    · exact .inl rfl
    · exact .inr (upperDigit_spec ⟨b.toNat/16,by omega⟩).1
    · exact .inr (upperDigit_spec ⟨b.toNat%16,by omega⟩).1

lemma decode_cons {b : UInt8} (h : b ≠ ascii '%') (rest : List UInt8) :
    decode (b :: rest) = b :: decode rest := by
  rw [decode.eq_def]
  simp only [if_neg h]

lemma decode_encodeByte (b : UInt8) (rest : List UInt8) :
    decode ((encodeByte b).map ascii ++ rest) = b :: decode rest := by
  have hby := b.toNat_lt
  unfold encodeByte
  split
  · rename_i hp
    have hb : ascii (Char.ofNat b.toNat) = b := by rw [ascii,toNat_ofNat_byte,UInt8.ofNat_toNat]
    have hne : b ≠ ascii '%' := by
      rintro rfl
      exact absurd hp (by decide)
    rw [map_singleton,hb,singleton_append,decode_cons hne]
  · have hh := (upperDigit_spec ⟨b.toNat/16,by omega⟩).2
    have hl := (upperDigit_spec ⟨b.toNat%16,by omega⟩).2
    have hs : 16*(b.toNat/16)+b.toNat%16 = b.toNat := Nat.div_add_mod _ _
    simp only [map_cons,map_nil,cons_append,nil_append,decode,if_true,hh,hl,hs, UInt8.ofNat_toNat]

lemma decode_encode (bs : List UInt8) : decode ((encode bs).map ascii) = bs := by
  induction bs with
  | nil => rfl
  | cons b bs ih =>
    rw [encode,flatMap_cons,map_append,decode_encodeByte]
    exact congrArg _ ih

end BuzzSolo.PercentText
