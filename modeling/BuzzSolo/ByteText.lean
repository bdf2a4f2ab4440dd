import Mathlib.Tactic

/-! Text as bytes and bytes as text: UTF-8, and base64 with canonical padding. Both are read back
exactly, and a text that is read at all is the one that writing gives. -/
namespace BuzzSolo.ByteText

open List Option

def utf8 (s : String) : List UInt8 := s.toList.flatMap String.utf8EncodeChar

def fromUtf8 (bytes : List UInt8) : Option String := String.fromUTF8? bytes.toByteArray

lemma toByteArray_utf8 (s : String) : (utf8 s).toByteArray = s.toByteArray := by
  have h := String.toByteArray_ofList (l := s.toList)
  rw [String.ofList_toList] at h
  exact h.symm

lemma fromUtf8_utf8 (s : String) : fromUtf8 (utf8 s) = some s := by
  rw [fromUtf8,toByteArray_utf8,String.fromUTF8?,dif_pos s.isValidUTF8]
  rfl

lemma utf8_of_fromUtf8 {bs : List UInt8} {s : String} (h : fromUtf8 bs = some s) : utf8 s = bs := by
  rw [fromUtf8,String.fromUTF8?] at h
  split at h
  next hv =>
    have hb : s.toByteArray = bs.toByteArray := by
      rw [← some.inj h]
      rfl
    have hl := congrArg (fun b : ByteArray => b.data.toList) ((toByteArray_utf8 s).trans hb)
    simpa using hl
  · cases h

lemma utf8_injective : Function.Injective utf8 := by
  intro s t h
  have hr := fromUtf8_utf8 s
  rw [h,fromUtf8_utf8] at hr
  exact (some.inj hr).symm

lemma length_utf8 (s : String) : (utf8 s).length = s.utf8ByteSize := by
  have h := congrArg ByteArray.size (toByteArray_utf8 s)
  simpa using h

def ascii (c : Char) : UInt8 := UInt8.ofNat c.toNat

lemma utf8_of_ascii {s : String} (h : ∀ c ∈ s.toList, c.toNat < 128) : utf8 s = s.toList.map ascii := by
  have hf : ∀ l : List Char, (∀ c ∈ l, c.toNat < 128) → l.flatMap String.utf8EncodeChar = l.map ascii := by
    intro l
    induction l with
    | nil => simp
    | cons c l ih =>
      intro hl
      have hc : c.val.toNat ≤ 127 := Nat.le_of_lt_succ (hl c (by simp))
      rw [flatMap_cons,map_cons,ih fun d hd => hl d (by simp [hd])]
      simp only [String.utf8EncodeChar,if_pos hc]
      rfl
  exact hf s.toList h

lemma utf8ByteSize_of_ascii {s : String} (h : ∀ c ∈ s.toList, c.toNat < 128) :
    s.utf8ByteSize = s.toList.length := by
  rw [← length_utf8,utf8_of_ascii h,length_map]

lemma part_unique {α : Type} {a : α} {l₁ l₂ r₁ r₂ : List α} (h₁ : a ∉ l₁) (h₂ : a ∉ l₂)
    (h : l₁ ++ a :: r₁ = l₂ ++ a :: r₂) : l₁ = l₂ ∧ r₁ = r₂ := by
  induction l₁ generalizing l₂ with
  | nil =>
    cases l₂ with
    | nil => exact ⟨rfl,(cons.inj h).2⟩
    | cons b l₂ =>
      obtain ⟨rfl,-⟩ := cons.inj h
      exact absurd (mem_cons_self ..) h₂
  | cons b l₁ ih =>
    cases l₂ with
    | nil =>
      obtain ⟨rfl,-⟩ := cons.inj h
      exact absurd (mem_cons_self ..) h₁
    | cons b' l₂ =>
      obtain ⟨rfl,ht⟩ := cons.inj h
      obtain ⟨rfl,hr⟩ := ih (fun hm => h₁ (mem_cons_of_mem _ hm)) (fun hm => h₂ (mem_cons_of_mem _ hm)) ht
      exact ⟨rfl,hr⟩

section

def digit (n : ℕ) : Char :=
  if n < 26 then Char.ofNat (65+n)
  else if n < 52 then Char.ofNat (71+n)
  else if n < 62 then Char.ofNat (n-4)
  else if n = 62 then '+'
  else '/'

def value (c : Char) : Option ℕ :=
  if 'A' ≤ c ∧ c ≤ 'Z' then some (c.toNat - 'A'.toNat)
  else if 'a' ≤ c ∧ c ≤ 'z' then some (c.toNat - 'a'.toNat + 26)
  else if '0' ≤ c ∧ c ≤ '9' then some (c.toNat - '0'.toNat + 52)
  else if c = '+' then some 62
  else if c = '/' then some 63
  else none

/-- Three bytes make four characters; the padding fills up the last four. -/
def encode : List UInt8 → List Char
  | [] => []
  | [a] => [digit (a.toNat/4),digit (a.toNat%4*16),'=','=']
  | [a,b] => [digit (a.toNat/4),digit (a.toNat%4*16+b.toNat/16),digit (b.toNat%16*4),'=']
  | a :: b :: d :: rest =>
    digit (a.toNat/4) :: digit (a.toNat%4*16+b.toNat/16) :: digit (b.toNat%16*4+d.toNat/64) ::
      digit (d.toNat%64) :: encode rest

/-- Four characters at a time; the bits that the padding leaves over must be zero. -/
def decode : List Char → Option (List UInt8)
  | [] => some []
  | w :: x :: y :: z :: rest =>
    match value w, value x, value y, value z with
    | some w, some x, some y, some z =>
      (decode rest).map fun bytes =>
        UInt8.ofNat (w*4+x/16) :: UInt8.ofNat (x%16*16+y/4) :: UInt8.ofNat (y%4*64+z) :: bytes
    | some w, some x, some y, none =>
      if z = '=' ∧ rest = [] ∧ y%4 = 0 then some [UInt8.ofNat (w*4+x/16),UInt8.ofNat (x%16*16+y/4)]
      else none
    | some w, some x, none, none =>
      if y = '=' ∧ z = '=' ∧ rest = [] ∧ x%16 = 0 then some [UInt8.ofNat (w*4+x/16)] else none
    | _, _, _, _ => none
  | _ => none

lemma value_digit {n : ℕ} (h : n < 64) : value (digit n) = some n := by
  have ha : ∀ m : Fin 64, value (digit m.val) = some m.val := by decide
  exact ha ⟨n,h⟩

lemma digit_value {c : Char} {n : ℕ} (h : value c = some n) : n < 64 ∧ digit n = c := by
  have hc : c = Char.ofNat c.toNat := (Char.ofNat_toNat c).symm
  have hle : ∀ {d e : Char}, d ≤ e → d.toNat ≤ e.toNat := fun hde => by
    simpa [Char.le_def,UInt32.le_iff_toNat_le] using hde
  unfold value at h
  split_ifs at h with h1 h2 h3 h4 h5
  · have hl : 65 ≤ c.toNat := hle h1.1
    have hh : c.toNat ≤ 90 := hle h1.2
    cases h
    have hA : 'A'.toNat = 65 := rfl
    refine ⟨by omega,?_⟩
    rw [digit,if_pos (by omega),hA,show 65 + (c.toNat - 65) = c.toNat by omega]
    exact hc.symm
  · have hl : 97 ≤ c.toNat := hle h2.1
    have hh : c.toNat ≤ 122 := hle h2.2
    cases h
    have ha : 'a'.toNat = 97 := rfl
    refine ⟨by omega,?_⟩
    rw [digit,if_neg (by omega),if_pos (by omega),ha,show 71 + (c.toNat - 97 + 26) = c.toNat by omega]
    exact hc.symm
  · have hl : 48 ≤ c.toNat := hle h3.1
    have hh : c.toNat ≤ 57 := hle h3.2
    cases h
    have h0 : '0'.toNat = 48 := rfl
    refine ⟨by omega,?_⟩
    rw [digit,if_neg (by omega),if_neg (by omega),if_pos (by omega),h0, show c.toNat - 48 + 52 - 4 =
      c.toNat by omega]
    exact hc.symm
  · cases h
    exact ⟨by decide,h4.symm⟩
  · cases h
    exact ⟨by decide,h5.symm⟩

lemma value_pad : value '=' = none := by decide

lemma ofNat_of_eq {a : UInt8} {n : ℕ} (h : n = a.toNat) : UInt8.ofNat n = a := by
  rw [h,UInt8.ofNat_toNat]

lemma decode_encode (bs : List UInt8) : decode (encode bs) = some bs := by
  fun_induction encode bs with
  | case1 => rfl
  | case2 a =>
    have ha := a.toNat_lt
    simp only [decode,value_digit (show a.toNat/4 < 64 by omega),
      value_digit (show a.toNat%4*16 < 64 by omega),value_pad]
    rw [if_pos ⟨trivial,trivial,trivial,by omega⟩,ofNat_of_eq
      (show a.toNat/4*4 + a.toNat%4*16/16 = a.toNat by omega)]
  | case3 a b =>
    have ha := a.toNat_lt
    have hb := b.toNat_lt
    simp only [decode,value_digit (show a.toNat/4 < 64 by omega),
      value_digit (show a.toNat%4*16+b.toNat/16 < 64 by omega),
      value_digit (show b.toNat%16*4 < 64 by omega),value_pad]
    rw [if_pos ⟨trivial,trivial,by omega⟩,
      ofNat_of_eq (show a.toNat/4*4 + (a.toNat%4*16+b.toNat/16)/16 = a.toNat by omega),
      ofNat_of_eq (show (a.toNat%4*16+b.toNat/16)%16*16 + b.toNat%16*4/4 = b.toNat by omega)]
  | case4 a b d rest ih =>
    have ha := a.toNat_lt
    have hb := b.toNat_lt
    have hd := d.toNat_lt
    simp only [decode,value_digit (show a.toNat/4 < 64 by omega),
      value_digit (show a.toNat%4*16+b.toNat/16 < 64 by omega),
      value_digit (show b.toNat%16*4+d.toNat/64 < 64 by omega),
      value_digit (show d.toNat%64 < 64 by omega),ih,map_some]
    rw [ofNat_of_eq (show a.toNat/4*4 + (a.toNat%4*16+b.toNat/16)/16 = a.toNat by omega),
      ofNat_of_eq (show (a.toNat%4*16+b.toNat/16)%16*16 + (b.toNat%16*4+d.toNat/64)/4 = b.toNat by omega),
      ofNat_of_eq (show (b.toNat%16*4+d.toNat/64)%4*64 + d.toNat%64 = d.toNat by omega)]

lemma toNat_ofNat_lt {n : ℕ} (h : n < 256) : (UInt8.ofNat n).toNat = n := by
  rw [UInt8.toNat_ofNat']
  omega

lemma encode_decode {t : List Char} {bs : List UInt8} (h : decode t = some bs) : encode bs = t := by
  fun_induction decode t generalizing bs with
  | case1 =>
    cases h
    rfl
  | case2 w x y z rest w' x' y' z' hw hx hy hz ih =>
    obtain ⟨tl,ht,rfl⟩ := map_eq_some_iff.1 h
    obtain ⟨hw',hwd⟩ := digit_value hw
    obtain ⟨hx',hxd⟩ := digit_value hx
    obtain ⟨hy',hyd⟩ := digit_value hy
    obtain ⟨hz',hzd⟩ := digit_value hz
    simp only [encode,ih ht]
    rw [toNat_ofNat_lt (show w'*4+x'/16 < 256 by omega),toNat_ofNat_lt (show x'%16*16+y'/4 < 256 by omega),
      toNat_ofNat_lt (show y'%4*64+z' < 256 by omega),show (w'*4+x'/16)/4 = w' by omega,
      show (w'*4+x'/16)%4*16 + (x'%16*16+y'/4)/16 = x' by omega,
      show (x'%16*16+y'/4)%16*4 + (y'%4*64+z')/64 = y' by omega,show (y'%4*64+z')%64 = z' by omega,
        hwd,hxd,hyd,hzd]
  | case3 w x y z rest w' x' y' hz hw hx hy hp =>
    obtain ⟨rfl,rfl,hy4⟩ := hp
    cases h
    obtain ⟨hw',hwd⟩ := digit_value hw
    obtain ⟨hx',hxd⟩ := digit_value hx
    obtain ⟨hy',hyd⟩ := digit_value hy
    simp only [encode]
    rw [toNat_ofNat_lt (show w'*4+x'/16 < 256 by omega),toNat_ofNat_lt (show x'%16*16+y'/4 < 256 by omega),
      show (w'*4+x'/16)/4 = w' by omega,show (w'*4+x'/16)%4*16 + (x'%16*16+y'/4)/16 = x' by omega,
      show (x'%16*16+y'/4)%16*4 = y' by omega,hwd,hxd,hyd]
  | case4 | case6 | case7 | case8 => cases h
  | case5 w x y z rest w' x' hy hz hw hx hp =>
    obtain ⟨rfl,rfl,rfl,hx16⟩ := hp
    cases h
    obtain ⟨hw',hwd⟩ := digit_value hw
    obtain ⟨hx',hxd⟩ := digit_value hx
    simp only [encode]
    rw [toNat_ofNat_lt (show w'*4+x'/16 < 256 by omega),show (w'*4+x'/16)/4 = w' by omega,
      show (w'*4+x'/16)%4*16 = x' by omega,hwd,hxd]

lemma length_encode (bs : List UInt8) : (encode bs).length = (bs.length+2)/3*4 := by
  fun_induction encode bs with
  | case1 => rfl
  | case2 | case3 => simp
  | case4 a b d rest ih =>
    simp only [length_cons]
    omega

end

end BuzzSolo.ByteText
