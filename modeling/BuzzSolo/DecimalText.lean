import Mathlib.Tactic

/-! Decimal text for unsigned machine words: the parser of a word with `count` values, and
that it reads back the digits of each of them. -/
namespace BuzzSolo.DecimalText

open List

def stripPlus : List Char → List Char
  | '+' :: rest => rest
  | value => value

/-- Digits after an optional plus sign, with no room for a value beyond the word. -/
def parseUnsigned (count : ℕ) (value : List Char) : Option ℕ :=
  let digits := stripPlus value
  if digits.isEmpty || !digits.all Char.isDigit then none
  else if Nat.ofDigitChars 10 digits 0 < count then some (Nat.ofDigitChars 10 digits 0)
  else none

variable {cnt : ℕ} {value : List Char}

lemma parseUnsigned_eq_none {c : Char} (hc : c ∈ value)
    (hd : c.isDigit = false) (hp : c ≠ '+') : parseUnsigned cnt value = none := by
  have hm : c ∈ stripPlus value := by
    unfold stripPlus
    split
    · simpa [hp] using hc
    · exact hc
  have ha : (stripPlus value).all Char.isDigit = false := by
    rw [all_eq_false]
    exact ⟨c,hm,by simp [hd]⟩
  simp [parseUnsigned,ha]

lemma parseUnsigned_toDigits_eq (cnt n : ℕ) :
    parseUnsigned cnt (Nat.toDigits 10 n) = if n < cnt then some n else none := by
  have ha : (Nat.toDigits 10 n).all Char.isDigit = true := by
    rw [all_eq_true]
    exact fun c hc => Nat.isDigit_of_mem_toDigits (by decide) (by decide) hc
  have hne : (Nat.toDigits 10 n).isEmpty = false := by
    have hl := Nat.length_toDigits_pos (b := 10) (n := n)
    cases h : Nat.toDigits 10 n with
    | nil => simp [h] at hl
    | cons c cs => rfl
  have hs : stripPlus (Nat.toDigits 10 n) = Nat.toDigits 10 n := by
    unfold stripPlus
    split
    · rename_i rest h
      rw [h] at ha
      simp at ha
    · rfl
  simp only [parseUnsigned,hs,hne,ha,Nat.ofDigitChars_ten_toDigits,Bool.not_true,
    Bool.or_false,Bool.false_eq_true,if_false]

lemma parseUnsigned_toDigits {n : ℕ} (hn : n < cnt) : parseUnsigned cnt (Nat.toDigits 10 n) = some n := by
  rw [parseUnsigned_toDigits_eq,if_pos hn]

lemma digitChar_of_isDigit {c : Char} (h : c.isDigit = true) :
    c.toNat - '0'.toNat < 10 ∧ Nat.digitChar (c.toNat - '0'.toNat) = c := by
  have hd : ∀ n : Fin 10, Nat.digitChar n.val = Char.ofNat (n.val + 48) := by decide
  obtain ⟨hl,hh⟩ := Char.isDigit_iff_toNat.1 h
  have hz : '0'.toNat = 48 := rfl
  have hn : '9'.toNat = 57 := rfl
  have hlt : c.toNat - '0'.toNat < 10 := by omega
  refine ⟨hlt,?_⟩
  have hs : c.toNat - '0'.toNat + 48 = c.toNat := by omega
  rw [hd ⟨_,hlt⟩,hs,Char.ofNat_toNat]

/-- Digits with no leading zero are those of their number. -/
lemma toDigits_ofDigitChars (hne : value ≠ [])
    (ha : ∀ c ∈ value, c.isDigit = true) (hz : value.head? = some '0' → value.length = 1) :
    Nat.toDigits 10 (Nat.ofDigitChars 10 value 0) = value := by
  induction value using reverseRecOn with
  | nil => exact absurd rfl hne
  | append_singleton fr d ih =>
    obtain ⟨hlt,hd⟩ := digitChar_of_isDigit (ha d (by simp))
    rw [Nat.ofDigitChars_append,Nat.ofDigitChars_cons,Nat.ofDigitChars_nil]
    cases fr with
    | nil =>
      rw [Nat.ofDigitChars_nil,Nat.mul_zero,Nat.zero_add,Nat.toDigits_of_lt_base hlt,hd]
      rfl
    | cons c fr =>
      have hh : c ≠ '0' := by
        intro hc
        have hl := hz (by simp [hc])
        simp at hl
      have hf := ih (by simp) (fun x hx => ha x (mem_append_left _ hx)) (by simp [hh])
      have hp : 0 < Nat.ofDigitChars 10 (c :: fr) 0 := by
        rw [Nat.pos_iff_ne_zero]
        intro h
        rw [h,Nat.toDigits_zero] at hf
        exact hh (cons.inj hf).1.symm
      rw [← Nat.toDigits_append_toDigits (by decide) hp hlt,hf,Nat.toDigits_of_lt_base hlt,hd]

lemma parseUnsigned_eq_some {n : ℕ} : parseUnsigned cnt value = some n ↔
    (stripPlus value ≠ [] ∧ ∀ c ∈ stripPlus value, c.isDigit = true) ∧
      Nat.ofDigitChars 10 (stripPlus value) 0 = n ∧ n < cnt := by
  have hb : (stripPlus value).isEmpty = false ∧ (stripPlus value).all Char.isDigit = true ↔
      stripPlus value ≠ [] ∧ ∀ c ∈ stripPlus value, c.isDigit = true := by simp
  rw [← hb,parseUnsigned]
  cases (stripPlus value).isEmpty with
  | true => simp
  | false =>
    cases (stripPlus value).all Char.isDigit with
    | false => simp
    | true =>
      simp only [Bool.not_true,Bool.or_false,Bool.false_eq_true,if_false,true_and]
      split_ifs with hlt
      · rw [Option.some.injEq]
        exact ⟨fun h => ⟨h,h ▸ hlt⟩,fun h => h.1⟩
      · simp only [false_iff,not_and]
        rintro rfl
        exact hlt

lemma digit_eq {c : Char} {d : ℕ} (h : c.isDigit = true) (hd : d < 10) :
    c.toNat - '0'.toNat = d ↔ c = Nat.digitChar d := by
  have hdi : ∀ n : Fin 10, (Nat.digitChar n.val).toNat - '0'.toNat = n.val := by decide
  constructor
  · rintro rfl
    exact (digitChar_of_isDigit h).2.symm
  · rintro rfl
    exact hdi ⟨d,hd⟩

lemma ofDigitChars_concat (fr : List Char) (d : Char) :
    Nat.ofDigitChars 10 (fr ++ [d]) 0 = 10*Nat.ofDigitChars 10 fr 0+(d.toNat - '0'.toNat) := by
  rw [Nat.ofDigitChars_append,Nat.ofDigitChars_cons,Nat.ofDigitChars_nil]

lemma ofDigitChars_eq_zero (ha : ∀ c ∈ value, c.isDigit = true) :
    Nat.ofDigitChars 10 value 0 = 0 ↔ ∀ c ∈ value, c = '0' := by
  induction value using reverseRecOn with
  | nil => simp
  | append_singleton fr d ih =>
    have hd := @digit_eq d 0 (ha d (by simp)) (by decide)
    have hf := ih fun c hc => ha c (mem_append_left _ hc)
    rw [ofDigitChars_concat,Nat.add_eq_zero_iff,hd,Nat.mul_eq_zero,hf]
    simp only [OfNat.ofNat_ne_zero,false_or,mem_append,mem_singleton,or_imp,forall_and,forall_eq]
    rfl

lemma ofDigitChars_eq_one (ha : ∀ c ∈ value, c.isDigit = true) :
    Nat.ofDigitChars 10 value 0 = 1 ↔ ∃ k, value = replicate k '0' ++ ['1'] := by
  constructor
  · intro h
    rcases eq_nil_or_concat value with rfl | ⟨front,d,rfl⟩
    · simp at h
    · have hd := @digit_eq d 1 (ha d (by simp)) (by decide)
      rw [concat_eq_append] at h ha ⊢
      rw [ofDigitChars_concat] at h
      have hz := (ofDigitChars_eq_zero fun c hc => ha c (mem_append_left _ hc)).1 (by omega)
      exact ⟨front.length,by rw [← eq_replicate_of_mem hz,hd.1 (by omega)]; rfl⟩
  · rintro ⟨k,rfl⟩
    have hz := ofDigitChars_eq_zero fun c hc => ha c (mem_append_left _ hc)
    rw [ofDigitChars_concat,hz.2 fun c hc => eq_of_mem_replicate hc]
    rfl

/-- The number one, with any number of leading zeros and perhaps a plus sign. -/
def SpellsOne (value : List Char) : Prop :=
  ∃ k, value = replicate k '0' ++ ['1'] ∨ value = '+' :: (replicate k '0' ++ ['1'])

lemma spellsOne_iff : SpellsOne value ↔ ∃ k, stripPlus value = replicate k '0' ++ ['1'] := by
  refine exists_congr fun k => ?_
  unfold stripPlus
  split
  · cases k <;> simp [replicate_succ]
  · rename_i hp
    exact or_iff_left (hp _)

lemma parseUnsigned_eq_one (hco : 1 < cnt) : parseUnsigned cnt value = some 1 ↔ SpellsOne value := by
  rw [parseUnsigned_eq_some,spellsOne_iff]
  constructor
  · rintro ⟨⟨-,ha⟩,ho,-⟩
    exact (ofDigitChars_eq_one ha).1 ho
  · rintro ⟨k,hk⟩
    have ha : ∀ c ∈ stripPlus value, c.isDigit = true := by
      intro c hc
      rw [hk] at hc
      rcases mem_append.1 hc with hc | hc
      · rw [eq_of_mem_replicate hc]
        decide
      · rw [mem_singleton.1 hc]
        decide
    exact ⟨⟨by simp [hk],ha⟩,(ofDigitChars_eq_one ha).2 ⟨k,hk⟩,hco⟩

end BuzzSolo.DecimalText
