import BuzzSolo.HexText

/-! Compact JSON text for strings, numbers and arrays. Every text of a string ends where its closing
quote stands, so the texts of different values differ even in the middle of a longer text. -/
namespace BuzzSolo.JsonText

open List Option

def escapeChar (c : Char) : List Char :=
  if c = '"' then ['\\','"']
  else if c = '\\' then ['\\','\\']
  else if c.toNat = 8 then ['\\','b']
  else if c.toNat = 9 then ['\\','t']
  else if c.toNat = 10 then ['\\','n']
  else if c.toNat = 12 then ['\\','f']
  else if c.toNat = 13 then ['\\','r']
  else if c.toNat < 32 then ['\\','u','0','0',Nat.digitChar (c.toNat/16),Nat.digitChar (c.toNat%16)]
  else [c]

def quote (s : String) : String := String.ofList ('"' :: s.toList.flatMap escapeChar ++ ['"'])

def arrayTail : List String → String
  | [] => "]"
  | x :: xs => "," ++ x ++ arrayTail xs

def array : List String → String
  | [] => "[]"
  | x :: xs => "[" ++ x ++ arrayTail xs

/-- Texts that end where they end, whatever follows: of two equal texts that start with
the texts of two values, the values and the remainders are equal. -/
def Delimited {α : Type} (f : α → String) : Prop := ∀ a b r u, f a ++ r = f b ++ u → a = b ∧ r = u

/-- Reads one character of a JSON string back, with the text after it. -/
def readChar : List Char → Option (Char × List Char)
  | '\\' :: 'b' :: r => some (Char.ofNat 8,r)
  | '\\' :: 't' :: r => some (Char.ofNat 9,r)
  | '\\' :: 'n' :: r => some (Char.ofNat 10,r)
  | '\\' :: 'f' :: r => some (Char.ofNat 12,r)
  | '\\' :: 'r' :: r => some (Char.ofNat 13,r)
  | '\\' :: 'u' :: _ :: _ :: a :: b :: r =>
    match HexText.digitValue a, HexText.digitValue b with
    | some h, some l => some (Char.ofNat (16*h+l),r)
    | _, _ => none
  | '\\' :: c :: r => some (c,r)
  | c :: r => some (c,r)
  | [] => none

lemma eq_ofNat_of_toNat {c : Char} {n : ℕ} (h : c.toNat = n) : c = Char.ofNat n := by
  rw [← h,Char.ofNat_toNat]

lemma readChar_escapeChar (c : Char) (r : List Char) : readChar (escapeChar c ++ r) = some (c,r) := by
  unfold escapeChar
  split_ifs with h1 h2 h3 h4 h5 h6 h7 h8
  · simp [readChar,h1]
  · simp [readChar,h2]
  · simp [readChar,eq_ofNat_of_toNat h3]
  · simp [readChar,eq_ofNat_of_toNat h4]
  · simp [readChar,eq_ofNat_of_toNat h5]
  · simp [readChar,eq_ofNat_of_toNat h6]
  · simp [readChar,eq_ofNat_of_toNat h7]
  · have hh := HexText.digitValue_digitChar ⟨c.toNat/16,by omega⟩
    have hl := HexText.digitValue_digitChar ⟨c.toNat%16,by omega⟩
    have hv : 16*(c.toNat/16)+c.toNat%16 = c.toNat := by omega
    simp [readChar,hh,hl,hv]
  · simp [readChar,h2]

lemma escapeChar_unique {c d : Char} {r t : List Char}
    (h : escapeChar c ++ r = escapeChar d ++ t) : c = d ∧ r = t := by
  have hr := congrArg readChar h
  rw [readChar_escapeChar,readChar_escapeChar] at hr
  simpa using hr

lemma escapeChar_head (c : Char) (r : List Char) : (escapeChar c ++ r).head? ≠ some '"' := by
  unfold escapeChar
  split_ifs <;> simp_all

/-- A string text is recognised up to its closing quote. -/
lemma escaped_unique (s t r u : List Char)
    (h : s.flatMap escapeChar ++ '"' :: r = t.flatMap escapeChar ++ '"' :: u) : s = t ∧ r = u := by
  induction s generalizing t with
  | nil =>
    cases t with
    | nil => exact ⟨rfl,by simpa using h⟩
    | cons d t =>
      have hd := escapeChar_head d (t.flatMap escapeChar ++ '"' :: u)
      simp only [flatMap_cons,append_assoc] at h
      rw [← h] at hd
      simp at hd
  | cons c s ih =>
    cases t with
    | nil =>
      have hd := escapeChar_head c (s.flatMap escapeChar ++ '"' :: r)
      simp only [flatMap_cons,append_assoc] at h
      rw [h] at hd
      simp at hd
    | cons d t =>
      simp only [flatMap_cons,append_assoc] at h
      obtain ⟨hcd,hr⟩ := escapeChar_unique h
      obtain ⟨hst,hru⟩ := ih t hr
      exact ⟨by rw [hcd,hst],hru⟩

lemma delimited_quote : Delimited quote := by
  intro s t r u h
  have hl := congrArg String.toList h
  simp only [quote,String.toList_append,String.toList_ofList,cons_append,append_assoc,cons.injEq,
    true_and] at hl
  obtain ⟨hst,hru⟩ := escaped_unique _ _ _ _ hl
  exact ⟨String.toList_inj.1 hst,String.toList_inj.1 hru⟩

lemma toList_quote_head (s : String) : (quote s).toList.head? = some '"' := by
  simp [quote]

lemma newline_not_mem_escapeChar (c : Char) : '\n' ∉ escapeChar c := by
  unfold escapeChar
  split_ifs with h1 h2 h3 h4 h5 h6 h7 h8
  any_goals decide
  · have hn : ∀ n : Fin 16, Nat.digitChar n.val ≠ '\n' := by decide
    have hh := hn ⟨c.toNat/16,by omega⟩
    have hl := hn ⟨c.toNat%16,by omega⟩
    simp
  · have hc : c ≠ '\n' := fun hc => h5 (by rw [hc]; decide)
    simpa using hc.symm

lemma newline_not_mem_quote (s : String) : '\n' ∉ (quote s).toList := by
  simp [quote,newline_not_mem_escapeChar]

section

variable {α : Type} {f : α → String}

lemma delimited_arrayTail (hf : Delimited f) : Delimited fun xs : List α => arrayTail (xs.map f) := by
  intro xs
  induction xs with
  | nil =>
    intro ys r u h
    cases ys with
    | nil => exact ⟨rfl,by simpa [arrayTail] using h⟩
    | cons y ys =>
      have hl := congrArg (fun s => s.toList.head?) h
      simp [arrayTail] at hl
  | cons x xs ih =>
    intro ys r u h
    cases ys with
    | nil =>
      have hl := congrArg (fun s => s.toList.head?) h
      simp [arrayTail] at hl
    | cons y ys =>
      simp only [map_cons,arrayTail,String.append_assoc,String.append_right_inj] at h
      obtain ⟨hxy,hr⟩ := hf _ _ _ _ h
      obtain ⟨hxs,hru⟩ := ih ys r u hr
      exact ⟨by rw [hxy,hxs],hru⟩

lemma delimited_array (hf : Delimited f) (hh : ∀ a, ∃ c ≠ ']', (f a).toList.head? = some c) :
    Delimited fun xs : List α => array (xs.map f) := by
  have ho : ∀ a r u, f a ++ r ≠ "]" ++ u := by
    intro a r u h
    obtain ⟨c,hc,ha⟩ := hh a
    have hl := congrArg (fun s => s.toList.head?) h
    simp [ha,hc] at hl
  have hn : "[]" = "[" ++ "]" := by decide
  intro xs ys r u h
  cases xs with
  | nil =>
    cases ys with
    | nil => exact ⟨rfl,by simpa [array] using h⟩
    | cons y ys =>
      simp only [map_nil,map_cons,array,hn,String.append_assoc, String.append_right_inj] at h
      exact absurd h.symm (ho _ _ _)
  | cons x xs =>
    cases ys with
    | nil =>
      simp only [map_nil,map_cons,array,hn,String.append_assoc, String.append_right_inj] at h
      exact absurd h (ho _ _ _)
    | cons y ys =>
      simp only [map_cons,array,String.append_assoc,String.append_right_inj] at h
      obtain ⟨hxy,hr⟩ := hf _ _ _ _ h
      obtain ⟨hxs,hru⟩ := delimited_arrayTail hf _ _ _ _ hr
      exact ⟨by rw [hxy,hxs],hru⟩

lemma toList_array_head (xs : List String) : (array xs).toList.head? = some '[' := by
  cases xs <;> simp [array]

end

/-- A number is recognised up to the first character that is not a digit. -/
lemma repr_unique {n m : ℕ} {r u : String} {c d : Char} (hr : r.toList.head? = some c)
    (hu : u.toList.head? = some d) (hc : c.isDigit = false) (hd : d.isDigit = false)
    (h : n.repr ++ r = m.repr ++ u) : n = m ∧ r = u := by
  have hta : ∀ (k : ℕ) (x : Char) (t : String), t.toList.head? = some x → x.isDigit = false →
      (k.repr ++ t).toList.takeWhile Char.isDigit = Nat.toDigits 10 k := by
    intro k x t ht hx
    have ha : ∀ y ∈ Nat.toDigits 10 k, y.isDigit = true :=
      fun y hy => Nat.isDigit_of_mem_toDigits (by decide) (by decide) hy
    obtain ⟨l,hl⟩ : ∃ l, t.toList = x :: l := head?_eq_some_iff.1 ht
    rw [String.toList_append,Nat.toList_repr,takeWhile_append_of_pos ha,hl]
    simp [hx]
  have hdi : Nat.toDigits 10 n = Nat.toDigits 10 m := by
    rw [← hta n c r hr hc,h,hta m d u hu hd]
  have hnm : n = m := by
    rw [← Nat.ofDigitChars_toDigits (b := 10) (n := n) (by decide) (by decide),hdi,
      Nat.ofDigitChars_toDigits (by decide) (by decide)]
  subst hnm
  exact ⟨rfl,by simpa using h⟩

section

/-- The members that flat objects have. -/
inductive Flat
  | num (n : ℕ)
  | str (s : String)
  | strs (items : List String)

def Flat.text : Flat → String
  | .num n => n.repr
  | .str s => quote s
  | .strs items => array (items.map quote)

def memberText (member : String × Flat) : String := quote member.1 ++ ":" ++ member.2.text

def membersTail : List (String × Flat) → String
  | [] => "\x7d"
  | member :: members => "," ++ memberText member ++ membersTail members

def objectText : List (String × Flat) → String
  | [] => "\x7b\x7d"
  | member :: members => "\x7b" ++ memberText member ++ membersTail members

lemma delimited_quotes : Delimited fun xs : List String => array (xs.map quote) :=
  delimited_array delimited_quote fun s => ⟨'"',by decide,toList_quote_head s⟩

lemma repr_head (n : ℕ) (t : String) : ∃ d, (n.repr ++ t).toList.head? = some d ∧ d.isDigit = true := by
  have hp := Nat.length_toDigits_pos (b := 10) (n := n)
  obtain ⟨d,ds,hds⟩ := exists_cons_of_length_pos hp
  refine ⟨d,by rw [String.toList_append,Nat.toList_repr,hds]; rfl,?_⟩
  exact Nat.isDigit_of_mem_toDigits (by decide) (by decide) (hds ▸ mem_cons_self ..)

lemma Flat.text_unique {v v' : Flat} {r u : String} {c d : Char} (hr : r.toList.head? = some c)
    (hu : u.toList.head? = some d) (hc : c.isDigit = false) (hd : d.isDigit = false)
    (h : v.text ++ r = v'.text ++ u) : v = v' ∧ r = u := by
  -- the first character tells the three kinds of values apart
  have hh : (v.text ++ r).toList.head? = (v'.text ++ u).toList.head? := by rw [h]
  have hst : ∀ (s t : String), (quote s ++ t).toList.head? = some '"' := by
    intro s t
    rw [String.toList_append,head?_append,toList_quote_head]
    rfl
  have hs : ∀ (l : List String) (t : String), (array l ++ t).toList.head? = some '[' := by
    intro l t
    rw [String.toList_append,head?_append,toList_array_head]
    rfl
  cases v with
  | num n =>
    obtain ⟨x,hx,hdi⟩ := repr_head n r
    cases v' with
    | num m =>
      obtain ⟨rfl,hru⟩ := repr_unique hr hu hc hd h
      exact ⟨rfl,hru⟩
    | str s =>
      have heq := hx.symm.trans (hh.trans (hst s u))
      rw [some.inj heq] at hdi
      exact absurd hdi (by decide)
    | strs l =>
      have heq := hx.symm.trans (hh.trans (hs _ u))
      rw [some.inj heq] at hdi
      exact absurd hdi (by decide)
  | str s =>
    cases v' with
    | num m =>
      obtain ⟨x,hx,hdi⟩ := repr_head m u
      have heq := (hst s r).symm.trans (hh.trans hx)
      rw [← some.inj heq] at hdi
      exact absurd hdi (by decide)
    | str s' =>
      obtain ⟨rfl,hru⟩ := delimited_quote _ _ _ _ h
      exact ⟨rfl,hru⟩
    | strs l => exact absurd ((hst s r).symm.trans (hh.trans (hs _ u))) (by decide)
  | strs l =>
    cases v' with
    | num m =>
      obtain ⟨x,hx,hdi⟩ := repr_head m u
      have heq := (hs _ r).symm.trans (hh.trans hx)
      rw [← some.inj heq] at hdi
      exact absurd hdi (by decide)
    | str s => exact absurd ((hs _ r).symm.trans (hh.trans (hst s u))) (by decide)
    | strs l' =>
      obtain ⟨rfl,hru⟩ := delimited_quotes _ _ _ _ h
      exact ⟨rfl,hru⟩

lemma membersTail_head (ms : List (String × Flat)) :
    ∃ c, (membersTail ms).toList.head? = some c ∧ c.isDigit = false := by
  cases ms with
  | nil => exact ⟨'\x7d',by decide,by decide⟩
  | cons member ms =>
    refine ⟨',',?_,by decide⟩
    simp [membersTail]

lemma memberText_unique {m m' : String × Flat} {ms members' : List (String × Flat)}
    (h : memberText m ++ membersTail ms = memberText m' ++ membersTail members') :
    m = m' ∧ membersTail ms = membersTail members' := by
  obtain ⟨c,hc,hcd⟩ := membersTail_head ms
  obtain ⟨d,hd,hdd⟩ := membersTail_head members'
  simp only [memberText,String.append_assoc] at h
  obtain ⟨hkey,hr⟩ := delimited_quote _ _ _ _ h
  obtain ⟨hv,ht⟩ := Flat.text_unique hc hd hcd hdd (String.append_right_inj _ |>.1 hr)
  exact ⟨Prod.ext hkey hv,ht⟩

lemma membersTail_injective : Function.Injective membersTail := by
  have ho : ∀ (m : String × Flat) (ms : List (String × Flat)), membersTail [] ≠ membersTail
      (m :: ms) := by
    intro m ms h
    have hh := congrArg (fun s : String => s.toList.head?) h
    simp [membersTail] at hh
  intro ms
  induction ms with
  | nil =>
    intro members' h
    cases members' with
    | nil => rfl
    | cons m' members' => exact absurd h (ho m' members')
  | cons m ms ih =>
    intro members' h
    cases members' with
    | nil => exact absurd h.symm (ho m ms)
    | cons m' members' =>
      simp only [membersTail,String.append_assoc] at h
      obtain ⟨rfl,ht⟩ := memberText_unique (String.append_right_inj _ |>.1 h)
      rw [ih ht]

lemma objectText_injective : Function.Injective objectText := by
  have hq : ∀ (m : String × Flat) (ms : List (String × Flat)), objectText [] ≠ objectText
      (m :: ms) := by
    intro m ms h
    have hs := congrArg (fun s : String => s.toList[1]?) h
    obtain ⟨cs,hcs⟩ := head?_eq_some_iff.1 (toList_quote_head m.1)
    simp [objectText,memberText,hcs] at hs
  intro ms members' h
  cases ms with
  | nil =>
    cases members' with
    | nil => rfl
    | cons m' members' => exact absurd h (hq m' members')
  | cons m ms =>
    cases members' with
    | nil => exact absurd h.symm (hq m ms)
    | cons m' members' =>
      simp only [objectText,String.append_assoc] at h
      obtain ⟨rfl,ht⟩ := memberText_unique (String.append_right_inj _ |>.1 h)
      rw [membersTail_injective ht]

end

end BuzzSolo.JsonText
