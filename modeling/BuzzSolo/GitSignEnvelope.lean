import BuzzSolo.GitSignature

/-! The encoding of a git signature: a flat JSON object without whitespace that any conforming
parser reads back, in an armor that can be taken off in one way only. -/
namespace BuzzSolo.GitSign

open ByteText Checks HexText JsonText List
open Handoff (Json field)
open LocalRelay (asU64 asI64)

section

/-- Visible ASCII without the quote, the colon and the backslash. -/
def isPlainChar (c : Char) : Bool :=
  decide (32 < c.toNat ∧ c.toNat < 127 ∧ c.toNat ≠ 34 ∧ c.toNat ≠ 58 ∧ c.toNat ≠ 92)

def IsPlain (s : String) : Prop := ∀ c ∈ s.toList, isPlainChar c = true

variable {c : Char}

lemma isPlainChar_of_digit (h : c.isDigit = true) : isPlainChar c = true := by
  have hr : 48 ≤ c.toNat ∧ c.toNat ≤ 57 := by
    simpa [Char.isDigit,UInt32.le_iff_toNat_le] using h
  simp only [isPlainChar,decide_eq_true_eq]
  omega

lemma isPlainChar_of_isLowerHexChar (h : isLowerHexChar c = true) : isPlainChar c = true := by
  have hr : (48 ≤ c.toNat ∧ c.toNat ≤ 57) ∨ (97 ≤ c.toNat ∧ c.toNat ≤ 102) := by
    simpa [isLowerHexChar,Char.le_def,UInt32.le_iff_toNat_le] using h
  simp only [isPlainChar,decide_eq_true_eq]
  omega

lemma parseDecimalU32_digits {s : List Char} (h : (parseDecimalU32 s).isSome) :
    ∀ c ∈ s, isPlainChar c = true := by
  unfold parseDecimalU32 at h
  split_ifs at h with _ _ _ hd
  · simp at h
  · simp at h
  · simp at h
  · simp at h
  · simp only [Bool.not_eq_true',Bool.not_eq_false,all_eq_true] at hd
    exact fun c hc => isPlainChar_of_digit (hd c hc)

lemma isPlainChar_of_clause {clause : List Char} (h : validateClause clause = true) :
    ∀ c ∈ clause, isPlainChar c = true := by
  -- a clause is one of three plain words and a number
  have hwo : ∀ {word v : List Char}, clause.dropPrefix? word = some v →
      word.all isPlainChar = true → (parseDecimalU32 v).isSome → ∀ c ∈ clause, isPlainChar c = true := by
    intro word v hd hp hnu c hc
    obtain ⟨word',rfl,hw⟩ := dropPrefix?_eq_some_iff.1 hd
    rw [beq_iff_eq] at hw
    subst hw
    rcases mem_append.1 hc with hc | hc
    · exact all_eq_true.1 hp c hc
    · exact parseDecimalU32_digits hnu c hc
  unfold validateClause at h
  cases hk : clause.dropPrefix? "kind=".toList with
  | some v =>
    rw [hk] at h
    obtain ⟨n,hn,-⟩ := Option.any_eq_true .. |>.1 h
    exact hwo hk (by decide) (by simp [hn])
  | none =>
    rw [hk] at h
    cases hb : clause.dropPrefix? "created_at<".toList with
    | some v =>
      rw [hb] at h
      exact hwo hb (by decide) h
    | none =>
      rw [hb] at h
      cases ha : clause.dropPrefix? "created_at>".toList with
      | some v =>
        rw [ha] at h
        exact hwo ha (by decide) h
      | none =>
        rw [ha] at h
        cases h

variable {s : String}

lemma isPlain_of_validateConditions (h : validateConditions s = true) : IsPlain s := by
  intro c hc
  simp only [validateConditions,Bool.or_eq_true,List.isEmpty_iff,List.all_eq_true,Bool.and_eq_true] at h
  rcases h with he | hcl
  · rw [he] at hc
    simp at hc
  · rcases LineText.eq_or_mem_splitOn '&' hc with rfl | ⟨p,hp,hcp⟩
    · decide
    · exact isPlainChar_of_clause (hcl p hp).2 c hcp

lemma isPlain_repr (t : ℕ) : IsPlain t.repr := by
  intro c hc
  rw [Nat.toList_repr] at hc
  exact isPlainChar_of_digit (Nat.isDigit_of_mem_toDigits (by decide) (by decide) hc)

lemma IsPlain.ascii (h : IsPlain s) : ∀ c ∈ s.toList, c.toNat < 128 := by
  intro c hc
  have hp := h c hc
  simp only [isPlainChar,decide_eq_true_eq] at hp
  omega

lemma quote_of_plain (h : IsPlain s) : quote s = "\"" ++ s ++ "\"" := by
  have hch : ∀ l : List Char, (∀ c ∈ l, isPlainChar c = true) → l.flatMap escapeChar = l := by
    intro l
    induction l with
    | nil => intro _; rfl
    | cons c l ih =>
      intro hl
      have hc := hl c (by simp)
      simp only [isPlainChar,decide_eq_true_eq] at hc
      have hq : c ≠ '"' := by
        rintro rfl
        exact hc.2.2.1 rfl
      have hb : c ≠ '\\' := by
        rintro rfl
        exact hc.2.2.2.2 rfl
      have ho : escapeChar c = [c] := by
        rw [escapeChar,if_neg hq,if_neg hb,if_neg (by omega),if_neg (by omega),if_neg (by omega),
          if_neg (by omega),if_neg (by omega),if_neg (by omega)]
      rw [flatMap_cons,ho,ih fun d hd => hl d (by simp [hd])]
      rfl
  apply String.toList_inj.1
  simp [quote,hch s.toList h]

def IsHex (n : ℕ) (s : String) : Prop := s.utf8ByteSize = n ∧ ∀ c ∈ s.toList, isLowerHexChar c = true

variable {n : ℕ}

lemma IsHex.isPlain (h : IsHex n s) : IsPlain s := fun c hc => isPlainChar_of_isLowerHexChar (h.2 c hc)

lemma validateHexField_eq_ok {name : String} : validateHexField s n name = .ok () ↔ IsHex n s := by
  simp [validateHexField,IsHex]

lemma isHex_toHex (b : FixedBytes n) : IsHex (2*n) b.toHex := by
  have hl : ∀ c ∈ b.toHex.toList, isLowerHexChar c = true := by
    rw [FixedBytes.toHex,String.toList_ofList]
    exact isLowerHexChar_of_mem_encode b.bytes
  refine ⟨?_,hl⟩
  rw [utf8ByteSize_of_ascii (IsPlain.ascii fun c hc => isPlainChar_of_isLowerHexChar (hl c hc)),
    FixedBytes.length_of_fromHex (FixedBytes.fromHex_toHex b)]

end

section

/-- A character between the strings of a text without whitespace. -/
def isBare (c : Char) : Bool := c ≠ '"' && !OwnerAttestation.isAsciiWhitespace c

lemma scan_plain (cs rest : List Char) (h : cs.all isBare = true) :
    scanWhitespace false false (cs ++ rest) = scanWhitespace false false rest := by
  induction cs with
  | nil => rfl
  | cons c cs ih =>
    rw [all_cons,Bool.and_eq_true] at h
    obtain ⟨hb,hcs⟩ := h
    have hc : c ≠ '"' ∧ OwnerAttestation.isAsciiWhitespace c = false := by simpa [isBare] using hb
    rw [cons_append,scanWhitespace,if_neg hc.1,if_neg (by simp [hc.2])]
    exact ih hcs

lemma scan_escapeChar (c : Char) (rest : List Char) :
    scanWhitespace true false (escapeChar c ++ rest) = scanWhitespace true false rest := by
  unfold escapeChar
  split_ifs with h1 h2
  any_goals simp [scanWhitespace]
  rw [if_neg h2,if_neg h1]

lemma scan_quote (s : String) (rest : List Char) :
    scanWhitespace false false ((quote s).toList ++ rest) = scanWhitespace false false rest := by
  have hchars : ∀ l : List Char, scanWhitespace true false (l.flatMap escapeChar ++ '"' :: rest) =
      scanWhitespace false false rest := by
    intro l
    induction l with
    | nil => simp [scanWhitespace]
    | cons c l ih => rw [flatMap_cons,append_assoc,scan_escapeChar,ih]
  have hopen : (quote s).toList ++ rest = '"' :: (s.toList.flatMap escapeChar ++ '"' :: rest) := by
    simp [quote]
  rw [hopen,scanWhitespace,if_pos rfl,hchars]

lemma scan_arrayTail (xs : List String) (rest : List Char) :
    scanWhitespace false false ((arrayTail (xs.map quote)).toList ++ rest) =
      scanWhitespace false false rest := by
  induction xs with
  | nil => exact scan_plain "]".toList rest (by decide)
  | cons s xs ih =>
    simp only [map_cons,arrayTail,String.toList_append,append_assoc]
    rw [scan_plain ",".toList _ (by decide),scan_quote,ih]

lemma scan_flat (v : Flat) (rest : List Char) :
    scanWhitespace false false (v.text.toList ++ rest) = scanWhitespace false false rest := by
  cases v with
  | num n =>
    apply scan_plain
    rw [all_eq_true]
    intro c hc
    have hp := isPlain_repr n c hc
    simp only [isPlainChar,decide_eq_true_eq] at hp
    simp only [isBare,OwnerAttestation.isAsciiWhitespace,Bool.and_eq_true,decide_eq_true_eq,Bool.not_eq_true',
      decide_eq_false_iff_not,Bool.or_eq_false_iff]
    refine ⟨?_,?_⟩
    · rintro rfl
      exact hp.2.2.1 rfl
    · omega
  | str s => exact scan_quote s rest
  | strs xs =>
    cases xs with
    | nil => exact scan_plain "[]".toList rest (by decide)
    | cons s xs =>
      simp only [Flat.text,map_cons,array,String.toList_append,append_assoc]
      rw [scan_plain "[".toList _ (by decide),scan_quote,scan_arrayTail]

lemma scan_member (m : String × Flat) (rest : List Char) :
    scanWhitespace false false ((memberText m).toList ++ rest) = scanWhitespace false false rest := by
  simp only [memberText,String.toList_append,append_assoc]
  rw [scan_quote,scan_plain ":".toList _ (by decide),scan_flat]

lemma scan_membersTail (ms : List (String × Flat)) :
    scanWhitespace false false (membersTail ms).toList = false := by
  induction ms with
  | nil => decide
  | cons m ms ih =>
    simp only [membersTail,String.toList_append,append_assoc]
    rw [scan_plain ",".toList _ (by decide),scan_member,ih]

lemma hasNonStringWhitespace_objectText (ms : List (String × Flat)) :
    hasNonStringWhitespace (objectText ms) = false := by
  cases ms with
  | nil => decide
  | cons m ms =>
    simp only [hasNonStringWhitespace,objectText,String.toList_append,append_assoc]
    rw [scan_plain "\x7b".toList _ (by decide),scan_member,scan_membersTail]

end

section

variable {Key : Type} {X : Crates Key} {e : Envelope}

def ofFlat : Flat → Json
  | .num n => .number n.repr
  | .str s => .string s
  | .strs items => .array (items.map .string)

/-- What is assumed of the JSON parser: it reads flat objects with distinct keys and numbers of 64 bits, in
whatever order it keeps the members, and no string in an array is longer than the text. -/
structure ConformingJson (parse : String → Except String Json) : Prop where
  object : ∀ members : List (String × Flat), (members.map Prod.fst).Nodup →
    (∀ m ∈ members, ∀ n, m.2 = .num n → n < 2^64) → ∃ obj, parse (objectText members) = .ok (.object obj) ∧
      (∀ name, field obj name = (members.find? fun m => m.1 = name).map fun m => ofFlat m.2) ∧
      ∀ f ∈ obj, f.1 ∈ members.map Prod.fst
  strings : ∀ text items s, parse text = .ok (.array items) → .string s ∈ items →
    s.utf8ByteSize ≤ text.utf8ByteSize

/-- The envelopes whose fields pass the checks of the verification. -/
structure WellFormed (X : Crates Key) (e : Envelope) : Prop where
  pk : IsHex 64 e.pk
  sig : IsHex 128 e.sig
  t : e.t ≤ maxTimestamp
  oa : ∀ oa ∈ e.oa, validateOa X e.pk oa = .ok ()

variable {oa : OwnerTag}

lemma validateOa_eq_ok {pk : String} : validateOa X pk oa = .ok () ↔
    IsHex 64 oa.owner ∧ IsHex 128 oa.sig ∧ validateConditions oa.conditions = true ∧
      (∃ ow, parseBip340Pubkey X oa.owner = .ok ow) ∧ oa.owner ≠ pk := by
  simp [validateOa,validateHexField_eq_ok,exists_unit]

def Envelope.members (e : Envelope) : List (String × Flat) :=
  [("v",.num 1),("pk",.str e.pk),("sig",.str e.sig),("t",.num e.t)] ++
    e.oa.toList.map fun oa => ("oa",.strs [oa.owner,oa.conditions,oa.sig])

lemma Envelope.members_of_none (h : e.oa = none) :
    e.members = [("v",.num 1),("pk",.str e.pk),("sig",.str e.sig),("t",.num e.t)] := by
  simp [Envelope.members,h]

lemma Envelope.members_of_some (h : e.oa = some oa) :
    e.members = [("v",.num 1),("pk",.str e.pk),("sig",.str e.sig),("t",.num e.t),
      ("oa",.strs [oa.owner,oa.conditions,oa.sig])] := by
  simp [Envelope.members,h]

-- The literals of the source, cut where a member begins or ends.

lemma open_literal : "\x7b\"v\":1,\"pk\":\"" =
    "\x7b" ++ (quote "v" ++ (":" ++ (Nat.repr 1 ++ ("," ++ (quote "pk" ++ (":" ++ "\"")))))) := by decide

lemma sig_literal : "\",\"sig\":\"" = "\"" ++ ("," ++ (quote "sig" ++ (":" ++ "\""))) := by decide

lemma t_literal : "\",\"t\":" = "\"" ++ ("," ++ (quote "t" ++ ":")) := by decide

lemma oa_literal : ",\"oa\":[\"" = "," ++ (quote "oa" ++ (":" ++ ("[" ++ "\""))) := by decide

lemma next_literal : "\",\"" = "\"" ++ ("," ++ "\"") := by decide

lemma close_literal : "\"]" = "\"" ++ "]" := by decide

lemma memberText_num (name : String) (n : ℕ) : memberText (name,.num n) = quote name ++ (":" ++ n.repr) := by
  rw [memberText,Flat.text,String.append_assoc]

lemma memberText_str {s : String} (name : String) (h : IsPlain s) :
    memberText (name,.str s) = quote name ++ (":" ++ ("\"" ++ (s ++ "\""))) := by
  rw [memberText,Flat.text,quote_of_plain h]
  simp only [String.append_assoc]

lemma memberText_strs {a b c : String} (name : String) (ha : IsPlain a) (hb : IsPlain b) (hc : IsPlain c) :
    memberText (name,.strs [a,b,c]) = quote name ++ (":" ++ ("[" ++ ("\"" ++ (a ++ ("\"" ++ ("," ++ ("\"" ++
      (b ++ ("\"" ++ ("," ++ ("\"" ++ (c ++ ("\"" ++ "]"))))))))))))) := by
  rw [memberText,Flat.text,map_cons,map_cons,map_cons,map_nil,quote_of_plain ha, quote_of_plain hb,
    quote_of_plain hc]
  simp only [array,arrayTail,String.append_assoc]

lemma WellFormed.buildEnvelope_eq (h : WellFormed X e) :
    buildEnvelope e.pk e.sig e.t e.oa = objectText e.members := by
  rcases hoa : e.oa with _ | oa
  · unfold buildEnvelope oaText
    rewrite [Envelope.members_of_none hoa,objectText,membersTail,membersTail,membersTail,membersTail,
      memberText_num,memberText_num,memberText_str _ h.pk.isPlain,memberText_str _ h.sig.isPlain,open_literal,
      sig_literal,t_literal]
    simp only [String.append_assoc,String.empty_append]
  · obtain ⟨ho,hos,hc,-,-⟩ := validateOa_eq_ok.1 (h.oa oa hoa)
    have hp := isPlain_of_validateConditions hc
    unfold buildEnvelope oaText
    rewrite [Envelope.members_of_some hoa,objectText,membersTail,membersTail,membersTail,membersTail,
      membersTail,memberText_num,memberText_num,memberText_str _ h.pk.isPlain,memberText_str _ h.sig.isPlain,
      memberText_strs _ ho.isPlain hp hos.isPlain,open_literal,sig_literal,t_literal,oa_literal,
      next_literal,close_literal]
    simp only [String.append_assoc]

lemma Envelope.nodup_members (e : Envelope) : (e.members.map Prod.fst).Nodup := by
  cases hoa : e.oa <;> simp [Envelope.members,hoa]

lemma asU64_repr {n : ℕ} (h : n < 2^64) : asU64 (.number n.repr) = some n := by
  rw [asU64,Nat.toList_repr,DecimalText.parseUnsigned_toDigits h]

lemma WellFormed.parseEnvelope_buildEnvelope (h : WellFormed X e) (hj : ConformingJson X.parseJson) :
    parseEnvelope X (buildEnvelope e.pk e.sig e.t e.oa) = .ok e := by
  have hn : ∀ m ∈ e.members, ∀ n, m.2 = .num n → n < 2^64 := by
    have htm := h.t
    cases hoa : e.oa <;> simp [Envelope.members,hoa,maxTimestamp] at htm ⊢ <;> omega
  obtain ⟨obj,hp,hfi,hke⟩ := hj.object e.members e.nodup_members hn
  have hk : ∀ f ∈ obj, f.1 ∈ envelopeKeys := by
    intro f hf
    have hm := hke f hf
    cases hoa : e.oa <;> simp [Envelope.members] at hm <;> simp [envelopeKeys] <;> tauto
  have hv : field obj "v" = some (.number (Nat.repr 1)) := by simp [hfi,Envelope.members,ofFlat]
  have hpk : field obj "pk" = some (.string e.pk) := by simp [hfi,Envelope.members,ofFlat]
  have hsi : field obj "sig" = some (.string e.sig) := by simp [hfi,Envelope.members,ofFlat]
  have ht : field obj "t" = some (.number e.t.repr) := by simp [hfi,Envelope.members,ofFlat]
  have htm := h.t
  have hb : maxTimestamp < 2^64 := by decide
  have htu := asU64_repr (show e.t < 2^64 by omega)
  rw [h.buildEnvelope_eq]
  simp only [parseEnvelope,bind_eq_ok]
  refine ⟨_,relabelled_ok.2 hp,obj,okOr_eq_ok.2 rfl,(),require_eq_ok.2 hk,
    _,okOr_eq_ok.2 hv,1,okOr_eq_ok.2 (asU64_repr (by decide)),(),require_eq_ok.2 rfl,
    _,okOr_eq_ok.2 hpk,e.pk,okOr_eq_ok.2 rfl,(),validateHexField_eq_ok.2 h.pk,
    _,okOr_eq_ok.2 hsi,e.sig,okOr_eq_ok.2 rfl,(),validateHexField_eq_ok.2 h.sig,
    _,okOr_eq_ok.2 ht,(),require_eq_ok.2 (.inr (.inl (by rw [htu]; rfl))),
    e.t,okOr_eq_ok.2 htu,(),require_eq_ok.2 htm,?_⟩
  cases hoa : e.oa with
  | none =>
    have hn : field obj "oa" = none := by simp [hfi,Envelope.members,hoa]
    rw [hn,← hoa]
  | some oa =>
    have hs : field obj "oa" = some (.array [.string oa.owner,.string oa.conditions,.string oa.sig]) := by
      simp [hfi,Envelope.members,hoa,ofFlat]
    rw [hs]
    simp only [bind_eq_ok,parseOa]
    refine ⟨oa,⟨_,okOr_eq_ok.2 rfl,(),require_eq_ok.2 rfl,oa.owner,okOr_eq_ok.2 rfl,oa.conditions,
      okOr_eq_ok.2 rfl,oa.sig,okOr_eq_ok.2 rfl,(),h.oa oa hoa,rfl⟩,?_⟩
    rw [← hoa]

lemma wellFormed_of_parseEnvelope {json : String} (h : parseEnvelope X json = .ok e) : WellFormed X e := by
  simp only [parseEnvelope,bind_eq_ok,require_eq_ok,exists_unit] at h
  obtain ⟨-,-,obj,-,-,-,-,-,-,-,-,-,pk,-,hpk,-,-,sig,-,hs,-,-,-,t,-,ht,h⟩ := h
  cases hoa : field obj "oa" with
  | none =>
    rw [hoa] at h
    cases h
    exact ⟨validateHexField_eq_ok.1 hpk,validateHexField_eq_ok.1 hs,ht,by simp⟩
  | some v =>
    rw [hoa] at h
    simp only [bind_eq_ok,parseOa,exists_unit] at h
    obtain ⟨oa,⟨-,-,-,ow,-,conds,-,oaSig,-,hv,hok⟩,he⟩ := h
    cases hok
    cases he
    refine ⟨validateHexField_eq_ok.1 hpk,validateHexField_eq_ok.1 hs,ht,?_⟩
    intro oa hm
    cases hm
    exact hv

end

variable (json : List UInt8)

section

variable {bs : List UInt8} {c : Char}

lemma mem_encode (h : c ∈ ByteText.encode bs) : (value c).isSome ∨ c = '=' := by
  have hdi : ∀ n, n < 64 → (value (digit n)).isSome ∨ digit n = '=' := fun n hn =>
    .inl (by rw [value_digit hn]; rfl)
  fun_induction ByteText.encode bs with
  | case1 => simp at h
  | case2 a =>
    have ha := a.toNat_lt
    simp only [mem_cons,not_mem_nil,or_false] at h
    rcases h with rfl | rfl | rfl | rfl
    · exact hdi _ (by omega)
    · exact hdi _ (by omega)
    · exact .inr rfl
    · exact .inr rfl
  | case3 a b =>
    have ha := a.toNat_lt
    have hb := b.toNat_lt
    simp only [mem_cons,not_mem_nil,or_false] at h
    rcases h with rfl | rfl | rfl | rfl
    · exact hdi _ (by omega)
    · exact hdi _ (by omega)
    · exact hdi _ (by omega)
    · exact .inr rfl
  | case4 a b d rest ih =>
    have ha := a.toNat_lt
    have hb := b.toNat_lt
    have hd := d.toNat_lt
    simp only [mem_cons] at h
    rcases h with rfl | rfl | rfl | rfl | h
    · exact hdi _ (by omega)
    · exact hdi _ (by omega)
    · exact hdi _ (by omega)
    · exact hdi _ (by omega)
    · exact ih h

lemma isPlainChar_of_mem_encode (h : c ∈ ByteText.encode bs) : isPlainChar c = true := by
  rcases mem_encode h with hv | rfl
  · obtain ⟨n,hn⟩ := Option.isSome_iff_exists.1 hv
    obtain ⟨hlt,rfl⟩ := digit_value hn
    have ha : ∀ m : Fin 64, isPlainChar (digit m.val) = true := by decide
    exact ha ⟨n,hlt⟩
  · decide

lemma toList_armor (b64 : List Char) :
    (armorBegin ++ "\n" ++ String.ofList b64 ++ "\n" ++ armorEnd ++ "\n").toList =
      ['\n'].intercalate [armorBegin.toList,b64,armorEnd.toList] ++ ['\n'] := by
  simp

lemma parseArmor_armor : parseArmor (armor json) = .ok (String.ofList (ByteText.encode json)) := by
  have hp : ∀ c ∈ ByteText.encode json, isPlainChar c = true := fun c hc => isPlainChar_of_mem_encode hc
  have hch : ∀ d : Char, isPlainChar d = false → ∀ c ∈ ByteText.encode json, c ≠ d := by
    rintro d hd c hc rfl
    rw [hp c hc] at hd
    cases hd
  have hli : (armor json).toList.dropLast.splitOn '\n' =
      [armorBegin.toList,ByteText.encode json,armorEnd.toList] := by
    rw [armor,toList_armor,dropLast_concat]
    apply splitOn_intercalate
    · intro l hl
      simp only [mem_cons,not_mem_nil,or_false] at hl
      rcases hl with rfl | rfl | rfl
      · decide
      · exact fun hm => hch '\n' (by decide) _ hm rfl
      · decide
    · simp
  have hb : ([armorBegin.toList,ByteText.encode json,armorEnd.toList].findIdx? endsInBlank) = none := by
    rw [findIdx?_eq_none_iff]
    intro l hl
    simp only [mem_cons,not_mem_nil,or_false] at hl
    rcases hl with rfl | rfl | rfl
    · decide
    · simp only [endsInBlank,Bool.or_eq_false_iff,decide_eq_false_iff_not]
      refine ⟨⟨?_,?_⟩,?_⟩ <;>
        exact fun hla => hch _ (by decide) _ (mem_of_getLast? hla) rfl
    · decide
  have he : (armor json).toList.getLast? = some '\n' := by
    rw [armor,toList_armor,getLast?_concat]
  simp only [parseArmor,bind_eq_ok,hli]
  exact ⟨(),require_eq_ok.2 he,(),require_eq_ok.2 rfl,(),require_eq_ok.2 rfl,(),
    require_eq_ok.2 rfl,(),require_eq_ok.2 hb,rfl⟩

lemma eq_of_parseArmor {cont b64 : String} (h : parseArmor cont = .ok b64) :
    cont = armorBegin ++ "\n" ++ b64 ++ "\n" ++ armorEnd ++ "\n" := by
  simp only [parseArmor,bind_eq_ok,require_eq_ok] at h
  obtain ⟨-,he,-,hle,-,hb,-,hf,-,-,hb64⟩ := h
  obtain ⟨l₀,l₁,l₂,hl⟩ := length_eq_three.1 hle
  rw [hl] at hb hf hb64
  cases hb
  cases hf
  have hj : ['\n'].intercalate (cont.toList.dropLast.splitOn '\n') = cont.toList.dropLast :=
    intercalate_splitOn '\n'
  rw [hl] at hj
  have hs : cont.toList = cont.toList.dropLast ++ ['\n'] := (dropLast_append_getLast? _ he).symm
  apply String.toList_inj.1
  rw [hs,← hj]
  cases hb64
  exact (toList_armor l₁).symm

end

section

variable {Key : Type} {X : Crates Key} {e : Envelope}

lemma size_repr {t : ℕ} (h : t ≤ maxTimestamp) : t.repr.utf8ByteSize ≤ 10 := by
  have hb : maxTimestamp < 10^10 := by decide
  rw [utf8ByteSize_of_ascii (isPlain_repr t).ascii,Nat.toList_repr,
    Nat.length_toDigits_le_iff (by decide) (by decide)]
  omega

variable (h : WellFormed X e) (hoa : ∀ oa ∈ e.oa, oa.conditions.utf8ByteSize ≤ maxAuthTag)
include h hoa

lemma WellFormed.size_oaText : (oaText e.oa).utf8ByteSize ≤ 208 + maxAuthTag := by
  rcases ht : e.oa with _ | oa
  · exact Nat.zero_le _
  · obtain ⟨⟨ho,-⟩,⟨hs,-⟩,-,-,-⟩ := validateOa_eq_ok.1 (h.oa oa ht)
    have hco := hoa oa ht
    have hop : ",\"oa\":[\"".utf8ByteSize = 8 := by decide
    have hn : "\",\"".utf8ByteSize = 3 := by decide
    have hc : "\"]".utf8ByteSize = 2 := by decide
    unfold oaText
    simp only [String.utf8ByteSize_append]
    omega

/-- With an attestation from a configuration of the allowed size, the envelope is of the allowed size. -/
lemma WellFormed.size_buildEnvelope : (buildEnvelope e.pk e.sig e.t e.oa).utf8ByteSize ≤ maxJsonDecoded := by
  have ht := size_repr h.t
  have hta := h.size_oaText hoa
  have ho : "\x7b\"v\":1,\"pk\":\"".utf8ByteSize = 13 := by decide
  have hsi : "\",\"sig\":\"".utf8ByteSize = 9 := by decide
  have hs : "\",\"t\":".utf8ByteSize = 6 := by decide
  have hc : "\x7d".utf8ByteSize = 1 := by decide
  unfold buildEnvelope
  simp only [String.utf8ByteSize_append,h.pk.1,h.sig.1]
  simp only [maxJsonDecoded,maxAuthTag] at *
  omega

omit h hoa

lemma size_encode : (String.ofList (ByteText.encode json)).utf8ByteSize = (json.length+2)/3*4 := by
  have hp : IsPlain (String.ofList (ByteText.encode json)) := by
    intro c hc
    rw [String.toList_ofList] at hc
    exact isPlainChar_of_mem_encode hc
  rw [utf8ByteSize_of_ascii hp.ascii,String.toList_ofList,length_encode]

lemma size_armor : (armor json).utf8ByteSize = (json.length+2)/3*4 + 61 := by
  have hb : armorBegin.utf8ByteSize = 30 := by decide
  have he : armorEnd.utf8ByteSize = 28 := by decide
  have hl : "\n".utf8ByteSize = 1 := by decide
  unfold armor
  simp only [String.utf8ByteSize_append,size_encode]
  omega

lemma WellFormed.readEnvelope_armor (h : WellFormed X e) (hj : ConformingJson X.parseJson)
    (hs : (buildEnvelope e.pk e.sig e.t e.oa).utf8ByteSize ≤ maxJsonDecoded) (path : String) :
    readEnvelope X path (armor (utf8 (buildEnvelope e.pk e.sig e.t e.oa))) = .ok e := by
  have hl : (utf8 (buildEnvelope e.pk e.sig e.t e.oa)).length ≤ 2048 := by rwa [length_utf8]
  have hf : (armor (utf8 (buildEnvelope e.pk e.sig e.t e.oa))).utf8ByteSize ≤ maxSigFile := by
    rw [size_armor,maxSigFile]
    omega
  have hli : (String.ofList (ByteText.encode (utf8 (buildEnvelope e.pk e.sig e.t e.oa)))).utf8ByteSize ≤
      maxBase64Line := by
    rw [size_encode,maxBase64Line]
    omega
  have hb : hasNonStringWhitespace (buildEnvelope e.pk e.sig e.t e.oa) = false := by
    rw [h.buildEnvelope_eq,hasNonStringWhitespace_objectText]
  simp only [readEnvelope,bind_eq_ok]
  refine ⟨(),require_eq_ok.2 hf,_,relabelled_ok.2 (parseArmor_armor _),(),require_eq_ok.2 hli,
    _,okOr_eq_ok.2 ?_,(),require_eq_ok.2 hl,_,okOr_eq_ok.2 (fromUtf8_utf8 _),(),
    require_eq_ok.2 hb,e,relabelled_ok.2 (h.parseEnvelope_buildEnvelope hj),(), require_eq_ok.2 rfl,rfl⟩
  rw [String.toList_ofList,ByteText.decode_encode]

/-- A file that is read at all is the one that the envelope is written to. -/
lemma eq_armor_of_readEnvelope {path file : String} (h : readEnvelope X path file = .ok e) :
    file = armor (utf8 (buildEnvelope e.pk e.sig e.t e.oa)) ∧ WellFormed X e ∧
      (buildEnvelope e.pk e.sig e.t e.oa).utf8ByteSize ≤ maxJsonDecoded := by
  simp only [readEnvelope,bind_eq_ok,require_eq_ok,okOr_eq_ok,relabelled_ok,exists_unit] at h
  obtain ⟨-,b64,ha,-,decoded,hd,hl,json,hu,-,e',hp,hc,he⟩ := h
  cases he
  refine ⟨?_,wellFormed_of_parseEnvelope hp,?_⟩
  · have hen := encode_decode hd
    rw [hc,utf8_of_fromUtf8 hu,armor,hen,String.ofList_toList]
    exact eq_of_parseArmor ha
  · rwa [hc,← length_utf8,utf8_of_fromUtf8 hu]

end

end BuzzSolo.GitSign
