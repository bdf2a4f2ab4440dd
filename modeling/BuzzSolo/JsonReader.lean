import BuzzSolo.JsonText

/-! JSON documents as they stand in a text, and the reading of strings back from their escapes. Only
what compact writers use is read: a string, and an object of two members that are strings or null. -/
namespace BuzzSolo.JsonReader

/-- A document as it stands in the text, with the members of an object in order. -/
inductive Doc
  | null
  | bool (value : Bool)
  | number (token : String)
  | string (value : String)
  | array (items : List Doc)
  | object (members : List (String × Doc))

/-- A document stands in another at some depth. -/
inductive Within (inner : Doc) : Doc → Prop
  | self : Within inner inner
  | item {items : List Doc} {d : Doc} (hd : d ∈ items) (h : Within inner d) : Within inner (.array items)
  | member {members : List (String × Doc)} {m : String × Doc} (hm : m ∈ members) (h : Within inner m.2) :
    Within inner (.object members)

section

def simpleEscape (c : Char) : Option Char :=
  if c = '"' || c = '\\' || c = '/' then some c
  else if c = 'b' then some (Char.ofNat 8)
  else if c = 'f' then some (Char.ofNat 12)
  else if c = 'n' then some '\n'
  else if c = 'r' then some '\r'
  else if c = 't' then some '\t'
  else none

def hexUnit (a b c d : Char) : Option ℕ := do
  let a ← HexText.digitValue a
  let b ← HexText.digitValue b
  let c ← HexText.digitValue c
  let d ← HexText.digitValue d
  some (4096*a+256*b+16*c+d)

def prepend (c : Char) (read : Option (List Char × List Char)) : Option (List Char × List Char) :=
  read.map fun r => (c :: r.1,r.2)

/-- A string after its opening quote, and the text after its closing one. Escapes of surrogates
are left out: they come in pairs, and no compact writer needs them. -/
def readString : List Char → Option (List Char × List Char)
  | [] => none
  | first :: rest =>
    if first = '"' then some ([],rest)
    else if first = '\\' then
      match rest with
      | 'u' :: a :: b :: c :: d :: rest =>
        match hexUnit a b c d with
        | none => none
        | some unit =>
          if 0xD800 ≤ unit && unit ≤ 0xDFFF then none else prepend (Char.ofNat unit) (readString rest)
      | c :: rest =>
        match simpleEscape c with
        | none => none
        | some c => prepend c (readString rest)
      | [] => none
    else if first.toNat < 32 then none
    else prepend first (readString rest)

lemma readString_close (t : List Char) : readString ('"' :: t) = some ([],t) := by
  rw [readString.eq_def]
  rfl

variable {c : Char}

lemma readString_plain (hq : c ≠ '"') (hs : c ≠ '\\') (hc : ¬c.toNat < 32)
    (t : List Char) : readString (c :: t) = prepend c (readString t) := by
  rw [readString.eq_def]
  simp only [if_neg hq,if_neg hs,if_neg hc]

lemma readString_simple {e : Char} (hu : e ≠ 'u') (h : simpleEscape e = some c) (t : List Char) :
    readString ('\\' :: e :: t) = prepend c (readString t) := by
  rw [readString.eq_def]
  simp [hu,h]

lemma readString_unit {a b d : Char} {unit : ℕ} (h : hexUnit a b c d = some unit) (hu : unit < 0xD800)
    (t : List Char) :
    readString ('\\' :: 'u' :: a :: b :: c :: d :: t) = prepend (Char.ofNat unit) (readString t) := by
  have hp : ¬0xD800 ≤ unit := by omega
  rw [readString.eq_def]
  simp [h,hp]

lemma readString_escapeChar (c : Char) (t : List Char) :
    readString (JsonText.escapeChar c ++ t) = prepend c (readString t) := by
  unfold JsonText.escapeChar
  split_ifs with h1 h2 h3 h4 h5 h6 h7 h8
  · rw [h1]
    exact readString_simple (by decide) rfl t
  · rw [h2]
    exact readString_simple (by decide) rfl t
  · rw [JsonText.eq_ofNat_of_toNat h3]
    exact readString_simple (by decide) rfl t
  · rw [JsonText.eq_ofNat_of_toNat h4]
    exact readString_simple (by decide) rfl t
  · rw [JsonText.eq_ofNat_of_toNat h5]
    exact readString_simple (by decide) rfl t
  · rw [JsonText.eq_ofNat_of_toNat h6]
    exact readString_simple (by decide) rfl t
  · rw [JsonText.eq_ofNat_of_toNat h7]
    exact readString_simple (by decide) rfl t
  · have hh := HexText.digitValue_digitChar ⟨c.toNat/16,by omega⟩
    have hl := HexText.digitValue_digitChar ⟨c.toNat%16,by omega⟩
    have hz : HexText.digitValue '0' = some 0 := by decide
    have hu : hexUnit '0' '0' (Nat.digitChar (c.toNat/16)) (Nat.digitChar (c.toNat%16)) = some c.toNat := by
      simp only [hexUnit,hz,hh,hl,Option.bind_eq_bind,Option.bind_some,Option.some.injEq]
      omega
    have hr := readString_unit hu (by omega) t
    rwa [Char.ofNat_toNat] at hr
  · exact readString_plain h1 h2 h8 t

lemma readString_quoted (s t : List Char) :
    readString (s.flatMap JsonText.escapeChar ++ '"' :: t) = some (s,t) := by
  induction s with
  | nil => exact readString_close t
  | cons c s ih =>
    rw [List.flatMap_cons,List.append_assoc,readString_escapeChar,ih]
    rfl

end

section

def readText : List Char → Option (Doc × List Char)
  | '"' :: rest => (readString rest).map fun r => (.string (String.ofList r.1),r.2)
  | 'n' :: 'u' :: 'l' :: 'l' :: rest => some (.null,rest)
  | _ => none

def readMember : List Char → Option ((String × Doc) × List Char)
  | '"' :: rest => do
    let (key,rest) ← readString rest
    let value ← rest.dropPrefix? [':']
    let (doc,rest) ← readText value
    some ((String.ofList key,doc),rest)
  | _ => none

/-- A compact object of two members whose values are strings or null. -/
def readPair (text : List Char) : Option Doc := do
  let opened ← text.dropPrefix? ['\x7b']
  let (first,rest) ← readMember opened
  let more ← rest.dropPrefix? [',']
  let (second,rest) ← readMember more
  if rest = ['\x7d'] then some (.object [first,second]) else none

def valueText : Option String → String
  | some value => JsonText.quote value
  | none => "null"

def valueDoc : Option String → Doc
  | some value => .string value
  | none => .null

def memberText (key : String) (value : Option String) : String := JsonText.quote key ++ ":" ++ valueText value

lemma toList_quote_append (s : String) (t : List Char) :
    (JsonText.quote s).toList ++ t = '"' :: (s.toList.flatMap JsonText.escapeChar ++ '"' :: t) := by
  simp [JsonText.quote]

lemma readText_valueText (v : Option String) (t : List Char) :
    readText ((valueText v).toList ++ t) = some (valueDoc v,t) := by
  cases v with
  | none => rfl
  | some v => simp [valueText,toList_quote_append,readText,readString_quoted,valueDoc]

lemma dropPrefix_singleton (c : Char) (t : List Char) : (c :: t).dropPrefix? [c] = some t :=
  List.dropPrefix?_append_of_beq t (beq_self_eq_true [c])

lemma readMember_memberText (key : String) (v : Option String) (t : List Char) :
    readMember ((memberText key v).toList ++ t) = some ((key,valueDoc v),t) := by
  simp [memberText,toList_quote_append,readMember,readString_quoted, dropPrefix_singleton,readText_valueText]

lemma readPair_memberText (key key' : String) (value value' : Option String) :
    readPair ("\x7b" ++ memberText key value ++ "," ++ memberText key' value' ++ "\x7d").toList =
      some (.object [(key,valueDoc value),(key',valueDoc value')]) := by
  simp [readPair,dropPrefix_singleton,readMember_memberText]

end

end BuzzSolo.JsonReader
