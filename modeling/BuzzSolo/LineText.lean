import Mathlib.Data.List.DropRight
import Mathlib.Tactic

/-! Line framing of text. Lines end in a newline, a carriage return before it is dropped,
and the last line may lack its newline; terminated lines written one after another are
read back one by one. -/
namespace BuzzSolo.LineText

open List String

/-- Pieces of a text, each up to and including its newline. -/
def splitInclusive : List Char → List (List Char)
  | [] => []
  | c :: cs =>
    if c = '\n' then [c] :: splitInclusive cs
    else match splitInclusive cs with
      | [] => [[c]]
      | piece :: pieces => (c :: piece) :: pieces

def stripTerminator (piece : List Char) : List Char :=
  if piece.getLast? = some '\n' then
    if piece.dropLast.getLast? = some '\r' then piece.dropLast.dropLast else piece.dropLast
  else piece

def lines (text : String) : List String :=
  (splitInclusive text.toList).map fun piece => String.ofList (stripTerminator piece)

/-- The characters with the Unicode property `White_Space`. -/
def isWhitespace (c : Char) : Bool :=
  (9 ≤ c.toNat && c.toNat ≤ 13) || c.toNat = 0x20 || c.toNat = 0x85 || c.toNat = 0xa0 ||
    c.toNat = 0x1680 || (0x2000 ≤ c.toNat && c.toNat ≤ 0x200a) || c.toNat = 0x2028 ||
    c.toNat = 0x2029 || c.toNat = 0x202f || c.toNat = 0x205f || c.toNat = 0x3000

/-- `line.trim().is_empty()`. -/
def isBlank (line : String) : Bool := line.toList.all isWhitespace

def trim (text : String) : String :=
  String.ofList ((text.toList.dropWhile isWhitespace).rdropWhile isWhitespace)

/-- What follows the given start of a text. -/
def stripStart (start text : String) : Option String :=
  (text.toList.dropPrefix? start.toList).map String.ofList

/-- A text that stands on one line and is read back from it unchanged. -/
structure OneLine (line : String) : Prop where
  no_newline : '\n' ∉ line.toList
  no_return : line.toList.getLast? ≠ some '\r'

lemma stripStart_eq_some {s0 t rest : String} : stripStart s0 t = some rest ↔ t = s0 ++ rest := by
  rw [stripStart,Option.map_eq_some_iff]
  constructor
  · rintro ⟨cs,hcs,rfl⟩
    obtain ⟨p,hp,hb⟩ := dropPrefix?_eq_some_iff.1 hcs
    rw [← toList_inj,hp,beq_iff_eq.1 hb,toList_append,toList_ofList]
  · rintro rfl
    refine ⟨rest.toList,?_,ofList_toList⟩
    rw [toList_append]
    exact dropPrefix?_append_of_beq _ (beq_self_eq_true _)

lemma stripStart_eq_none {s0 o rest : String}
    (h : ¬ (s0.toList <+: o.toList ++ rest.toList)) : stripStart s0 (o ++ rest) = none := by
  rw [Option.eq_none_iff_forall_ne_some]
  intro tl ht
  rw [stripStart_eq_some,← toList_inj,toList_append,toList_append] at ht
  exact h ⟨_,ht.symm⟩

lemma trim_eq_self {t : String} {c d : Char} {middle : List Char}
    (ht : t.toList = c :: (middle ++ [d])) (hc : isWhitespace c = false)
    (hd : isWhitespace d = false) : trim t = t := by
  have hl : t.toList.dropWhile isWhitespace = t.toList := by
    rw [ht,dropWhile_cons_of_neg (by simp [hc])]
  have hr : t.toList.rdropWhile isWhitespace = t.toList := by
    rw [ht,← cons_append,rdropWhile_concat_neg _ _ _ (by simp [hd])]
  rw [trim,hl,hr,ofList_toList]

lemma isWhitespace_of_isDigit {c : Char} (h : c.isDigit = true) : isWhitespace c = false := by
  have hl : 48 ≤ c.toNat ∧ c.toNat ≤ 57 := by
    simp only [Char.isDigit,Bool.and_eq_true,decide_eq_true_eq] at h
    exact ⟨h.1,h.2⟩
  simp only [isWhitespace,Bool.or_eq_false_iff,Bool.and_eq_false_iff,decide_eq_false_iff_not]
  omega

lemma trim_trim (t : String) : trim (trim t) = trim t := by
  have hl : ∀ s, (trim s).toList = (s.toList.dropWhile isWhitespace).rdropWhile isWhitespace :=
    fun s => toList_ofList
  have hh : (trim t).toList.dropWhile isWhitespace = (trim t).toList := by
    rw [hl,dropWhile_eq_self_iff]
    intro hpo hs
    have hp := rdropWhile_prefix isWhitespace (t.toList.dropWhile isWhitespace)
    have hle : 0 < (t.toList.dropWhile isWhitespace).length := hpo.trans_le hp.length_le
    rw [hp.getElem] at hs
    exact dropWhile_get_zero_not _ _ hle hs
  rw [← toList_inj,hl (trim t),hh,hl,rdropWhile_idempotent]

lemma splitInclusive_ne_nil {l : List Char} (h : l ≠ []) : splitInclusive l ≠ [] := by
  cases l with
  | nil => exact absurd rfl h
  | cons c cs =>
    by_cases hc : c = '\n'
    · simp [splitInclusive,hc]
    · simp only [splitInclusive,hc]
      cases splitInclusive cs <;> simp

lemma splitInclusive_terminated (l rest : List Char) (h : '\n' ∉ l) :
    splitInclusive (l ++ '\n' :: rest) = (l ++ ['\n']) :: splitInclusive rest := by
  induction l with
  | nil => simp [splitInclusive]
  | cons c cs ih =>
    have hc : c ≠ '\n' := fun hc => h (by simp [hc])
    have hcs : '\n' ∉ cs := fun hm => h (by simp [hm])
    simp only [cons_append,splitInclusive,hc,if_false,ih hcs]

variable (l : List Char)

lemma splitInclusive_open (h : '\n' ∉ l) (hne : l ≠ []) : splitInclusive l = [l] := by
  induction l with
  | nil => exact absurd rfl hne
  | cons c cs ih =>
    have hc : c ≠ '\n' := fun hc => h (by simp [hc])
    have hcs : '\n' ∉ cs := fun hm => h (by simp [hm])
    cases cs with
    | nil => simp [splitInclusive]
    | cons d ds =>
      have hd := ih hcs (by simp)
      rw [splitInclusive,hd]
      simp [hc]

/-- A text to which a line can be appended: it is empty or its last line is terminated. -/
def Terminated (text : String) : Prop := text.toList = [] ∨ text.toList.getLast? = some '\n'

lemma splitInclusive_append (l rest : List Char) (h : l = [] ∨ l.getLast? = some '\n') :
    splitInclusive (l ++ rest) = splitInclusive l ++ splitInclusive rest := by
  induction l with
  | nil => rfl
  | cons c cs ih =>
    by_cases hcs : cs = []
    · have hc : c = '\n' := by simpa [hcs] using h
      simp [hcs,hc,splitInclusive]
    · have hl : cs.getLast? = some '\n' := by
        rw [getLast?_cons_of_ne_nil hcs] at h
        exact h.resolve_left (by simp)
      have hr := ih (.inr hl)
      by_cases hc : c = '\n'
      · simp only [cons_append,splitInclusive,hc,if_true,hr]
      · simp only [cons_append,splitInclusive,hc,hr]
        cases hs : splitInclusive cs with
        | nil => exact absurd hs (splitInclusive_ne_nil hcs)
        | cons piece pieces => rfl

lemma stripTerminator_terminated (h : l.getLast? ≠ some '\r') : stripTerminator (l ++ ['\n']) = l := by
  simp [stripTerminator,h]

lemma stripTerminator_open (h : '\n' ∉ l) : stripTerminator l = l := by
  have hl : l.getLast? ≠ some '\n' := fun hl => h (mem_of_getLast? hl)
  simp [stripTerminator,hl]

/-- Whole lines followed by a last line that lacks its newline. -/
def framed (ls : List String) (tail : String) : String := ls.foldr (fun l acc => l ++ "\n" ++ acc) tail

@[simp] lemma framed_nil (tl : String) : framed [] tl = tl := rfl

@[simp] lemma framed_cons (l : String) (ls : List String) (tl : String) :
    framed (l :: ls) tl = l ++ "\n" ++ framed ls tl := rfl

lemma framed_append (ls ms : List String) (tl : String) :
    framed (ls ++ ms) tl = framed ls (framed ms tl) := by
  simp [framed]

lemma framed_append_tail (ls : List String) (a b : String) : framed ls (a ++ b) = framed ls a ++ b := by
  induction ls with
  | nil => rfl
  | cons l ls ih => simp [ih,String.append_assoc]

lemma lines_framed (ls : List String) (tl : String) (h : ∀ l ∈ ls, OneLine l) (ht : '\n' ∉ tl.toList) :
    lines (framed ls tl) = ls ++ if tl = "" then [] else [tl] := by
  induction ls with
  | nil =>
    by_cases hne : tl = ""
    · simp [lines,hne,splitInclusive]
    · have hn : tl.toList ≠ [] := by simpa using hne
      simp [lines,hne,splitInclusive_open _ ht hn,stripTerminator_open _ ht]
  | cons l ls ih =>
    have hl := h l (by simp)
    have hr := ih fun m hm => h m (by simp [hm])
    have hs : (framed (l :: ls) tl).toList = l.toList ++ '\n' :: (framed ls tl).toList := by
      simp
    rw [lines,hs,splitInclusive_terminated _ _ hl.no_newline,map_cons,
      stripTerminator_terminated _ hl.no_return,ofList_toList]
    rw [lines] at hr
    rw [hr,cons_append]

lemma lines_append_line {t ln : String} (h : Terminated t) (hl : OneLine ln) :
    lines (t ++ (ln ++ "\n")) = lines t ++ [ln] := by
  have hnew : splitInclusive (ln.toList ++ ['\n']) = [ln.toList ++ ['\n']] := by
    rw [splitInclusive_terminated _ _ hl.no_newline]
    rfl
  have hli : (t ++ (ln ++ "\n")).toList = t.toList ++ (ln.toList ++ ['\n']) := by
    simp
  rw [lines,hli,splitInclusive_append _ _ h,hnew,map_append,← lines,map_singleton,
    stripTerminator_terminated _ hl.no_return,ofList_toList]

/-- A text is whole lines, and what was left open after them. -/
lemma exists_terminated_append (t : String) :
    ∃ fr tl : String, t = fr ++ tl ∧ Terminated fr ∧ '\n' ∉ tl.toList := by
  refine ⟨ofList (t.toList.rdropWhile (· ≠ '\n')), ofList (t.toList.rtakeWhile (· ≠ '\n')),?_,?_,?_⟩
  · apply toList_injective
    simp only [toList_append,toList_ofList,rdropWhile_append_rtakeWhile]
  · simp only [Terminated,toList_ofList]
    by_cases hn : t.toList.rdropWhile (· ≠ '\n') = []
    · exact .inl hn
    · right
      have hl := rdropWhile_last_not (· ≠ '\n') _ hn
      rw [getLast?_eq_some_getLast hn]
      simpa using hl
  · rw [toList_ofList]
    intro hm
    simpa using mem_rtakeWhile_imp hm

lemma intercalate_cons {α : Type} (x : α) (first : List α) (rest : List (List α)) :
    [x].intercalate (first :: rest) = first ++ rest.flatMap (x :: ·) := by
  induction rest generalizing first with
  | nil => simp
  | cons second rest ih =>
    rw [flatMap_cons,cons_append,← ih second]
    simp [List.intercalate]

lemma eq_or_mem_splitOn {α : Type} [BEq α] [LawfulBEq α] {c : α} {t : List α} (sep : α) (h : c ∈ t) :
    c = sep ∨ ∃ part ∈ t.splitOn sep, c ∈ part := by
  have hj : [sep].intercalate (t.splitOn sep) = t := intercalate_splitOn sep
  rw [← hj] at h
  cases hpa : t.splitOn sep with
  | nil =>
    rw [hpa] at h
    cases h
  | cons part parts =>
    rw [hpa,intercalate_cons,mem_append,mem_flatMap] at h
    rcases h with h | ⟨p,hp,h⟩
    · exact .inr ⟨part,mem_cons_self,h⟩
    · rcases mem_cons.1 h with rfl | h
      · exact .inl rfl
      · exact .inr ⟨p,mem_cons_of_mem _ hp,h⟩

lemma oneLine_append {fr ln : String} (hf : '\n' ∉ fr.toList) (hl : OneLine ln)
    (hne : ln.toList ≠ []) : OneLine (fr ++ ln) := by
  constructor
  · simpa [hf] using hl.no_newline
  · rw [toList_append,getLast?_append_of_ne_nil _ hne]
    exact hl.no_return

end BuzzSolo.LineText
