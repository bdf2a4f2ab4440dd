import BuzzSolo.Checks

/-! Two of the development tools. The glob matcher goes back to its latest star only. The text
replacement counts matches that do not overlap, so an old string that overlaps itself can stand at
two places and still be replaced. -/
namespace BuzzSolo.DevMcp

open List Checks

section

/-- The loop on what is left of pattern and text; `star` is the pattern after the latest star and
the text from which it was last tried. -/
def globLoop : ℕ → List Char → List Char → Option (List Char × List Char) → Option Bool
  | 0,_,_,_ => none
  | _ + 1,p,[],_ => some (p.all (· == '*'))
  | fuel + 1,p,c :: t,star =>
    if p.head? = some '?' ∨ p.head? = some c then globLoop fuel p.tail t star
    else if p.head? = some '*' then globLoop fuel p.tail (c :: t) (some (p.tail,c :: t))
    else match star with
      | some (sp,st) => globLoop fuel sp st.tail (some (sp,st.tail))
      | none => some false

def simpleGlob (fuel : ℕ) (pattern text : String) : Option Bool :=
  globLoop fuel pattern.toList text.toList none

/-- What may stand for a character of a pattern. -/
def Fills (q : Char) (s : List Char) : Prop := q = '*' ∨ ∃ c, s = [c] ∧ (q = '?' ∨ q = c)

/-- What a pattern may stand for. With `alone` a star that meets a star of the text stands for it alone. -/
def Expands (alone : Bool) : List Char → List Char → Prop
  | [],t => t = []
  | q :: p,t => ∃ s rest, t = s ++ rest ∧ Fills q s ∧ Expands alone p rest ∧
      (alone = true → q = '*' → t.head? = some '*' → s = ['*'])

variable {alone : Bool} {p t : List Char} {c q : Char} {s : Option (List Char × List Char)} {fuel : ℕ}

lemma Expands.forget (h : Expands alone p t) : Expands false p t := by
  induction p generalizing t with
  | nil => exact h
  | cons q p ih =>
    obtain ⟨s,rest,rfl,hs,h,-⟩ := h
    exact ⟨s,rest,rfl,hs,ih h,by simp⟩

lemma expands_star (ht : t.head? ≠ some '*') : Expands alone ('*' :: p) t ↔
    ∃ k, Expands alone p (t.drop k) := by
  constructor
  · rintro ⟨s,rest,rfl,-,h,-⟩
    exact ⟨s.length,by simpa using h⟩
  · rintro ⟨k,h⟩
    exact ⟨t.take k,t.drop k,(take_append_drop k t).symm,.inl rfl,h,fun _ _ hs => absurd hs ht⟩

lemma expands_cons (hq : q ≠ '*') :
    Expands alone (q :: p) t ↔ ∃ c rest, t = c :: rest ∧ (q = '?' ∨ q = c) ∧ Expands alone p rest := by
  constructor
  · rintro ⟨s,rest,rfl,hs | ⟨c,rfl,hc⟩,h,-⟩
    · exact absurd hs hq
    · exact ⟨c,rest,rfl,hc,h⟩
  · rintro ⟨c,rest,rfl,hc,h⟩
    exact ⟨[c],rest,rfl,.inr ⟨c,rfl,hc⟩,h,fun _ hs => absurd hs hq⟩

lemma expands_nil : Expands alone p [] ↔ p.all (· == '*') = true := by
  induction p with
  | nil => simp [Expands]
  | cons q p ih =>
    by_cases hq : q = '*'
    · rw [hq,expands_star (by simp)]
      simp [ih]
    · simp [expands_cons hq,hq]

lemma eq_of_append_drop {k : ℕ} {s rest : List Char} (h : t.drop k = s ++ rest) :
    rest = t.drop (k + s.length) := by
  rw [← drop_drop,h,drop_left]

lemma expands_next (h : q = '?' ∨ q = c) : Expands true (q :: p) (c :: t) ↔ Expands true p t := by
  by_cases hq : q = '*'
  · obtain rfl : q = c := h.resolve_left (by rw [hq]; decide)
    subst hq
    constructor
    · rintro ⟨s,rest,ht,-,h,hs⟩
      obtain rfl := hs rfl rfl rfl
      cases ht
      exact h
    · exact fun h => ⟨['*'],t,rfl,.inl rfl,h,fun _ _ _ => rfl⟩
  · simp [expands_cons hq,h]

def Accepts (p t : List Char) : Option (List Char × List Char) → Prop
  | none => Expands true p t
  | some (sp,st) => Expands true p t ∨ ∃ k, Expands true sp (st.drop (k + 1))

/-- What can be read from the latest star on ends no earlier than what is left now. -/
def Tracks (p t : List Char) : Option (List Char × List Char) → Prop
  | none => True
  | some (sp,st) => ∀ n, Expands true sp (st.drop n) → ∃ k, Expands true p (t.drop k)

lemma tracks_self : Tracks p t (some (p,t)) := fun n h => ⟨n,h⟩

lemma Tracks.tail (h : Tracks (q :: p) (c :: t) s) (hq : q = '?' ∨ q = c) : Tracks p t s := by
  cases s with
  | none => trivial
  | some s =>
    intro n hn
    obtain ⟨k,s,rest,ht,hs,hr,ha⟩ := h n hn
    rw [eq_of_append_drop ht] at hr
    rcases hk : k + s.length with _ | m
    · -- nothing was read: only a star reads nothing, and this one meets a star
      obtain ⟨rfl,rfl⟩ : k = 0 ∧ s = [] := by simpa using hk
      obtain rfl : q = '*' := hs.resolve_right (by simp)
      obtain rfl : '*' = c := hq.resolve_left (by decide)
      simpa using ha rfl rfl rfl
    · exact ⟨m,by rwa [hk] at hr⟩

lemma Tracks.accepts (h : Tracks p t s) (hp : ∀ n, Expands true p (t.drop n) → Expands true p t) :
    Accepts p t s ↔ Expands true p t := by
  cases s with
  | none => rfl
  | some s =>
    refine ⟨?_,.inl⟩
    rintro (he | ⟨k,hk⟩)
    · exact he
    · obtain ⟨n,hn⟩ := h _ hk
      exact hp n hn

lemma accepts_self : Accepts p t (some (p,t)) ↔ ∃ k, Expands true p (t.drop k) :=
  Nat.or_exists_add_one (p := fun k => Expands true p (t.drop k))

/-- Each step leaves less, a return to the star takes a character off its text; and what the loop
answers is whether pattern and text still match. -/
lemma globLoop_spec {n : ℕ} (hp : p.length ≤ n) (hs : ∀ x ∈ s, x.1.length ≤ n ∧ t.length ≤ x.2.length)
    (h : (s.elim (t.length + 1) fun s => s.2.length)*(n + 1) + p.length < fuel) :
    ∃ b, globLoop fuel p t s = some b ∧ (Tracks p t s → (b = true ↔ Accepts p t s)) := by
  induction fuel generalizing p t s with
  | zero => omega
  | succ fuel ih =>
    cases t with
    | nil => exact ⟨_,rfl,fun ht => by rw [← expands_nil,ht.accepts (by simp)]⟩
    | cons c t =>
      unfold globLoop
      split_ifs with hm hstar
      · obtain ⟨q,p,rfl⟩ := exists_cons_of_ne_nil (l := p) (by rintro rfl; simp at hm)
        have hm : q = '?' ∨ q = c := by simpa using hm
        obtain ⟨b,hb,hi⟩ := ih (p := p) (t := t) (s := s) (Nat.le_of_succ_le hp)
          (fun s hm => ⟨(hs s hm).1,Nat.le_of_succ_le (hs s hm).2⟩)
          (by cases s <;> simp only [Option.elim,length_cons,Nat.succ_mul] at h ⊢ <;> omega)
        refine ⟨b,hb,fun ht => ?_⟩
        rw [hi (ht.tail hm)]
        cases s <;> simp [Accepts,expands_next hm]
      · -- the old star is given up: from here the new one reaches as far
        obtain ⟨q,p,rfl⟩ := exists_cons_of_ne_nil (l := p) (by rintro rfl; simp at hstar)
        obtain rfl : q = '*' := by simpa using hstar
        obtain ⟨b,hb,hi⟩ := ih (p := p) (t := c :: t) (s := some (p,c :: t)) (Nat.le_of_succ_le hp)
          (by simpa using Nat.le_of_succ_le hp) (by
            cases s with
            | none => simp only [Option.elim,length_cons,Nat.succ_mul] at h ⊢; omega
            | some s =>
              have hl := Nat.mul_le_mul_right (n + 1) (hs s rfl).2
              simp only [Option.elim,length_cons] at h hl ⊢
              omega)
        have hc : (c :: t).head? ≠ some '*' := fun hc => hm (.inr (by simpa [eq_comm] using hc))
        refine ⟨b,hb,fun ht => ?_⟩
        rw [hi tracks_self,accepts_self,← expands_star hc,ht.accepts]
        rintro n ⟨s,rest,hr,-,h,-⟩
        exact (expands_star hc).2 ⟨n + s.length,eq_of_append_drop hr ▸ h⟩
      · have hn : ¬Expands true p (c :: t) := by
          cases p with
          | nil => simp [Expands]
          | cons q p =>
            rw [expands_cons (by simpa using hstar)]
            simp_all
        cases s with
        | none => exact ⟨false,rfl,fun _ => by simpa [Accepts] using hn⟩
        | some s =>
          obtain ⟨sp,st⟩ := s
          obtain ⟨hsp,hst⟩ := hs _ rfl
          dsimp only at hsp hst
          obtain ⟨d,st,rfl⟩ := exists_cons_of_ne_nil (l := st) (by rintro rfl; simp at hst)
          obtain ⟨b,hb,hi⟩ := ih (p := sp) (t := st) (s := some (sp,st)) hsp (by simpa using hsp)
            (by simp only [Option.elim,length_cons,Nat.succ_mul] at h ⊢; omega)
          refine ⟨b,hb,fun _ => ?_⟩
          rw [hi tracks_self,accepts_self]
          simp [Accepts,hn]

/-- The matcher ends on every text, and is exact where the text is no reading of the pattern, or one in which
each star that meets a star of the text stands for it alone. -/
theorem simpleGlob_exact (pattern text : String) : ∃ n, ∀ fuel, n < fuel → ∃ b,
    simpleGlob fuel pattern text = some b ∧ ((b = true ↔ Expands false pattern.toList text.toList) ↔
      (Expands false pattern.toList text.toList → Expands true pattern.toList text.toList)) := by
  refine ⟨(text.toList.length + 1)*(pattern.toList.length + 1) + pattern.toList.length,fun fuel h => ?_⟩
  obtain ⟨b,hb,hi⟩ := @globLoop_spec pattern.toList text.toList none fuel _ le_rfl (by simp) h
  refine ⟨b,hb,?_⟩
  rw [show b = true ↔ Expands true pattern.toList text.toList from hi trivial]
  exact ⟨Iff.mpr,fun h => ⟨Expands.forget,h⟩⟩

theorem literal_star_misread : (∀ fuel, simpleGlob (fuel + 3) "*" "*a" = some false) ∧
    Expands false "*".toList "*a".toList :=
  ⟨fun _ => rfl,"*a".toList,[],rfl,.inl rfl,rfl,by simp⟩

end

structure StrReplaceParams where
  path : String
  oldStr : String
  newStr : String
  replaceAll : Bool
  workdir : Option String

/-- What the tool finds around it. A text file is read with the path it was found under. -/
structure FileTools where
  readTextFile : String → Option String → Except String (String × String)
  atomicWrite : String → String → Except String Unit
  nearestLineHint : String → String → Option String
  debug : String → String
  unifiedDiff : String → String → String → String

def maxInputBytes : ℕ := 1024*1024
def maxFileBytes : ℕ := 10*1024*1024

def find (pattern text : List Char) : Option ℕ :=
  (range (text.length + 1)).find? fun i => pattern.isPrefixOf (text.drop i)

/-- Up to `n` matches, each looked for after the end of the one before. -/
def countMatches (pattern : List Char) : ℕ → List Char → ℕ
  | 0,_ => 0
  | n + 1,text =>
    match find pattern text with
    | none => 0
    | some pos => countMatches pattern n (text.drop (pos + pattern.length)) + 1

def replacen (pattern new : List Char) : ℕ → List Char → List Char
  | 0,text => text
  | n + 1,text =>
    match find pattern text with
    | none => text
    | some pos => text.take pos ++ new ++ replacen pattern new n (text.drop (pos + pattern.length))

def countOccurrencesCapped (text pattern : List Char) : ℕ :=
  if pattern = [] then 0 else countMatches pattern 2 text

def truncate (s : String) (maxChars : ℕ) : String :=
  if s.length ≤ maxChars then s else .ofList (s.toList.take maxChars) ++ "…"

/-- What is written to the file and the answer; on an error the file is as it was. A text has no
more matches than characters. -/
def strReplace (T : FileTools) (p : StrReplaceParams) : Except String (String × String) := do
  require (p.oldStr ≠ "") "old_str must not be empty"
  require (p.oldStr.utf8ByteSize ≤ maxInputBytes ∧ p.newStr.utf8ByteSize ≤ maxInputBytes)
    ("old_str/new_str exceeds " ++ maxInputBytes.repr ++ " byte limit")
  let (target,content) ← T.readTextFile p.path p.workdir
  let count := if p.replaceAll then countMatches p.oldStr.toList content.length content.toList
    else countOccurrencesCapped content.toList p.oldStr.toList
  require (count ≠ 0) ("old_str not found in " ++ target ++ ".\nold_str (truncated): " ++
    T.debug (truncate p.oldStr 80) ++ ((T.nearestLineHint content p.oldStr).map ("\n" ++ ·)).getD "")
  require (p.replaceAll = true ∨ count ≤ 1) ("old_str matched multiple locations in " ++ target ++
    "; provide more surrounding context to make the match unique.")
  let projected : ℤ := content.utf8ByteSize + (p.newStr.utf8ByteSize - p.oldStr.utf8ByteSize)*count
  require (0 ≤ projected ∧ projected ≤ maxFileBytes) ("result would exceed " ++ maxFileBytes.repr ++
    " byte limit (" ++ toString projected ++ " bytes projected)")
  let newContent := String.ofList (replacen p.oldStr.toList p.newStr.toList
    (if p.replaceAll then content.length else 1) content.toList)
  (T.atomicWrite target newContent).mapError fun e => "failed to write " ++ target ++ ": " ++ e
  .ok (newContent,"Replaced " ++ (if count = 1 then "1 occurrence" else count.repr ++ " occurrence(s)") ++
    " in " ++ target ++ ".\n\n" ++ T.unifiedDiff content newContent target)

variable {T : FileTools} {p : StrReplaceParams} {target content : String}
  {pattern text r : List Char} {pos i : ℕ}

def Occurs (pattern text : List Char) (i : ℕ) : Prop := pattern <+: text.drop i

instance : DecidablePred (Occurs pattern text) :=
  fun i => inferInstanceAs (Decidable (pattern <+: text.drop i))

/-- A pattern that stands at two places stands at two that do not overlap. -/
def Apart (pattern text : List Char) : Prop :=
  ∀ i j, i < j → Occurs pattern text i → Occurs pattern text j →
    ∃ k l, Occurs pattern text k ∧ Occurs pattern text l ∧ k + pattern.length ≤ l

lemma Occurs.lt (hp : pattern ≠ []) (h : Occurs pattern text i) : i < text.length := by
  by_contra hi
  rw [Occurs,drop_of_length_le (not_lt.1 hi)] at h
  exact hp (prefix_nil.1 h)

lemma occurs_of_find (h : find pattern text = some pos) :
    Occurs pattern text pos ∧ ∀ i < pos, ¬Occurs pattern text i := by
  simpa [find,find?_range_eq_some,← isPrefixOf_iff_prefix,Occurs] using And.imp_right And.right
    (find?_range_eq_some.1 h)

lemma not_occurs_of_find (hp : pattern ≠ []) (h : find pattern text = none) : ¬Occurs pattern text i := by
  intro ho
  simp only [find,find?_range_eq_none] at h
  simpa [ isPrefixOf_iff_prefix.2 ho] using h i (Nat.lt_succ_of_lt (ho.lt hp))

/-- What the count says: no occurrence; a first one that all others overlap, which is the one replaced; or two
that do not overlap. -/
lemma countOccurrencesCapped_cases (hp : pattern ≠ []) :
    (∀ i, ¬Occurs pattern text i) ∧ countOccurrencesCapped text pattern = 0 ∨
    (∃ i, Occurs pattern text i ∧ (∀ j, Occurs pattern text j → i ≤ j ∧ j < i + pattern.length) ∧
      countOccurrencesCapped text pattern = 1 ∧
      replacen pattern r 1 text = text.take i ++ r ++ text.drop (i + pattern.length)) ∨
    (∃ i j, Occurs pattern text i ∧ Occurs pattern text j ∧ i + pattern.length ≤ j) ∧
      countOccurrencesCapped text pattern = 2 := by
  cases hf : find pattern text with
  | none => exact .inl ⟨fun _ => not_occurs_of_find hp hf,by simp [countOccurrencesCapped,countMatches,hf]⟩
  | some pos =>
    obtain ⟨hpos,hfirst⟩ := occurs_of_find hf
    cases hs : find pattern (text.drop (pos + pattern.length)) with
    | none =>
      refine .inr (.inl ⟨pos,hpos,fun j hj => ⟨not_lt.1 fun hlt => hfirst j hlt hj,not_le.1 fun hle => ?_⟩,
        by simp [countOccurrencesCapped,countMatches,hp,hf,hs],by simp [replacen,hf]⟩)
      have hn := not_occurs_of_find (i := j - (pos + pattern.length)) hp hs
      rw [Occurs,drop_drop,Nat.add_sub_cancel' hle] at hn
      exact hn hj
    | some k =>
      have hk := (occurs_of_find hs).1
      rw [Occurs,drop_drop] at hk
      exact .inr
        (.inr ⟨⟨pos,_,hpos,hk,Nat.le_add_right _ _⟩,by simp [countOccurrencesCapped,countMatches,hp,hf,hs]⟩)

/-- A single replacement is made exactly where the old string stands once, unless it stands at several places
that all overlap. -/
theorem single_replacement (hf : T.readTextFile p.path p.workdir = .ok (target,content))
    (hw : ∀ path text, T.atomicWrite path text = .ok ()) (hall : p.replaceAll = false) (hp : p.oldStr ≠ "")
    (hin : p.oldStr.utf8ByteSize ≤ maxInputBytes ∧ p.newStr.utf8ByteSize ≤ maxInputBytes)
    (hout : content.utf8ByteSize + p.newStr.utf8ByteSize ≤ maxFileBytes + p.oldStr.utf8ByteSize) :
    ((∃ i, Occurs p.oldStr.toList content.toList i ∧ (∀ j, Occurs p.oldStr.toList content.toList j → j = i) ∧
      ∃ answer, strReplace T p = .ok (.ofList (content.toList.take i ++ p.newStr.toList ++
        content.toList.drop (i + p.oldStr.toList.length)),answer)) ∨
    (¬∃! i, Occurs p.oldStr.toList content.toList i) ∧ ∃ e, strReplace T p = .error e) ↔
    Apart p.oldStr.toList content.toList := by
  have hne : p.oldStr.toList ≠ [] := by simpa using hp
  have herr : countOccurrencesCapped content.toList p.oldStr.toList ≠ 1 → ∃ e, strReplace T p = .error e := by
    intro hc
    cases hr : strReplace T p with
    | error e => exact ⟨e,rfl⟩
    | ok r =>
      simp [strReplace,hf,hall] at hr
      omega
  rcases countOccurrencesCapped_cases
    (r := p.newStr.toList) hne with ⟨hn,hc⟩ | ⟨i,hi,hu,hc,hr⟩ | ⟨⟨i,j,hi,hj,hij⟩,hc⟩
  · refine iff_of_true (.inr ⟨?_,herr (by omega)⟩) fun i _ _ hi => absurd hi (hn i)
    rintro ⟨i,hi,-⟩
    exact hn i hi
  · obtain ⟨rest,hrest⟩ := id hi
    have hsize : content.utf8ByteSize =
        (String.ofList (content.toList.take i) ++ p.oldStr ++ .ofList rest).utf8ByteSize := by
      congr 1
      rw [← String.toList_inj]
      simp [hrest]
    rw [String.utf8ByteSize_append,String.utf8ByteSize_append] at hsize
    have hfit : (0 : ℤ) ≤ content.utf8ByteSize + (p.newStr.utf8ByteSize - p.oldStr.utf8ByteSize) ∧
        (content.utf8ByteSize + (p.newStr.utf8ByteSize - p.oldStr.utf8ByteSize) : ℤ) ≤
          maxFileBytes := by omega
    have hok : ∃ answer, strReplace T p = .ok (.ofList (content.toList.take i ++ p.newStr.toList ++
        content.toList.drop (i + p.oldStr.toList.length)),answer) := by
      simp [strReplace,require,hp,hin,hf,hall,hc,hr,hw,hfit,bind,Except.bind,Except.mapError]
    constructor
    · rintro (⟨k,-,hk,-⟩ | ⟨-,e,he⟩)
      · intro a b hab ha hb
        exact absurd ((hk a ha).trans (hk b hb).symm) hab.ne
      · obtain ⟨_,hok⟩ := hok
        exact nomatch he.symm.trans hok
    · -- two places would give two that do not overlap, but all overlap the first
      refine fun ha => .inl ⟨i,hi,fun j hj => ?_,hok⟩
      by_contra hne
      obtain ⟨k,l,hk,hl,hkl⟩ := ha i j (lt_of_le_of_ne (hu j hj).1 (Ne.symm hne)) hi hj
      have hk := (hu k hk).1
      have hl := (hu l hl).2
      omega
  · have hlen := length_pos_iff.2 hne
    refine iff_of_true (.inr ⟨?_,herr (by omega)⟩) fun _ _ _ _ _ => ⟨i,j,hi,hj,hij⟩
    rintro ⟨k,-,hk⟩
    have h₁ := hk i hi
    have h₂ := hk j hj
    omega

def oneFile (content : String) : FileTools where
  readTextFile _ _ := .ok ("a.txt",content)
  atomicWrite _ _ := .ok ()
  nearestLineHint _ _ := none
  debug s := s
  unifiedDiff _ _ _ := ""

theorem single_replacement_word : ∃ answer, strReplace (oneFile "an ant") ⟨"a.txt","ant","bee",false,none⟩ =
    .ok ("an bee",answer) := by
  have hd : ∀ i < 6, Occurs "ant".toList "an ant".toList i → i = 3 := by decide
  have hd {i} (hi : Occurs "ant".toList "an ant".toList i) : i = 3 := hd i (hi.lt (by decide)) hi
  rcases (single_replacement (T := oneFile "an ant")
    (p := ⟨"a.txt","ant","bee",false,none⟩) rfl (fun _ _ => rfl) rfl
    (by decide) (by decide) (by decide)).2 (fun i j hij hi hj => absurd ((hd hi).trans (hd hj).symm) hij.ne)
    with ⟨i,hi,-,answer,h⟩ | ⟨hn,-⟩
  · obtain rfl := hd hi
    exact ⟨answer,h⟩
  · exact absurd ⟨3,by decide,fun j => hd⟩ hn

/-- The old string stands at two places, and the first is replaced. -/
theorem overlapping_replaced : (strReplace (oneFile "aaa") ⟨"a.txt","aa","b",false,none⟩).map Prod.fst =
    .ok "ba" ∧
    Occurs "aa".toList "aaa".toList 0 ∧ Occurs "aa".toList "aaa".toList 1 := by
  decide +kernel

end BuzzSolo.DevMcp
