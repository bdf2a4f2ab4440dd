import BuzzSolo.Engram

/-! References between memories: valid slugs between double brackets. The scanner pairs the opening
brackets from the left, so of an odd number in a row the last is taken for the start of the slug. -/
namespace BuzzSolo.Engram

open Checks List

section

/-- The text up to the first two closing brackets, and what follows them, unless two opening
brackets come before. -/
def untilClosed : List Char → Option (List Char × List Char)
  | c :: d :: rest =>
    if c = '[' ∧ d = '[' then none
    else if c = ']' ∧ d = ']' then some ([],rest)
    else (untilClosed (d :: rest)).map fun read => (c :: read.1,read.2)
  | _ => none

lemma untilClosed_eq {text candidate after : List Char} (h : untilClosed text = some (candidate,after)) :
    text = candidate ++ ']' :: ']' :: after := by
  fun_induction untilClosed text generalizing candidate with
  | case1 | case4 => cases h
  | case2 rest c d _ hc =>
    cases h
    rw [hc.1,hc.2]
    rfl
  | case3 c d rest _ _ ih =>
    obtain ⟨read,hr,heq⟩ := Option.map_eq_some_iff.1 h
    cases heq
    rw [ih hr]
    rfl

lemma after_shorter {c d : Char} {rest candidate after : List Char}
    (h : untilClosed rest = some (candidate,after)) : after.length < (c :: d :: rest).length := by
  rw [untilClosed_eq h]
  simp only [length_cons,length_append]
  omega

/-- The slugs of the text behind those found before it. A bracket is one byte and part of no
other character, so that the characters are scanned in place of the bytes. -/
def extractFrom (K : Crates) (out : List String) (text : List Char) : List String :=
  match text with
  | c :: d :: rest =>
    if rest.length < 2 then out
    else if c = '[' ∧ d = '[' then
      match _h : untilClosed rest with
      | some (candidate,after) =>
        let slug := String.ofList candidate
        if validateSlug K slug = .ok () ∧ slug ∉ out then extractFrom K (out ++ [slug]) after
        else extractFrom K out after
      | none => extractFrom K out rest
    else extractFrom K out (d :: rest)
  | _ => out
termination_by text.length
decreasing_by
  · exact after_shorter _h
  · exact after_shorter _h
  · exact Nat.lt_add_of_pos_right Nat.two_pos
  · exact Nat.lt_add_one _

def extractRefs (K : Crates) (body : String) : List String := extractFrom K [] body.toList

end

section

variable {K : Crates} {s : String} {c : Char}

lemma char_of_validateSegment (h : validateSegment s = .ok ()) (hc : c ∈ s.toList) :
    (isLowerAlnum c || c = '_' || c = '-') = true := by
  simp only [validateSegment,bind_eq_ok,exists_unit,require_eq_ok] at h
  obtain ⟨-,-,hf,hr⟩ := h
  cases hs : s.toList with
  | nil => simp [hs] at hc
  | cons first rest =>
    rw [hs] at hc hf hr
    rcases mem_cons.1 hc with rfl | hc
    · simp [show isLowerAlnum c = true from hf]
    · exact all_eq_true.1 hr c hc

lemma validateSegment_of_mem {i : ℕ} {segs : List String} (h : validateSegments K i segs = .ok ())
    (hs : s ∈ segs) : validateSegment s = .ok () := by
  induction segs generalizing i with
  | nil => cases hs
  | cons segment rest ih =>
    simp only [validateSegments,bind_eq_ok,exists_unit,relabelled_ok] at h
    rcases mem_cons.1 hs with rfl | hs
    · exact h.1
    · exact ih h.2 hs

lemma unbracketed (h : validateSlug K s = .ok ()) (hc : c ∈ s.toList) : c ≠ '[' ∧ c ≠ ']' := by
  have hp : (coreSlug.toList ++ "mem/".toList).all (fun c => c ≠ '[' ∧ c ≠ ']') = true := by decide
  by_cases hco : s = coreSlug
  · subst hco
    exact of_decide_eq_true (all_eq_true.1 hp c (mem_append_left _ hc))
  · simp only [validateSlug,if_neg hco,bind_eq_ok,exists_unit,okOr_eq_ok] at h
    obtain ⟨-,rest,hst,-,hs⟩ := h
    unfold stripMem at hst
    split_ifs at hst with hm
    cases hst
    rw [ isPrefixOf_iff_prefix] at hm
    obtain ⟨tl,ht⟩ := hm
    rw [← ht] at hc hs
    rw [drop_left,String.toList_ofList] at hs
    rcases mem_append.1 hc with hm | hc
    · exact of_decide_eq_true (all_eq_true.1 hp c (mem_append_right _ hm))
    · rcases LineText.eq_or_mem_splitOn '/' hc with rfl | ⟨part,hpa,hc⟩
      · decide
      · have hse := validateSegment_of_mem hs (mem_map_of_mem hpa)
        have hch := char_of_validateSegment hse (by rwa [String.toList_ofList])
        constructor
        · rintro rfl
          revert hch
          decide
        · rintro rfl
          revert hch
          decide

end

section

def reference (slug : String) : List Char := '[' :: '[' :: (slug.toList ++ [']',']'])

/-- An even number of opening brackets, and not more, stand before the slug, and two closing ones
after it. -/
def Mentions (text : List Char) (slug : String) : Prop :=
  ∃ pre k post, text = pre ++ (replicate (2*k + 2) '[' ++ (slug.toList ++ ']' :: ']' :: post)) ∧
    pre.getLast? ≠ some '['

/-- The first mention of one slug comes before the first of the other: the text begins with a
part that mentions the one and not the other. -/
def Precedes (text : List Char) (s t : String) : Prop := ∃ p, p <+: text ∧ Mentions p s ∧ ¬Mentions p t

variable {K : Crates} {s : String} {c d : Char} {text p v cand aft : List Char} {out result : List String}

lemma untilClosed_plain (h : ∀ c ∈ cand, c ≠ '[' ∧ c ≠ ']') (aft : List Char) :
    untilClosed (cand ++ ']' :: ']' :: aft) = some (cand,aft) := by
  induction cand with
  | nil => simp [untilClosed]
  | cons c cand ih =>
    obtain ⟨ho,hcl⟩ := h c mem_cons_self
    have hr := ih fun c hc => h c (mem_cons_of_mem _ hc)
    cases cand with
    | nil => simp [untilClosed,hcl]
    | cons d cand =>
      simp only [cons_append,untilClosed,ho,hcl] at hr ⊢
      rw [hr]
      rfl

/-- What is read up to the closing brackets does not depend on what follows them. -/
lemma untilClosed_congr (h : untilClosed text = some (cand,aft)) (p : List Char) :
    untilClosed (cand ++ ']' :: ']' :: p) = some (cand,p) := by
  fun_induction untilClosed text generalizing cand with
  | case1 | case4 => cases h
  | case2 =>
    cases h
    simp [untilClosed]
  | case3 c d rest ho hc ih =>
    obtain ⟨read,hr,heq⟩ := Option.map_eq_some_iff.1 h
    cases heq
    have hn := ih hr
    have hs := untilClosed_eq hr
    cases hf : read.1 with
    | nil =>
      rw [hf] at hs
      simp_all [untilClosed]
    | cons e more =>
      rw [hf] at hs hn
      cases hs
      simp only [cons_append,untilClosed,if_neg ho,if_neg hc] at hn ⊢
      rw [hn]
      rfl

lemma mentions_cons (hc : c = '[' → p.head? ≠ some '[') : Mentions (c :: p) s ↔ Mentions p s := by
  constructor
  · rintro ⟨_ | ⟨d,pre⟩,k,post,he,hl⟩
    · simp only [nil_append,replicate_succ,cons_append,cons.injEq] at he
      exact absurd (by rw [he.2]; rfl) (hc he.1)
    · rw [cons_append,cons.injEq] at he
      refine ⟨pre,k,post,he.2,fun hp => hl ?_⟩
      rw [getLast?_cons,hp]
      rfl
  · rintro ⟨pre,k,post,rfl,hl⟩
    refine ⟨c :: pre,k,post,rfl,?_⟩
    cases pre with
    | nil =>
      intro hp
      exact hc (by simpa using hp) (by simp [replicate_succ])
    | cons d pre => simpa [getLast?_cons_cons] using hl

lemma mentions_pair : Mentions ('[' :: '[' :: p) s ↔ s.toList ++ [']',']'] <+: p ∨ Mentions p s := by
  constructor
  · rintro ⟨_ | ⟨c,_ | ⟨d,pre⟩⟩,k,post,he,hl⟩
    · cases k with
      | zero =>
        cases he
        exact .inl ⟨post,by simp⟩
      | succ k => exact .inr ⟨[],k,post,by simpa [replicate_succ,Nat.mul_add] using he,by simp⟩
    · cases he
      simp at hl
    · rw [cons_append,cons_append,cons.injEq,cons.injEq] at he
      obtain ⟨rfl,rfl,rfl⟩ := he
      refine .inr ⟨pre,k,post,rfl,fun hp => hl ?_⟩
      rw [getLast?_cons_cons,getLast?_cons,hp]
      rfl
  · rintro (⟨post,rfl⟩ | ⟨pre,k,post,rfl,hl⟩)
    · exact ⟨[],0,post,by simp,by simp⟩
    · cases pre with
      | nil => exact ⟨[],k + 1,post,by simp [replicate_succ,Nat.mul_add],by simp⟩
      | cons d pre => exact ⟨'[' :: '[' :: d :: pre,k,post,rfl,by simpa [getLast?_cons_cons] using hl⟩

/-- No reference starts inside a candidate. -/
lemma mentions_after (h : untilClosed text = some (cand,aft)) : Mentions text s ↔ Mentions aft s := by
  fun_induction untilClosed text generalizing cand with
  | case1 | case4 => cases h
  | case2 rest c d _ hc =>
    cases h
    obtain ⟨rfl,rfl⟩ := hc
    rw [mentions_cons (by simp),mentions_cons (by simp)]
  | case3 c d rest ho _ ih =>
    obtain ⟨read,hr,heq⟩ := Option.map_eq_some_iff.1 h
    cases heq
    rw [mentions_cons fun hc hd => ho ⟨hc,by simpa using hd⟩,ih hr]

lemma untilClosed_of_prefix (h : validateSlug K s = .ok ()) (hp : s.toList ++ [']',']'] <+: p) :
    ∃ aft, untilClosed p = some (s.toList,aft) := by
  obtain ⟨aft,rfl⟩ := hp
  refine ⟨aft,?_⟩
  rw [append_assoc]
  exact untilClosed_plain (fun c hc => unbracketed h hc) aft

/-- The slugs of the text that were not found before it, in the order of their first mention. -/
def Collected (K : Crates) (text : List Char) (out result : List String) : Prop :=
  ∃ new, result = out ++ new ∧ new.Nodup ∧
    (∀ s, s ∈ new ↔ validateSlug K s = .ok () ∧ Mentions text s ∧ s ∉ out) ∧ new.Pairwise (Precedes text)

lemma Collected.skip {h : List Char} (hc : Collected K v out result)
    (hst : ∀ p, p <+: v → ∀ s, validateSlug K s = .ok () → s ∉ out → (Mentions (h ++ p) s ↔ Mentions p s)) :
    Collected K (h ++ v) out result := by
  obtain ⟨new,rfl,hn,hm,ho⟩ := hc
  refine ⟨new,rfl,hn,fun s => ?_,ho.imp_of_mem ?_⟩
  · rw [hm s]
    refine and_congr_right fun hv => and_congr_left fun hnew => ?_
    rw [hst v prefix_rfl s hv hnew]
  · rintro a b ha hb ⟨p,hp,hap,hno⟩
    obtain ⟨hva,-,hna⟩ := (hm a).1 ha
    obtain ⟨hvb,-,hnb⟩ := (hm b).1 hb
    exact ⟨h ++ p,(prefix_append_right_inj h).2 hp,(hst p hp a hva hna).2 hap,
      fun hs => hno ((hst p hp b hvb hnb).1 hs)⟩

lemma Collected.found {slug : String} (hsl : validateSlug K slug = .ok ()) (hnew : slug ∉ out)
    (hc : Collected K v (out ++ [slug]) result)
    (hst : ∀ p, p <+: v → ∀ s, validateSlug K s = .ok () →
      (Mentions (reference slug ++ p) s ↔ s = slug ∨ Mentions p s)) :
      Collected K (reference slug ++ v) out result := by
  have hsk := hc.skip fun p hp s hs hout => (hst p hp s hs).trans
    (or_iff_right fun heq => hout (by simp [heq]))
  obtain ⟨new,rfl,hn,hme,ho⟩ := hsk
  have hse {p} (hp : p <+: v) : Mentions (reference slug ++ p) slug := (hst p hp slug hsl).2 (.inl rfl)
  refine ⟨slug :: new,by simp,?_,fun s => ?_,pairwise_cons.2 ⟨fun t ht => ?_,ho⟩⟩
  · refine nodup_cons.2 ⟨fun hin => ?_,hn⟩
    exact ((hme slug).1 hin).2.2 (by simp)
  · by_cases heq : s = slug
    · subst heq
      simp [hsl,hse prefix_rfl,hnew]
    · simp [heq,hme s]
  · obtain ⟨hv,-,hout⟩ := (hme t).1 ht
    refine ⟨reference slug ++ [],by simp,hse nil_prefix,fun hs => ?_⟩
    rcases (hst [] nil_prefix t hv).1 hs with rfl | ⟨_,_,_,hni,-⟩
    · exact hout (by simp)
    · simp at hni

lemma collected_short (h : text.length < 4) : Collected K text out out := by
  refine ⟨[],by simp,nodup_nil,fun s => ?_,List.Pairwise.nil⟩
  have hn : ¬Mentions text s := by
    rintro ⟨pre,k,post,rfl,-⟩
    simp only [length_append,length_replicate,length_cons] at h
    omega
  simp [hn]

/-- A candidate and the slugs mentioned from its opening brackets on. -/
lemma mentions_candidate (hr : untilClosed v = some (cand,aft)) (p : List Char)
    (hv : validateSlug K s = .ok ()) :
    Mentions ('[' :: '[' :: (cand ++ ']' :: ']' :: p)) s ↔ s.toList = cand ∨ Mentions p s := by
  have hc := untilClosed_congr hr p
  rw [mentions_pair,mentions_after hc]
  refine or_congr_left ⟨fun hst => ?_,?_⟩
  · obtain ⟨rest,hre⟩ := untilClosed_of_prefix hv hst
    rw [hc] at hre
    cases hre
    rfl
  · rintro rfl
    exact ⟨p,by simp⟩

lemma extractFrom_collected : Collected K text out (extractFrom K out text) := by
  fun_induction extractFrom K out text with
  | case1 out c d rest hsh =>
    exact collected_short (by simp only [length_cons]; omega)
  | case2 out c d rest hsh ho cand aft hr slug hsl ih =>
    obtain ⟨rfl,rfl⟩ := ho
    have hl : slug.toList = cand := String.toList_ofList
    have ht : '[' :: '[' :: rest = reference slug ++ aft := by
      simp [reference,hl,untilClosed_eq hr]
    rw [ht]
    refine ih.found hsl.1 hsl.2 fun p hp s hva => ?_
    rw [← String.toList_inj,hl,← mentions_candidate hr p hva]
    simp [reference,hl]
  | case3 out c d rest hsh ho cand aft hr slug hsl ih =>
    obtain ⟨rfl,rfl⟩ := ho
    have ht : '[' :: '[' :: rest = ('[' :: '[' :: (cand ++ [']',']'])) ++ aft := by
      simp [untilClosed_eq hr]
    rw [ht]
    refine ih.skip fun p hp s hva hnew => ?_
    have hm := mentions_candidate hr p hva
    rw [or_iff_right fun heq => hsl ?_] at hm
    · simpa using hm
    · rw [show slug = s by rw [← String.toList_inj,heq,String.toList_ofList]]
      exact ⟨hva,hnew⟩
  | case4 out c d rest hsh ho hr ih =>
    obtain ⟨rfl,rfl⟩ := ho
    refine Collected.skip (h := ['[','[']) ih fun p hp s hva _ =>
      mentions_pair.trans (or_iff_right fun hst => ?_)
    obtain ⟨aft,ha⟩ := untilClosed_of_prefix hva (hst.trans hp)
    rw [hr] at ha
    cases ha
  | case5 out c d rest hsh ho ih =>
    refine Collected.skip (h := [c]) ih fun p hp s _ _ => mentions_cons fun hc hh => ho ⟨hc,?_⟩
    obtain ⟨q,rfl⟩ := head?_eq_some_iff.1 hh
    exact (cons_prefix_cons.1 hp).1.symm
  | case6 out text hsh =>
    refine collected_short ?_
    rcases text with _ | ⟨c,_ | ⟨d,rest⟩⟩
    · simp
    · simp
    · exact (hsh c d rest rfl).elim

end

/-- The scanner returns the valid slugs that the text has between an even number of opening brackets
and two closing ones, each once and in the order of their first mention. -/
theorem extractRefs_exact (K : Crates) (body : String) : (extractRefs K body).Nodup ∧
    (∀ slug, slug ∈ extractRefs K body ↔ validateSlug K slug = .ok () ∧ Mentions body.toList slug) ∧
    (extractRefs K body).Pairwise (Precedes body.toList) := by
  obtain ⟨new,heq,hnodup,hmem,horder⟩ := @extractFrom_collected K body.toList []
  rw [extractRefs,heq,nil_append]
  refine ⟨hnodup,fun slug => ?_,horder⟩
  simp [hmem slug]

example : extractRefs memoryCrates "[[see [[mem/x]] and [[[[core]] or [[mem/x]]" = ["mem/x","core"] := by
  decide +kernel

/-- Three opening brackets: the text has the slug between double brackets, and the scanner
reads a bracket as the start of the slug. -/
theorem third_bracket_hides_reference :
    validateSlug memoryCrates "mem/x" = .ok () ∧ reference "mem/x" <:+: "[[[mem/x]]".toList ∧
      extractRefs memoryCrates "[[[mem/x]]" = [] :=
  ⟨by decide +kernel,⟨['['],[],by decide +kernel⟩,by decide +kernel⟩

end BuzzSolo.Engram
