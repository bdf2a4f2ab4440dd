import BuzzSolo.WriteCommands

/-! Where a memory patch lands. The client checks each hunk at its line in the old file; the applier
looks for it from its line in the new file on. The two places are one when no match is nearer to
that line. -/
namespace BuzzSolo.Cli

open Checks LineText List

/-- The lines of a value in the course of a patch; the flag is set on lines that a hunk has written. -/
abbrev Image := List (String × Bool)

def unpatched (lines : List String) : Image := lines.map fun line => (line,false)

@[simp] lemma map_fst_unpatched (lines : List String) : (unpatched lines).map Prod.fst = lines := by
  simp [unpatched,Function.comp_def]

variable {hunk : Hunk} {hunks : List Hunk} {image : Image} {current : List String}

namespace Hunk

def preimage (hunk : Hunk) : List String := hunk.lines.filterMap preimageLine

def postimage (hunk : Hunk) : List String :=
  hunk.lines.filterMap fun
    | .context text => some text
    | .insert text => some text
    | .delete _ => none

def declaredStart (hunk : Hunk) : ℕ := hunk.oldStart - 1

/-- The hunk matches at a position, on lines that no hunk has written. -/
def Fits (hunk : Hunk) (image : Image) (pos : ℕ) : Prop :=
  pos ≤ image.length ∧ unpatched hunk.preimage <+: image.drop pos

instance (hunk : Hunk) (image : Image) (pos : ℕ) : Decidable (hunk.Fits image pos) :=
  inferInstanceAs (Decidable (_ ∧ _))

/-- How far a position is from the line in the new file; at equal distance the earlier counts as nearer. -/
def distance (hunk : Hunk) (image : Image) (pos : ℕ) : ℕ ×ₗ ℕ :=
  let start := min (hunk.newStart - 1) image.length
  toLex (start - pos + (pos - start),pos)

def Nearest (hunk : Hunk) (image : Image) (pos : ℕ) : Prop :=
  ∀ other, hunk.Fits image other → hunk.distance image pos ≤ hunk.distance image other

def splice (hunk : Hunk) (image : Image) (pos : ℕ) : Image :=
  image.take pos ++ hunk.postimage.map (fun line => (line,true)) ++ image.drop (pos + hunk.preimage.length)

end Hunk

/-- Hunk after hunk, each at the position nearest to its line in the new file. -/
def Applied : List Hunk → Image → List ℕ → Image → Prop
  | [],image,places,result => places = [] ∧ result = image
  | hunk :: hunks,image,places,result => ∃ pos rest, places = pos :: rest ∧ hunk.Fits image pos ∧
      hunk.Nearest image pos ∧ Applied hunks (hunk.splice image pos) rest result

def valueLines (value : String) : List String := (splitInclusive value.toList).map String.ofList

/-- What is assumed of `diffy::apply`. -/
def NearestFirst (T : Tools) : Prop :=
  ∀ current patch value, T.applyPatch current patch = .ok value → ∃ places result,
    Applied patch.hunks (unpatched (valueLines current)) places result ∧
      value = String.join (result.map Prod.fst)

/-- The remaining lines, from index `line` on, with every hunk's preimage replaced where the hunk
declares it. -/
def editedFrom : ℕ → List String → List Hunk → List String
  | _,rest,[] => rest
  | line,rest,hunk :: hunks =>
    let kept := hunk.declaredStart - line
    rest.take kept ++ hunk.postimage ++
      editedFrom (hunk.declaredStart + hunk.preimage.length) (rest.drop (kept + hunk.preimage.length)) hunks

def InOrder : ℕ → List Hunk → Prop
  | _,[] => True
  | old,hunk :: hunks => old ≤ hunk.declaredStart ∧ InOrder (hunk.declaredStart + hunk.preimage.length) hunks

/-- The declared places, moved by what the hunks before have changed: `new` lines stand where the old file
had `old`. -/
def declaredPlaces : ℕ → ℕ → List Hunk → List ℕ
  | _,_,[] => []
  | old,new,hunk :: hunks =>
    let place := new + (hunk.declaredStart - old)
    place :: declaredPlaces (hunk.declaredStart + hunk.preimage.length) (place + hunk.postimage.length) hunks

/-- At no hunk is a match nearer to the line in the new file than the declared place. -/
def Unrivalled : ℕ → ℕ → Image → List Hunk → Prop
  | _,_,_,[] => True
  | old,new,image,hunk :: hunks =>
    let place := new + (hunk.declaredStart - old)
    hunk.Nearest image place ∧ Unrivalled (hunk.declaredStart + hunk.preimage.length)
      (place + hunk.postimage.length) (hunk.splice image place) hunks

lemma prefix_of_matchLines {T : Tools} {number start : ℕ} {expected : List String} :
    ∀ {offset : ℕ} {actual : List String},
      matchLines T number start offset expected actual = .ok () → expected <+: actual := by
  induction expected with
  | nil => exact fun _ => nil_prefix
  | cons x xs ih =>
    intro offset actual h
    cases actual with
    | nil => cases h
    | cons y ys =>
      rw [matchLines] at h
      split_ifs at h with he
      exact (not_not.1 he) ▸ (prefix_cons_inj x).2 (ih h)

/-- What the check has seen of each hunk. -/
lemma declared_of_verifyHunks {T : Tools} :
    ∀ {hunks : List Hunk} {number : ℕ}, verifyHunks T current number hunks = .ok () → ∀ hunk ∈ hunks,
      hunk.declaredStart ≤ current.length ∧ hunk.preimage <+: current.drop hunk.declaredStart := by
  intro hunks
  induction hunks with
  | nil => exact fun _ _ hm => absurd hm not_mem_nil
  | cons first rest ih =>
    intro number h hunk hm
    rw [verifyHunks] at h
    split_ifs at h with hp
    · simp only [bind_eq_ok,require_eq_ok,exists_unit] at h
      rcases mem_cons.1 hm with rfl | hm
      · exact ⟨by simp [Hunk.declaredStart,h.1],by rw [Hunk.preimage,hp]; exact nil_prefix⟩
      · exact ih h.2 hunk hm
    · simp only [bind_eq_ok,require_eq_ok,exists_unit] at h
      obtain ⟨-,-,hl,hmatch,hrest⟩ := h
      rcases mem_cons.1 hm with rfl | hm
      · exact ⟨by unfold Hunk.declaredStart; omega,prefix_of_matchLines hmatch⟩
      · exact ih hrest hunk hm

lemma nearest_start (pos : ℕ) (h : min (hunk.newStart - 1) image.length = pos) : hunk.Nearest image pos := by
  intro other _
  rw [Hunk.distance,Hunk.distance,h,Prod.Lex.toLex_le_toLex]
  dsimp only
  omega

lemma nearest_unique {p q : ℕ} (hp : hunk.Fits image p) (hq : hunk.Fits image q) (hnp : hunk.Nearest image p)
    (hnq : hunk.Nearest image q) : p = q :=
  (Prod.ext_iff.1 (toLex_inj.1 ((hnp q hq).antisymm (hnq p hp)))).2

/-- The image is what has been written and the lines of the value after the last hunk. -/
lemma applied_declared : ∀ {hunks : List Hunk} {old : ℕ} {written : Image} {places : List ℕ} {res : Image},
    InOrder old hunks →
    (∀ hunk ∈ hunks, hunk.declaredStart ≤ current.length ∧
      hunk.preimage <+: current.drop hunk.declaredStart) →
    Applied hunks (written ++ unpatched (current.drop old)) places res →
    (places = declaredPlaces old written.length hunks ↔
      Unrivalled old written.length (written ++ unpatched (current.drop old)) hunks) ∧
    (places = declaredPlaces old written.length hunks →
      res.map Prod.fst = written.map Prod.fst ++ editedFrom old (current.drop old) hunks) := by
  intro hunks
  induction hunks with
  | nil =>
    rintro old written places res - - ⟨rfl,rfl⟩
    simp [declaredPlaces,Unrivalled,editedFrom]
  | cons hunk rest ih =>
    rintro old written places res ⟨hold,ho⟩ hd ⟨pos,more,rfl,hfit,hnear,happ⟩
    obtain ⟨hl,hp⟩ := hd hunk mem_cons_self
    have hsum : old + (hunk.declaredStart - old) = hunk.declaredStart := by omega
    have hdrop (n : ℕ) : (unpatched (current.drop old)).drop n = unpatched (current.drop (old + n)) := by
      simp [unpatched]
    have hplace : hunk.Fits (written ++ unpatched (current.drop old))
        (written.length + (hunk.declaredStart - old)) := by
      refine ⟨by simp [unpatched]; omega,?_⟩
      rw [drop_length_add_append,hdrop,hsum]
      exact hp.map _
    have hsplice : hunk.splice (written ++ unpatched (current.drop old))
        (written.length + (hunk.declaredStart - old)) =
        (written ++ (unpatched (current.drop old)).take (hunk.declaredStart - old) ++
          hunk.postimage.map fun line => (line,true)) ++
          unpatched (current.drop (hunk.declaredStart + hunk.preimage.length)) := by
      rw [Hunk.splice,take_length_add_append,Nat.add_assoc,drop_length_add_append,hdrop,← Nat.add_assoc,hsum]
    have hlen : (written ++ (unpatched (current.drop old)).take (hunk.declaredStart - old) ++
        hunk.postimage.map fun line => (line,true)).length =
        written.length + (hunk.declaredStart - old) + hunk.postimage.length := by
      simp only [unpatched,length_append,length_take,length_map,length_drop]
      omega
    by_cases hpos : pos = written.length + (hunk.declaredStart - old)
    · subst hpos
      rw [hsplice] at happ
      obtain ⟨hiff,hedit⟩ := ih ho (fun h hm => hd h (mem_cons_of_mem _ hm)) happ
      rw [hlen] at hiff hedit
      simp only [declaredPlaces,Unrivalled,cons.injEq,true_and,hnear,hsplice,hiff]
      intro hrest
      rw [hedit (hiff.2 hrest),editedFrom,drop_drop,← Nat.add_assoc,hsum]
      simp [map_take,Function.comp_def]
    · simp only [declaredPlaces,Unrivalled,cons.injEq,hpos,false_and,false_iff,not_and,false_imp_iff,and_true]
      exact fun hn => absurd (nearest_unique hfit hplace hnear hn) hpos

/-- An accepted patch is applied at its declared places exactly when no match is nearer to a hunk's line in
the new file; then each preimage is replaced at the declared lines and every other line is left. -/
theorem patch_lands_declared (T : Tools) (current : String) (patch : Patch) (value : String)
    (hT : NearestFirst T) (ho : InOrder 0 patch.hunks)
    (hv : verifyHunksAtDeclaredPosition T current patch = .ok ())
    (happly : T.applyPatch current patch = .ok value) : ∃ places result,
      Applied patch.hunks (unpatched (valueLines current)) places result ∧
      value = String.join (result.map Prod.fst) ∧
      (places = declaredPlaces 0 0 patch.hunks ↔
        Unrivalled 0 0 (unpatched (valueLines current)) patch.hunks) ∧
      (places = declaredPlaces 0 0 patch.hunks →
        value = String.join (editedFrom 0 (valueLines current) patch.hunks)) := by
  obtain ⟨places,result,ha,hres⟩ := hT current patch value happly
  obtain ⟨hiff,hedit⟩ := @applied_declared (valueLines current) patch.hunks 0 [] places result ho
    (declared_of_verifyHunks hv) ha
  exact ⟨places,result,ha,hres,hiff,fun h => hres.trans (congrArg String.join (hedit h))⟩

/-- An applier that knows one patch. -/
def answering (current : String) (patch : Patch) (value : String) : Tools :=
  { guideTools with applyPatch := fun c p => if c = current ∧
    p = patch then .ok value else .error "no patch" }

lemma nearestFirst_answering {current value : String} {patch : Patch} {places : List ℕ} {res : Image}
    (h : Applied patch.hunks (unpatched (valueLines current)) places res)
    (hv : value = String.join (res.map Prod.fst)) : NearestFirst (answering current patch value) := by
  intro c p v ha
  simp only [answering] at ha
  split_ifs at ha with hc
  obtain ⟨rfl,rfl⟩ := hc
  cases ha
  exact ⟨places,res,h,hv⟩

/-- Two hunks on the value `a b a b`: the first takes its first line out. -/
def shiftedPatch : Patch := ⟨[⟨1,1,[.delete "a\n"]⟩,⟨3,2,[.delete "a\n",.insert "c\n"]⟩]⟩

theorem patch_lands_declared_second : NearestFirst (answering "a\nb\na\nb\n" shiftedPatch "b\nc\nb\n") ∧
    "b\nc\nb\n" = String.join (editedFrom 0 (valueLines "a\nb\na\nb\n") shiftedPatch.hunks) := by
  have hT : NearestFirst (answering "a\nb\na\nb\n" shiftedPatch "b\nc\nb\n") :=
    nearestFirst_answering ⟨0,[1],rfl,by decide +kernel,nearest_start 0 (by decide +kernel),1,[],rfl,
      by decide +kernel,nearest_start 1 (by decide +kernel),rfl,rfl⟩ (by decide +kernel)
  obtain ⟨places,result,-,-,hiff,hv⟩ := patch_lands_declared _ _ shiftedPatch _ hT
    ⟨by decide,by decide,trivial⟩ (by decide +kernel) (if_pos ⟨rfl,rfl⟩)
  exact ⟨hT,hv (hiff.2 ⟨nearest_start 0 (by decide +kernel),nearest_start 1 (by decide +kernel),trivial⟩)⟩

/-- The first line is declared, and accepted, and the third is edited. -/
theorem accepted_hunk_slides : let patch : Patch := ⟨[⟨1,3,[.delete "a\n",.insert "c\n"]⟩]⟩
    let T := answering "a\nb\na\nb\n" patch "a\nb\nc\nb\n"
    NearestFirst T ∧ verifyHunksAtDeclaredPosition T "a\nb\na\nb\n" patch = .ok () ∧
      T.applyPatch "a\nb\na\nb\n" patch = .ok "a\nb\nc\nb\n" ∧
      editedFrom 0 (valueLines "a\nb\na\nb\n") patch.hunks = ["c\n","b\n","a\n","b\n"] := by
  refine ⟨nearestFirst_answering ⟨2,[],rfl,by decide +kernel,nearest_start 2 (by decide +kernel),rfl,rfl⟩
    (by decide +kernel),?_⟩
  decide +kernel

end BuzzSolo.Cli
