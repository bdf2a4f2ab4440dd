import BuzzSolo.Checks
import BuzzSolo.LineText

/-! Git permissions. The rules that match a ref are united into one demand, and a push is judged by
it. Demands are ordered by how much they ask, and one that asks more never lets more through. -/
namespace BuzzSolo.GitPerms

open Checks

inductive MemberRole
  | owner
  | admin
  | member
  | guest
  | bot

namespace MemberRole

def asStr : MemberRole → String
  | owner => "owner"
  | admin => "admin"
  | member => "member"
  | guest => "guest"
  | bot => "bot"

def permissionLevel : MemberRole → ℕ
  | owner => 4
  | admin => 3
  | member => 2
  | guest => 1
  | bot => 0

def hasAtLeast (role required : MemberRole) : Bool := required.permissionLevel ≤ role.permissionLevel

lemma hasAtLeast_iff {role required : MemberRole} :
    role.hasAtLeast required = true ↔ required.permissionLevel ≤ role.permissionLevel :=
  decide_eq_true_iff

lemma permissionLevel_injective : Function.Injective permissionLevel := by
  intro a b h
  cases a <;> cases b <;> first | rfl | cases h

end MemberRole

def maxPatternLength : ℕ := 256
def maxWildcardsPerPattern : ℕ := 3

inductive PatternSegment
  | literal (text : String)
  | wildcard
  | recursiveWildcard
  deriving DecidableEq

inductive PatternError
  | empty
  | tooLong
  | missingRefsPrefix
  | invalidSegment (text : String)
  | tooManyWildcards

def splitSlash (text : String) : List String := (text.toList.splitOn '/').map String.ofList

def isGlobChar (c : Char) : Bool := c = '*' || c = '?' || c = '[' || c = ']'

def isSegmentChar (c : Char) : Bool := c.isAlphanum || c = '.' || c = '_' || c = '-'

/-- The segments from one part on, after the given number of wildcards. -/
def parseSegments : ℕ → List String → Except PatternError (List PatternSegment)
  | _,[] => .ok []
  | wildcards,part :: rest =>
    if part = "**" then do
      require (rest = []) (.invalidSegment "** must be the last segment")
      require (wildcards + 1 ≤ maxWildcardsPerPattern) .tooManyWildcards
      let segments ← parseSegments (wildcards + 1) rest
      .ok (.recursiveWildcard :: segments)
    else if part = "*" then do
      require (wildcards + 1 ≤ maxWildcardsPerPattern) .tooManyWildcards
      let segments ← parseSegments (wildcards + 1) rest
      .ok (.wildcard :: segments)
    else do
      require (part ≠ "") (.invalidSegment "")
      require (part.toList.any isGlobChar = false) (.invalidSegment part)
      require (part.toList.all isSegmentChar = true) (.invalidSegment part)
      let segments ← parseSegments wildcards rest
      .ok (.literal part :: segments)

/-- `RefPattern::parse`. -/
def patternSegments (pattern : String) : Except PatternError (List PatternSegment) := do
  require (pattern ≠ "") .empty
  require (pattern.utf8ByteSize ≤ maxPatternLength) .tooLong
  require ((LineText.stripStart "refs/" pattern).isSome = true) .missingRefsPrefix
  parseSegments 0 (splitSlash pattern)

/-- A parsed pattern. Its segments are private in the code, so it comes from a text only. -/
structure RefPattern where
  raw : String
  segments : List PatternSegment
  parsed : patternSegments raw = .ok segments

/-- One segment against one part of a ref; `none` is the arm that the code holds for unreachable. -/
def PatternSegment.covers : PatternSegment → String → Option Bool
  | wildcard,_ => some true
  | literal text,part => some (text = part)
  | recursiveWildcard,_ => none

/-- The pairs up to the first that does not agree. -/
def coversAll : List (PatternSegment × String) → Option Bool
  | [] => some true
  | (segment,part) :: rest =>
    match segment.covers part with
    | some true => coversAll rest
    | answer => answer

def RefPattern.matches (p : RefPattern) (refName : String) : Option Bool :=
  let refSegments := splitSlash refName
  match p.segments.getLast? with
  | some .recursiveWildcard =>
    let prefixLen := p.segments.length - 1
    if refSegments.length ≤ prefixLen then some false
    else coversAll ((p.segments.take prefixLen).zip (refSegments.take prefixLen))
  | _ =>
    if refSegments.length ≠ p.segments.length then some false
    else coversAll (p.segments.zip refSegments)

lemma recursive_last_of_parseSegments {wildcards : ℕ} {parts : List String}
    {segs : List PatternSegment} (h : parseSegments wildcards parts = .ok segs) :
    PatternSegment.recursiveWildcard ∉ segs.dropLast := by
  induction parts generalizing wildcards segs with
  | nil =>
    cases h
    simp
  | cons part rest ih =>
    unfold parseSegments at h
    split at h
    · -- nothing follows a recursive wildcard
      simp only [bind_eq_ok,exists_unit,require_eq_ok] at h
      obtain ⟨rfl,-,tl,ht,hs⟩ := h
      cases ht
      cases hs
      simp
    · split at h
      · simp only [bind_eq_ok,exists_unit] at h
        obtain ⟨-,tl,ht,hs⟩ := h
        cases hs
        cases tl with
        | nil => simp
        | cons t ts => simpa using ih ht
      · simp only [bind_eq_ok,exists_unit] at h
        obtain ⟨-,-,-,tl,ht,hs⟩ := h
        cases hs
        cases tl with
        | nil => simp
        | cons t ts => simpa using ih ht

lemma RefPattern.recursive_last (p : RefPattern) :
    PatternSegment.recursiveWildcard ∉ p.segments.dropLast := by
  have h := p.parsed
  unfold patternSegments at h
  simp only [bind_eq_ok,exists_unit] at h
  exact recursive_last_of_parseSegments h.2.2.2

/-- What the segments of a pattern stand for: `*` for any one part. -/
def PatternSegment.StandsFor : PatternSegment → String → Prop
  | wildcard,_ => True
  | literal text,part => text = part
  | recursiveWildcard,_ => False

/-- The parts of a ref, one for one, and one or more for a `**` at the end. -/
def Denotes (segments : List PatternSegment) (parts : List String) : Prop :=
  List.Forall₂ PatternSegment.StandsFor segments parts ∨
    ∃ init front rest, segments = init ++ [.recursiveWildcard] ∧ parts = front ++ rest ∧ rest ≠ [] ∧
      List.Forall₂ PatternSegment.StandsFor init front

lemma coversAll_zip {segs : List PatternSegment} {parts : List String}
    (h : PatternSegment.recursiveWildcard ∉ segs) (hl : segs.length = parts.length) :
    ∃ answer, coversAll (segs.zip parts) = some answer ∧
      (answer = true ↔ List.Forall₂ PatternSegment.StandsFor segs parts) := by
  induction segs generalizing parts with
  | nil =>
    obtain rfl := List.eq_nil_of_length_eq_zero hl.symm
    exact ⟨true,rfl,by simp⟩
  | cons segment segs ih =>
    obtain ⟨part,parts,rfl⟩ := List.exists_cons_of_length_eq_add_one hl.symm
    obtain ⟨hs,hr⟩ := not_or.1 (List.mem_cons.not.1 h)
    obtain ⟨answer,ha,hi⟩ := ih hr (Nat.succ.inj hl)
    simp only [List.zip_cons_cons,coversAll,List.forall₂_cons]
    cases segment with
    | wildcard => exact ⟨answer,ha,by simpa [PatternSegment.StandsFor] using hi⟩
    | literal text =>
      by_cases htext : text = part
      · exact ⟨answer,by simpa [PatternSegment.covers,htext] using ha,
          by simpa [PatternSegment.StandsFor,htext] using hi⟩
      · exact ⟨false,by simp [PatternSegment.covers,htext],by simp [PatternSegment.StandsFor,htext]⟩
    | recursiveWildcard => exact absurd rfl hs

lemma denotes_iff {init : List PatternSegment} {last : PatternSegment} {parts : List String} :
    Denotes (init ++ [last]) parts ↔
      if last = .recursiveWildcard then init.length < parts.length ∧
        List.Forall₂ PatternSegment.StandsFor init (parts.take init.length)
      else List.Forall₂ PatternSegment.StandsFor (init ++ [last]) parts := by
  split_ifs with hl
  · subst hl
    constructor
    · rintro (h | ⟨init',front,rest,he,rfl,hne,h⟩)
      · -- no part stands for `**`
        obtain ⟨part,_,hp,-⟩ := List.forall₂_cons_right_iff.1 (List.forall₂_drop_append _ _ _ h.flip)
        exact hp.elim
      · obtain ⟨rfl,-⟩ := List.append_inj' he rfl
        rw [h.length_eq,List.take_left,List.length_append]
        exact ⟨Nat.lt_add_of_pos_right (List.length_pos_iff.2 hne),h⟩
    · rintro ⟨hlt,h⟩
      exact .inr ⟨init,_,parts.drop init.length,rfl,(List.take_append_drop _ _).symm,by simpa using hlt,h⟩
  · refine or_iff_left ?_
    rintro ⟨init',front,rest,he,-⟩
    exact hl (by simpa using (List.append_inj' he rfl).2)

/-- No arm is reached that the code holds for unreachable, and a pattern matches just the refs it stands
for. -/
theorem RefPattern.matches_denoted (p : RefPattern) (refName : String) :
    ∃ answer, p.matches refName = some answer ∧
    (answer = true ↔ Denotes p.segments (splitSlash refName)) := by
  have hrec := p.recursive_last
  unfold RefPattern.matches
  generalize p.segments = segments at hrec ⊢
  generalize splitSlash refName = parts
  obtain rfl | ⟨init,last,rfl⟩ := segments.eq_nil_or_concat'
  · cases parts <;> simp [coversAll,Denotes]
  · simp only [List.dropLast_concat] at hrec
    simp only [List.getLast?_concat,List.length_append,List.length_singleton,Nat.add_sub_cancel,
      List.take_left,denotes_iff]
    by_cases hl : last = .recursiveWildcard
    · subst hl
      by_cases hlt : init.length < parts.length
      · obtain ⟨answer,ha,hi⟩ := coversAll_zip hrec (List.length_take_of_le hlt.le).symm
        exact ⟨answer,by simpa [not_le.2 hlt] using ha,by simpa [hlt] using hi⟩
      · exact ⟨false,by simp [not_lt.1 hlt],by simp [hlt]⟩
    · have hall : PatternSegment.recursiveWildcard ∉ init ++ [last] := by
        simp [hrec,Ne.symm hl]
      by_cases hlen : (init ++ [last]).length = parts.length
      · obtain ⟨answer,ha,hi⟩ := coversAll_zip hall hlen
        refine ⟨answer,?_,by rwa [if_neg hl]⟩
        cases last <;> simp_all
      · refine ⟨false,?_,by simpa [hl] using fun h => hlen h.length_eq⟩
        cases last <;> simp_all [eq_comm]

inductive UpdateKind
  | create
  | fastForward
  | nonFastForward
  | delete
  deriving DecidableEq

structure RefUpdate where
  refName : String
  kind : UpdateKind
  oldOid : String
  newOid : String

structure ProtectionRule where
  pattern : RefPattern
  pushRole : Option MemberRole
  noForcePush : Bool
  noDelete : Bool
  requirePatch : Bool

def strictest (current : Option MemberRole) (role : MemberRole) : Option MemberRole :=
  some (match current with
    | none => role
    | some existing => if existing.permissionLevel < role.permissionLevel then role else existing)

def defaultMinRole (refName : String) (kind : UpdateKind) : MemberRole :=
  let isBranch := (LineText.stripStart "refs/heads/" refName).isSome
  let isTag := (LineText.stripStart "refs/tags/" refName).isSome
  match kind with
  | .create => if isBranch || isTag then .member else .admin
  | .fastForward => if isBranch then .member else .admin
  | .nonFastForward => .admin
  | .delete => .admin

structure EffectiveRules where
  pushRole : Option MemberRole
  noForcePush : Bool
  noDelete : Bool
  requirePatch : Bool
  hasExplicitMatch : Bool

namespace EffectiveRules

def unrestricted : EffectiveRules := ⟨none,false,false,false,false⟩

def absorb (e : EffectiveRules) (rule : ProtectionRule) : EffectiveRules where
  pushRole :=
    match rule.pushRole with
    | some role => strictest e.pushRole role
    | none => e.pushRole
  noForcePush := e.noForcePush || rule.noForcePush
  noDelete := e.noDelete || rule.noDelete
  requirePatch := e.requirePatch || rule.requirePatch
  hasExplicitMatch := true

def forRef (refName : String) (rules : List ProtectionRule) : EffectiveRules :=
  rules.foldl (fun e rule => if rule.pattern.matches refName = some true then e.absorb rule else e)
    unrestricted

def floor : Option MemberRole → ℕ
  | none => 0
  | some role => role.permissionLevel + 1

lemma floor_injective : Function.Injective floor := by
  intro r s h
  cases r with
  | none => cases s <;> simp [floor] at h ⊢
  | some x =>
    cases s with
    | none => simp [floor] at h
    | some y => simpa [floor,MemberRole.permissionLevel_injective.eq_iff] using h

/-- How much a demand asks, one component for each thing it can ask. -/
def strictness (e : EffectiveRules) : ℕ × Bool × Bool × Bool × Bool :=
  (floor e.pushRole,e.noForcePush,e.noDelete,e.requirePatch,e.hasExplicitMatch)

lemma strictness_injective : Function.Injective strictness := by
  rintro ⟨r,f,d,p,m⟩ ⟨r',f',d',p',m'⟩ h
  simp only [strictness,Prod.mk.injEq] at h
  obtain ⟨hr,rfl,rfl,rfl,rfl⟩ := h
  rw [floor_injective hr]

instance : PartialOrder EffectiveRules := PartialOrder.lift strictness strictness_injective

variable {c : EffectiveRules}

lemma le_iff {e : EffectiveRules} : e ≤ c ↔ floor e.pushRole ≤ floor c.pushRole ∧
    (e.noForcePush → c.noForcePush) ∧
      (e.noDelete → c.noDelete) ∧ (e.requirePatch → c.requirePatch) ∧
      (e.hasExplicitMatch → c.hasExplicitMatch) := by
  change strictness e ≤ strictness c ↔ _
  simp only [strictness,Prod.mk_le_mk,Bool.le_iff_imp]

lemma floor_strictest (cur : Option MemberRole) (role : MemberRole) :
    floor (strictest cur role) = max (floor cur) (floor (some role)) := by
  cases cur with
  | none => simp [strictest,floor]
  | some existing =>
    simp only [strictest,floor]
    split <;> omega

lemma floor_absorb (e : EffectiveRules) (rule : ProtectionRule) :
    floor (e.absorb rule).pushRole = max (floor e.pushRole) (floor rule.pushRole) := by
  cases h : rule.pushRole with
  | none => simp [absorb,h,floor]
  | some role => simp only [absorb,h,floor_strictest]

lemma unrestricted_le (e : EffectiveRules) : unrestricted ≤ e := by
  simp [le_iff,unrestricted,floor]

lemma absorb_le_iff {e : EffectiveRules} {rule : ProtectionRule} :
    e.absorb rule ≤ c ↔ e ≤ c ∧ unrestricted.absorb rule ≤ c := by
  simp only [le_iff,floor_absorb,max_le_iff]
  simp only [absorb,unrestricted,floor,Bool.or_eq_true,or_imp,zero_le]
  tauto

variable {refName : String} {rules : List ProtectionRule}

/-- The demand on a ref is the least one above the demands of the rules that match it. -/
lemma forRef_le_iff : forRef refName rules ≤ c ↔
      ∀ rule ∈ rules, rule.pattern.matches refName = some true → unrestricted.absorb rule ≤ c := by
  -- the accumulator of the fold is one more demand below the bound
  have hf : ∀ e : EffectiveRules,
      rules.foldl (fun e rule => if rule.pattern.matches refName = some true then e.absorb rule else e) e ≤
        c ↔
        e ≤ c ∧ ∀ rule ∈ rules, rule.pattern.matches refName = some true → unrestricted.absorb rule ≤ c := by
    induction rules with
    | nil => simp
    | cons rule rest ih =>
      intro e
      rw [List.foldl_cons,ih]
      by_cases hm : rule.pattern.matches refName = some true
      · rw [if_pos hm,absorb_le_iff,List.forall_mem_cons,and_assoc,imp_iff_right hm]
      · simp [hm]
  rw [forRef,hf,and_iff_right (unrestricted_le c)]

lemma forRef_mono {more : List ProtectionRule} (h : rules ⊆ more) :
    forRef refName rules ≤ forRef refName more := by
  rw [forRef_le_iff]
  intro rule hr hm
  exact forRef_le_iff.1 le_rfl rule (h hr) hm

lemma forRef_congr {others : List ProtectionRule}
    (h : ∀ rule, rule ∈ rules ↔ rule ∈ others) : forRef refName rules = forRef refName others :=
  le_antisymm (forRef_mono fun rule => (h rule).1) (forRef_mono fun rule => (h rule).2)

end EffectiveRules

structure Denial where
  refName : String
  reason : String

/-- An explicit role never weakens the built-in one. -/
def minRole (pushRole : Option MemberRole) (defaultRole : MemberRole) : MemberRole :=
  match pushRole with
  | some explicit =>
    if defaultRole.permissionLevel ≤ explicit.permissionLevel then explicit else defaultRole
  | none => defaultRole

def judge (effective : EffectiveRules) (update : RefUpdate) (role : MemberRole) : Except Denial Unit :=
  let defaultRole := defaultMinRole update.refName update.kind
  if effective.hasExplicitMatch = false then
    require (role.hasAtLeast defaultRole = true)
      ⟨update.refName,"requires " ++ defaultRole.asStr ++ " role (you have " ++ role.asStr ++
        "), using built-in defaults"⟩
  else do
    require (effective.requirePatch = false)
      ⟨update.refName,"direct push denied: require-patch is set, submit a NIP-34 patch"⟩
    require (role.hasAtLeast (minRole effective.pushRole defaultRole) = true)
      ⟨update.refName,"requires " ++ (minRole effective.pushRole defaultRole).asStr ++
        " role (you have " ++ role.asStr ++ ")"⟩
    require (¬ (effective.noForcePush = true ∧ update.kind = .nonFastForward))
      ⟨update.refName,"non-fast-forward update denied: no-force-push is set"⟩
    require (¬ (effective.noDelete = true ∧ update.kind = .delete))
      ⟨update.refName,"ref deletion denied: no-delete is set"⟩

def evaluateRefUpdate (update : RefUpdate) (role : MemberRole) (rules : List ProtectionRule) :
    Except Denial Unit :=
  judge (EffectiveRules.forRef update.refName rules) update role

def err {ε α : Type} : Except ε α → Option ε
  | .error e => some e
  | .ok _ => none

def evaluatePush (updates : List RefUpdate) (role : MemberRole) (rules : List ProtectionRule) :
    Except (List Denial) Unit :=
  let denials := updates.filterMap fun update => err (evaluateRefUpdate update role rules)
  if denials = [] then .ok () else .error denials

variable {role : MemberRole}

lemma hasAtLeast_minRole {defaultRole : MemberRole} {pushRole : Option MemberRole} :
    role.hasAtLeast (minRole pushRole defaultRole) = true ↔
      defaultRole.permissionLevel ≤ role.permissionLevel ∧
        EffectiveRules.floor pushRole ≤ EffectiveRules.floor (some role) := by
  cases pushRole with
  | none => simp [minRole,MemberRole.hasAtLeast_iff,EffectiveRules.floor]
  | some explicit =>
    simp only [minRole,MemberRole.hasAtLeast_iff,EffectiveRules.floor]
    split <;> omega

variable {e : EffectiveRules} {update : RefUpdate}

/-- What an allowed update has passed. Without a matching rule the built-in role is all of it. -/
lemma judge_eq_ok : judge e update role = .ok () ↔
      (defaultMinRole update.refName update.kind).permissionLevel ≤ role.permissionLevel ∧
        (e.hasExplicitMatch → e.requirePatch = false ∧
          EffectiveRules.floor e.pushRole ≤ EffectiveRules.floor (some role) ∧
            ¬ (e.noForcePush ∧ update.kind = .nonFastForward) ∧ ¬ (e.noDelete ∧ update.kind = .delete)) := by
  unfold judge
  cases h : e.hasExplicitMatch with
  | false => simp [MemberRole.hasAtLeast_iff]
  | true =>
    simp only [Bool.true_eq_false,if_false,bind_eq_ok,exists_unit,require_eq_ok,hasAtLeast_minRole]
    tauto

/-- A demand that asks more lets through less. -/
lemma judge_antitone {c : EffectiveRules} (hle : e ≤ c)
    (h : judge c update role = .ok ()) : judge e update role = .ok () := by
  obtain ⟨hro,hfo,hde,hpa,hm⟩ := EffectiveRules.le_iff.1 hle
  rw [judge_eq_ok] at h ⊢
  refine ⟨h.1,fun he => ?_⟩
  obtain ⟨hp,hr,hf,hd⟩ := h.2 (hm he)
  refine ⟨?_,hro.trans hr,fun hx => hf ⟨hfo hx.1,hx.2⟩,fun hx => hd ⟨hde hx.1,hx.2⟩⟩
  cases hep : e.requirePatch with
  | false => rfl
  | true =>
    rw [hpa hep] at hp
    cases hp

lemma judge_role_mono {lower hi : MemberRole}
    (hle : lower.permissionLevel ≤ hi.permissionLevel) (h : judge e update lower = .ok ()) :
    judge e update hi = .ok () := by
  rw [judge_eq_ok] at h ⊢
  refine ⟨h.1.trans hle,fun he => ?_⟩
  obtain ⟨hp,hr,hre⟩ := h.2 he
  exact ⟨hp,hr.trans (Nat.succ_le_succ hle),hre⟩

lemma err_eq_none {ε : Type} {res : Except ε Unit} : err res = none ↔ res = .ok () := by
  cases res <;> simp [err]

/-- Rules only restrict, as a set; a stronger role is never refused what a weaker one is allowed;
and a push is allowed exactly when its updates are. -/
theorem protection_only_restricts :
    (∀ update role (rules longer : List ProtectionRule), rules.Sublist longer →
        evaluateRefUpdate update role rules ≠ .ok () → evaluateRefUpdate update role longer ≠ .ok ()) ∧
      (∀ update role (rules others : List ProtectionRule), (∀ rule, rule ∈ rules ↔ rule ∈ others) →
          evaluateRefUpdate update role rules = evaluateRefUpdate update role others) ∧
      (∀ update (lower higher : MemberRole) rules, lower.permissionLevel ≤ higher.permissionLevel →
          evaluateRefUpdate update lower rules = .ok () → evaluateRefUpdate update higher rules = .ok ()) ∧
      (∀ updates role rules, evaluatePush updates role rules = .ok () ↔
        ∀ update ∈ updates, evaluateRefUpdate update role rules = .ok ()) := by
  refine ⟨?_,?_,?_,?_⟩
  · intro update role rules longer hsu hd ha
    exact hd (judge_antitone (EffectiveRules.forRef_mono hsu.subset) ha)
  · intro update role rules others hs
    rw [evaluateRefUpdate,evaluateRefUpdate,EffectiveRules.forRef_congr hs]
  · intro update lower higher rules hle ha
    exact judge_role_mono hle ha
  · intro updates role rules
    have hn : updates.filterMap (fun update => err (evaluateRefUpdate update role rules)) = [] ↔
        ∀ update ∈ updates, evaluateRefUpdate update role rules = .ok () := by
      simp only [List.filterMap_eq_nil_iff,err_eq_none]
    rw [← hn,evaluatePush]
    split
    · rename_i h
      simp [h]
    · rename_i h
      simp [h]

end BuzzSolo.GitPerms
