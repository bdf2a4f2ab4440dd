import BuzzSolo.PairRelay
import BuzzSolo.Reservation

/-! What the checks of the pairing relay establish, and what a frame, a reservation and a delivery
can do to its state. -/
namespace BuzzSolo.PairRelay

open Checks HashTable HexText JsonText Reservation Option
open Handoff (Json field)
open LocalRelay (asI64)

variable {R : Host}

lemma intText_unique {a b : ℤ} {r u : String} (h : intText a ++ ("," ++ r) = intText b ++ ("," ++ u)) :
    a = b := by
  have hc : ∀ t : String, ("," ++ t).toList.head? = some ',' := by
    simp
  -- a number starts with a digit, so it is not taken for one with a sign
  have hdi : ∀ (n : ℕ) (t : String), (n.repr ++ t).toList.head? ≠ some '-' := by
    intro n t hh
    obtain ⟨d,hd,hi⟩ := repr_head n t
    rw [hd] at hh
    rw [some.inj hh] at hi
    exact absurd hi (by decide)
  have hs : ∀ (n : ℕ) (t : String), ("-" ++ n.repr ++ t).toList.head? = some '-' := by
    simp [String.toList_append]
  cases a with
  | ofNat n =>
    cases b with
    | ofNat m =>
      have hnm := (repr_unique (hc r) (hc u) (by decide) (by decide) h).1
      rw [hnm]
    | negSucc m =>
      have hh := congrArg (fun s : String => s.toList.head?) h
      exact absurd (hh.trans (hs _ _)) (hdi n _)
  | negSucc n =>
    cases b with
    | ofNat m =>
      have hh := congrArg (fun s : String => s.toList.head?) h
      exact absurd (hh.symm.trans (hs _ _)) (hdi m _)
    | negSucc m =>
      have ht : (n+1).repr ++ ("," ++ r) = (m+1).repr ++ ("," ++ u) := by
        have hl := congrArg String.toList h
        simp only [intText] at hl
        apply String.toList_inj.1
        simpa [String.toList_append] using hl
      have hnm := (repr_unique (hc r) (hc u) (by decide) (by decide) ht).1
      rw [Nat.succ.inj hnm]

lemma createdAt_of_commitment {obj obj' : List (String × Json)} {text : String}
    (h : commitment R obj = .ok text) (h' : commitment R obj' = .ok text) :
    (field obj "created_at").bind asI64 = (field obj' "created_at").bind asI64 := by
  simp only [commitment,bind_eq_ok,okOr_eq_ok,Except.ok.injEq] at h h'
  obtain ⟨pk,-,t,ht,kind,-,tags,-,cont,-,hte⟩ := h
  obtain ⟨pk',-,t',ht',kind',-,tags',-,content',-,hte'⟩ := h'
  rw [ht,ht']
  have heq := hte.trans hte'.symm
  simp only [array,arrayTail] at heq
  have hs : quote pk ++ ("," ++ intText t ++ ("," ++ kind.repr ++ ("," ++ R.toText tags ++
      ("," ++ quote cont ++ "]")))) = quote pk' ++ ("," ++ intText t' ++ ("," ++ kind'.repr ++
      ("," ++ R.toText tags' ++ ("," ++ quote content' ++ "]")))) := by
    have hl := congrArg String.toList heq
    apply String.toList_inj.1
    simpa [String.toList_append] using hl
  have hr := (delimited_quote _ _ _ _ hs).2
  have hi : intText t ++ ("," ++ (kind.repr ++ ("," ++ R.toText tags ++ ("," ++ quote cont ++ "]")))) =
      intText t' ++ ("," ++ (kind'.repr ++ ("," ++ R.toText tags' ++ ("," ++ quote content' ++ "]")))) := by
    have hl := congrArg String.toList hr
    apply String.toList_inj.1
    simpa [String.toList_append] using hl
  rw [intText_unique hi]

/-- The attempt is for an event that passed its checks at the time it names. -/
structure Genuine (R : Host) (a : Attempt) : Prop where
  valid : validateEvent (R.wallSecs a.since) a.event = .ok (a.eventId,a.id,a.p)
  signed : verifyEventSig R a.event = .ok ()

/-- No two of the events have different commitments with one hash. -/
def NoCollision (R : Host) (events : List Json) : Prop :=
  ∀ e ∈ events, ∀ f ∈ events, ∀ obj obj' x y, e.asObject = some obj → f.asObject = some obj' →
    commitment R obj = .ok x → commitment R obj' = .ok y → R.sha256 x = R.sha256 y → x = y

lemma NoCollision.subset {es sub : List Json} (h : NoCollision R es) (hs : sub ⊆ es) : NoCollision R sub :=
  fun e he f hf => h e (hs he) f (hs hf)

lemma validateEvent_ok {wall : ℕ} {ev : Json} {eventId : String} {id : EventId} {p : PublicKey}
    (h : validateEvent wall ev = .ok (eventId,id,p)) :
    ∃ obj t, ev.asObject = some obj ∧ (field obj "id").bind Json.asStr = some eventId ∧
      decodeHex32 eventId = some id ∧ (field obj "created_at").bind asI64 = some t ∧
      (t - wall).natAbs ≤ freshnessSecs := by
  simp only [validateEvent,bind_eq_ok,okOr_eq_ok,require_eq_ok,exists_unit] at h
  obtain ⟨obj,ho,-,eid,he,idb,hi,pk,-,-,-,t,ht,hf,rest⟩ := h
  obtain ⟨cont,-,-,sig,-,-,tags,-,-,tag,-,-,-,ps,-,pb,-,rfl,rfl,-⟩ := rest
  exact ⟨obj,t,ho,he,hi,ht,hf⟩

lemma verifyEventSig_ok {ev : Json} (h : verifyEventSig R ev = .ok ()) :
    ∃ obj t eventId, ev.asObject = some obj ∧ commitment R obj = .ok t ∧
      (field obj "id").bind Json.asStr = some eventId ∧ decodeHex32 eventId = some (R.sha256 t) := by
  simp only [verifyEventSig,bind_eq_ok,okOr_eq_ok,require_eq_ok,exists_unit] at h
  obtain ⟨obj,ho,t,ht,eid,he,sig,-,idb,hi,rfl,-⟩ := h
  exact ⟨obj,t,eid,ho,ht,he,hi⟩

lemma toHex_of_decodeHex32 {s : String} {b : FixedBytes 32} (h : decodeHex32 s = some b) : b.toHex = s := by
  unfold decodeHex32 at h
  split at h
  next hl =>
    simp only [isLowerHex,Bool.and_eq_true,List.all_eq_true] at hl
    exact FixedBytes.toHex_of_fromHex hl.2 h
  · cases h

lemma Genuine.eventId {a : Attempt} (h : Genuine R a) : a.eventId = a.id.toHex := by
  obtain ⟨_,_,-,-,hd,-,-⟩ := validateEvent_ok h.valid
  exact (toHex_of_decodeHex32 hd).symm

/-- Two checks of one id are less than two freshness windows and a second apart. -/
lemma Genuine.near {a b : Attempt} {es : List Json} (ha : Genuine R a) (hb : Genuine R b)
    (hae : a.event ∈ es) (hbe : b.event ∈ es) (hash : NoCollision R es) (hid : a.id = b.id) :
    a.since < b.since + (2*freshnessSecs+1)*nanosPerSec := by
  obtain ⟨obj,t,ho,he,hd,ht,hf⟩ := validateEvent_ok ha.valid
  obtain ⟨obj₁,text,eid,hobj₁,hte,heid₁,hs⟩ := verifyEventSig_ok ha.signed
  rw [ho] at hobj₁
  cases hobj₁
  rw [he] at heid₁
  cases heid₁
  obtain ⟨obj',t',ho',he',hd',ht',hf'⟩ := validateEvent_ok hb.valid
  obtain ⟨obj₂,text',eid',hobj₂,hte',heid₂,hs'⟩ := verifyEventSig_ok hb.signed
  rw [ho'] at hobj₂
  cases hobj₂
  rw [he'] at heid₂
  cases heid₂
  have hh : R.sha256 text = R.sha256 text' := by
    rw [hd] at hs
    rw [hd'] at hs'
    rw [← some.inj hs,← some.inj hs',hid]
  have htx := hash _ hae _ hbe obj obj' text text' ho ho' hte hte' hh
  subst htx
  have hti := createdAt_of_commitment hte hte'
  rw [ht,ht'] at hti
  cases hti
  simp only [Host.wallSecs,nanosPerSec] at hf hf' ⊢
  omega

def holder (w : World) (c : ℕ) : Option (EventId × ℕ) :=
  (w.conns.lookup c).bind fun conn => conn.phase.reservation

def done (w : World) : List (EventId × ℕ) := w.handed.map fun x => (x.attempt.id,x.time)

/-- Neither an acceptance nor the answer to a duplicate. -/
def Plain (r : Reply) : Prop :=
  (∀ id message, r ≠ .ok id true message) ∧ ∀ id, r ≠ .ok id false "duplicate: already seen"

inductive SubsChange (w w' : World) (c : ℕ) : Prop
  | same (hsubs : w'.subs = w.subs) (hconn : ∀ conn, w.conns.lookup c = some conn →
      ∃ conn', w'.conns.lookup c = some conn' ∧ conn'.subId = conn.subId)
  | removed (hsubs : w'.subs = w.subs.filter fun s => s.connId ≠ c)
  | added (subId : String) (p : PublicKey) (hsubs : w'.subs = w.subs ++ [⟨c,subId,p⟩])
      (hnew : ∀ s ∈ w.subs, s.p ≠ p)
      (hfree : ∀ conn, w.conns.lookup c = some conn → conn.subId = none)
      (hconn : ∃ conn', w'.conns.lookup c = some conn' ∧ conn'.subId = some subId)

structure FrameEffect (R : Host) (w w' : World) (c : ℕ) : Prop where
  now : w'.now = w.now
  seenIds : w'.seenIds = w.seenIds
  handed : w'.handed = w.handed
  nextConnId : w'.nextConnId = w.nextConnId
  others : ∀ d, d ≠ c → w'.conns.lookup d = w.conns.lookup d
  mine : ∀ conn, w'.conns.lookup c = some conn → conn.phase = .idle ∨
    ∃ a, conn.phase = .checked a ∧ Genuine R a ∧ a.since = w.now ∧ a.event ∈ w'.attempted
  attempted : w.attempted ⊆ w'.attempted
  replies : w'.replies = w.replies ∨ ∃ r, w'.replies = (c,r) :: w.replies ∧ Plain r
  subs : SubsChange w w' c

section

variable {w w' : World} {c : ℕ} {conn : Conn}

@[simp] lemma lookup_setConn_self (w : World) (c : ℕ) (conn : Conn) :
    (w.setConn c conn).conns.lookup c = some conn := by
  simp [World.setConn]

@[simp] lemma lookup_setConn_of_ne (w : World) {c d : ℕ} (conn : Conn) (h : d ≠ c) :
    (w.setConn c conn).conns.lookup d = w.conns.lookup d := by
  simp [World.setConn,h]

lemma FrameEffect.refl (hl : w.conns.lookup c = some conn) (hi : conn.phase = .idle) :
    FrameEffect R w w c where
  now := rfl
  seenIds := rfl
  handed := rfl
  nextConnId := rfl
  others := fun _ _ => rfl
  mine := by
    intro conn' h
    rw [hl] at h
    cases h
    exact .inl hi
  attempted := fun _ h => h
  replies := .inl rfl
  subs := .same rfl fun conn' h => ⟨conn',h,rfl⟩

lemma FrameEffect.reply (h : FrameEffect R w w' c) (hr : w'.replies = w.replies) {r : Reply}
    (hp : Plain r) : FrameEffect R w (w'.reply c r) c :=
  { h with replies := .inr ⟨r,by rw [← hr]; rfl,hp⟩
           subs := by
            cases h.subs with
            | same hsubs hconn => exact .same hsubs hconn
            | removed hsubs => exact .removed hsubs
            | added subId p hsubs hnew hf hconn => exact .added subId p hsubs hnew hf hconn }

lemma FrameEffect.closeConn (R : Host) (w : World) (c : ℕ) : FrameEffect R w (w.closeConn c) c where
  now := rfl
  seenIds := rfl
  handed := rfl
  nextConnId := rfl
  others := by
    intro d hd
    simp [World.closeConn,hd]
  mine := by
    intro conn h
    simp [World.closeConn] at h
  attempted := fun _ h => h
  replies := .inl rfl
  subs := .removed rfl

lemma FrameEffect.of_setConn (conn' : Conn) (hl : w.conns.lookup c = some conn)
    (hs : conn'.subId = conn.subId)
    (h : FrameEffect R (w.setConn c conn') w' c) : FrameEffect R w w' c :=
  { h with
    others := fun d hd => (h.others d hd).trans (lookup_setConn_of_ne w conn' hd)
    subs := by
      have hold : ∀ conn₁, w.conns.lookup c = some conn₁ → conn₁.subId = conn'.subId := by
        intro conn₁ h₁
        rw [hl] at h₁
        cases h₁
        exact hs.symm
      cases h.subs with
      | same hsubs hconn =>
        refine .same hsubs ?_
        intro conn₁ h₁
        obtain ⟨conn₂,h₂,heq⟩ := hconn conn' (lookup_setConn_self w c conn')
        exact ⟨conn₂,h₂,heq.trans (hold conn₁ h₁).symm⟩
      | removed hsubs => exact .removed hsubs
      | added subId p hsubs hnew hfree hconn =>
        refine .added subId p hsubs hnew ?_ hconn
        intro conn₁ h₁
        exact (hold conn₁ h₁).trans (hfree conn' (lookup_setConn_self w c conn')) }

lemma plain_notice (msg : String) : Plain (.notice msg) := ⟨by simp,by simp⟩

lemma plain_closed (subId msg : String) : Plain (.closed subId msg) := ⟨by simp,by simp⟩

lemma plain_refused {id msg : String} (h : msg ≠ "duplicate: already seen") : Plain (.ok id false msg) :=
  ⟨by simp,by simp [h]⟩

lemma frameEffect_req (hlookup : w.conns.lookup c = some conn) (hi : conn.phase = .idle)
    (queued : Bool) (args : List Json) : FrameEffect R w (handleReq w c conn queued args) c := by
  have hsa := FrameEffect.refl (R := R) hlookup hi
  unfold handleReq
  split
  · split
    · exact hsa.reply rfl (plain_closed _ _)
    split
    · exact hsa.reply rfl (plain_closed _ _)
    split
    · exact hsa.reply rfl (plain_closed _ _)
    split
    · exact hsa.reply rfl (plain_closed _ _)
    next subId filter rest hl hr ho hn =>
      split
      · exact hsa.reply rfl (plain_closed _ _)
      next p hfilter =>
        split
        · exact hsa.reply rfl (plain_closed _ _)
        next hnew =>
          split
          · refine ⟨rfl,rfl,rfl,rfl,fun d hd => lookup_setConn_of_ne w _ hd,?_,fun _ h => h,
              .inr ⟨_,rfl,by simp,by simp⟩,.added subId p rfl ?_ ?_ ⟨_,lookup_setConn_self w c _,rfl⟩⟩
            · intro conn' h
              rw [show conn' = { conn with subId := some subId } from
                (some.inj ((lookup_setConn_self w c _).symm.trans h)).symm]
              exact .inl hi
            · intro s hs heq
              exact hnew (List.any_eq_true.2 ⟨s,hs,by simpa using heq⟩)
            · intro conn' h
              rw [hlookup] at h
              cases h
              simpa using hn
          · exact .closeConn R w c
  · exact hsa.reply rfl (plain_notice _)

lemma frameEffect_close (hl : w.conns.lookup c = some conn) (hi : conn.phase = .idle)
    (args : List Json) : FrameEffect R w (handleClose w c conn args) c := by
  have hs := FrameEffect.refl (R := R) hl hi
  unfold handleClose
  split
  · split
    · refine ⟨rfl,rfl,rfl,rfl,fun d hd => lookup_setConn_of_ne _ _ hd,?_,fun _ h => h,.inl rfl,.removed rfl⟩
      intro conn' h
      rw [lookup_setConn_self] at h
      cases h
      exact .inl hi
    · exact hs
  · exact hs.reply rfl (plain_notice _)

lemma verifyEventSig_error {ev : Json} {why : String} (h : verifyEventSig R ev = .error why) :
    why ≠ "duplicate: already seen" := by
  rintro rfl
  simp [verifyEventSig,commitment,bind_eq_error,okOr_eq_error,require_eq_error] at h

lemma invalid_ne_duplicate (why : String) : "invalid: " ++ why ≠ "duplicate: already seen" := by
  intro h
  have hh := congrArg (fun s : String => s.toList.head?) h
  simp at hh

variable (hlookup : w.conns.lookup c = some conn) (hidle : conn.phase = .idle)
include hlookup hidle

lemma frameEffect_event (args : List Json) : FrameEffect R w (handleEvent R w c conn args) c := by
  unfold handleEvent
  split
  next ev =>
    let counted : Conn := { conn with eventRate := conn.eventRate.tick w.now }
    have hc : FrameEffect R w (w.setConn c counted) c :=
      .of_setConn counted hlookup rfl (.refl (lookup_setConn_self w c counted) hidle)
    dsimp only
    split
    · exact hc.reply rfl (plain_refused (by decide))
    split
    · exact hc.reply rfl (plain_refused (by decide))
    split
    · exact hc.reply rfl (plain_refused (by decide))
    split
    · exact hc.reply rfl (plain_refused (invalid_ne_duplicate _))
    next eid id p hv =>
      split
      next why hr => exact hc.reply rfl (plain_refused (verifyEventSig_error hr))
      next hs =>
        refine .of_setConn counted hlookup rfl ⟨rfl,rfl,rfl,rfl,fun d hd => lookup_setConn_of_ne _ _ hd,?_,
          fun e he => List.mem_cons_of_mem _ he,.inl rfl,.same rfl ?_⟩
        · intro conn' h
          rw [← some.inj ((lookup_setConn_self (w.setConn c counted) c _).symm.trans h)]
          exact .inr ⟨_,rfl,⟨hv,hs⟩,rfl,List.mem_cons_self ..⟩
        · intro conn' h
          rw [lookup_setConn_self] at h
          cases h
          exact ⟨_,lookup_setConn_self _ c _,rfl⟩
  · exact (FrameEffect.refl hlookup hidle).reply rfl (plain_notice _)

lemma frameEffect_frame
    (queued : Bool) (fm : Frame) : FrameEffect R w (handleFrame R w c conn queued fm) c := by
  let counted : Conn := { conn with msgRate := conn.msgRate.tick w.now }
  refine .of_setConn counted hlookup rfl ?_
  have hs := lookup_setConn_self w c counted
  have hsa : FrameEffect R (w.setConn c counted) (w.setConn c counted) c := .refl hs hidle
  unfold handleFrame
  dsimp only
  split
  · exact .closeConn R _ c
  · cases fm with
    | binary | close => exact .closeConn R _ c
    | pong => exact hsa
    | ping =>
      dsimp only
      split
      · exact hsa
      · exact .closeConn R _ c
    | text v =>
      dsimp only
      unfold handleText
      split
      · exact frameEffect_req hs hidle queued _
      · exact frameEffect_event hs hidle _
      · exact frameEffect_close hs hidle _
      · exact hsa.reply rfl (plain_notice _)
      · exact hsa.reply rfl (plain_notice _)

end

end BuzzSolo.PairRelay
