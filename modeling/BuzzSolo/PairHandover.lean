import BuzzSolo.PairRelaySteps

/-! Each event of a pairing is handed over at most once, to the one subscriber of its `p` tag.
The memory of seen ids forgets after a time; this is late enough, since by then no check of the
event succeeds any more. -/
namespace BuzzSolo.PairRelay

open HashTable HexText Reservation List Function
open Handoff (Json)

variable {R : Host} {w w' : World} {c : ℕ} {conn : Conn}

def handlingLimit : ℕ := 30*nanosPerSec

/-- Every EVENT message under way was checked less than the limit ago. -/
def Prompt (w : World) : Prop :=
  ∀ c conn a, w.conns.lookup c = some conn → conn.phase.attempt = some a → w.now ≤ a.since + handlingLimit

/-- The worlds of runs in which no EVENT message takes longer than the limit. -/
inductive Reach (R : Host) : World → Prop
  | start : Reach R .start
  | step {w w' : World} {action : Action} (h : Reach R w) (hstep : step R w action = some w')
      (hprompt : Prompt w') : Reach R w'

structure Registered (w : World) : Prop where
  distinct : (w.subs.map Sub.p).Nodup
  live : ∀ s ∈ w.subs, ∃ conn, w.conns.lookup s.connId = some conn ∧ conn.subId = some s.subId

structure Inv (R : Host) (w : World) : Prop where
  sound : Sound entryTtl w.now w.seenIds (holder w) (done w)
  attempts : ∀ c conn a, w.conns.lookup c = some conn → conn.phase.attempt = some a →
    Genuine R a ∧ a.since ≤ w.now ∧ a.event ∈ w.attempted
  times : ∀ c conn a q, w.conns.lookup c = some conn → conn.phase.attempt = some a →
    conn.phase.reservation = some q → a.since ≤ q.2
  handed : ∀ x ∈ w.handed, Genuine R x.attempt ∧ x.attempt.since ≤ x.time ∧ x.attempt.event ∈ w.attempted
  registered : Registered w
  named : ∀ c conn, w.conns.lookup c = some conn → c < w.nextConnId
  answered : ∀ c id message, (c,Reply.ok id true message) ∈ w.replies →
    ∃ x ∈ w.handed, x.publisher = c ∧ x.attempt.eventId = id

lemma holder_of_lookup (h : w.conns.lookup c = some conn) : holder w c = conn.phase.reservation := by
  simp [holder,h]

lemma holder_update (ho : ∀ d, d ≠ c → w'.conns.lookup d = w.conns.lookup d) :
    holder w' = update (holder w) c (holder w' c) := by
  funext d
  by_cases hd : d = c
  · subst hd
    rw [update_self]
  · rw [update_of_ne hd,holder,ho d hd]
    rfl

lemma holder_setConn (w : World) (c : ℕ) (conn : Conn) :
    holder (w.setConn c conn) = update (holder w) c conn.phase.reservation := by
  rw [holder_update fun d hd => lookup_setConn_of_ne w conn hd,
    holder_of_lookup (lookup_setConn_self w c conn)]

lemma lookup_setConn_cases {conn' : Conn} {d : ℕ} (h : (w.setConn c conn).conns.lookup d = some conn') :
    (d = c ∧ conn' = conn) ∨ (d ≠ c ∧ w.conns.lookup d = some conn') := by
  by_cases hd : d = c
  · subst hd
    rw [lookup_setConn_self] at h
    exact .inl ⟨rfl,(Option.some.inj h).symm⟩
  · rw [lookup_setConn_of_ne _ _ hd] at h
    exact .inr ⟨hd,h⟩

lemma attempt_of_reservation {phase : Phase} {q : EventId × ℕ} (h : phase.reservation = some q) :
    ∃ a, phase.attempt = some a ∧ a.id = q.1 ∧ ∀ b, phase ≠ .checked b := by
  cases phase with
  | idle | checked => cases h
  | reserved a | failing a =>
    cases h
    exact ⟨a,rfl,rfl,by simp⟩

lemma Registered.keep (h : Registered w) (hsubs : w'.subs = w.subs)
    (hc : ∀ d conn, w.conns.lookup d = some conn →
      ∃ conn', w'.conns.lookup d = some conn' ∧ conn'.subId = conn.subId) : Registered w' := by
  refine ⟨hsubs ▸ h.distinct,?_⟩
  intro s hs
  rw [hsubs] at hs
  obtain ⟨conn,hl,hsu⟩ := h.live s hs
  obtain ⟨conn',hlookup',hsu'⟩ := hc _ _ hl
  exact ⟨conn',hlookup',hsu'.trans hsu⟩

lemma Registered.change (h : Registered w) (hc : SubsChange w w' c)
    (ho : ∀ d, d ≠ c → w'.conns.lookup d = w.conns.lookup d) : Registered w' := by
  cases hc with
  | same hsubs hconn =>
    refine h.keep hsubs ?_
    intro d conn hl
    by_cases hd : d = c
    · subst hd
      exact hconn conn hl
    · exact ⟨conn,(ho d hd).trans hl,rfl⟩
  | removed hsubs =>
    refine ⟨hsubs ▸ h.distinct.sublist (filter_sublist.map Sub.p),?_⟩
    intro s hs
    rw [hsubs] at hs
    obtain ⟨hs,hne⟩ := mem_filter.1 hs
    obtain ⟨conn,hl,hsu⟩ := h.live s hs
    exact ⟨conn,(ho _ (by simpa using hne)).trans hl,hsu⟩
  | added subId p hsubs hnew hfree hconn =>
    constructor
    · rw [hsubs,map_append,nodup_append]
      refine ⟨h.distinct,by simp,?_⟩
      intro q hq r hr hqr
      obtain ⟨s,hs,rfl⟩ := mem_map.1 hq
      have hrp : r = p := by simpa using hr
      exact hnew s hs (hqr.trans hrp)
    · intro s hs
      rw [hsubs] at hs
      rcases mem_append.1 hs with hs | hs
      · obtain ⟨conn,hl,hsu⟩ := h.live s hs
        have hne : s.connId ≠ c := by
          intro heq
          rw [heq] at hl
          rw [hfree conn hl] at hsu
          cases hsu
        exact ⟨conn,(ho _ hne).trans hl,hsu⟩
      · rw [mem_singleton.1 hs]
        exact hconn

lemma FrameEffect.holder_eq (h : FrameEffect R w w' c) (hl : w.conns.lookup c = some conn)
    (hi : conn.phase = .idle) : holder w' c = none ∧ holder w' = holder w := by
  have hm : holder w' c = none := by
    cases hconn : w'.conns.lookup c with
    | none => simp [holder,hconn]
    | some conn' =>
      rw [holder_of_lookup hconn]
      rcases h.mine conn' hconn with hp | ⟨a,hp,-⟩
      · rw [hp]
        rfl
      · rw [hp]
        rfl
  refine ⟨hm,?_⟩
  rw [holder_update h.others,hm]
  refine update_eq_self_iff.2 ?_
  rw [holder_of_lookup hl,hi]
  rfl

variable (h : Inv R w)
include h

lemma Inv.frame (hl : w.conns.lookup c = some conn) (hi : conn.phase = .idle)
    (he : FrameEffect R w w' c) : Inv R w' := by
  obtain ⟨hmi,hh⟩ := he.holder_eq hl hi
  have hdo : done w' = done w := by rw [done,he.handed,done]
  refine ⟨?_,?_,?_,?_,h.registered.change he.subs he.others,?_,?_⟩
  · rw [he.now,he.seenIds,hh,hdo]
    exact h.sound
  · intro d conn' a hd ha
    rw [he.now]
    by_cases hdc : d = c
    · subst hdc
      rcases he.mine conn' hd with hphase | ⟨b,hphase,hg,hsince,hm⟩
      · rw [hphase] at ha
        cases ha
      · rw [hphase] at ha
        cases ha
        exact ⟨hg,hsince.le,hm⟩
    · rw [he.others d hdc] at hd
      obtain ⟨hg,hsince,hm⟩ := h.attempts d conn' a hd ha
      exact ⟨hg,hsince,he.attempted hm⟩
  · intro d conn' a q hd ha hq
    by_cases hdc : d = c
    · subst hdc
      rw [← holder_of_lookup hd,hmi] at hq
      cases hq
    · rw [he.others d hdc] at hd
      exact h.times d conn' a q hd ha hq
  · intro x hx
    rw [he.handed] at hx
    obtain ⟨hg,ht,hm⟩ := h.handed x hx
    exact ⟨hg,ht,he.attempted hm⟩
  · intro d conn' hd
    rw [he.nextConnId]
    by_cases hdc : d = c
    · subst hdc
      exact h.named d conn hl
    · rw [he.others d hdc] at hd
      exact h.named d conn' hd
  · intro d id msg hm
    rw [he.handed]
    rcases he.replies with hs | ⟨r,hc,hp⟩
    · exact h.answered d id msg (hs ▸ hm)
    · rw [hc] at hm
      rcases mem_cons.1 hm with heq | hm
      · exact absurd (Prod.mk.inj heq).2.symm (hp.1 id msg)
      · exact h.answered d id msg hm

/-- Connection `c` goes on with its event: its phase, the memory and the logs may change. -/
lemma Inv.phase {phase : Phase} {book : List (EventId × ℕ)} {delivered : Table PublicKey (ℕ × ℕ)}
    {replies : List (ℕ × Reply)} {handed : List Handover}
    (hl : w.conns.lookup c = some conn)
    (hat : ∀ a, phase.attempt = some a → conn.phase.attempt = some a)
    (ht : ∀ a q, phase.attempt = some a → phase.reservation = some q → a.since ≤ q.2)
    (hs : Sound entryTtl w.now book (update (holder w) c phase.reservation)
      (handed.map fun x => (x.attempt.id,x.time)))
    (hh : ∀ x ∈ handed, Genuine R x.attempt ∧ x.attempt.since ≤ x.time ∧ x.attempt.event ∈ w.attempted)
    (han : ∀ c id msg, (c,Reply.ok id true msg) ∈ replies →
      ∃ x ∈ handed, x.publisher = c ∧ x.attempt.eventId = id) :
      Inv R { w.setConn c { conn with phase := phase } with
      seenIds := book, delivered := delivered, replies := replies, handed := handed } := by
  refine ⟨?_,?_,?_,hh,?_,?_,han⟩
  · change Sound entryTtl w.now book (holder (w.setConn c { conn with phase := phase })) _
    rw [holder_setConn]
    exact hs
  · intro d conn' a hd ha
    rcases lookup_setConn_cases hd with ⟨rfl,rfl⟩ | ⟨-,hd⟩
    · exact h.attempts d conn a hl (hat a ha)
    · exact h.attempts d conn' a hd ha
  · intro d conn' a q hd ha hq
    rcases lookup_setConn_cases hd with ⟨rfl,rfl⟩ | ⟨-,hd⟩
    · exact ht a q ha hq
    · exact h.times d conn' a q hd ha hq
  · refine h.registered.keep rfl ?_
    intro d conn₁ h₁
    by_cases hd : d = c
    · subst hd
      rw [hl] at h₁
      cases h₁
      exact ⟨_,lookup_setConn_self w d _,rfl⟩
    · exact ⟨conn₁,(lookup_setConn_of_ne w _ hd).trans h₁,rfl⟩
  · intro d conn' hd
    rcases lookup_setConn_cases hd with ⟨rfl,-⟩ | ⟨-,hd⟩
    · exact h.named d conn hl
    · exact h.named d conn' hd

/-- The entries of the events under way are younger than the memory lasts. -/
lemma Inv.young (hp : Prompt w) {q : EventId × ℕ} (hq : holder w c = some q) :
    w.now < q.2 + entryTtl := by
  obtain ⟨conn,hlookup,hr⟩ := Option.bind_eq_some_iff.1 hq
  obtain ⟨a,ha,-⟩ := attempt_of_reservation hr
  have hs := h.times c conn a q hlookup ha hr
  have hl := hp c conn a hlookup ha
  simp only [handlingLimit,entryTtl,nanosPerSec] at hl ⊢
  omega

/-- A checked event whose id is not remembered was never handed over. -/
lemma Inv.unhanded (hp : Prompt w) (hash : NoCollision R w.attempted) {a : Attempt}
    (hlookup : w.conns.lookup c = some conn) (ha : conn.phase.attempt = some a)
    (hnew : a.id ∉ w.liveIds.map Prod.fst) : a.id ∉ (done w).map Prod.fst := by
  intro hm
  obtain ⟨hg,-,he⟩ := h.attempts c conn a hlookup ha
  obtain ⟨q,hq,hid⟩ := mem_map.1 hm
  have hold : q.2 + entryTtl ≤ w.now := by
    have hs := h.sound.expire fun d q hq => h.young hp hq
    rcases hs.kept q hq with hb | hold
    · exact absurd (hid ▸ mem_map_of_mem hb) hnew
    · exact hold
  obtain ⟨x,hx,rfl⟩ := mem_map.1 hq
  obtain ⟨hg',ht,he'⟩ := h.handed x hx
  have hn := hg.near hg' he he' hash hid.symm
  have hl := hp c conn a hlookup ha
  simp only [handlingLimit,entryTtl,freshnessSecs] at hl hn hold
  omega

lemma Inv.answered_refused (eid refusal : String) : ∀ d id msg,
    (d,Reply.ok id true msg) ∈ (c,Reply.ok eid false refusal) :: w.replies →
      ∃ x ∈ w.handed, x.publisher = d ∧ x.attempt.eventId = id := by
  intro d id msg hm
  rcases mem_cons.1 hm with heq | hm
  · cases heq
  · exact h.answered d id msg hm

lemma Inv.reserve (hprompt : Prompt w) (hash : NoCollision R w.attempted) {a : Attempt}
    (hl : w.conns.lookup c = some conn) (hp : conn.phase = .checked a) :
    Inv R (handleReserve w c conn a) := by
  have ha : conn.phase.attempt = some a := by rw [hp]; rfl
  have hn : holder w c = none := by
    rw [holder_of_lookup hl,hp]
    rfl
  have hlive : Sound entryTtl w.now w.liveIds (holder w) (done w) :=
    h.sound.expire fun d q hq => h.young hprompt hq
  have hi : update (holder w) c none = holder w := update_eq_self_iff.2 hn.symm
  -- a refused reservation leaves only the expiry behind
  have hr : ∀ msg, Inv R { w.setConn c { conn with phase := .idle } with
      seenIds := w.liveIds, replies := (c,.ok a.eventId false msg) :: w.replies } := by
    intro msg
    refine h.phase hl (by simp [Phase.attempt]) (by simp [Phase.attempt]) ?_ h.handed
      (h.answered_refused _ _)
    simp only [Phase.reservation,hi]
    exact hlive
  unfold handleReserve World.reserveId
  by_cases hd : a.id ∈ w.liveIds.map Prod.fst
  · rw [if_pos hd]
    exact hr _
  · rw [if_neg hd]
    by_cases hc : dedupCap ≤ w.liveIds.length
    · rw [if_pos hc]
      exact hr _
    · rw [if_neg hc]
      refine h.phase hl ?_ ?_ (hlive.reserve hn hd (h.unhanded hprompt hash hl ha hd))
        h.handed h.answered
      · rintro b hb
        cases hb
        exact ha
      · rintro b q hb hq
        cases hb
        cases hq
        exact (h.attempts c conn a hl ha).2.1

lemma Inv.unreserve {a : Attempt} {time : ℕ} {why : Refusal}
    (hl : w.conns.lookup c = some conn) (hp : conn.phase = .failing a time why) :
    Inv R (handleUnreserve w c conn a why) := by
  have hheld : holder w c = some (a.id,time) := by
    rw [holder_of_lookup hl,hp]
    rfl
  exact h.phase hl (by simp [Phase.attempt]) (by simp [Phase.attempt]) (h.sound.release hheld)
    h.handed (h.answered_refused _ _)

omit h

lemma deliverSingle_ok {p : PublicKey} {sent : Bool} {delivered : Table PublicKey (ℕ × ℕ)} {sub : Sub}
    (h : w.deliverSingle p sent = (delivered,.ok sub)) : w.subs.filter (fun s => s.p = p) = [sub] := by
  unfold World.deliverSingle at h
  split at h
  · cases h
  next sub' hfilter =>
    dsimp only at h
    split_ifs at h
    · cases h
    · cases h
    · cases h
      exact hfilter
    · cases h
  · cases h

lemma Inv.deliver (h : Inv R w) {a : Attempt} {time : ℕ} (hl : w.conns.lookup c = some conn)
    (hphase : conn.phase = .reserved a time) (sent : Bool) : Inv R (handleDeliver w c conn sent a time) := by
  have ha : conn.phase.attempt = some a := by rw [hphase]; rfl
  have hr : conn.phase.reservation = some (a.id,time) := by rw [hphase]; rfl
  have hheld : holder w c = some (a.id,time) := (holder_of_lookup hl).trans hr
  have hsince : a.since ≤ time := h.times c conn a _ hl ha hr
  unfold handleDeliver
  dsimp only
  cases hd : (w.deliverSingle a.p sent).2 with
  | error why =>
    refine h.phase hl ?_ ?_ ?_ h.handed h.answered
    · rintro b hb
      cases hb
      exact ha
    · rintro b q hb hq
      cases hb
      cases hq
      exact hsince
    · have hs : update (holder w) c (some (a.id,time)) = holder w :=
        update_eq_self_iff.2 hheld.symm
      simp only [Phase.reservation,hs]
      exact h.sound
  | ok sub =>
    obtain ⟨hg,-,he⟩ := h.attempts c conn a hl ha
    refine h.phase hl (by simp [Phase.attempt]) (by simp [Phase.attempt]) (h.sound.complete hheld) ?_ ?_
    · intro x hx
      rcases mem_cons.1 hx with rfl | hx
      · exact ⟨hg,hsince,he⟩
      · exact h.handed x hx
    · intro d id msg hm
      rcases mem_cons.1 hm with heq | hm
      · cases heq
        exact ⟨_,mem_cons_self ..,rfl,rfl⟩
      · obtain ⟨x,hx,hp⟩ := h.answered d id msg hm
        exact ⟨x,mem_cons_of_mem _ hx,hp⟩

lemma Inv.connect (h : Inv R w) : Inv R { w.setConn w.nextConnId (.new w.now) with
      connCount := w.connCount + 1, nextConnId := w.nextConnId + 1 } := by
  have hf : w.conns.lookup w.nextConnId = none := by
    cases hl : w.conns.lookup w.nextConnId with
    | none => rfl
    | some conn => exact absurd (h.named _ conn hl) (lt_irrefl _)
  refine ⟨?_,?_,?_,h.handed,?_,?_,h.answered⟩
  · change Sound entryTtl w.now w.seenIds (holder (w.setConn w.nextConnId (.new w.now))) (done w)
    rw [holder_setConn,update_eq_self_iff.2]
    · exact h.sound
    · simp [holder,hf,Conn.new,Phase.reservation]
  · intro d conn' a hd ha
    rcases lookup_setConn_cases hd with ⟨-,rfl⟩ | ⟨-,hd⟩
    · cases ha
    · exact h.attempts d conn' a hd ha
  · intro d conn' a q hd ha hq
    rcases lookup_setConn_cases hd with ⟨-,rfl⟩ | ⟨-,hd⟩
    · cases ha
    · exact h.times d conn' a q hd ha hq
  · refine h.registered.keep rfl ?_
    intro d conn₁ h₁
    have hne : d ≠ w.nextConnId := by
      rintro rfl
      rw [hf] at h₁
      cases h₁
    exact ⟨conn₁,(lookup_setConn_of_ne w _ hne).trans h₁,rfl⟩
  · intro d conn' hd
    rcases lookup_setConn_cases hd with ⟨rfl,-⟩ | ⟨-,hd⟩
    · exact Nat.lt_succ_self _
    · exact Nat.lt_succ_of_lt (h.named d conn' hd)

lemma Inv.tick (h : Inv R w) (nanos : ℕ) : Inv R { w with now := w.now + nanos } where
  sound := h.sound.later (Nat.le_add_right _ _)
  attempts := by
    intro d conn a hd ha
    obtain ⟨hg,hs,hm⟩ := h.attempts d conn a hd ha
    exact ⟨hg,hs.trans (Nat.le_add_right _ _),hm⟩
  times := h.times
  handed := h.handed
  registered := ⟨h.registered.distinct,h.registered.live⟩
  named := h.named
  answered := h.answered

/-- What an action is: time passes, a connection opens, handles a frame or ends, or goes on with
its event. -/
inductive Move (R : Host) (w : World) : World → Prop
  | tick (nanos : ℕ) : Move R w { w with now := w.now + nanos }
  | connect : Move R w { w.setConn w.nextConnId (.new w.now) with
      connCount := w.connCount + 1, nextConnId := w.nextConnId + 1 }
  | frame {w' : World} {c : ℕ} {conn : Conn} (hlookup : w.conns.lookup c = some conn)
      (hidle : conn.phase = .idle) (h : FrameEffect R w w' c) : Move R w w'
  | reserve {c : ℕ} {conn : Conn} {a : Attempt} (hlookup : w.conns.lookup c = some conn)
      (hphase : conn.phase = .checked a) : Move R w (handleReserve w c conn a)
  | deliver {c : ℕ} {conn : Conn} {a : Attempt} {time : ℕ} (sent : Bool)
      (hlookup : w.conns.lookup c = some conn) (hphase : conn.phase = .reserved a time) :
      Move R w (handleDeliver w c conn sent a time)
  | unreserve {c : ℕ} {conn : Conn} {a : Attempt} {time : ℕ} {reason : Refusal}
      (hlookup : w.conns.lookup c = some conn) (hphase : conn.phase = .failing a time reason) :
      Move R w (handleUnreserve w c conn a reason)

lemma move_step {action : Action} (h : step R w action = some w') : Move R w w' := by
  cases action with
  | tick nanos =>
    cases h
    exact .tick nanos
  | connect =>
    simp only [step] at h
    split at h
    · cases h
      exact .connect
    · cases h
  | disconnect c =>
    obtain ⟨conn,hl,h⟩ := Option.bind_eq_some_iff.1 h
    split at h
    next hphase =>
      cases h
      exact .frame hl hphase (.closeConn R w c)
    · cases h
  | frame c queued fm =>
    obtain ⟨conn,hl,h⟩ := Option.bind_eq_some_iff.1 h
    split at h
    next hphase =>
      cases h
      exact .frame hl hphase (frameEffect_frame hl hphase queued fm)
    · cases h
  | reserve c =>
    obtain ⟨conn,hl,h⟩ := Option.bind_eq_some_iff.1 h
    split at h
    next a hphase =>
      cases h
      exact .reserve hl hphase
    · cases h
  | deliver c sent =>
    obtain ⟨conn,hl,h⟩ := Option.bind_eq_some_iff.1 h
    split at h
    next a time hphase =>
      cases h
      exact .deliver sent hl hphase
    · cases h
  | unreserve c =>
    obtain ⟨conn,hl,h⟩ := Option.bind_eq_some_iff.1 h
    split at h
    next a time why hphase =>
      cases h
      exact .unreserve hl hphase
    · cases h

lemma Inv.move (h : Inv R w) (hprompt : Prompt w) (hash : NoCollision R w.attempted)
    (hm : Move R w w') : Inv R w' := by
  cases hm with
  | tick nanos => exact h.tick nanos
  | connect => exact h.connect
  | frame hl hi he => exact h.frame hl hi he
  | reserve hl hp => exact h.reserve hprompt hash hl hp
  | deliver sent hl hp => exact h.deliver hl hp sent
  | unreserve hl hp => exact h.unreserve hl hp

lemma Move.attempted (h : Move R w w') : w.attempted ⊆ w'.attempted := by
  cases h with
  | tick | connect | unreserve => exact fun _ h => h
  | frame hlookup hidle he => exact he.attempted
  | reserve hlookup hphase =>
    unfold handleReserve
    dsimp only
    split
    · exact fun _ h => h
    · exact fun _ h => h
    · exact fun _ h => h
  | deliver sent hlookup hphase =>
    unfold handleDeliver
    dsimp only
    split
    · exact fun _ h => h
    · exact fun _ h => h

lemma inv_start (R : Host) : Inv R .start := by
  refine ⟨.empty,?_,?_,?_,⟨?_,?_⟩,?_,?_⟩
  all_goals simp [World.start]

lemma Reach.prompt (h : Reach R w) : Prompt w := by
  cases h with
  | start =>
    intro c conn a hl
    simp [World.start] at hl
  | step h hstep hp => exact hp

lemma Reach.inv (h : Reach R w) (hash : NoCollision R w.attempted) : Inv R w := by
  induction h with
  | start => exact inv_start R
  | step h hst hprompt ih =>
    have hm := move_step hst
    have hash' := hash.subset hm.attempted
    exact (ih hash').move h.prompt hash' hm

lemma Move.handed (h : Move R w w') : ∀ x ∈ w'.handed, x ∈ w.handed ∨
    x.sub ∈ w.subs ∧ x.sub.p = x.attempt.p ∧ ∀ s ∈ w.subs, s.p = x.attempt.p → s = x.sub := by
  intro x hx
  cases h with
  | tick | connect | unreserve => exact .inl hx
  | frame hlookup hidle he =>
    rw [he.handed] at hx
    exact .inl hx
  | reserve hlookup hphase =>
    unfold handleReserve at hx
    dsimp only at hx
    split at hx
    · exact .inl hx
    · exact .inl hx
    · exact .inl hx
  | @deliver c conn a time sent hlookup hphase =>
    unfold handleDeliver at hx
    dsimp only at hx
    cases hd : (w.deliverSingle a.p sent).2 with
    | error why =>
      rw [hd] at hx
      exact .inl hx
    | ok sub =>
      rw [hd] at hx
      rcases mem_cons.1 hx with rfl | hx
      · have ho := deliverSingle_ok (Prod.ext rfl hd)
        have hsu : sub ∈ w.subs.filter fun s => s.p = a.p := by simp [ho]
        refine .inr ⟨mem_of_mem_filter hsu,by simpa using (mem_filter.1 hsu).2,?_⟩
        intro s hs hp
        have hm : s ∈ w.subs.filter fun s => s.p = a.p := mem_filter.2 ⟨hs,by simpa using hp⟩
        rw [ho] at hm
        exact mem_singleton.1 hm
      · exact .inl hx

/-- The answer to a duplicate is given at a reservation that finds its id remembered. -/
lemma Move.duplicate {id : String} (h : Move R w w')
    (hr : w'.replies = (c,.ok id false "duplicate: already seen") :: w.replies) :
    ∃ conn a, w.conns.lookup c = some conn ∧ conn.phase = .checked a ∧ a.eventId = id ∧
      a.id ∈ w.liveIds.map Prod.fst := by
  have hs : ∀ (x : ℕ × Reply) (l : List (ℕ × Reply)), l ≠ x :: l := fun x l heq =>
    absurd (congrArg length heq) (by simp)
  cases h with
  | tick | connect => exact absurd hr (hs _ _)
  | frame hl hidle he =>
    rcases he.replies with hsa | ⟨r,hc,hp⟩
    · exact absurd (hsa.symm.trans hr) (hs _ _)
    · have heq := (cons.inj (hc.symm.trans hr)).1
      exact absurd (Prod.mk.inj heq).2 (hp.2 id)
  | @reserve d conn a hl hphase =>
    unfold handleReserve World.reserveId at hr
    by_cases hdu : a.id ∈ w.liveIds.map Prod.fst
    · rw [if_pos hdu] at hr
      obtain ⟨rfl,heq⟩ := Prod.mk.inj (cons.inj hr).1
      cases heq
      exact ⟨conn,a,hl,hphase,rfl,hdu⟩
    · split_ifs at hr
      · have heq := (Prod.mk.inj (cons.inj hr).1).2
        exact absurd (Reply.ok.inj heq).2.2 (by decide)
      · exact absurd hr (hs _ _)
  | @deliver d conn a time sent hl hphase =>
    unfold handleDeliver at hr
    dsimp only at hr
    cases hd : (w.deliverSingle a.p sent).2 with
    | error why =>
      rw [hd] at hr
      exact absurd hr (hs _ _)
    | ok sub =>
      rw [hd] at hr
      have heq := (Prod.mk.inj (cons.inj hr).1).2
      exact absurd (Reply.ok.inj heq).2.1 (by decide)
  | @unreserve d conn a time why hl hphase =>
    have heq := (Prod.mk.inj (cons.inj hr).1).2
    have ht := (Reply.ok.inj heq).2.2
    cases why <;> exact absurd ht (by decide)

/-- While a connection has only checked its event, a remembered id belongs to an event handed over, or to
one that another connection has under way. -/
lemma Inv.remembered (h : Inv R w) {a : Attempt} (hl : w.conns.lookup c = some conn)
    (hp : conn.phase = .checked a) {id : EventId} (hid : id ∈ w.liveIds.map Prod.fst) :
    (∃ x ∈ w.handed, x.attempt.id = id) ∨
    ∃ d conn' b, d ≠ c ∧ w.conns.lookup d = some conn' ∧ conn'.phase.attempt = some b ∧ b.id = id := by
  obtain ⟨q,hq,rfl⟩ := mem_map.1 hid
  rcases h.sound.owned q (mem_of_mem_filter hq) with ⟨d,hd⟩ | hdo
  · obtain ⟨conn',hlookup',hr⟩ := Option.bind_eq_some_iff.1 hd
    obtain ⟨b,hb,hbi,hc⟩ := attempt_of_reservation hr
    refine .inr ⟨d,conn',b,?_,hlookup',hb,hbi⟩
    rintro rfl
    rw [hl] at hlookup'
    cases hlookup'
    exact hc a hp
  · obtain ⟨x,hx,rfl⟩ := mem_map.1 hdo
    exact .inl ⟨x,hx,rfl⟩

/-- In every run in which EVENT messages are handled within the limit and no two commitments
collide: no id is handed over twice; there is one subscription for a `#p` value, each of an open
connection; an event is accepted only when it was handed over; what an action hands over is a
checked event and goes to the one subscription of its `p` tag; an attempt is answered as a
duplicate only when its id was handed over before or another attempt with it is under way, and an
attempt of which neither holds is not found to be a duplicate. -/
theorem handed_once_to_addressee (hreach : Reach R w) (hash : NoCollision R w.attempted) :
    (w.handed.map fun x => x.attempt.id).Nodup ∧ (w.subs.map Sub.p).Nodup ∧
    (∀ s ∈ w.subs, ∃ conn, w.conns.lookup s.connId = some conn ∧ conn.subId = some s.subId) ∧
    (∀ c id message, (c,Reply.ok id true message) ∈ w.replies →
      ∃ x ∈ w.handed, x.publisher = c ∧ x.attempt.eventId = id) ∧ (∀ x ∈ w.handed, Genuine R x.attempt) ∧
    (∀ action w', step R w action = some w' → (∀ x ∈ w'.handed, x ∈ w.handed ∨
        x.sub ∈ w.subs ∧ x.sub.p = x.attempt.p ∧ ∀ s ∈ w.subs, s.p = x.attempt.p → s = x.sub) ∧
      ∀ c id, w'.replies = (c,.ok id false "duplicate: already seen") :: w.replies →
        (∃ x ∈ w.handed, x.attempt.eventId = id) ∨
        ∃ d conn a, d ≠ c ∧ w.conns.lookup d = some conn ∧ conn.phase.attempt = some a ∧ a.eventId = id) ∧
    ∀ c conn a, w.conns.lookup c = some conn → conn.phase = .checked a →
    (∀ x ∈ w.handed, x.attempt.id ≠ a.id) →
      (∀ d conn' b, d ≠ c → w.conns.lookup d = some conn' → conn'.phase.attempt = some b → b.id ≠ a.id) →
      (w.reserveId a.id).2 ≠ .ok true := by
  have hi := hreach.inv hash
  refine ⟨?_,hi.registered.distinct,hi.registered.live,hi.answered,fun x hx => (hi.handed x hx).1,?_,?_⟩
  · have ho := hi.sound.once
    simp only [done,map_map] at ho
    exact ho
  · intro action w' hstep
    have hm := move_step hstep
    refine ⟨hm.handed,?_⟩
    intro c id hr
    obtain ⟨conn,a,hlookup,hphase,rfl,hdu⟩ := hm.duplicate hr
    have ha : conn.phase.attempt = some a := by rw [hphase]; rfl
    have hg := (hi.attempts c conn a hlookup ha).1
    rcases hi.remembered hlookup hphase hdu with ⟨x,hx,hid⟩ | ⟨d,conn',b,hdc,hd,hb,hid⟩
    · refine .inl ⟨x,hx,?_⟩
      rw [(hi.handed x hx).1.eventId,hg.eventId,hid]
    · refine .inr ⟨d,conn',b,hdc,hd,hb,?_⟩
      rw [(hi.attempts d conn' b hd hb).1.eventId,hg.eventId,hid]
  · intro c conn a hlookup hphase hn hot hdu
    have hme : a.id ∈ w.liveIds.map Prod.fst := by
      unfold World.reserveId at hdu
      by_contra hnew
      split_ifs at hdu
      cases hdu
    rcases hi.remembered hlookup hphase hme with ⟨x,hx,hid⟩ | ⟨d,conn',b,hdc,hd,hb,hid⟩
    · exact hn x hx hid
    · exact hot d conn' b hdc hd hb hid

lemma reach_of_run {as : List Action} (h : Reach R w)
    (hrun : as.foldlM (fun w action => (step R w action).filter fun w' => w'.now = 0) w = some w') :
    Reach R w' := by
  induction as generalizing w with
  | nil =>
    cases hrun
    exact h
  | cons action as ih =>
    obtain ⟨next,hf,hr⟩ := Option.bind_eq_some_iff.1 hrun
    obtain ⟨hst,hn⟩ := Option.filter_eq_some_iff.1 hf
    refine ih (h.step hst ?_) hr
    intro c conn a _ _
    rw [of_decide_eq_true hn]
    exact Nat.zero_le _

def newPhone : PublicKey := .ofNat 32 5
def offerId : EventId := .ofNat 32 9

def offerHost : Host where
  epoch := 1700000000*nanosPerSec
  sha256 := fun _ => offerId
  isXOnlyKey := fun _ => true
  verifySchnorr := fun _ _ _ => true
  toText := fun _ => "[]"

def offer : Json :=
  .object [("id",.string offerId.toHex),("pubkey",.string newPhone.toHex),
    ("created_at",.number "1700000000"),("kind",.number "24134"),
    ("tags",.array [.array [.string "p",.string newPhone.toHex]]),
    ("content",.string (String.ofList ('A' :: 'g' :: replicate 130 'A'))),
    ("sig",.string (String.ofList (replicate 128 '0')))]

def pairing : List Action :=
  [.connect,.connect, .frame 0 true (.text (some (.array [.string "REQ",.string "s",
      .object [("#p",.array [.string newPhone.toHex])]]))),
    .frame 1 true (.text (some (.array [.string "EVENT",offer]))),.reserve 1,.deliver 1 true]

theorem handed_once_to_addressee_offer : ∃ w, Reach offerHost w ∧ NoCollision offerHost w.attempted ∧
    w.handed.map (fun x => x.attempt.id) = [offerId] ∧ (w.subs.map Sub.p).Nodup := by
  have hv : (pairing.foldlM (fun w action => (step offerHost w action).filter fun w' => w'.now = 0)
      World.start).map (fun w => (w.handed.map fun x => x.attempt.id,w.attempted.length)) =
        some ([offerId],1) := by
    decide +kernel
  obtain ⟨w,hrun,hv⟩ := Option.map_eq_some_iff.1 hv
  obtain ⟨hh,hon⟩ := Prod.mk.inj hv
  obtain ⟨ev,hev⟩ := length_eq_one_iff.1 hon
  have hr : Reach offerHost w := reach_of_run .start hrun
  have hash : NoCollision offerHost w.attempted := by
    rw [hev]
    intro e he f hf obj obj' x y ho ho' hx hy _
    rw [mem_singleton.1 he] at ho
    rw [mem_singleton.1 hf,ho] at ho'
    cases ho'
    rw [hx] at hy
    exact Except.ok.inj hy
  exact ⟨w,hr,hash,hh,(handed_once_to_addressee hr hash).2.1⟩

end BuzzSolo.PairRelay
