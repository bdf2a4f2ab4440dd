import BuzzSolo.Authentication
import BuzzSolo.EventJson

/-! Single use of authentication proofs. A run is any sequence of authentications and
restarts. A proof is fresh for two minutes at most and remembered for ten, in memory and,
across a restart, in the file. -/
namespace BuzzSolo.Authentication

open Checks ProofLedger ReplayWindow LineText List Function

inductive Call
  | authenticate (evidence : Evidence) (audience : String) (now : ℕ)
  | authenticatePeer (evidence : PeerEvidence) (audience source : String) (now : ℕ)
  | restart (peerTrust : String → Option RelayPeerTrust)

def Evidence.proof (X : Crates) : Evidence → Option Event
  | .nip42 event _ => some event
  | .nip98 eventJson _ _ =>
    match X.fromStr eventJson with
    | .ok event => some event
    | .error _ => none

def Call.presents (X : Crates) : Call → Option (Event × ℕ)
  | .authenticate evidence _ now => (evidence.proof X).map fun event => (event,now)
  | .authenticatePeer evidence _ _ now => some (evidence.event,now)
  | .restart _ => none

def Call.time : Call → Option ℕ
  | .authenticate _ _ now => some now
  | .authenticatePeer _ _ _ now => some now
  | .restart _ => none

def call (X : Crates) (a : Adapter) : Call → Except LocalIdentityError (Adapter × Bool)
  | .authenticate evidence audience now =>
    .ok ((authenticateAt X a evidence audience now).1, (authenticateAt X a evidence audience now).2.toBool)
  | .authenticatePeer evidence audience source now =>
    .ok ((authenticatePeerAt X a evidence audience source now).1,
      (authenticatePeerAt X a evidence audience source now).2.toBool)
  | .restart peerTrust =>
    match withPeerTrustAndProofStore peerTrust a.consumedProofs.store with
    | .error e => .error e
    | .ok a => .ok (a,false)

/-- A run, with the proofs it accepts and when. A ledger that cannot be read ends it. -/
def runCalls (X : Crates) (a : Adapter) (accepted : List (Event × ℕ)) :
    List Call → Except LocalIdentityError (Adapter × List (Event × ℕ))
  | [] => .ok (a,accepted)
  | c :: calls =>
    match call X a c with
    | .error e => .error e
    | .ok (a,ok) => runCalls X a (accepted ++ if ok then (c.presents X).toList else []) calls

def presented (X : Crates) (calls : List Call) : List Event :=
  (calls.filterMap (Call.presents X)).map Prod.fst

def times (calls : List Call) : List ℕ := calls.filterMap Call.time

def window : Window Event EventId := ⟨Event.id,fun e => e.createdAt,timestampToleranceSecs,proofRetentionSecs⟩

variable {event : Event} {now : ℕ}

lemma fresh_of_absDiff (h : absDiff now event.createdAt ≤ timestampToleranceSecs) :
    Fresh window event now := by
  unfold absDiff at h
  simp only [Fresh,window]
  split at h <;> omega

/-- Everything a call that presents `event` can do: refuse it and change nothing, or pass it
on to the ledger after its checks. -/
structure Passes (X : Crates) (a a' : Adapter) (event : Event) (now : ℕ) (ok : Bool) : Prop where
  verified : Verified X.toNostr event
  fresh : Fresh window event now
  ledger : a'.consumedProofs = (consume a.consumedProofs event.id now).1
  accepted : ok = (consume a.consumedProofs event.id now).2.toBool

variable {X : Crates}

lemma verifyNip42EventAt_ok {challenge url : String}
    (h : verifyNip42EventAt X event challenge url now = .ok ()) :
    Verified X.toNostr event ∧ Fresh window event now := by
  simp only [verifyNip42EventAt,bind_eq_ok,require_eq_ok,exists_unit] at h
  obtain ⟨-,hv,_,-,-,_,-,-,hd⟩ := h
  exact ⟨hv,fresh_of_absDiff hd⟩

lemma verifyNip98EventAt_ok {json url method : String} {body : Option (List HexText.Byte)}
    {pubkey : PublicKey} (hj : X.fromStr json = .ok event)
    (h : verifyNip98EventAt X json url method body now = .ok pubkey) :
    Verified X.toNostr event ∧ Fresh window event now := by
  simp only [verifyNip98EventAt,hj,Except.mapError,bind_eq_ok,require_eq_ok,exists_unit,
    Except.ok.injEq,exists_eq_left'] at h
  obtain ⟨-,hv,hd,-⟩ := h
  exact ⟨hv,fresh_of_absDiff hd⟩

lemma consumeProof_passes {α : Type} {a : Adapter} {v : α}
    (h : Verified X.toNostr event ∧ Fresh window event now) :
    Passes X a (consumeProof a event.id now v).1 event now (consumeProof a event.id now v).2.toBool := by
  refine ⟨h.1,h.2,rfl,?_⟩
  simp only [consumeProof]
  cases (consume a.consumedProofs event.id now).2 <;> rfl

lemma authenticateAt_cases (X : Crates) (a : Adapter) (ev : Evidence) (aud : String) (now : ℕ) :
    ((authenticateAt X a ev aud now).1 = a ∧ (authenticateAt X a ev aud now).2.toBool = false) ∨
    ∃ event, ev.proof X = some event ∧ Passes X a (authenticateAt X a ev aud now).1 event now
        (authenticateAt X a ev aud now).2.toBool := by
  cases ev with
  | nip42 event challenge =>
    cases hv : verifyNip42EventAt X event challenge aud now with
    | error e => simp [authenticateAt,hv,Except.toBool]
    | ok u =>
      right
      refine ⟨event,rfl,?_⟩
      simp only [authenticateAt,hv]
      exact consumeProof_passes (verifyNip42EventAt_ok hv)
  | nip98 json method body =>
    cases hj : X.fromStr json with
    | error e => simp [authenticateAt,hj,Except.toBool]
    | ok event =>
      by_cases hp : findTag event "payload" = none
      · simp [authenticateAt,hj,hp,Except.toBool]
      · cases hv : verifyNip98EventAt X json aud method (some body) now with
        | error e => simp [authenticateAt,hj,hp,hv,Except.toBool]
        | ok pubkey =>
          right
          refine ⟨event,by simp [Evidence.proof,hj],?_⟩
          simp only [authenticateAt,hj,hp,hv]
          exact consumeProof_passes (verifyNip98EventAt_ok hj hv)

lemma authenticatePeerAt_cases (X : Crates) (a : Adapter) (ev : PeerEvidence) (aud src : String) (now : ℕ) :
    ((authenticatePeerAt X a ev aud src now).1 = a ∧
      (authenticatePeerAt X a ev aud src now).2.toBool = false) ∨
    Passes X a (authenticatePeerAt X a ev aud src now).1 ev.event now
      (authenticatePeerAt X a ev aud src now).2.toBool := by
  cases ht : a.peerTrust src with
  | none => simp [authenticatePeerAt,ht,Except.toBool]
  | some tr =>
    cases hv : verifyNip42EventAt X ev.event ev.challenge aud now with
    | error e => simp [authenticatePeerAt,ht,hv,Except.toBool]
    | ok u =>
      cases hm : tr.verificationMethods ev.event.pubkey with
      | none => simp [authenticatePeerAt,ht,hv,hm,Except.toBool]
      | some method =>
        right
        simp only [authenticatePeerAt,ht,hv,hm]
        exact consumeProof_passes (verifyNip42EventAt_ok hv)

/-- What holds of an adapter that has accepted the given proofs, by the time `now`: it still
holds each in memory while it could be fresh, and the file holds them all if it can be read. -/
structure Guarded (X : Crates) (offered : List Event) (now : ℕ) (a : Adapter)
    (accepted : List (Event × ℕ)) : Prop where
  kept : Kept window a.consumedProofs.consumed now accepted
  verified : ∀ p ∈ accepted, Verified X.toNostr p.1 ∧ p.1 ∈ offered
  small : ∀ p ∈ accepted, p.2 + proofRetentionSecs < u64Count
  stored : ∀ text entries, a.consumedProofs.store = some text →
    loadText (text.getD "") = .ok entries → ∀ p ∈ accepted, entries p.1.id = some p.2

section

variable {X : Crates} {off : List Event} {now t : ℕ} {a a' : Adapter} {acc : List (Event × ℕ)}

variable (h : Guarded X off now a acc)
include h

lemma Guarded.later (hle : now ≤ t) : Guarded X off t a acc := ⟨h.kept.later hle,h.verified,h.small,h.stored⟩

lemma Guarded.retain : Kept window (retain a.consumedProofs.consumed now) now acc := by
  apply h.kept.forget
  intro p hp hf
  by_cases hy : now ≤ p.2 + proofRetentionSecs
  · exact .inl (retained_eq hf (h.small p hp) hy)
  · exact .inr (by simpa [window] using hy)

lemma Guarded.stamp_eq (hc : NoCollision X.toNostr off)
    {e : Event} (hv : Verified X.toNostr e) (hin : e ∈ off) (p : Event × ℕ)
    (hp : p ∈ acc) (hid : p.1.id = e.id) : p.1.createdAt = e.createdAt := by
  obtain ⟨hvp,hpi⟩ := h.verified p hp
  rw [body_eq_of_id_eq hc hpi hin hvp hv hid]

lemma Guarded.pass {e : Event} {ok : Bool} (hco : NoCollision X.toNostr off) (hin : e ∈ off)
    (hsm : now + proofRetentionSecs < u64Count) (hpa : Passes X a a' e now ok) :
    Guarded X off now a' (acc ++ if ok then [(e,now)] else []) := by
  have hr := h.retain
  cases hf : ProofLedger.retain a.consumedProofs.consumed now e.id with
  | some old =>
    have hc : consume a.consumedProofs e.id now =
        ({ a.consumedProofs with consumed := ProofLedger.retain a.consumedProofs.consumed now },
          .error (.denied .replayDetected)) := by simp [consume,hf]
    have hok : ok = false := by rw [hpa.accepted,hc]; rfl
    have hl := hpa.ledger
    rw [hc] at hl
    simp only [hok,Bool.false_eq_true,if_false,append_nil]
    refine ⟨by rw [hl]; exact hr,h.verified,h.small,?_⟩
    rw [hl]
    exact h.stored
  | none =>
    have hc : consume a.consumedProofs e.id now =
        (⟨update (ProofLedger.retain a.consumedProofs.consumed now) e.id (some now),
          a.consumedProofs.store.map fun text =>
            some (text.getD "" ++ (record e.id now ++ "\n"))⟩,.ok ()) := by
      simp [consume,hf]
    have hok : ok = true := by rw [hpa.accepted,hc]; rfl
    have hl := hpa.ledger
    rw [hc] at hl
    have hs := h.stamp_eq hco hpa.verified hin
    have hto : 2*window.tolerance ≤ window.retention := by decide
    have hu : ∀ p ∈ acc, p.1.id ≠ e.id := hr.unused hto hpa.fresh hf hs
    simp only [hok]
    refine ⟨?_,?_,?_,?_⟩
    · rw [hl]
      exact hr.accept hto hpa.fresh hf hs (update_self _ _ _)
        fun i hi => update_of_ne hi _ _
    · intro p hp
      rcases mem_append.1 hp with hp | hp
      · exact h.verified p hp
      · rw [mem_singleton.1 hp]
        exact ⟨hpa.verified,hin⟩
    · intro p hp
      rcases mem_append.1 hp with hp | hp
      · exact h.small p hp
      · rw [mem_singleton.1 hp]
        exact hsm
    · intro text ents ht hlo
      rw [hl] at ht
      obtain ⟨old,hold,rfl⟩ := Option.map_eq_some_iff.1 ht
      obtain ⟨bef,hb,rfl⟩ := loadText_append (by omega) hlo
      intro p hp
      rcases mem_append.1 hp with hp | hp
      · rw [update_of_ne (hu p hp)]
        exact h.stored old bef hold hb p hp
      · rw [mem_singleton.1 hp]
        exact update_self _ _ _

omit h

lemma loadText_of_load {text : Option String} {ledger : Ledger} (h : load (some text) = .ok ledger) :
    ledger.store = some text ∧ loadText (text.getD "") = .ok ledger.consumed := by
  cases text with
  | none =>
    cases h
    exact ⟨rfl,rfl⟩
  | some contents =>
    cases hl : loadText contents with
    | error e => simp [load,hl] at h
    | ok ents =>
      have hle : (⟨ents,some (some contents)⟩ : Ledger) = ledger := by simpa [load,hl] using h
      subst hle
      exact ⟨rfl,hl⟩

/-- The file is read back after a restart, and holds every accepted proof. -/
lemma Guarded.restart {text : Option String} {peerTrust : String → Option RelayPeerTrust}
    (h : Guarded X off now a acc) (hst : a.consumedProofs.store = some text)
    (hs : withPeerTrustAndProofStore peerTrust a.consumedProofs.store = .ok a') :
    a'.consumedProofs.store = some text ∧ Guarded X off now a' acc := by
  rw [hst] at hs
  cases hl : load (some text) with
  | error e => simp [withPeerTrustAndProofStore,hl] at hs
  | ok ledger =>
    have ha : (⟨ledger,peerTrust⟩ : Adapter) = a' := by
      simpa [withPeerTrustAndProofStore,hl] using hs
    subst ha
    obtain ⟨hsa,he⟩ := loadText_of_load hl
    have hheld := h.stored text ledger.consumed hst he
    refine ⟨hsa,h.kept.forget fun p hp _ => .inl (hheld p hp),h.verified,h.small,?_⟩
    intro o ents ho ho'
    rw [hsa] at ho
    cases ho
    rw [he] at ho'
    cases ho'
    exact hheld

lemma store_of_consume {ledger : Ledger} {id : EventId}
    (h : (consume ledger id now).1.store = none) : ledger.store = none := by
  simp only [consume] at h
  split at h
  · exact h
  · simpa using h

variable (h : Guarded X off now a acc) (hco : NoCollision X.toNostr off)
include h hco

lemma Guarded.call {c : Call} {ok : Bool} (hin : ∀ p, c.presents X = some p → p.1 ∈ off)
    (ht : ∀ t, c.time = some t → now ≤ t ∧ t + proofRetentionSecs < u64Count)
    (hd : a.consumedProofs.store = none → c.time ≠ none)
    (hc : Authentication.call X a c = .ok (a',ok)) :
    Guarded X off (c.time.getD now) a' (acc ++ if ok then (c.presents X).toList else []) ∧
      (a'.consumedProofs.store = none → a.consumedProofs.store = none) := by
  cases c with
  | authenticate ev aud t =>
    obtain ⟨hle,hsm⟩ := ht t rfl
    cases hc
    rcases authenticateAt_cases X a ev aud t with ⟨hs,hr⟩ | ⟨event,hpo,hp⟩
    · rw [hs,hr]
      simpa [Call.time] using h.later hle
    · have hpr : (Call.authenticate ev aud t).presents X = some (event,t) := by
        simp [Call.presents,hpo]
      rw [hpr]
      refine ⟨(h.later hle).pass hco (hin _ hpr) hsm hp,?_⟩
      rw [hp.ledger]
      exact store_of_consume
  | authenticatePeer ev aud src t =>
    obtain ⟨hle,hsm⟩ := ht t rfl
    cases hc
    rcases authenticatePeerAt_cases X a ev aud src t with ⟨hs,hr⟩ | hp
    · rw [hs,hr]
      simpa [Call.time] using h.later hle
    · refine ⟨(h.later hle).pass hco (hin _ rfl) hsm hp,?_⟩
      rw [hp.ledger]
      exact store_of_consume
  | restart peerTrust =>
    cases hso : a.consumedProofs.store with
    | none => exact absurd rfl (hd hso)
    | some text =>
      simp only [Authentication.call] at hc
      cases hst : withPeerTrustAndProofStore peerTrust a.consumedProofs.store with
      | error e => simp [hst] at hc
      | ok b =>
        simp only [hst] at hc
        obtain ⟨rfl,rfl⟩ := hc
        obtain ⟨hs,hg⟩ := h.restart hso hst
        rw [hs]
        exact ⟨by simpa [Call.time] using hg,by simp⟩

lemma Guarded.run {cs : List Call} {final : Adapter} {total : List (Event × ℕ)}
    (hin : ∀ event ∈ presented X cs, event ∈ off)
    (hm : (now :: times cs).Pairwise (· ≤ ·))
    (hcl : ∀ t ∈ times cs, t + proofRetentionSecs < u64Count)
    (hdu : a.consumedProofs.store = none → ∀ c ∈ cs, c.time ≠ none)
    (hrun : runCalls X a acc cs = .ok (final,total)) : ∃ last, Guarded X off last final total := by
  induction cs generalizing a acc now with
  | nil =>
    cases hrun
    exact ⟨now,h⟩
  | cons c cs ih =>
    cases hc : Authentication.call X a c with
    | error e => simp [runCalls,hc] at hrun
    | ok res =>
      simp only [runCalls,hc] at hrun
      have ho : ∀ p, c.presents X = some p → p.1 ∈ off := by
        intro p hp
        apply hin
        simp only [presented,filterMap_cons,hp,map_cons,mem_cons,true_or]
      have hl : ∀ event ∈ presented X cs, event ∈ off := by
        intro event he
        apply hin
        exact map_subset _ ((sublist_cons_self c cs).filterMap _).subset he
      have hr : (times cs).Sublist (times (c :: cs)) := (sublist_cons_self c cs).filterMap _
      have hti : ∀ t, c.time = some t → t ∈ times (c :: cs) := fun t ht => by
        simp [times,ht]
      have ha := h.call hco ho (fun t ht => ⟨(pairwise_cons.1 hm).1 t (hti t ht),hcl t (hti t ht)⟩)
        (fun hn => hdu hn c (by simp)) hc
      refine ih ha.1 hl ?_ (fun t ht => hcl t (hr.subset ht))
        (fun hn d hd => hdu (ha.2 hn) d (by simp [hd])) hrun
      cases ht : c.time with
      | none => exact hm.sublist (hr.cons_cons now)
      | some t =>
        have htm : times (c :: cs) = t :: times cs := by simp [times,ht]
        rw [htm] at hm
        exact (pairwise_cons.1 hm).2

end

/-- One-time use, on a clock that stays the retention away from the end of its word: whatever
the calls present, and wherever a restart reads the ledger again, no proof is accepted twice. -/
theorem proofs_accepted_once (X : Crates) (a final : Adapter) (calls : List Call)
    (accepted : List (Event × ℕ))
    (hdurable : a.consumedProofs.store = none → ∀ c ∈ calls, c.time ≠ none)
    (hcol : NoCollision X.toNostr (presented X calls))
    (hmono : (times calls).Pairwise (· ≤ ·))
    (hclock : ∀ t ∈ times calls, t + proofRetentionSecs < u64Count)
    (hrun : runCalls X a [] calls = .ok (final,accepted)) : (accepted.map fun p => p.1.id).Nodup := by
  have hs : Guarded X (presented X calls) 0 a [] := ⟨kept_nil,by simp,by simp,fun _ _ _ _ => by simp⟩
  obtain ⟨last,hl⟩ := hs.run hcol (fun _ h => h) (pairwise_cons.2 ⟨by simp,hmono⟩)
    hclock hdurable hrun
  exact hl.kept.once

/-- The crates on signed responses for one relay. Its address is in normal form, so taking it
apart and printing it again changes nothing; nothing is hashed or lowered. -/
def loginCrates (signed : List Event) : Crates where
  toNostr := (EventStore.signedOnly signed fun _ => none).toNostr
  url := {
    Url := String
    parse := some
    hostStr := fun _ => some "relay.example.com"
    setHost := fun url _ => url
    path := fun _ => "/"
    setPath := fun url _ => url
    text := id }
  fromStr := (EventStore.signedOnly signed fun _ => none).fromStr
  sha256 := fun _ => .ofNat 32 0
  toLowercase := id

def login : Event where
  pubkey := secondKey
  createdAt := 1700000000
  kind := 22242
  tags := [⟨"relay",["wss://relay.example.com/"]⟩, ⟨"challenge",["challenge-1"]⟩]
  content := ""
  id := .ofNat 32 0xf96adfe1c1ea49a265e9a5caaeed1fbbe22d438e58998ef0c5819c5bab27604e
  sig := .ofNat 64 0x657fa2f14775f6a2937dade8d1258829e24a54fb47b8d9898972c6af5ec409b81edc3e443619a97b22c02d728449e4155dfda3fb1c33c05238654c813f4148e0

/-- A login that is presented again ten seconds later, after a restart. -/
def loginReplayed : List Call :=
  [.authenticate (.nip42 login "challenge-1") "wss://relay.example.com/" 1700000000, .restart fun _ => none,
    .authenticate (.nip42 login "challenge-1") "wss://relay.example.com/" 1700000010]

def newAdapter (store : Option (Option String)) : Adapter := ⟨⟨fun _ => none,store⟩,fun _ => none⟩

theorem proofs_accepted_once_login :
    ∃ final, runCalls (loginCrates [login]) (newAdapter (some none)) [] loginReplayed =
        .ok (final,[(login,1700000000)]) ∧ ([(login,1700000000)].map fun p => p.1.id).Nodup := by
  have hrun : (runCalls (loginCrates [login]) (newAdapter (some none)) [] loginReplayed).map Prod.snd =
      .ok [(login,1700000000)] := by decide +kernel
  cases h : runCalls (loginCrates [login]) (newAdapter (some none)) [] loginReplayed with
  | error e => simp [h,Except.map] at hrun
  | ok result =>
    obtain ⟨final,accepted⟩ := result
    have ha : accepted = [(login,1700000000)] := by simpa [h,Except.map] using hrun
    subst ha
    have hi : EventStore.IdsMatch [login] := by decide +kernel
    refine ⟨final,rfl,proofs_accepted_once (loginCrates [login]) _ _ loginReplayed _ ?_ ?_ ?_ ?_ h⟩
    · exact fun hn => absurd hn (by decide)
    · have hc : NoCollision (loginCrates [login]).toNostr [login] :=
        @EventStore.noCollision_signedOnly _ (fun _ => none) hi
      exact hc.subset (by decide +kernel)
    · decide
    · decide

def lastLogin : Event :=
  { login with
    createdAt := 18446744073709551615
    id := .ofNat 32 0x2bfabe116052a48c1452c343b35d724101068f8acabe86c0272bcb0aec9af123
    sig := .ofNat 64 0x33dd9769917b4fca9d21d0db064994454ee0482b98cdb07a4efe33447c5a6306b484b98cc4ec1ce00c08be7c84c9bea42b8c89dd4a1c008dd1f9212180d06a00 }

/-- In the last second of the clock the age of an entry wraps around: the entry is forgotten
by the next call and the same login is accepted again. -/
theorem last_second_accepts_twice : (runCalls (loginCrates [lastLogin]) (newAdapter (some none)) []
      [.authenticate (.nip42 lastLogin "challenge-1") "wss://relay.example.com/" 18446744073709551615,
        .authenticate (.nip42 lastLogin "challenge-1") "wss://relay.example.com/"
          18446744073709551615]).map Prod.snd =
      .ok [(lastLogin,18446744073709551615),(lastLogin,18446744073709551615)] := by
  decide +kernel

end BuzzSolo.Authentication
