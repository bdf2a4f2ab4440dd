import BuzzSolo.StoreLedger
import BuzzSolo.EventJson

/-! Close and reopen of the durable store. Replay and the live path both hold the register of the
submitted events, so a reopen anywhere in a run is invisible in its outcome. -/
namespace BuzzSolo.EventStore

open Ingest LineText LatestRegister List

variable {X : Crates}

/-- One step of a process that may be restarted: a submission, or a reopen of the log. -/
inductive Step
  | submit (event : Event)
  | reopen

def step (X : Crates) (s : Store) : Step → Except StoreError Store
  | .submit event => .ok (accept X .synced s event).1
  | .reopen => openStore X (.durable s.writer)

def runSteps (X : Crates) : Store → List Step → Except StoreError Store
  | s, [] => .ok s
  | s, a :: as =>
    match step X s a with
    | .error e => .error e
    | .ok t => runSteps X t as

def runFresh (X : Crates) (steps : List Step) : Except StoreError Store :=
  match openStore X (.durable none) with
  | .error e => .error e
  | .ok s => runSteps X s steps

def submitted : List Step → List Event
  | [] => []
  | .submit e :: steps => e :: submitted steps
  | .reopen :: steps => submitted steps

def Logged (X : Crates) (s : Store) : Prop := s.writer = some (logText X s.journal).toByteArray

variable (jnl : List Event)

lemma logText_append (e : Event) :
    logText X (jnl ++ [e]) = logText X jnl ++ (recordText X e ++ "\n") := by
  rw [logText,map_append,framed_append,logText,← framed_append_tail]
  simp

lemma fromUTF8_toByteArray (t : String) : String.fromUTF8? t.toByteArray = some t := by
  simp only [String.fromUTF8?,t.isValidUTF8]
  rfl

lemma replayLines_journal (r : ReplayedLog) (n : ℕ)
    (hv : ∀ e ∈ jnl, Verified X.toNostr e) (hrt : ∀ e ∈ jnl, RoundTrips X e) :
    ∃ seen, replayLines X r n (jnl.map (recordText X)) = .ok
        { events := jnl.foldl
            (fun es e => (applyEffectiveEvent es (storedEvent X e)).1) r.events
          journal := r.journal ++ jnl
          seenIds := seen } ∧ ∀ i, i ∈ seen ↔ i ∈ r.seenIds ∨ ∃ e ∈ jnl, e.id = i := by
  induction jnl generalizing r n with
  | nil => exact ⟨r.seenIds,by simp [replayLines],by simp⟩
  | cons e jnl ih =>
    have hve : verifyEvent X.toNostr e = .ok () := hv e (by simp)
    obtain ⟨-,hf,-,hb⟩ := recordText_of_roundTrips (hrt e (by simp))
    obtain ⟨seen,hrun,hse⟩ := ih
      { events := (applyEffectiveEvent r.events (storedEvent X e)).1
        journal := r.journal ++ [e]
        seenIds := insert e.id r.seenIds } (n+1)
      (fun a ha => hv a (by simp [ha])) (fun a ha => hrt a (by simp [ha]))
    refine ⟨seen,?_,?_⟩
    · rw [map_cons,replayLines,if_neg (by simp [hb])]
      simp only [hf,hve,hrun,append_assoc,cons_append,nil_append,foldl_cons]
    · intro i
      rw [hse i]
      simp only [Finset.mem_insert,mem_cons,exists_eq_or_imp,eq_comm (a := i),or_left_comm, or_assoc]

/-- Opening the log of a journal of verified events gives back the journal and what replay
makes of it, with no id beyond the journal's. -/
lemma openStore_logText
    (hv : ∀ e ∈ jnl, Verified X.toNostr e) (hrt : ∀ e ∈ jnl, RoundTrips X e) :
    ∃ seen, openStore X (.durable (some (logText X jnl).toByteArray)) = .ok
        ⟨effectiveOf X jnl,jnl,seen,some (logText X jnl).toByteArray⟩ ∧ ∀ i, i ∈ seen ↔
          ∃ e ∈ jnl, e.id = i := by
  have ho : ∀ l ∈ jnl.map (recordText X), OneLine l := by
    intro l hl
    obtain ⟨e,he,rfl⟩ := mem_map.1 hl
    exact (recordText_of_roundTrips (hrt e he)).2.2.1
  have hli : lines (logText X jnl) = jnl.map (recordText X) := by
    rw [logText,lines_framed _ _ ho (by simp)]
    simp
  obtain ⟨seen,hrun,hse⟩ := replayLines_journal jnl .default 1 hv hrt
  refine ⟨seen,?_,?_⟩
  · simp only [openStore,replayLog,fromUTF8_toByteArray,hli,hrun]
    simp [ReplayedLog.default,effectiveOf]
  · simpa [ReplayedLog.default] using hse

lemma reopen_refines {es : List Event} {s : Store} (hc : NoCollision X.toNostr es)
    (hrt : ∀ e ∈ es, RoundTrips X e) (h : Refines X es s) (hl : Logged X s) :
    ∃ t, step X s .reopen = .ok t ∧ Refines X es t ∧ Logged X t ∧ t.journal = s.journal := by
  have hm := fun e he => h.mem_journal hc (e := e) he
  obtain ⟨seen,ho,hse⟩ := openStore_logText s.journal
    (fun e he => (hm e he).2.1) (fun e he => hrt e (hm e he).1)
  have hst : step X s .reopen = .ok
      ⟨effectiveOf X s.journal,s.journal,seen,some (logText X s.journal).toByteArray⟩ := by
    rw [step,show s.writer = _ from hl]
    exact ho
  refine ⟨_,hst,⟨?_,h.history_eq,rfl,?_,?_⟩,rfl,rfl⟩
  · exact h.replay_eq.symm.trans h.events_eq
  · exact fun e he => (hse e.id).2 ⟨e,he,rfl⟩
  · intro i hi
    obtain ⟨e,he,rfl⟩ := (hse i).1 hi
    exact ⟨e,(hm e he).1,(hm e he).2.1,rfl⟩

lemma accept_logged {s : Store} {e : Event} (hto : Serializes X e) (hl : Logged X s) :
    Logged X (accept X .synced s e).1 := by
  rcases accept_cases s hto with ⟨-,hs⟩ | ⟨-,-,hs | hs⟩ | ⟨-,-,hs⟩
  · rwa [hs]
  · rwa [hs]
  · rw [hs]; exact hl
  · have hw : s.writer = some (logText X s.journal).toByteArray := hl
    rw [hs]
    simp only [Logged,commit,hw,Option.map_some,logText_append,String.toByteArray_append]

lemma accept_journal {s : Store} {e : Event} (hto : Serializes X e) :
    s.journal <+: (accept X .synced s e).1.journal := by
  rcases accept_cases s hto with ⟨-,hs⟩ | ⟨-,-,hs | hs⟩ | ⟨-,-,hs⟩
  · rw [hs]
  · rw [hs]
  · rw [hs]
  · rw [hs]
    exact prefix_append _ _

/-- Every run with reopens anywhere in it ends in a store that holds the register of the
submitted events; its journal only grows. -/
lemma runSteps_refines (steps : List Step) (bef : List Event) (s : Store)
    (hc : NoCollision X.toNostr (bef ++ submitted steps))
    (hrt : ∀ e ∈ bef ++ submitted steps, RoundTrips X e)
    (h : Refines X bef s) (hl : Logged X s) :
    ∃ t, runSteps X s steps = .ok t ∧ Refines X (bef ++ submitted steps) t ∧ Logged X t ∧
      s.journal <+: t.journal := by
  induction steps generalizing bef s with
  | nil => exact ⟨s,rfl,by simpa [submitted] using h,hl,prefix_refl _⟩
  | cons a steps ih =>
    cases a with
    | submit e =>
      have ha : bef ++ submitted (.submit e :: steps) = (bef ++ [e]) ++ submitted steps := by
        simp [submitted]
      rw [ha] at hc hrt ⊢
      have hto := (recordText_of_roundTrips (hrt e (by simp))).1
      have hn := accept_refines (hc.subset fun _ => mem_append_left _) hto h
      obtain ⟨t,ht,hr,hlt,hg⟩ := ih (bef ++ [e]) _ hc hrt hn (accept_logged hto hl)
      exact ⟨t,by simpa only [runSteps,step] using ht,hr,hlt,(accept_journal hto).trans hg⟩
    | reopen =>
      obtain ⟨u,hu,hru,hlu,hju⟩ := reopen_refines (hc.subset fun _ => mem_append_left _)
        (fun e he => hrt e (mem_append_left _ he)) h hl
      obtain ⟨t,ht,hr,hlt,hg⟩ := ih bef u hc hrt hru hlu
      exact ⟨t,by simp only [runSteps,hu,ht],hr,hlt,hju ▸ hg⟩

lemma submitted_map_submit (es : List Event) : submitted (es.map .submit) = es := by
  induction es with
  | nil => rfl
  | cons e es ih => simp [submitted,ih]

lemma runFresh_refines (steps : List Step) (hc : NoCollision X.toNostr (submitted steps))
    (hrt : ∀ e ∈ submitted steps, RoundTrips X e) :
    ∃ t, runFresh X steps = .ok t ∧ Refines X (submitted steps) t ∧ Logged X t := by
  have hl : Logged X ⟨[],[],∅,some ByteArray.empty⟩ := by simp [Logged,logText]
  obtain ⟨t,ht,hr,hlt,-⟩ := runSteps_refines steps [] ⟨[],[],∅,some ByteArray.empty⟩
    (by simpa using hc) (by simpa using hrt) (refines_empty _) hl
  exact ⟨t,by simpa [runFresh,openStore,replayLog,replayLines,ReplayedLog.default] using ht,
    by simpa using hr,hlt⟩

/-- Restart transparency: reopens inserted anywhere in a run of submissions change neither
the journal, nor the log, nor the effective list it ends with. -/
theorem restart_transparency (X : Crates) (steps : List Step) (hrt : ∀ e ∈ submitted steps, RoundTrips X e)
    (hcol : NoCollision X.toNostr (submitted steps)) :
    ∃ s t, runFresh X steps = .ok s ∧ runFresh X ((submitted steps).map .submit) = .ok t ∧
      s.journal = t.journal ∧ s.writer = t.writer ∧ s.events = t.events := by
  obtain ⟨s,hs,hrs,hls⟩ := runFresh_refines steps hcol hrt
  have hsu := submitted_map_submit (submitted steps)
  obtain ⟨t,ht,hrt',hlt⟩ := runFresh_refines (X := X) ((submitted steps).map .submit)
    (by rwa [hsu]) (by rwa [hsu])
  rw [hsu] at hrt'
  have hj : s.journal = t.journal := by
    have hm := hrs.history_eq.trans hrt'.history_eq.symm
    have hi : Function.Injective (storedEvent X) :=
      fun a b hab => congrArg StoredEvent.event hab
    exact map_injective_iff.2 hi hm
  have hw : s.writer = t.writer := by
    rw [show s.writer = _ from hls,show t.writer = _ from hlt,hj]
  exact ⟨s,t,hs,ht,hj,hw,hrs.events_eq.trans hrt'.events_eq.symm⟩

/-! One profile and its older version, and a note, signed with the secret key 1. -/

def newProfile : Event :=
  { note with
    createdAt := 1700000200
    kind := 0
    content := "new"
    id := .ofNat 32 0x08733fa5a31f2fa26001532a6566502ce80afc1240558125f3772934191e5bf0
    sig := .ofNat 64 0xe29c5d3def1658be64167de5e1c7f9668219941be33ffbbead755622bd18ff02de4905a8ea3efc140b677209335d32897bd66ca265e45e50fead50b7df199872 }

def oldProfile : Event :=
  { newProfile with
    createdAt := 1700000100
    content := "old"
    id := .ofNat 32 0x6fac4bc861ed1b4840dca5a536b5f68c034d05911b16eb0f50cc18adcd0a200e
    sig := .ofNat 64 0xa96b14dcce8c452987c7d9044ba30fdf4a58d9d06d9e508a21a3ae4e6ab4e25f7589ba277df5e6068f1bf544e10ebba25b4b4c3a3721d414597484ec68d80f73 }

theorem restart_transparency_profile : ∃ s t, runFresh (signedOnly [newProfile,oldProfile,note] fun _ => none)
        [.submit newProfile,.reopen,.submit oldProfile,.reopen,.submit oldProfile,.submit note]
          = .ok s ∧ runFresh (signedOnly [newProfile,oldProfile,note] fun _ => none)
        [.submit newProfile,.submit oldProfile,.submit oldProfile,.submit note] = .ok t ∧
      s.journal = t.journal ∧ s.writer = t.writer ∧ s.events = t.events := by
  have hm : ∀ e ∈ [newProfile,oldProfile,oldProfile,note], e ∈ [newProfile,oldProfile,note] := by
    simp
  exact restart_transparency (signedOnly [newProfile,oldProfile,note] fun _ => none)
    [.submit newProfile,.reopen,.submit oldProfile,.reopen,.submit oldProfile,.submit note]
    (fun e he => roundTrips_signedOnly (hm e he))
    ((noCollision_signedOnly (by decide +kernel)).subset hm)

end BuzzSolo.EventStore
