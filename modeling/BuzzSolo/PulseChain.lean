import BuzzSolo.ConcurrentSubmissions
import BuzzSolo.RejectedSubmission

/-! The chain of witnessed heads on the laptop. A pulse names the journal entry before its
head, so it follows the pulse before it as long as every entry gets its own pulse before the
next entry is appended. -/
namespace BuzzSolo.LocalRelay

open Ingest EventStore List
open Handoff (Json field)
open Query (Principal)

def pulses (live : List Sent) : List Snapshot := live.filterMap Sent.snapshot

/-- The pulse `q` continues the chain that ends in `p`. -/
structure Follows (p q : Snapshot) : Prop where
  names_head : q.head ≠ p.head → q.previous = p.head
  count_le : p.sequence ≤ q.sequence

/-- The snapshot a task has taken and not yet sent. -/
def Task.snapshot : Task → Option Snapshot
  | .signing _ snap => some snap
  | .registering _ _ snap => some snap
  | .emitting _ _ snap => some snap
  | _ => none

/-- The last pulse states the journal as it is, and no task holds a snapshot. -/
structure Settled (w : World) : Prop where
  last : ∀ p ∈ (pulses w.live).getLast?, p.sequence = w.relay.store.journal.length
  held : ∀ task ∈ w.tasks, task.snapshot.isNone

instance (p q : Snapshot) : Decidable (Follows p q) :=
  decidable_of_iff ((q.head ≠ p.head → q.previous = p.head) ∧ p.sequence ≤ q.sequence)
    ⟨fun h => ⟨h.1,h.2⟩,fun h => ⟨h.names_head,h.count_le⟩⟩

instance (w : World) : Decidable (Settled w) :=
  decidable_of_iff ((∀ p ∈ (pulses w.live).getLast?, p.sequence = w.relay.store.journal.length) ∧
    ∀ task ∈ w.tasks, task.snapshot.isNone) ⟨fun h => ⟨h.1,h.2⟩,fun h => ⟨h.last,h.held⟩⟩

section

def headOf (journal : List Event) : Option String := journal.getLast?.map fun event => event.id.toHex

/-- What a snapshot of a store with that journal states. -/
structure States (journal : List Event) (snap : Snapshot) : Prop where
  sequence_eq : snap.sequence = journal.length
  head_eq : snap.head = headOf journal
  previous_eq : snap.previous = headOf journal.dropLast

lemma states_takeSnapshot (R : Relay) (s : Store) : States s.journal (takeSnapshot R s) := by
  refine ⟨rfl,rfl,?_⟩
  simp only [takeSnapshot,headOf,getLast?_eq_getElem?,length_dropLast,getElem?_dropLast]
  split
  next h =>
    rw [if_pos (by omega),Nat.sub_sub]
  next h =>
    rw [if_neg (by omega)]
    rfl

lemma follows_of_states {jnl : List Event} {p q : Snapshot} (hq : States jnl q)
    (hp : States jnl p ∨ ∃ e, ∃ bef, jnl = bef ++ [e] ∧ States bef p) : Follows p q := by
  rcases hp with hp | ⟨e,bef,rfl,hp⟩
  · exact ⟨fun hne => absurd (hq.head_eq.trans hp.head_eq.symm) hne,
      (hp.sequence_eq.trans hq.sequence_eq.symm).le⟩
  · refine ⟨fun _ => ?_,?_⟩
    · rw [hq.previous_eq,hp.head_eq,dropLast_concat]
    · rw [hp.sequence_eq,hq.sequence_eq,length_append]
      omega

end

section

variable {X : Crates} {R : Relay} {m : Moment}

/-- What one step of a task can do to the journal, to the emitted pulses and to the snapshot
it holds. -/
inductive Effect (R : Relay) (s next : State) (out : List Sent) (task left : Task) : Prop
  | quiet (hjournal : next.store.journal = s.store.journal) (hout : pulses out = [])
    (hsnap : ∀ snap, left.snapshot = some snap → task.snapshot = some snap ∨ snap = takeSnapshot R s.store)
  | append (event : Event) (hjournal : next.store.journal = s.store.journal ++ [event])
    (hout : pulses out = []) (hsnap : left.snapshot = none)
  | emit (snap : Snapshot) (hjournal : next.store.journal = s.store.journal)
    (hout : pulses out = [snap]) (hheld : task.snapshot = some snap) (hsnap : left.snapshot = none)

lemma accept_journal_cases (io : AppendOutcome) (s : Store) (e : Event) :
    (accept X.toCrates io s e).1.journal = s.journal ∨
    (accept X.toCrates io s e).1.journal = s.journal ++ [e] := by
  have h := accept_outcome X.toCrates io s e
  generalize (accept X.toCrates io s e).1 = next at h
  generalize (accept X.toCrates io s e).2 = answer at h
  cases h with
  | rejected | duplicate | ephemeral | superseded | failed => exact .inl rfl
  | stored => exact .inr rfl

lemma effect_of_accept {s : State} {e : Event} {store : Store}
    {out : Except StoreError WriteResult} {io : AppendOutcome}
    (ha : accept X.toCrates io s.store e = (store,out)) (task : Task) {left : Task}
    (hl : left.snapshot = none) : Effect R s { s with store := store } [] task left := by
  rcases @accept_journal_cases X io s.store e with h | h
  · rw [ha] at h
    exact .quiet h rfl (by simp [hl])
  · rw [ha] at h
    exact .append e h rfl hl

lemma afterAccept_snapshot (e : Event) (res : WriteResult) (proj : List Event) :
    (afterAccept e res proj).snapshot = none := by
  unfold afterAccept
  split <;> rfl

lemma Task.enter_effect (s : State) (ev : Event) (prin : Option Principal) (task : Task) :
    Effect R s (Task.enter X R m s ev prin).1 [] task (Task.enter X R m s ev prin).2 := by
  have hq : ∀ res, Effect R s s [] task (.finished res) := fun res =>
    .quiet rfl rfl (by simp [Task.snapshot])
  unfold Task.enter
  split
  · exact hq _
  · split
    · exact hq _
    · exact hq _
    · split
      next store e ha => exact effect_of_accept ha task rfl
      next store res ha =>
        apply effect_of_accept ha task
        split
        · rfl
        · exact afterAccept_snapshot ..

lemma Task.step_effect (s : State) (task : Task) :
    Effect R s (task.step X R m s).1 (task.step X R m s).2.1 task (task.step X R m s).2.2 := by
  cases task with
  | arrived ev prin => exact Task.enter_effect s ev prin _
  | recording ev res proj =>
    simp only [Task.step]
    cases recordBeaconResponse X R m.now s.beaconRounds ev with
    | none => exact .quiet rfl rfl (by simp [Task.snapshot])
    | some rounds => exact .quiet rfl rfl (by simp [afterAccept_snapshot])
  | publishing | sending | registering | finished => exact .quiet rfl rfl (by simp [Task.step,Task.snapshot])
  | projecting res proj =>
    cases proj with
    | nil =>
      refine .quiet rfl rfl ?_
      simp only [Task.step]
      split <;> simp [Task.snapshot]
    | cons ev rest =>
      simp only [Task.step]
      cases ha : accept X.toCrates (m.append ev) s.store ev with
      | mk store out =>
        cases out with
        | error e => exact effect_of_accept ha _ rfl
        | ok acc =>
          have hl : (if acc.publishLive then Task.sending ev res rest
              else .projecting res rest).snapshot = none := by split <;> rfl
          exact effect_of_accept ha _ hl
  | witnessing res =>
    refine .quiet rfl rfl ?_
    simp only [Task.step]
    split <;> simp [Task.snapshot]
  | signing res snap =>
    refine .quiet rfl rfl ?_
    simp only [Task.step]
    split <;> simp [Task.snapshot]
  | emitting res pulse snap => exact .emit snap rfl rfl rfl rfl

end

section

variable {X : Crates} {R : Relay}

/-- What holds while every append finds the relay settled: the last pulse states the journal
or the journal before its last entry, and a snapshot that is held is current. -/
structure Chained (w : World) : Prop where
  chain : (pulses w.live).IsChain Follows
  last : ∀ p, (pulses w.live).getLast? = some p → States w.relay.store.journal p ∨
    ∃ e before, w.relay.store.journal = before ++ [e] ∧ States before p
  held : ∀ task ∈ w.tasks, ∀ snap, task.snapshot = some snap → States w.relay.store.journal snap

lemma chained_start (s : State) : Chained (World.start s) :=
  ⟨by simp [World.start,pulses],by simp [World.start,pulses],by simp [World.start]⟩

/-- The step appends to the journal only where the relay is settled. -/
def Orderly (X : Crates) (R : Relay) (w : World) (action : Action) : Prop :=
  (w.step X R action).relay.store.journal ≠ w.relay.store.journal → Settled w

def OrderlyRun (X : Crates) (R : Relay) : World → List Action → Prop
  | _, [] => True
  | w, action :: actions => Orderly X R w action ∧ OrderlyRun X R (w.step X R action) actions

instance (X : Crates) (R : Relay) (w : World) (action : Action) : Decidable (Orderly X R w action) :=
  inferInstanceAs (Decidable (_ → _))

instance decidableOrderlyRun (X : Crates) (R : Relay) :
    (w : World) → (actions : List Action) → Decidable (OrderlyRun X R w actions)
  | _, [] => isTrue trivial
  | w, action :: actions =>
    @instDecidableAnd _ _ _ (decidableOrderlyRun X R (w.step X R action) actions)

lemma pulses_append (live out : List Sent) : pulses (live ++ out) = pulses live ++ pulses out := by
  rw [pulses,filterMap_append,← pulses,← pulses]

lemma Chained.effect {w : World} (h : Chained w) {next : State} {out : List Sent} {i : ℕ} {task left : Task}
    (hi : w.tasks[i]? = some task) (he : Effect R w.relay next out task left)
    (hor : next.store.journal ≠ w.relay.store.journal → Settled w) :
    Chained ⟨next,w.live ++ out,w.tasks.set i left⟩ := by
  have hm : task ∈ w.tasks := mem_of_getElem? hi
  have ho : ∀ o ∈ w.tasks.set i left, o ∈ w.tasks ∨ o = left := fun o hin =>
    mem_or_eq_of_mem_set hin
  cases he with
  | quiet hj hout hsnap =>
    have hpu : pulses (w.live ++ out) = pulses w.live := by
      rw [pulses_append,hout,append_nil]
    refine ⟨hpu ▸ h.chain,?_,?_⟩
    · intro p hp
      rw [hj]
      exact h.last p (hpu ▸ hp)
    · intro o hin snap hs
      rw [hj]
      rcases ho o hin with hold | rfl
      · exact h.held o hold snap hs
      · rcases hsnap snap hs with hheld | rfl
        · exact h.held task hm snap hheld
        · exact states_takeSnapshot R w.relay.store
  | append ev hj hout hsnap =>
    have hse := hor (by rw [hj]; simp)
    have hpu : pulses (w.live ++ out) = pulses w.live := by
      rw [pulses_append,hout,append_nil]
    refine ⟨hpu ▸ h.chain,?_,?_⟩
    · intro p hp
      rw [hpu] at hp
      -- the last pulse states the journal before this entry
      refine .inr ⟨ev,w.relay.store.journal,hj,?_⟩
      rcases h.last p hp with hc | ⟨e,before,hb,hp'⟩
      · exact hc
      · have hl := hse.last p hp
        rw [hp'.sequence_eq,hb,length_append] at hl
        simp at hl
    · intro o hin snap hs
      rcases ho o hin with hold | rfl
      · rw [Option.isNone_iff_eq_none.1 (hse.held o hold)] at hs
        simp at hs
      · rw [hsnap] at hs
        simp at hs
  | emit snap hj hout hheld hsnap =>
    have hpu : pulses (w.live ++ out) = pulses w.live ++ [snap] := by
      rw [pulses_append,hout]
    have hc := h.held task hm snap hheld
    refine ⟨?_,?_,?_⟩
    · rw [hpu,isChain_append]
      refine ⟨h.chain,by simp,?_⟩
      intro p hp q hq
      cases Option.some.inj hq
      exact follows_of_states hc (h.last p hp)
    · intro p hp
      rw [hpu,getLast?_concat] at hp
      cases Option.some.inj hp
      rw [hj]
      exact .inl hc
    · intro o hin held hs
      rw [hj]
      rcases ho o hin with hold | rfl
      · exact h.held o hold held hs
      · rw [hsnap] at hs
        simp at hs

lemma Chained.step {w : World} (h : Chained w) {a : Action} (ha : Orderly X R w a) :
    Chained (w.step X R a) := by
  cases a with
  | arrive e prin =>
    refine ⟨h.chain,h.last,?_⟩
    intro task hin snap hs
    rcases mem_append.1 hin with hold | hnew
    · exact h.held task hold snap hs
    · rw [mem_singleton.1 hnew] at hs
      simp [Task.snapshot] at hs
  | run i m =>
    unfold Orderly at ha
    simp only [World.step] at ha ⊢
    cases hi : w.tasks[i]? with
    | none => exact h
    | some task =>
      simp only [hi] at ha
      exact h.effect hi (task.step_effect w.relay) ha

lemma Chained.run {w : World} (h : Chained w) {as : List Action}
    (ha : OrderlyRun X R w as) : Chained (w.run X R as) := by
  induction as generalizing w with
  | nil => exact h
  | cons a as ih => exact ih (h.step ha.1) ha.2

/-- In any interleaving the journal only grows, and a pulse, sent or held, states a beginning of it. -/
theorem pulses_state_prefixes (s : State) (actions : List Action) :
    let w := (World.start s).run X R actions
    s.store.journal <+: w.relay.store.journal ∧ ∀ snap, snap ∈ pulses w.live ∨
      some snap ∈ w.tasks.map Task.snapshot →
      ∃ j, j <+: w.relay.store.journal ∧ States j snap := by
  induction actions using reverseRecOn with
  | nil => simp [World.run,World.start,pulses]
  | append_singleton as a ih =>
    simp only [World.run,foldl_append,foldl_cons,foldl_nil] at ih ⊢
    generalize as.foldl _ _ = w at ih
    cases a with
    | arrive => simpa [World.step,Task.snapshot] using ih
    | run i m =>
      simp only [World.step]
      split
      · exact ih
      next task hi =>
        cases @Task.step_effect X R m w.relay task <;>
          grind [mem_of_getElem?,mem_or_eq_of_mem_set,states_takeSnapshot,pulses_append,IsPrefix.trans]

end

section

variable {X : Crates} {R : Relay}

/-- The pulse is signed, over a content that states the snapshot. -/
def Signed (X : Crates) (R : Relay) (pulse : CurrentPulse) (snap : Snapshot) : Prop :=
  ∃ (m : Moment) (rounds : List BeaconRound), m.sign (pulseBuilder X R m rounds snap) = .ok pulse.event

def Task.pulse : Task → Option (CurrentPulse × Snapshot)
  | .registering _ current snap => some (current,snap)
  | .emitting _ current snap => some (current,snap)
  | _ => none

/-- Every pulse that is sent or about to be sent is signed over its snapshot. -/
structure AllSigned (X : Crates) (R : Relay) (w : World) : Prop where
  live : ∀ pulse snap, .pulse pulse snap ∈ w.live → Signed X R pulse snap
  held : ∀ task ∈ w.tasks, ∀ pulse snap, task.pulse = some (pulse,snap) → Signed X R pulse snap

lemma signed_of_signPulse {m : Moment} {rounds : List BeaconRound} {snap : Snapshot}
    {pulse : CurrentPulse} (h : signPulse X R m rounds snap = some pulse) : Signed X R pulse snap := by
  unfold signPulse at h
  split at h
  next e hs =>
    cases h
    exact ⟨m,rounds,hs⟩
  · simp at h

lemma afterAccept_pulse (e : Event) (res : WriteResult) (proj : List Event) :
    (afterAccept e res proj).pulse = none := by
  unfold afterAccept
  split <;> rfl

lemma Task.enter_pulse {m : Moment} (s : State) (e : Event) (prin : Option Principal) :
    (Task.enter X R m s e prin).2.pulse = none := by
  unfold Task.enter
  split
  · rfl
  · split
    · rfl
    · rfl
    · split
      · rfl
      · split
        · rfl
        · exact afterAccept_pulse ..

/-- A pulse comes into a task by its signature, and to the live stream from a task. -/
lemma Task.step_pulse {m : Moment} (s : State) (task : Task) (pulse : CurrentPulse) (snap : Snapshot) :
    ((task.step X R m s).2.2.pulse = some (pulse,snap) → task.pulse = some (pulse,snap) ∨
      Signed X R pulse snap) ∧
    (.pulse pulse snap ∈ (task.step X R m s).2.1 → task.pulse = some (pulse,snap)) := by
  cases task with
  | arrived e prin => simp [Task.step,Task.enter_pulse]
  | recording e res proj =>
    simp only [Task.step]
    cases recordBeaconResponse X R m.now s.beaconRounds e with
    | none => simp [Task.pulse]
    | some rounds => simp [afterAccept_pulse]
  | publishing | sending | finished => simp [Task.step,Task.pulse]
  | projecting res proj =>
    cases proj with
    | nil =>
      simp only [Task.step]
      split <;> simp [Task.pulse]
    | cons e rest =>
      simp only [Task.step]
      split
      · simp [Task.pulse]
      · split <;> simp [Task.pulse]
  | witnessing res =>
    simp only [Task.step]
    split <;> simp [Task.pulse]
  | signing res held =>
    simp only [Task.step]
    cases hs : signPulse X R m s.beaconRounds held with
    | none => simp [Task.pulse]
    | some cur =>
      refine ⟨?_,by simp⟩
      intro h
      cases h
      exact .inr (signed_of_signPulse hs)
  | registering res cur held => exact ⟨.inl,by simp [Task.step]⟩
  | emitting res cur held => simp [Task.step,Task.pulse,eq_comm]

lemma AllSigned.step {w : World} (h : AllSigned X R w) (a : Action) : AllSigned X R (w.step X R a) := by
  cases a with
  | arrive e prin =>
    refine ⟨h.live,?_⟩
    intro task hin pulse snap hs
    rcases mem_append.1 hin with hold | hnew
    · exact h.held task hold pulse snap hs
    · rw [mem_singleton.1 hnew] at hs
      simp [Task.pulse] at hs
  | run i m =>
    simp only [World.step]
    cases hi : w.tasks[i]? with
    | none => exact h
    | some task =>
      have hm : task ∈ w.tasks := mem_of_getElem? hi
      constructor
      · intro pulse snap hin
        rcases mem_append.1 hin with hold | hnew
        · exact h.live pulse snap hold
        · exact h.held task hm pulse snap ((task.step_pulse w.relay pulse snap).2 hnew)
      · intro o hin pulse snap hs
        rcases mem_or_eq_of_mem_set hin with hold | rfl
        · exact h.held o hold pulse snap hs
        · rcases (task.step_pulse w.relay pulse snap).1 hs with hheld | hsi
          · exact h.held task hm pulse snap hheld
          · exact hsi

lemma allSigned_run (s : State) (as : List Action) : AllSigned X R ((World.start s).run X R as) := by
  induction as using reverseRecOn with
  | nil => exact ⟨by simp [World.run,World.start],by simp [World.run,World.start]⟩
  | append_singleton as a ih =>
    rw [World.run,foldl_append]
    exact ih.step a

end

/-- In every run whose appends all find the relay settled, each emitted pulse is signed over
its snapshot, and the pulses form one chain. -/
theorem pulse_chain (X : Crates) (R : Relay) (s : State) (actions : List Action)
    (h : OrderlyRun X R (World.start s) actions) :
    (pulses ((World.start s).run X R actions).live).IsChain Follows ∧
      ∀ pulse snap, .pulse pulse snap ∈ ((World.start s).run X R actions).live → Signed X R pulse snap :=
  ⟨((chained_start s).run h).chain,(allSigned_run s actions).live⟩

def countText (content : Json) : Option String := do
  let fields ← content.asObject
  let journal ← (field fields "journal").bind Json.asObject
  match field journal "sequence" with
  | some (.number text) => some text
  | _ => none

def groupUuid : String := "6f9619ff-8b86-4011-b42d-00cf4fc964ff"

/-- The crates on signed events, the one group id and the contents of pulses, which are given
by their journal count. -/
def pulseCrates (signed : List Event) (contents : List (String × String)) : Crates where
  toCrates := signedOnly signed fun text =>
    if text = groupUuid then some (.ofNat 16 0x6f9619ff8b864011b42d00cf4fc964ff) else none
  parseJson := fun _ => none
  jsonText := fun content =>
    ((contents.find? fun entry => countText content = some entry.1).map Prod.snd).getD ""
  uuidError := id
  debugText := id

/-- A moment at which the relay key signs the given events, told apart by kind, tags and
time. -/
def signingMoment (signed : List Event) : Moment where
  now := 1700000000
  sign := fun builder =>
    match signed.find? fun event => event.kind = builder.kind && event.tags = builder.tags &&
      event.createdAt = builder.createdAt.getD 1700000000 with
    | some event => .ok event
    | none => .error "no key"
  append := fun _ => .synced
  sessions := (0,[])
  sign_kind := by
    intro builder event h
    split at h
    next found hfound =>
      cases h
      have hall := find?_some hfound
      simp only [Bool.and_eq_true,decide_eq_true_eq] at hall
      exact hall.1.1
    · simp at h

def helloNote : Event := note

def againNote : Event :=
  { note with
    createdAt := 1700000001
    content := "again"
    id := .ofNat 32 0xacbda85b7fc9f63e648d0b424d47b03b2299258781bb51536785f400aea894bd
    sig := .ofNat 64 0xb6ca42a9c85278e198055144ae2beb28ad44e5ffeb2ef67ad31a816961cb3426ba66c5e5158af526672b903474240a472c78d3ee8814c8bf64958b3f4b59a131 }

def pulseText (head : EventId) (sequence : ℕ) (previous : Option EventId) : String :=
  "\x7b\"adapter\":\"portable-relay-laptop-v0.1\",\"agreements\":\x7b\x7d,\"checkpoints\":\x7b\x7d," ++
    "\"coherence\":\x7b\"governance\":\x7b\"peers\":\"bootstrap\"\x7d\x7d,\"journal\":\x7b\"head\":" ++
    JsonText.quote head.toHex ++ ",\"sequence\":" ++ sequence.repr ++ "\x7d,\"label\":\"\",\"node\":\"\"," ++
    "\"previous\":" ++ (previous.map fun id => JsonText.quote id.toHex).getD "null" ++ "\x7d"

def firstPulse : Event where
  pubkey := thirdKey
  createdAt := 1700000000
  kind := 20700
  tags := [⟨"role",["sovereign"]⟩]
  content := pulseText helloNote.id 1 none
  id := .ofNat 32 0x0c64778f160c8fb9fdd2b61f49cda4fa700f78d4bd284cde97c3cd6bdcfbdbdc
  sig := .ofNat 64 0xa0f59a0f0ec524d61ef9f433e778700a2144c9e441404b7676ca1a9bf9d7abe7b2d12575fa3c599713bc6e5e6eedff8e9fd509e2a5bfdfdcc3bc283dfdf26efb

def secondPulse : Event :=
  { firstPulse with
    content := pulseText againNote.id 2 (some helloNote.id)
    id := .ofNat 32 0xcc8a320043cf5bf834e7d21b47665a2a670be5f09026f545fdfa00626e55d4b9
    sig := .ofNat 64 0xa93ab1613c71a5efe3bd77906a321a5a9f99af197080ff0f0cbfc506b5e7a0dca5c8eea76d20cea223a0737bd3bea692e3727f1c8b60a7b1628c3b7bff78a9e7 }

def noteRun : List Action :=
  .arrive helloNote none :: List.replicate 7 (.run 0 (signingMoment [firstPulse])) ++
    .arrive againNote none :: List.replicate 7 (.run 1 (signingMoment [secondPulse]))

def noteCrates : Crates :=
  pulseCrates [helloNote,againNote] [("1",firstPulse.content),("2",secondPulse.content)]

theorem pulse_chain_notes : (pulses ((World.start emptyState).run noteCrates openRelay noteRun).live).map
        (fun p => (p.sequence,p.head,p.previous)) =
      [(1,some helloNote.id.toHex,none),(2,some againNote.id.toHex,some helloNote.id.toHex)] ∧
    (pulses ((World.start emptyState).run noteCrates openRelay noteRun).live).IsChain Follows := by
  refine ⟨by decide +kernel,(pulse_chain noteCrates openRelay emptyState noteRun ?_).1⟩
  decide +kernel

def groupCreate : Event where
  pubkey := firstKey
  createdAt := 1700000001
  kind := 9007
  tags := [⟨"h",["6f9619ff-8b86-4011-b42d-00cf4fc964ff"]⟩, ⟨"name",["general"]⟩]
  content := ""
  id := .ofNat 32 0x90a835d11944bf213ee21b0600a370144cbd059a7dbb98f8b54353013f8d4411
  sig := .ofNat 64 0x1b642f01161a564cc508bf6301162a963be789463b72663924f5282c4d32d41b1e32d503fafd65bcc97db0dd240721a9e6c6fc5b6d246068d720a3efd3426530

def groupMetadata : Event where
  pubkey := thirdKey
  createdAt := 1700000001
  kind := 39000
  tags :=
    [⟨"d",["6f9619ff-8b86-4011-b42d-00cf4fc964ff"]⟩, ⟨"name",["general"]⟩, ⟨"public",[]⟩, ⟨"closed",[]⟩,
      ⟨"t",["stream"]⟩]
  content := ""
  id := .ofNat 32 0x59c1d9dd4f2a43c38c0416ee6bb866fb12269ad7755df7dd19644fea20f6fddf
  sig := .ofNat 64 0x439a126e81774ffc3155821923043f687c9c74540b18e9ac5287259c51983e6f68ffa61fb738038c90d53b027f962529f73c9fe46c545c109fe97164de1346f9

def groupAdmins : Event :=
  { groupMetadata with
    kind := 39001
    tags := [⟨"d",["6f9619ff-8b86-4011-b42d-00cf4fc964ff"]⟩, ⟨"p",[firstKey.toHex,"owner"]⟩]
    id := .ofNat 32 0xe0c585295d634ed7405d3e3d96eed333610dbe02bcae906089606c5d6db9ad19
    sig := .ofNat 64 0x7a94bba3225d5e663118ef5860d9751b76fddfa99ff4eebbabe79470c5082e5a28574bfbec9f615f79f7353b9b9d78a1dc19b33cbaa3e69e74ff33cdba302597 }

def groupMembers : Event :=
  { groupMetadata with
    kind := 39002
    tags := [⟨"d",["6f9619ff-8b86-4011-b42d-00cf4fc964ff"]⟩, ⟨"p",[firstKey.toHex,"","owner"]⟩]
    id := .ofNat 32 0x58b9a2fd2256e1fbd3f69d93c5cd8da5c8e6db00d155acef8b939b39c9b3e323
    sig := .ofNat 64 0x20a568f1cd572138ee31b9c7e45574b1a0277ec7d24af8404f80384a0369eb909b0bdd0ce251e99e9c64393a8eebb74ce0a6ea821dcaa6d2f1fd02f6cc3e579e }

def groupPulse : Event :=
  { firstPulse with
    content := pulseText groupMembers.id 5 (some groupAdmins.id)
    id := .ofNat 32 0x20ff5d729a9ee62cc5a0a6fa715d44e45ff3fb4c4e21883dc46dc62909a41117
    sig := .ofNat 64 0x59e6d6786a59104bdb68e92d0f6d695c2eac5422f7916dd6803cff71257b8d9523f06e990a11234ccae48a91de37104f43797e6bbbffea7f4394bc9f1e40091d }

/-- A note and then a group, with no submission at the same time. -/
def groupRun : List Action :=
  .arrive helloNote none :: List.replicate 7 (.run 0 (signingMoment [firstPulse])) ++ .arrive
    groupCreate none ::
      List.replicate 13 (.run 1 (signingMoment [groupMetadata,groupAdmins,groupMembers,groupPulse]))

/-- The pulse after the group names the second discovery event as its previous head, and not
the note that the pulse before it witnessed. -/
theorem group_creation_breaks_chain :
    let w := (World.start emptyState).run
      (pulseCrates [helloNote,groupCreate,groupMetadata,groupAdmins,groupMembers]
        [("1",firstPulse.content),("5",groupPulse.content)]) openRelay groupRun
    (pulses w.live).map (fun p => (p.sequence,p.head,p.previous)) =
      [(1,some helloNote.id.toHex,none),(5,some groupMembers.id.toHex,some groupAdmins.id.toHex)] ∧
    ¬ (pulses w.live).IsChain Follows := by
  decide +kernel

end BuzzSolo.LocalRelay
