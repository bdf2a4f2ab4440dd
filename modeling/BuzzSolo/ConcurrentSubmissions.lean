import BuzzSolo.LocalRelay

/-! Submissions that run at the same time. The relay's tasks give way to one another between
two locks and at every send, so a submission is a sequence of steps; a run takes the next step
of any task in any order. -/
namespace BuzzSolo.LocalRelay

open Ingest EventStore
open Query (Principal)

/-- Where a submission stands. A task with a snapshot holds what its pulse will state. -/
inductive Task
  | arrived (event : Event) (principal : Option Principal)
  | recording (event : Event) (result : WriteResult) (projected : List Event)
  | publishing (event : Event) (result : WriteResult) (projected : List Event)
  | projecting (result : WriteResult) (projected : List Event)
  | sending (event : Event) (result : WriteResult) (projected : List Event)
  | witnessing (result : WriteResult)
  | signing (result : WriteResult) (snap : Snapshot)
  | registering (result : WriteResult) (pulse : CurrentPulse) (snap : Snapshot)
  | emitting (result : WriteResult) (pulse : CurrentPulse) (snap : Snapshot)
  | finished (result : Except SubmitError WriteResult)

/-- What goes out on the live stream; a pulse is kept with the snapshot it states. -/
inductive Sent
  | plain (event : Event)
  | pulse (pulse : CurrentPulse) (snap : Snapshot)

def Sent.payload : Sent → Event
  | .plain event => event
  | .pulse current _ => current.event

def Sent.snapshot : Sent → Option Snapshot
  | .plain _ => none
  | .pulse _ snap => some snap

structure World where
  relay : State
  live : List Sent
  tasks : List Task

section

variable (X : Crates) (R : Relay) (m : Moment)

/-- A result that is not published ends the submission. -/
def afterAccept (event : Event) (result : WriteResult) (projected : List Event) : Task :=
  if result.publishLive then .publishing event result projected else .finished (.ok result)

def Task.enter (s : State) (event : Event) (principal : Option Principal) : State × Task :=
  if event.kind = kindBeaconResponse ∧ hasStanding X R m s principal = false then
    (s,.finished (rejected event lacksStanding).result)
  else match projectedEvents X R m event with
    | .error (.invalidCommand reason) => (s,.finished (rejected event reason).result)
    | .error (.signing reason) => (s,.finished (.error (.materialization reason)))
    | .ok projected =>
      match accept X.toCrates (m.append event) s.store event with
      | (store,.error e) => ({ s with store := store },.finished (.error (.store e)))
      | (store,.ok result) =>
        ({ s with store := store },
          if event.kind = kindBeaconResponse ∧ result.accepted = true ∧ result.message = "ephemeral" then
            .recording event result projected
          else afterAccept event result projected)

/-- The next step of a task: the relay afterwards, what is sent, and the task that is left. -/
def Task.step (s : State) : Task → State × List Sent × Task
  | .arrived event principal =>
    let entered := Task.enter X R m s event principal
    (entered.1,[],entered.2)
  | .recording event result projected =>
    match recordBeaconResponse X R m.now s.beaconRounds event with
    | none => (s,[],.finished (rejected event answersNoPulse).result)
    | some rounds => ({ s with beaconRounds := rounds },[],afterAccept event result projected)
  | .publishing event result projected => (s,[.plain event],.projecting result projected)
  | .projecting result [] =>
    (s,[],if result.message = "stored" then .witnessing result else .finished (.ok result))
  | .projecting result (event :: rest) =>
    match accept X.toCrates (m.append event) s.store event with
    | (store,.error e) => ({ s with store := store },[],.finished (.error (.store e)))
    | (store,.ok accepted) =>
      ({ s with store := store },[],
        if accepted.publishLive then .sending event result rest else .projecting result rest)
  | .sending event result rest => (s,[.plain event],.projecting result rest)
  | .witnessing result =>
    (s,[],if R.relayKeys.isSome then .signing result (takeSnapshot R s.store) else .finished (.ok result))
  | .signing result snap =>
    (s,[],match signPulse X R m s.beaconRounds snap with
      | none => .finished (.ok result)
      | some pulse => .registering result pulse snap)
  | .registering result pulse snap =>
    ({ s with beaconRounds := registerPulse s.beaconRounds pulse },[],.emitting result pulse snap)
  | .emitting result pulse snap => (s,[.pulse pulse snap],.finished (.ok result))
  | .finished result => (s,[],.finished result)

end

inductive Action
  | arrive (event : Event) (principal : Option Principal)
  | run (task : ℕ) (m : Moment)

def World.start (s : State) : World := ⟨s,[],[]⟩

def World.step (X : Crates) (R : Relay) (w : World) : Action → World
  | .arrive event principal => { w with tasks := w.tasks ++ [.arrived event principal] }
  | .run i m =>
    match w.tasks[i]? with
    | none => w
    | some task =>
      let stepped := task.step X R m w.relay
      ⟨stepped.1,w.live ++ stepped.2.1,w.tasks.set i stepped.2.2⟩

def World.run (X : Crates) (R : Relay) (w : World) (actions : List Action) : World :=
  actions.foldl (World.step X R) w

section

variable {X : Crates} {R : Relay} {m : Moment}

/-- A task that runs to its end while no other task moves. -/
inductive Alone (X : Crates) (R : Relay) (m : Moment) :
    State → Task → List Sent → State → Except SubmitError WriteResult → Prop
  | finished (s : State) (result : Except SubmitError WriteResult) :
    Alone X R m s (.finished result) [] s result
  | step {s next final : State} {task left : Task} {out sent : List Sent}
    {result : Except SubmitError WriteResult} (hstep : task.step X R m s = (next,out,left))
    (h : Alone X R m next left sent final result) : Alone X R m s task (out ++ sent) final result

variable {s final : State} {task : Task} {sent : List Sent} {result : Except SubmitError WriteResult}

lemma Alone.run (h : Alone X R m s task sent final result) (i : ℕ)
    (live : List Sent) (tasks : List Task) (hi : tasks[i]? = some task) :
    ∃ n, World.run X R ⟨s,live,tasks⟩ (List.replicate n (.run i m)) =
      ⟨final,live ++ sent,tasks.set i (.finished result)⟩ := by
  induction h generalizing live tasks with
  | finished s result =>
    obtain ⟨hlt,hget⟩ := List.getElem?_eq_some_iff.1 hi
    refine ⟨0,?_⟩
    rw [← hget,List.set_getElem_self]
    simp [World.run]
  | @step s next final task left out sent result hst h ih =>
    have hlt : i < tasks.length := (List.getElem?_eq_some_iff.1 hi).1
    obtain ⟨n,hn⟩ := ih (live ++ out) (tasks.set i left) (by simp [hlt])
    refine ⟨n+1,?_⟩
    have hf : World.step X R ⟨s,live,tasks⟩ (.run i m) = ⟨next,live ++ out,tasks.set i left⟩ := by
      simp [World.step,hi,hst]
    rw [World.run,List.replicate_succ,List.foldl_cons,hf,← World.run,hn]
    simp

/-- The discovery events and the pulse, once the event itself has been sent. -/
def publishRest (X : Crates) (R : Relay) (m : Moment) (s : State) (result : WriteResult)
    (projected : List Event) : State × Answer :=
  match publishProjectedEvents X m s.store projected with
  | (store,.error e,live) => ({ s with store := store },⟨.error (.store e),live⟩)
  | (store,.ok (),live) =>
    if result.message = "stored" then
      let witnessed := witness X R m { s with store := store }
      (witnessed.1,⟨.ok result,live ++ witnessed.2⟩)
    else ({ s with store := store },⟨.ok result,live⟩)

/-- What a task leads to while no other task moves, as calls of the sequential relay. -/
def Task.rest (X : Crates) (R : Relay) (m : Moment) (s : State) : Task → State × Answer
  | .arrived event principal => submitFrom X R m s event principal
  | .recording event result projected =>
    match recordBeaconResponse X R m.now s.beaconRounds event with
    | none => (s,rejected event answersNoPulse)
    | some rounds => publish X R m { s with beaconRounds := rounds } event result projected
  | .publishing event result projected | .sending event result projected =>
    let rest := publishRest X R m s result projected
    (rest.1,⟨rest.2.result,event :: rest.2.live⟩)
  | .projecting result projected => publishRest X R m s result projected
  | .witnessing result => ((witness X R m s).1,⟨.ok result,(witness X R m s).2⟩)
  | .signing result snap =>
    match signPulse X R m s.beaconRounds snap with
    | none => (s,⟨.ok result,[]⟩)
    | some pulse =>
      ({ s with beaconRounds := registerPulse s.beaconRounds pulse },⟨.ok result,[pulse.event]⟩)
  | .registering result pulse _ =>
    ({ s with beaconRounds := registerPulse s.beaconRounds pulse },⟨.ok result,[pulse.event]⟩)
  | .emitting result pulse _ => (s,⟨.ok result,[pulse.event]⟩)
  | .finished result => (s,⟨result,[]⟩)

lemma rest_afterAccept (s : State) (ev : Event) (res : WriteResult) (proj : List Event) :
    (afterAccept ev res proj).rest X R m s = publish X R m s ev res proj := by
  unfold afterAccept publish
  split
  · simp only [Task.rest,publishRest]
    cases publishProjectedEvents X m s.store proj with
    | mk store ans =>
      obtain ⟨out,live⟩ := ans
      cases out with
      | error e => rfl
      | ok u =>
        simp only
        split <;> rfl
  · rfl

lemma rest_enter (s : State) (ev : Event) (prin : Option Principal) :
    (Task.enter X R m s ev prin).2.rest X R m (Task.enter X R m s ev prin).1 =
      submitFrom X R m s ev prin := by
  unfold Task.enter submitFrom
  split
  · rfl
  · cases projectedEvents X R m ev with
    | error why => cases why <;> rfl
    | ok proj =>
      cases accept X.toCrates (m.append ev) s.store ev with
      | mk store out =>
        cases out with
        | error e => rfl
        | ok result =>
          simp only [conclude]
          split
          · rfl
          · exact rest_afterAccept _ _ _ _

lemma publishRest_cons {ev : Event} {store : Store} {acc : WriteResult}
    (ha : accept X.toCrates (m.append ev) s.store ev = (store,.ok acc))
    (res : WriteResult) (rest : List Event) : publishRest X R m s res (ev :: rest) =
      (let left := publishRest X R m { s with store := store } res rest
       (left.1,⟨left.2.result,(if acc.publishLive then [ev] else []) ++ left.2.live⟩)) := by
  simp only [publishRest,publishProjectedEvents,ha]
  cases publishProjectedEvents X m store rest with
  | mk store ans =>
    obtain ⟨out,live⟩ := ans
    cases out with
    | error e => rfl
    | ok u =>
      simp only
      split
      · simp
      · rfl

/-- A step sends the beginning of what its task sends, and leaves the rest of it. -/
lemma Task.rest_step (s : State) (task : Task) : task.rest X R m s = (let stepped := task.step X R m s
     let left := stepped.2.2.rest X R m stepped.1
     (left.1,⟨left.2.result,stepped.2.1.map Sent.payload ++ left.2.live⟩)) := by
  cases task with
  | arrived ev prin => exact (rest_enter s ev prin).symm
  | recording ev result proj =>
    simp only [Task.rest,Task.step]
    cases recordBeaconResponse X R m.now s.beaconRounds ev with
    | none => rfl
    | some rounds => exact (rest_afterAccept _ _ _ _).symm
  | projecting result proj =>
    cases proj with
    | nil =>
      simp only [Task.rest,Task.step,publishRest,publishProjectedEvents]
      split <;> rfl
    | cons ev rest =>
      cases ha : accept X.toCrates (m.append ev) s.store ev with
      | mk store out =>
        cases out with
        | error e => simp [Task.rest,Task.step,publishRest,publishProjectedEvents,ha]
        | ok acc =>
          simp only [Task.rest,Task.step,publishRest_cons ha,ha]
          cases acc.publishLive <;> rfl
  | witnessing result =>
    simp only [Task.rest,Task.step,witness,currentPulse]
    cases R.relayKeys.isSome with
    | false => rfl
    | true =>
      simp only [if_true]
      cases signPulse X R m s.beaconRounds (takeSnapshot R s.store) <;> rfl
  | signing result snap =>
    simp only [Task.rest,Task.step]
    cases signPulse X R m s.beaconRounds snap <;> rfl
  | publishing | sending | registering | emitting | finished => rfl

/-- A task that meets no other does what the sequential relay does. -/
lemma Alone.rest (h : Alone X R m s task sent final result) :
    task.rest X R m s = (final,⟨result,sent.map Sent.payload⟩) := by
  induction h with
  | finished s result => rfl
  | step hst _ ih =>
    rw [Task.rest_step,hst]
    simp [ih]

end

end BuzzSolo.LocalRelay
