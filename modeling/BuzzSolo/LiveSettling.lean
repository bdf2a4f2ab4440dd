import BuzzSolo.LiveHandoff

/-! The relay and a session come to rest by themselves: every submission has finitely many steps,
and so has everything that a session takes up. Nothing is on its way to a subscription then. -/
namespace BuzzSolo.LocalRelay

open EventStore HashTable List
open Query (Principal EffectiveSet)

section

variable {X : Crates} {R : Relay}

/-- A step of a submission or of the session itself; no client message, no lost connection. -/
def SystemAction.internal : SystemAction → Prop
  | .relay (.run _ _) => True
  | .receive _ => True
  | .advance _ => True
  | _ => False

def Leads (X : Crates) (R : Relay) (σ τ : System) : Prop :=
  ∃ actions : List SystemAction, (∀ action ∈ actions, action.internal) ∧ σ.run X R actions = τ

lemma Leads.refl (σ : System) : Leads X R σ σ := ⟨[],by simp,rfl⟩

lemma Leads.trans {σ τ υ : System} (h : Leads X R σ τ) (h' : Leads X R τ υ) : Leads X R σ υ := by
  obtain ⟨as,hi,rfl⟩ := h
  obtain ⟨more,hm,rfl⟩ := h'
  refine ⟨as ++ more,?_,by simp [System.run]⟩
  intro a ha
  rcases mem_append.1 ha with hl | hr
  · exact hi a hl
  · exact hm a hr

lemma Leads.single {σ : System} {a : SystemAction} (h : a.internal) : Leads X R σ (σ.step X R a) :=
  ⟨[a],by simpa using h,rfl⟩

/-- How far a submission is from its end; the checks of one that has just arrived come first. -/
def Task.effort : Task → ℕ ×ₗ ℕ
  | .arrived _ _ => toLex (1,0)
  | .recording _ _ projected => toLex (0,2*projected.length + 7)
  | .publishing _ _ projected => toLex (0,2*projected.length + 6)
  | .projecting _ projected => toLex (0,2*projected.length + 5)
  | .sending _ _ projected => toLex (0,2*projected.length + 6)
  | .witnessing _ => toLex (0,4)
  | .signing _ _ => toLex (0,3)
  | .registering _ _ _ => toLex (0,2)
  | .emitting _ _ _ => toLex (0,1)
  | .finished _ => toLex (0,0)

lemma effort_lt_of_snd {a b : ℕ} (h : a < b) : (toLex (0,a) : ℕ ×ₗ ℕ) < toLex (0,b) :=
  Prod.Lex.toLex_lt_toLex.2 (.inr ⟨rfl,h⟩)

lemma effort_lt_of_fst (a b : ℕ) : (toLex (0,a) : ℕ ×ₗ ℕ) < toLex (1,b) :=
  Prod.Lex.toLex_lt_toLex.2 (.inl Nat.zero_lt_one)

lemma afterAccept_effort (e : Event) (res : WriteResult) (proj : List Event) :
    ∃ n ≤ 2*proj.length + 6, (afterAccept e res proj).effort = toLex (0,n) := by
  unfold afterAccept
  split
  · exact ⟨_,le_rfl,rfl⟩
  · exact ⟨0,Nat.zero_le _,rfl⟩

variable (m : Moment) (s : State)
include m s

lemma Task.enter_effort (e : Event) (prin : Option Principal) :
    ∃ n, (Task.enter X R m s e prin).2.effort = toLex (0,n) := by
  unfold Task.enter
  split
  · exact ⟨_,rfl⟩
  · split
    · exact ⟨_,rfl⟩
    · exact ⟨_,rfl⟩
    next proj _ =>
      split
      · exact ⟨_,rfl⟩
      next res _ =>
        split
        · exact ⟨_,rfl⟩
        · obtain ⟨n,-,hn⟩ := afterAccept_effort e res proj
          exact ⟨n,hn⟩

lemma Task.step_effort (task : Task) (h : ∀ res, task ≠ .finished res) :
    (task.step X R m s).2.2.effort < task.effort := by
  cases task with
  | arrived e prin =>
    obtain ⟨n,hn⟩ := @Task.enter_effort X R m s e prin
    simp only [Task.step,hn]
    exact effort_lt_of_fst _ _
  | recording e res proj =>
    simp only [Task.step]
    split
    · exact effort_lt_of_snd (by omega)
    · obtain ⟨n,hle,hn⟩ := afterAccept_effort e res proj
      simp only [hn]
      exact effort_lt_of_snd (by omega)
  | publishing | sending | registering | emitting => exact effort_lt_of_snd (by omega)
  | projecting res proj =>
    cases proj with
    | nil =>
      simp only [Task.step]
      split <;> exact effort_lt_of_snd (by simp)
    | cons e rest =>
      simp only [Task.step]
      split
      · exact effort_lt_of_snd (by omega)
      · split <;> exact effort_lt_of_snd (by rw [length_cons]; omega)
  | witnessing | signing =>
    simp only [Task.step]
    split <;> exact effort_lt_of_snd (by omega)
  | finished res => exact absurd rfl (h res)

lemma exists_alone (task : Task) : ∃ sent final res, Alone X R m s task sent final res := by
  induction he : task.effort using WellFoundedLT.induction generalizing s task with
  | ind effort ih =>
    by_cases hen : ∃ res, task = .finished res
    · obtain ⟨res,rfl⟩ := hen
      exact ⟨[],s,res,.finished s res⟩
    · have hlt := @Task.step_effort X R m s task (by simpa using hen)
      obtain ⟨sent,final,res,h⟩ := ih _ (he ▸ hlt) (task.step X R m s).1 (task.step X R m s).2.2 rfl
      exact ⟨_,final,res,.step rfl h⟩

/-- A submission that arrives in any world, half-done others beside it, is one call of `submitFrom` as long
as the others do not move. -/
theorem submission_serializes (live : List Sent) (tasks : List Task) (e : Event) (prin : Option Principal) :
    ∃ n sent, World.run X R ⟨s,live,tasks⟩ (.arrive e prin :: List.replicate n (.run tasks.length m)) =
        ⟨(submitFrom X R m s e prin).1,live ++ sent,
          tasks ++ [.finished (submitFrom X R m s e prin).2.result]⟩ ∧
      sent.map Sent.payload = (submitFrom X R m s e prin).2.live := by
  obtain ⟨sent,final,res,ha⟩ := @exists_alone X R m s (.arrived e prin)
  have hr : submitFrom X R m s e prin = _ := ha.rest
  obtain ⟨n,hn⟩ := ha.run tasks.length live (tasks ++ [.arrived e prin]) (by simp)
  rw [set_append_right _ _ le_rfl,Nat.sub_self] at hn
  rw [hr]
  exact ⟨n,sent,hn,rfl⟩

omit m s

lemma run_relay (σ : System) (as : List Action) :
    σ.run X R (as.map .relay) = { σ with world := σ.world.run X R as } := by
  induction as generalizing σ with
  | nil => rfl
  | cons a as ih => exact ih _

/-- The submissions finish one after the other while the session waits. -/
lemma leads_finished (m : Moment) (σ : System) :
    ∃ τ, Leads X R σ τ ∧ τ.session = σ.session ∧ ∀ task ∈ τ.world.tasks, ∃ res, task = .finished res := by
  have hst : ∀ n, n ≤ σ.world.tasks.length → ∃ τ, Leads X R σ τ ∧ τ.session = σ.session ∧
      τ.world.tasks.length = σ.world.tasks.length ∧ ∀ i < n, ∃ res, τ.world.tasks[i]? =
        some (.finished res) := by
    intro n hn
    induction n with
    | zero => exact ⟨σ,.refl σ,rfl,rfl,by simp⟩
    | succ n ih =>
      obtain ⟨τ,hl,hs,hle,hf⟩ := ih (by omega)
      have hlt : n < τ.world.tasks.length := by omega
      obtain ⟨sent,final,res,hal⟩ := @exists_alone X R m τ.world.relay τ.world.tasks[n]
      obtain ⟨k,hk⟩ := hal.run n τ.world.live τ.world.tasks (getElem?_eq_getElem hlt)
      refine ⟨⟨⟨final,τ.world.live ++ sent,τ.world.tasks.set n (.finished res)⟩,τ.session⟩,?_,hs,?_,?_⟩
      · refine hl.trans ⟨(List.replicate k (.run n m)).map .relay,?_,?_⟩
        · intro a ha
          obtain ⟨inner,hie,rfl⟩ := mem_map.1 ha
          rw [eq_of_mem_replicate hie]
          trivial
        · rw [run_relay]
          exact congrArg (System.mk · τ.session) hk
      · simpa using hle
      · intro i hi
        by_cases hin : n = i
        · subst hin
          exact ⟨res,by simp [hlt]⟩
        · obtain ⟨old,hold⟩ := hf i (by omega)
          exact ⟨old,by rw [getElem?_set_ne hin]; exact hold⟩
  obtain ⟨τ,hl,hs,hle,hf⟩ := hst _ le_rfl
  refine ⟨τ,hl,hs,?_⟩
  intro task ht
  obtain ⟨i,hi⟩ := mem_iff_getElem?.1 ht
  have hlt : i < τ.world.tasks.length := (List.getElem?_eq_some_iff.1 hi).1
  obtain ⟨res,hr⟩ := hf i (by omega)
  exact ⟨res,Option.some.inj (hi.symm.trans hr)⟩

/-- How far the session is from being done with what it has taken up. -/
def Phase.effort : Phase → ℕ ×ₗ ℕ
  | .away => toLex (0,0)
  | .idle => toLex (0,0)
  | .ended => toLex (0,0)
  | .asked _ _ => toLex (1,0)
  | .witnessing _ _ events => toLex (0,events.length + 5)
  | .signing _ _ events _ => toLex (0,events.length + 4)
  | .registering _ _ events _ => toLex (0,events.length + 3)
  | .answering _ rest => toLex (0,rest.length + 1)
  | .delivering _ rest => toLex (0,rest.length + 1)

def Phase.resting : Phase → Bool
  | .away => true
  | .idle => true
  | .ended => true
  | _ => false

lemma advance_effort (m : Moment) (s : State) (ses : Session) (h : ses.phase.resting = false) :
    (ses.advance X R m s).2.phase.effort < ses.phase.effort := by
  cases hp : ses.phase with
  | away | idle | ended => simp [hp,Phase.resting] at h
  | asked sid fs =>
    simp only [Session.advance,hp]
    split
    · exact effort_lt_of_fst _ _
    · split
      · exact effort_lt_of_fst _ _
      · exact effort_lt_of_fst _ _
  | witnessing sid sub es =>
    simp only [Session.advance,hp]
    split
    · exact effort_lt_of_snd (by omega)
    · exact effort_lt_of_snd (by omega)
  | signing sid sub es snap =>
    simp only [Session.advance,hp]
    split
    · exact effort_lt_of_snd (by omega)
    · split
      · exact effort_lt_of_snd (by omega)
      · exact effort_lt_of_snd (by omega)
  | registering sid sub es pulse =>
    simp only [Session.advance,hp]
    exact effort_lt_of_snd (by simp)
  | answering sid rest =>
    cases rest with
    | nil | cons =>
      simp only [Session.advance,hp]
      exact effort_lt_of_snd (by simp)
  | delivering e rest =>
    cases rest with
    | nil =>
      simp only [Session.advance,hp]
      exact effort_lt_of_snd (by simp)
    | cons en rest =>
      simp only [Session.advance,hp]
      split
      · exact effort_lt_of_snd (by simp)
      · exact effort_lt_of_snd (by simp)

lemma advance_position (m : Moment) (s : State) (ses : Session) :
    (ses.advance X R m s).2.position = ses.position := by
  unfold Session.advance
  repeat' split
  all_goals rfl

/-- What the session leaves alone while it works: the submissions and the live stream. -/
structure Beside (σ τ : System) : Prop where
  tasks : τ.world.tasks = σ.world.tasks
  live : τ.world.live = σ.world.live
  position : σ.session.position ≤ τ.session.position

lemma leads_resting (m : Moment) (σ : System) :
    ∃ τ, Leads X R σ τ ∧ Beside σ τ ∧ τ.session.phase.resting = true := by
  induction he : σ.session.phase.effort using WellFoundedLT.induction generalizing σ with
  | ind effort ih =>
    cases hr : σ.session.phase.resting with
    | true => exact ⟨σ,.refl σ,⟨rfl,rfl,le_rfl⟩,hr⟩
    | false =>
      have hlt := @advance_effort X R m σ.world.relay σ.session hr
      obtain ⟨τ,hl,hb,hd⟩ := ih _ (he ▸ hlt) (σ.step X R (.advance m)) rfl
      have hs : Leads X R σ (σ.step X R (.advance m)) := .single trivial
      refine ⟨τ,hs.trans hl,⟨hb.tasks,hb.live,?_⟩,hd⟩
      have hp := @advance_position X R m σ.world.relay σ.session
      exact hp.ge.trans hb.position

lemma receive_position {live : List Sent} {ses : Session} (ord : List String)
    (h : ses.position < live.length) : ses.position < (ses.receive live ord).position ∧
      (ses.receive live ord).position ≤ live.length := by
  unfold Session.receive
  rcases Broadcast.recv_cases eventChannelCapacity live ses.position with
    ⟨hr,he⟩ | ⟨sent,hr,-⟩ | ⟨skipped,hr,hle,hp⟩
  · omega
  · rw [hr]
    exact ⟨Nat.lt_succ_self _,h⟩
  · rw [hr]
    exact ⟨Nat.lt_add_of_pos_right hp,hle⟩

lemma leads_drained (m : Moment) (σ : System) (hp : σ.session.position ≤ σ.world.live.length) :
    ∃ τ, Leads X R σ τ ∧ τ.world.tasks = σ.world.tasks ∧ τ.session.phase.resting = true ∧
      (τ.session.phase = .idle → τ.world.live.length ≤ τ.session.position) := by
  induction hlf : σ.world.live.length - σ.session.position using Nat.strong_induction_on generalizing σ with
  | h left ih =>
    obtain ⟨ρ,hrs,hb,hr⟩ := @leads_resting X R m σ
    by_cases hm : ρ.session.phase = .idle ∧ ρ.session.position < ρ.world.live.length
    · obtain ⟨hg,hle⟩ := receive_position [] hm.2
      have hn : ρ.step X R (.receive []) = { ρ with session := ρ.session.receive ρ.world.live [] } := by
        simp [System.step,hm.1]
      have hre : Leads X R ρ { ρ with session := ρ.session.receive ρ.world.live [] } := hn ▸ .single trivial
      have hlive : ρ.world.live.length = σ.world.live.length := by rw [hb.live]
      have hbe := hb.position
      obtain ⟨τ,hl,ht,hd⟩ := ih
        (ρ.world.live.length - (ρ.session.receive ρ.world.live []).position) (by omega)
        { ρ with session := ρ.session.receive ρ.world.live [] } hle rfl
      exact ⟨τ,(hrs.trans hre).trans hl,ht.trans hb.tasks,hd⟩
    · refine ⟨ρ,hrs,hb.tasks,hr,?_⟩
      intro hi
      by_contra hlt
      exact hm ⟨hi,by omega⟩

/-- The system can always come to rest by its own steps, with nothing on its way to any
subscription. -/
lemma SystemOk.settles {bef : Store} {σ : System} (h : SystemOk X R bef σ) (m : Moment) :
    ∃ τ, Leads X R σ τ ∧ ∀ id sub e, τ.session.subscriptions.lookup id = some sub → ¬Underway τ id sub e := by
  obtain ⟨ρ,hf,-,hfi⟩ := @leads_finished X R m σ
  have hρ : SystemOk X R bef ρ := by
    obtain ⟨as,-,rfl⟩ := hf
    exact h.run as
  obtain ⟨τ,⟨more,hm,hτrun⟩,ht,hr,hd⟩ := @leads_drained X R m ρ hρ.session.position_le
  have hτ : SystemOk X R bef τ := hτrun ▸ hρ.run more
  refine ⟨τ,hf.trans ⟨more,hm,hτrun⟩,?_⟩
  intro id sub e hs hu
  have hi : τ.session.phase = .idle := by
    have hb := hτ.session.busy
    cases hp : τ.session.phase with
    | idle => rfl
    | away | ended =>
      simp only [Busy,hp] at hb
      simp [hb] at hs
    | _ => simp [hp,Phase.resting] at hr
  rcases hu with ⟨task,hta,ha⟩ | (hah | ⟨rest,hp,-⟩) | ⟨rest,hp,-⟩
  · obtain ⟨res,rfl⟩ := hfi task (ht ▸ hta)
    simp [Task.announces] at ha
  · rw [drop_eq_nil_of_le (hd hi)] at hah
    simp at hah
  · simp [hi] at hp
  · simp [hi] at hp

/-- No subscription misses an event. In every run, an event that has been stored, matches an open
subscription and is visible to its session has been sent on the subscription, or is on its way to
it, or the session was told that it lagged; the exceptions are events that the session had received
before it took up the REQ, if a limit cut them off or another event of the history had replaced
them. And the relay and the session can go on by themselves until nothing is on its way. -/
theorem handoff_misses_nothing (X : Crates) (R : Relay) (m : Moment) (s : State)
    (heff : EffectiveSet s.store.events) (actions : List SystemAction) :
    let σ := (System.start s).run X R actions
    (∀ id sub, σ.session.subscriptions.lookup id = some sub → ∀ e ∈ σ.world.relay.store.journal,
      Wanted X R σ.session sub e → Delivered σ.session id sub e ∨ ToldLagged σ.session sub ∨
        Underway σ id sub e ∨
        (ReceivedBefore s.store.journal σ sub e ∧ (Gone X s.store sub e ∨ CutOff X sub e))) ∧
    ∃ more : List SystemAction, (∀ action ∈ more, action.internal) ∧
      ∀ id sub e, (σ.run X R more).session.subscriptions.lookup id = some sub →
        ¬Underway (σ.run X R more) id sub e := by
  intro σ
  have hσ : SystemOk X R s.store σ := (systemOk_start heff).run actions
  refine ⟨fun id sub hs e he hw => hσ.owed hs he hw,?_⟩
  obtain ⟨τ,⟨more,hi,rfl⟩,hn⟩ := hσ.settles m
  exact ⟨more,hi,hn⟩

end

def plainRelay : Relay := ⟨none,none,none⟩

def profilesCrates : Crates := pulseCrates [oldProfile,newProfile] []

def plainMoment : Moment := signingMoment []

/-- The old profile is stored while a REQ is taken up, and announced after the history was read. -/
def overlappingRun : List SystemAction :=
  [.connect,.relay (.arrive oldProfile none),.client (.req (some "profiles") (.ok [Filter.new])),
    .relay (.run 0 plainMoment),.advance plainMoment,.relay (.run 0 plainMoment),.advance plainMoment]

theorem handoff_misses_nothing_profile :
    let σ := (System.start emptyState).run profilesCrates plainRelay overlappingRun
    σ.session.frames = [.event "profiles" oldProfile] ∧
    (∀ id sub, σ.session.subscriptions.lookup id = some sub → ∀ e ∈ σ.world.relay.store.journal,
      Wanted profilesCrates plainRelay σ.session sub e →
      Delivered σ.session id sub e ∨ ToldLagged σ.session sub ∨ Underway σ id sub e ∨
        (ReceivedBefore [] σ sub e ∧ (Gone profilesCrates emptyState.store sub e ∨
          CutOff profilesCrates sub e))) ∧ ∃ more : List SystemAction, (∀ action ∈ more, action.internal) ∧
      ∀ id sub e, (σ.run profilesCrates plainRelay more).session.subscriptions.lookup id = some sub →
        ¬Underway (σ.run profilesCrates plainRelay more) id sub e :=
  ⟨by decide +kernel,handoff_misses_nothing profilesCrates plainRelay plainMoment emptyState
    Query.effectiveSet_nil overlappingRun⟩

/-- The session receives the announcement of the old profile while it has no subscription; the new
profile takes its place before the REQ is taken up. -/
def replacedRun : List SystemAction :=
  [.connect,.relay (.arrive oldProfile none),.relay (.run 0 plainMoment),.relay (.run 0 plainMoment),
    .relay (.run 0 plainMoment),.receive [],.advance plainMoment,.relay (.arrive newProfile none),
    .relay (.run 1 plainMoment),.client (.req (some "profiles") (.ok [Filter.new])),
    .advance plainMoment,.advance plainMoment,.advance plainMoment]

/-- The old profile was stored, matches, is visible and is under every limit, but it is never sent. -/
theorem replaced_profile_is_missed :
    let σ := (System.start emptyState).run profilesCrates plainRelay replacedRun
    oldProfile ∈ σ.world.relay.store.journal ∧
      Filter.filtersMatch [Filter.new] (storedEvent profilesCrates.toCrates oldProfile) = true ∧
      Query.eventIsVisible (identityOf plainRelay) σ.session.principal oldProfile = true ∧
      (σ.world.live.drop σ.session.position).map Sent.payload = [] ∧
      (σ.session.subscriptions.lookup "profiles").map (fun sub => (sub.filters,sub.snapshot)) =
        some ([Filter.new],[storedEvent profilesCrates.toCrates newProfile]) ∧
      σ.session.frames = [.event "profiles" newProfile,.eose "profiles"] := by
  decide +kernel

end BuzzSolo.LocalRelay
