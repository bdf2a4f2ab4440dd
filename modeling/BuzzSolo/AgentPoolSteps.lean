import BuzzSolo.AgentPool

/-! What a step of the agent pool can do: the frame of each ending of a turn, of an action of its
task and of a signal, and that every agent stays at one place. -/
namespace BuzzSolo.AgentPool

open HashTable SlotPool List

variable {P : Settings}

/-- The same process and model, with no session that was not there before. -/
structure Trimmed (a b : OwnedAgent) : Prop where
  index : b.index = a.index
  model : b.desiredModel = a.desiredModel
  sessions : ∀ c s, b.state.sessions.lookup c = some s → a.state.sessions.lookup c = some s

namespace Trimmed

variable {a b d : OwnedAgent}

lemma refl (a : OwnedAgent) : Trimmed a a := ⟨rfl,rfl,fun _ _ h => h⟩

lemma trans (h : Trimmed a b) (h' : Trimmed b d) : Trimmed a d :=
  ⟨h'.index.trans h.index,h'.model.trans h.model,fun c s hs => h.sessions c s (h'.sessions c s hs)⟩

lemma invalidateChannel (a : OwnedAgent) (c : Uuid) : Trimmed a (a.invalidateChannel c) := by
  refine ⟨rfl,rfl,?_⟩
  intro c' s hs
  change (a.state.sessions.erase c).lookup c' = some s at hs
  rw [lookup_erase_eq] at hs
  split at hs
  · cases hs
  · exact hs

lemma invalidate (a : OwnedAgent) (src : PromptSource) : Trimmed a (a.invalidate src) := by
  cases src with
  | channel c => exact invalidateChannel a c
  | heartbeat => exact ⟨rfl,rfl,fun _ _ h => h⟩

lemma invalidateAll (a : OwnedAgent) : Trimmed a a.invalidateAll := by
  refine ⟨rfl,rfl,?_⟩
  rintro c s hs
  cases hs

lemma captureModels (a : OwnedAgent) (rp : Handoff.Json) : Trimmed a (a.captureModels rp) :=
  ⟨rfl,rfl,fun _ _ h => h⟩

lemma initialMessageFailed (a : OwnedAgent) (src : PromptSource) (cleanup : Except AcpError Unit)
    (e : AcpError) : Trimmed a (a.initialMessageFailed src cleanup e).1 := by
  unfold OwnedAgent.initialMessageFailed
  split
  · exact invalidateAll a
  · split
    · exact invalidateAll a
    · exact invalidate a src
  · exact invalidateAll a
  · exact invalidate a src

lemma promptFailed (a : OwnedAgent) (src : PromptSource) (cleanup : Except AcpError Unit)
    (e : AcpError) : Trimmed a (a.promptFailed src cleanup e).1 := by
  unfold OwnedAgent.promptFailed
  split
  · exact invalidateAll a
  · split
    · exact refl a
    · exact invalidateAll a
    · exact invalidate a src
  · exact invalidateAll a
  · exact refl a
  · exact invalidate a src

lemma countTurn (a : OwnedAgent) (src : PromptSource) :
    Trimmed a { a with state := (a.state.countTurn src).1 } := by
  cases src with
  | channel | heartbeat => exact ⟨rfl,rfl,fun _ _ h => h⟩

lemma promptCompleted (a : OwnedAgent) (src : PromptSource) (stop : StopReason) :
    Trimmed a (a.promptCompleted P src stop).1 := by
  unfold OwnedAgent.promptCompleted
  split
  · exact invalidate a src
  split
  · exact refl a
  · have hc := countTurn a src
    dsimp only
    split
    · exact hc.trans (invalidate _ src)
    · exact hc

lemma cancelFailed (a : OwnedAgent) (src : PromptSource) (e : AcpError) :
    Trimmed a (a.cancelFailed src e).1 := by
  unfold OwnedAgent.cancelFailed
  split
  · exact invalidateAll a
  · exact invalidate a src
  · exact invalidate a src
  · exact invalidate a src
  · exact invalidate a src

lemma controlled (a : OwnedAgent) (src : PromptSource) (signal : ControlSignal)
    (inFlight : Option (Except AcpError Unit)) :
    Trimmed (a.takeSignal signal) (a.controlled src signal inFlight).1 := by
  unfold OwnedAgent.controlled
  split
  · exact invalidate _ src
  · exact cancelFailed _ src _
  · unfold OwnedAgent.completedBeforeSignal
    split
    · exact invalidate _ src
    · exact invalidate _ src
    · exact refl _

lemma removeChannels (a : OwnedAgent) (channels : List Uuid) :
    Trimmed a (channels.foldl OwnedAgent.invalidateChannel a) := by
  induction channels generalizing a with
  | nil => exact refl a
  | cons c channels ih => exact (invalidateChannel a c).trans (ih _)

end Trimmed

variable (a : OwnedAgent)

lemma takeSignal_sessions (signal : ControlSignal) : (a.takeSignal signal).state = a.state := by
  cases signal <;> rfl

lemma takeSignal_index (signal : ControlSignal) : (a.takeSignal signal).index = a.index := by
  cases signal <;> rfl

variable {signal : ControlSignal}

lemma takeSignal_model
    (h : ∀ m, signal ≠ .switchModel m) : (a.takeSignal signal).desiredModel = a.desiredModel := by
  cases signal with
  | switchModel m => exact absurd rfl (h m)
  | _ => rfl

structure TurnStep (t : Turn) (next : ℕ) (t' : Turn) (next' : ℕ) : Prop where
  index : t'.agent.index = t.agent.index
  source : t'.source = t.source
  later : next ≤ next'
  control : t'.control = t.control ∨ t'.control = .received
  model : (∀ m, t.control ≠ .sent (.switchModel m)) → t'.agent.desiredModel = t.agent.desiredModel
  sessions : ∀ c s, t'.agent.state.sessions.lookup c = some s → t.agent.state.sessions.lookup c = some s ∨
    next ≤ s
  stage : ∀ s, t'.stage.session = some s →
    t.stage.session = some s ∨ t.agent.state.session t.source = some s ∨ next ≤ s

variable {t : Turn} {next : ℕ}

lemma TurnStep.finish {res : OwnedAgent × PromptOutcome}
    (h : Trimmed t.agent res.1) : TurnStep t next (t.finish res) next where
  index := h.index
  source := rfl
  later := le_rfl
  control := .inl rfl
  model := fun _ => h.model
  sessions := fun c s hs => .inl (h.sessions c s hs)
  stage := by
    rintro s hs
    cases hs

lemma TurnStep.create (t : Turn) (next : ℕ) (rp : Handoff.Json) :
    TurnStep t next (t.create P next rp) (next+1) where
  index := rfl
  source := rfl
  later := next.le_succ
  control := .inl rfl
  model := fun _ => rfl
  sessions := by
    intro c s hs
    change (t.agent.state.store next t.source).sessions.lookup c = some s at hs
    unfold SessionState.store at hs
    split at hs
    · rw [lookup_insert_eq] at hs
      split at hs
      · cases hs
        exact .inr le_rfl
      · exact .inl hs
    · exact .inl hs
  stage := by
    intro s hs
    have heq : next = s := by
      unfold Turn.create at hs
      split at hs
      · exact Option.some.inj hs
      · exact Option.some.inj hs
    exact .inr (.inr heq.le)

lemma TurnStep.createFailed (t : Turn) (rp : Option Handoff.Json) (e : AcpError) (next : ℕ) :
    TurnStep t next (t.createFailed rp e) next := by
  have hc : Trimmed t.agent ((rp.map t.agent.captureModels).getD t.agent) := by
    cases rp with
    | none => exact .refl _
    | some rp => exact .captureModels _ rp
  refine .finish ?_
  split
  · exact hc.trans (.invalidateAll _)
  · exact hc

lemma TurnStep.resolve (t : Turn) (next : ℕ) (ans : Except (Option Handoff.Json × AcpError) Handoff.Json) :
    TurnStep t next (t.resolve P next ans).1 (t.resolve P next ans).2 := by
  unfold Turn.resolve
  cases hse : t.agent.state.session t.source with
  | some ses =>
    refine ⟨rfl,rfl,le_rfl,.inl rfl,fun _ => rfl,fun _ _ hs => .inl hs,?_⟩
    rintro s hs
    exact .inr (.inl (hse.trans hs))
  | none =>
    cases ans with
    | ok rp => exact .create t next rp
    | error failure => exact .createFailed t failure.1 failure.2 next

lemma TurnStep.controlled (hc : t.control = .sent signal) (inFlight : Option (Except AcpError Unit)) :
    TurnStep t next { t.finish (t.agent.controlled t.source signal inFlight) with control := .received }
      next := by
  have h := Trimmed.controlled t.agent t.source signal inFlight
  refine ⟨h.index.trans (takeSignal_index _ _),rfl,le_rfl,.inr rfl,?_,?_,?_⟩
  · intro hq
    refine h.model.trans (takeSignal_model _ ?_)
    rintro m rfl
    exact hq m hc
  · intro c s hs
    have hold := h.sessions c s hs
    rw [takeSignal_sessions] at hold
    exact .inl hold
  · rintro s hs
    cases hs

lemma turnStep_act {t' : Turn} {next' : ℕ} {action : TurnAction}
    (h : t.act P next action = some (t',next')) : TurnStep t next t' next' := by
  unfold Turn.act at h
  split at h
  next ans _ =>
    have hr := TurnStep.resolve (P := P) t next ans
    rw [Option.some.inj h] at hr
    exact hr
  next ses hst =>
    cases h
    refine ⟨rfl,rfl,le_rfl,.inl rfl,fun _ => rfl,fun _ _ hs => .inl hs,?_⟩
    rintro s hs
    rw [hst]
    exact .inl hs
  · cases h
    exact .finish (.initialMessageFailed ..)
  · cases h
    exact .finish (.promptCompleted ..)
  · cases h
    exact .finish (.promptFailed ..)
  · split at h
    next signal hc =>
      cases h
      exact .controlled hc _
    · cases h
  · cases h

lemma mem_signalInFlightTask {c : Uuid} {turns : List Turn} {t' : Turn}
    (h : t' ∈ (signalInFlightTask c signal turns).1) :
    ∃ t ∈ turns, t' = t ∨ t' = { t with control := .sent signal } := by
  induction turns with
  | nil => cases h
  | cons t turns ih =>
    unfold signalInFlightTask at h
    split at h
    · split at h
      · rcases mem_cons.1 h with heq | hm
        · exact ⟨t,by simp,.inr heq⟩
        · exact ⟨t',by simp [hm],.inl rfl⟩
      · exact ⟨t',h,.inl rfl⟩
    · rcases mem_cons.1 h with heq | hm
      · exact ⟨t,by simp,.inl heq⟩
      · obtain ⟨u,hu,hor⟩ := ih hm
        exact ⟨u,by simp [hu],hor⟩

lemma signalInFlightTask_agents (c : Uuid) (signal : ControlSignal) (turns : List Turn) :
    (signalInFlightTask c signal turns).1.map Turn.agent = turns.map Turn.agent := by
  induction turns with
  | nil => rfl
  | cons t turns ih =>
    unfold signalInFlightTask
    split
    · split
      · rfl
      · rfl
    · rw [map_cons,map_cons,ih]

variable {w : World} {k : ℕ}

lemma turnOf_eq_some (h : w.turnOf k = some t) : t ∈ w.turns ∧ t.agent.index = k :=
  ⟨mem_of_find?_eq_some h,by simpa using find?_some h⟩

/-- What a claim takes: the agent of an idle slot. -/
lemma tryClaim_eq_some {ags rest : List (Option OwnedAgent)} {channel : Option Uuid} {a : OwnedAgent}
    (h : tryClaim ags channel = some (a,rest)) :
    ∃ i : ℕ, ags[i]? = some (some a) ∧ rest = ags.set i none := by
  obtain ⟨⟨i,b⟩,hf,heq⟩ := Option.map_eq_some_iff.1 h
  cases heq
  refine ⟨i,?_,rfl⟩
  rcases Option.or_eq_some_iff.1 hf with ha | ⟨-,hi⟩
  · obtain ⟨id,-,hfi⟩ := Option.bind_eq_some_iff.1 ha
    exact (first_eq_some_iff.1 hfi).1
  · exact (first_eq_some_iff.1 hi).1

lemma switchIdleAgentModel_cases (ags : List (Option OwnedAgent)) (c : Uuid) (m : String) :
    (switchIdleAgentModel ags c m).2 ≠ .switched ∧ (switchIdleAgentModel ags c m).1 = ags ∨
    ∃ i a, first (·.hasSession c) ags = some (i,a) ∧ switchIdleAgentModel ags c m =
      (ags.set i (some ((a.setModel m).invalidateChannel c)),.switched) := by
  unfold switchIdleAgentModel
  cases hf : first (·.hasSession c) ags with
  | none => exact .inl ⟨by simp,rfl⟩
  | some found =>
    dsimp only
    split
    · exact .inr ⟨found.1,found.2,rfl,rfl⟩
    · exact .inl ⟨by simp,rfl⟩

/-- Each agent is in its slot or in a turn. -/
def World.Placed (w : World) : Prop :=
  SlotPool.Placed OwnedAgent.index w.agents (w.turns.map Turn.agent) w.vacant

lemma filter_agents (turns : List Turn) (k : ℕ) : (turns.filter fun t => t.agent.index ≠ k).map Turn.agent =
      (turns.map Turn.agent).filter fun a => a.index ≠ k := by
  rw [filter_map]
  rfl

lemma placed_fromSlots (P : Settings) (started : List Bool) : (World.fromSlots P started).Placed := by
  refine ⟨?_,by simp [World.fromSlots],by simp [World.fromSlots],?_,by simp [World.fromSlots],?_⟩
  · intro i a hget
    simp only [World.fromSlots,getElem?_mapIdx] at hget
    obtain ⟨up,-,heq⟩ := Option.map_eq_some_iff.1 hget
    split at heq
    · cases heq
      rfl
    · cases heq
  · intro i hi
    obtain ⟨-,hd⟩ := mem_filter.1 hi
    simp only [World.fromSlots]
    simp [of_decide_eq_true hd]
  · exact nodup_range.filter _

lemma World.Placed.setTurn (h : w.Placed) (hi : t.agent.index = k) : (w.setTurn k t).Placed := by
  refine SlotPool.Placed.change h ?_
  simp only [World.setTurn,map_map]
  refine map_congr_left ?_
  intro u _
  simp only [Function.comp_apply]
  split
  next heq => rw [hi,heq]
  · rfl

lemma World.Placed.lose {w : World} {k : ℕ} {t : Turn} (h : w.Placed) (ht : w.turnOf k = some t)
    (respawn : Bool) :
    (w.lose k respawn).Placed := by
  obtain ⟨hm,rfl⟩ := turnOf_eq_some ht
  have hl := SlotPool.Placed.lose h (mem_map_of_mem hm)
  rw [← filter_agents] at hl
  exact hl

lemma World.Placed.result (h : w.Placed) (ht : w.turnOf k = some t)
    (out : PromptOutcome) (respawn : Bool) : (w.handlePromptResult t out respawn).Placed := by
  have hi : (w.removedChannels.foldl OwnedAgent.invalidateChannel t.agent).index = t.agent.index :=
    (Trimmed.removeChannels t.agent w.removedChannels).index
  have hl := h.lose ht respawn
  obtain ⟨hm,rfl⟩ := turnOf_eq_some ht
  unfold World.handlePromptResult
  dsimp only
  split
  · have hb := SlotPool.Placed.giveBack h (mem_map_of_mem hm) hi
    rw [← filter_agents] at hb
    rw [returnAgent,hi]
    exact hb
  · rw [hi]
    exact hl

lemma World.Placed.switch (h : w.Placed) (c : Uuid) (m : String) :
    (w.handleSwitchModelControl c m).1.Placed := by
  unfold World.handleSwitchModelControl
  split
  · refine SlotPool.Placed.change h ?_
    simp only [signalInFlightTask_agents]
  · rcases switchIdleAgentModel_cases w.agents c m with ⟨-,hsa⟩ | ⟨i,a,hf,hs⟩
    · simp only [hsa]
      exact h
    · simp only [hs]
      exact SlotPool.Placed.setSlot h (first_eq_some_iff.1 hf).1 rfl

inductive Transition (P : Settings) (w : World) : Action → World → Prop
  | claimed {source : PromptSource} {i : ℕ} {a : OwnedAgent}
      (hget : w.agents[i]? = some (some a)) : Transition P w (.claim source)
        { w with agents := w.agents.set i none, turns := .start a source :: w.turns }
  | acted {action : TurnAction} {t t' : Turn} {next : ℕ} (ht : t ∈ w.turns)
      (hturn : TurnStep t w.nextSession t' next) :
      Transition P w (.act t.agent.index action) { w.setTurn t.agent.index t' with nextSession := next }
  | resulted {k : ℕ} {t : Turn} {outcome : PromptOutcome} (ht : w.turnOf k = some t) (respawn : Bool) :
      Transition P w (.result k respawn) (w.handlePromptResult t outcome respawn)
  | lost {k : ℕ} {t : Turn} (ht : w.turnOf k = some t) (respawn : Bool) :
      Transition P w (.panicked k respawn) (w.lose k respawn)
  | refilling {k : ℕ} (hlt : k < w.agents.length) (hdead : w.slotAlive k = false) (hk : k ∉ w.respawning) :
      Transition P w (.refill k) { w with respawning := k :: w.respawning }
  | respawned {k : ℕ} (hk : k ∈ w.respawning) : Transition P w (.respawned k true) { w with
        agents := returnAgent w.agents (.spawned P k)
        vacant := w.vacant.erase k
        respawning := w.respawning.erase k }
  | failed {k : ℕ} : Transition P w (.respawned k false) { w with respawning := w.respawning.erase k }
  | signalled {c : Uuid} {signal : ControlSignal} (hsignal : ∀ m, signal ≠ .switchModel m) :
      Transition P w (.signal c signal) { w with turns := (signalInFlightTask c signal w.turns).1 }
  | switched (c : Uuid) (m : String) : Transition P w (.switchModel c m) (w.handleSwitchModelControl c m).1
  | left (c : Uuid) : Transition P w (.leave c) { w with
        agents := w.agents.map (Option.map (·.invalidateChannel c))
        removedChannels := c :: w.removedChannels }
  | joined (c : Uuid) : Transition P w (.join c)
    { w with removedChannels := w.removedChannels.filter (· ≠ c) }

variable {w' : World} {action : Action}

lemma transition_of_step (h : step P w action = some w') : Transition P w action w' := by
  cases action with
  | claim src =>
    obtain ⟨⟨a,rest⟩,hc,rfl⟩ := Option.map_eq_some_iff.1 h
    obtain ⟨i,hget,rfl⟩ := tryClaim_eq_some hc
    exact .claimed hget
  | act k action =>
    obtain ⟨t,ht,ha⟩ := Option.bind_eq_some_iff.1 h
    obtain ⟨⟨t',next⟩,hd,rfl⟩ := Option.map_eq_some_iff.1 ha
    obtain ⟨hm,rfl⟩ := turnOf_eq_some ht
    exact .acted hm (turnStep_act hd)
  | result k respawn =>
    obtain ⟨t,ht,hr⟩ := Option.bind_eq_some_iff.1 h
    split at hr
    · cases hr
      exact .resulted ht respawn
    · cases hr
  | panicked k respawn =>
    obtain ⟨t,ht,hp⟩ := Option.bind_eq_some_iff.1 h
    split at hp
    · cases hp
    · cases hp
      exact .lost ht respawn
  | refill k =>
    simp only [step] at h
    split at h
    · cases h
    next hk =>
      cases h
      simp only [Bool.or_eq_true,decide_eq_true_eq,not_or,not_le,Bool.not_eq_true] at hk
      exact .refilling hk.1.1 hk.1.2 hk.2
  | respawned k started =>
    simp only [step] at h
    split at h
    next hk =>
      cases started <;> cases h
      · exact .failed
      · exact .respawned hk
    · cases h
  | signal c signal =>
    cases signal with
    | switchModel m => cases h
    | _ =>
      cases h
      exact .signalled (by simp)
  | switchModel c m =>
    cases h
    exact .switched c m
  | leave c =>
    cases h
    exact .left c
  | join c =>
    cases h
    exact .joined c

/-- Each empty slot has its agent in a turn or is without a process. -/
def World.Accounted (w : World) : Prop :=
  ∀ i : ℕ, w.agents[i]? = some none → i ∈ w.vacant ∨ i ∈ (w.turns.map Turn.agent).map OwnedAgent.index

/-- What holds of the pool at any time: a process is started once at a time, and for slots without one. -/
structure World.Sound (w : World) : Prop where
  placed : w.Placed
  accounted : w.Accounted
  once : w.respawning.Nodup
  waiting : w.respawning ⊆ w.vacant

lemma placed_step (h : w.Sound) (hst : step P w action = some w') : w'.Placed := by
  have hp := h.placed
  cases transition_of_step hst with
  | claimed hget => exact SlotPool.Placed.take hp hget
  | acted ht hturn => exact hp.setTurn hturn.index
  | resulted ht respawn => exact hp.result ht _ respawn
  | lost ht respawn => exact hp.lose ht respawn
  | respawned hk => exact SlotPool.Placed.refill hp (h.waiting hk) rfl
  | refilling | failed | joined => exact hp
  | signalled hsignal => exact SlotPool.Placed.change hp (by simp only [signalInFlightTask_agents])
  | switched c m => exact hp.switch c m
  | left c => exact SlotPool.Placed.mapSlots hp fun _ => rfl

lemma accounted_step (h : w.Sound) (hs : step P w action = some w') : w'.Accounted := by
  have ha := h.accounted
  intro i hi
  cases transition_of_step hs with
  | @claimed _ j a hget =>
    have hh := h.placed.home j a hget
    grind [Turn.start,World.Accounted]
  | acted _ hturn => grind [World.setTurn,World.Accounted,hturn.index]
  | @resulted k t _ ht respawn =>
    have hr := (Trimmed.removeChannels t.agent w.removedChannels).index
    grind [World.handlePromptResult,World.lose,World.dropTurn,returnAgent,turnOf_eq_some,World.Accounted]
  | lost => grind [World.lose,World.dropTurn,World.Accounted]
  | respawned => grind [returnAgent,OwnedAgent.spawned,World.Accounted]
  | signalled => simpa only [signalInFlightTask_agents] using ha i hi
  | switched c m =>
    have hc := switchIdleAgentModel_cases w.agents c m
    grind [World.handleSwitchModelControl,signalInFlightTask_agents,World.Accounted]
  | left => exact ha i (by simpa using hi)
  | refilling | failed | joined => exact ha i hi

lemma respawning_switch (w : World) (c : Uuid) (m : String) :
    (w.handleSwitchModelControl c m).1.respawning = w.respawning ∧
    (w.handleSwitchModelControl c m).1.vacant = w.vacant := by
  unfold World.handleSwitchModelControl
  split <;> exact ⟨rfl,rfl⟩

lemma World.Sound.not_vacant (h : w.Sound) (ht : w.turnOf k = some t) : k ∉ w.vacant := by
  obtain ⟨hm,rfl⟩ := turnOf_eq_some ht
  exact fun hv => h.placed.apart _ hv (mem_map_of_mem (mem_map_of_mem hm))

lemma World.Sound.lose (h : w.Sound) (ht : w.turnOf k = some t) (respawn : Bool) :
    (w.lose k respawn).respawning.Nodup ∧ (w.lose k respawn).respawning ⊆ (w.lose k respawn).vacant := by
  have hk : k ∉ w.respawning := fun hr => h.not_vacant ht (h.waiting hr)
  have hw : w.respawning ⊆ k :: w.vacant := fun i hi => mem_cons_of_mem _ (h.waiting hi)
  cases respawn with
  | true => exact ⟨nodup_cons.2 ⟨hk,h.once⟩,cons_subset.2 ⟨mem_cons_self,hw⟩⟩
  | false => exact ⟨h.once,hw⟩

lemma sound_step (h : w.Sound) (hst : step P w action = some w') : w'.Sound := by
  suffices hr : w'.respawning.Nodup ∧ w'.respawning ⊆ w'.vacant from
    ⟨placed_step h hst,accounted_step h hst,hr.1,hr.2⟩
  cases transition_of_step hst with
  | claimed | acted | signalled | left | joined => exact ⟨h.once,h.waiting⟩
  | @resulted k t out ht respawn =>
    obtain ⟨hm,rfl⟩ := turnOf_eq_some ht
    unfold World.handlePromptResult
    dsimp only
    split
    · exact ⟨h.once,h.waiting⟩
    · rw [(Trimmed.removeChannels t.agent w.removedChannels).index]
      exact h.lose ht respawn
  | lost ht respawn => exact h.lose ht respawn
  | @refilling k hlt hdead hk =>
    refine ⟨nodup_cons.2 ⟨hk,h.once⟩,cons_subset.2 ⟨?_,h.waiting⟩⟩
    obtain ⟨hslot,hturn⟩ := Bool.or_eq_false_iff.1 hdead
    refine (h.accounted k ?_).resolve_right fun hm => ?_
    · rw [getElem?_eq_getElem hlt] at hslot ⊢
      simpa using hslot
    · -- an empty slot is not alive, so no turn has its agent
      obtain ⟨a,ha,rfl⟩ := mem_map.1 hm
      obtain ⟨u,hu,rfl⟩ := mem_map.1 ha
      exact Bool.eq_false_iff.1 hturn (find?_isSome.2 ⟨u,hu,by simp⟩)
  | @respawned k hk =>
    refine ⟨h.once.erase k,fun i hi => ?_⟩
    obtain ⟨hne,hi⟩ := h.once.mem_erase_iff.1 hi
    exact (mem_erase_of_ne hne).2 (h.waiting hi)
  | failed => exact ⟨h.once.erase _,fun i hi => h.waiting (mem_of_mem_erase hi)⟩
  | switched c m =>
    rw [(respawning_switch w c m).1,(respawning_switch w c m).2]
    exact ⟨h.once,h.waiting⟩

lemma sound_run {as : List Action} (h : w.Sound) (hrun : run P w as = some w') : w'.Sound := by
  induction as generalizing w with
  | nil =>
    cases hrun
    exact h
  | cons action as ih =>
    obtain ⟨next,hst,hr⟩ := Option.bind_eq_some_iff.1 hrun
    exact ih (sound_step h hst) hr

lemma sound_fromSlots (P : Settings) (started : List Bool) : (World.fromSlots P started).Sound := by
  refine ⟨placed_fromSlots P started,fun i hi => ?_,nodup_nil,nil_subset _⟩
  grind [World.fromSlots]

/-- Whatever is claimed, returned, lost, respawned and switched: the agent of each slot is there, in one turn,
or gone until it is respawned, and never more than one process is being started for a slot, which is empty. -/
theorem agents_conserved (P : Settings) (started : List Bool) (actions : List Action) :
    (∀ w, run P (.fromSlots P started) actions = some w → w.Placed) ∧
      (∀ w, run P (.fromSlots P started) actions = some w → w.Accounted) ∧
      ∀ w, run P (.fromSlots P started) actions = some w → w.respawning.Nodup ∧ w.respawning ⊆ w.vacant := by
  have hs := sound_fromSlots P started
  exact ⟨fun w h => (sound_run hs h).placed,fun w h => (sound_run hs h).accounted,
    fun w h => ⟨(sound_run hs h).once,(sound_run hs h).waiting⟩⟩

end BuzzSolo.AgentPool
