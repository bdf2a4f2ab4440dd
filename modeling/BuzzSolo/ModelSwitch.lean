import BuzzSolo.AgentPoolSteps

/-! What a model switch does to the later turns of its channel. The switched agent keeps the new
model; whether the next turn gets that agent depends on the slots. -/
namespace BuzzSolo.AgentPool

open HashTable SlotPool List Option

variable {P : Settings}

/-- The agent has the model, and no session of the channel from before the `n`-th. -/
structure Follows (c : Uuid) (m : String) (n : ℕ) (a : OwnedAgent) : Prop where
  model : a.desiredModel = some m
  fresh : ∀ s, a.state.sessions.lookup c = some s → n ≤ s

structure TurnFollows (c : Uuid) (m : String) (n : ℕ) (t : Turn) : Prop where
  agent : Follows c m n t.agent
  quiet : ∀ m', t.control ≠ .sent (.switchModel m')
  running : t.source = .channel c → ∀ s, t.stage.session = some s → n ≤ s

/-- Wherever the `k`-th agent is, it follows the switch. -/
structure Applied (c : Uuid) (m : String) (k n : ℕ) (w : World) : Prop where
  later : n ≤ w.nextSession
  idle : ∀ (i : ℕ) a, w.agents[i]? = some (some a) → a.index = k → Follows c m n a
  busy : ∀ t ∈ w.turns, t.agent.index = k → TurnFollows c m n t

variable {c : Uuid} {m : String} {k n : ℕ} {w w' : World}

lemma Follows.trim {a b : OwnedAgent} (h : Follows c m n a) (ht : Trimmed a b) : Follows c m n b :=
  ⟨ht.model.trans h.model,fun s hs => h.fresh s (ht.sessions c s hs)⟩

lemma TurnFollows.act {t t' : Turn} {next next' : ℕ} (h : TurnFollows c m n t)
    (hst : TurnStep t next t' next') (hn : n ≤ next) : TurnFollows c m n t' := by
  refine ⟨⟨(hst.model h.quiet).trans h.agent.model,?_⟩,?_,?_⟩
  · intro s hs
    rcases hst.sessions c s hs with hold | hnew
    · exact h.agent.fresh s hold
    · exact hn.trans hnew
  · intro m' hsn
    rcases hst.control with hsa | hr
    · exact h.quiet m' (hsa.symm.trans hsn)
    · rw [hr] at hsn
      cases hsn
  · intro hso s hs
    have hso : t.source = .channel c := hst.source.symm.trans hso
    rcases hst.stage s hs with hold | hse | hnew
    · exact h.running hso s hold
    · rw [hso] at hse
      exact h.agent.fresh s hse
    · exact hn.trans hnew

lemma TurnFollows.start {a : OwnedAgent} (h : Follows c m n a) (src : PromptSource) :
    TurnFollows c m n (.start a src) := by
  refine ⟨h,?_,?_⟩
  · intro m' hse
    unfold Turn.start at hse
    split at hse
    · cases hse
    · cases hse
  · rintro - s hs
    cases hs

lemma Applied.dropTurn (h : Applied c m k n w) (j : ℕ) : Applied c m k n (w.dropTurn j) :=
  ⟨h.later,h.idle,fun t ht => h.busy t (mem_of_mem_filter ht)⟩

lemma Applied.putAgent {i : ℕ} {slot : Option OwnedAgent} {turns : List Turn} {vacant respawning : List ℕ}
    (h : Applied c m k n w) (hs : ∀ a, slot = some a → a.index = k → Follows c m n a)
    (ht : ∀ t ∈ turns, t.agent.index = k → TurnFollows c m n t) :
    Applied c m k n { w with
      agents := w.agents.set i slot, turns := turns, vacant := vacant, respawning := respawning } := by
  refine ⟨h.later,?_,ht⟩
  intro j b hb hk
  rcases of_getElem?_set hb with hp | hold
  · exact hs b hp hk
  · exact h.idle j b hold hk

def Action.isSwitch : Action → Bool
  | .switchModel _ _ => true
  | _ => false

lemma Applied.result {t : Turn} (h : Applied c m k n w) (ht : w.turnOf t.agent.index = some t)
    (out : PromptOutcome) (respawn : Bool) : Applied c m k n (w.handlePromptResult t out respawn) := by
  have htr := Trimmed.removeChannels t.agent w.removedChannels
  unfold World.handlePromptResult
  split
  · refine (h.dropTurn _).putAgent ?_ (h.dropTurn _).busy
    rintro a heq hk
    cases heq
    exact (h.busy t (turnOf_eq_some ht).1 (htr.index.symm.trans hk)).agent.trim htr
  · exact ⟨h.later,h.idle,(h.dropTurn _).busy⟩

lemma Applied.step {action : Action} (h : Applied c m k n w) (hst : step P w action = some w')
    (hq : action.isSwitch = false) (hke : action ≠ .respawned k true) : Applied c m k n w' := by
  cases transition_of_step hst with
  | @claimed src i a hget =>
    refine h.putAgent (by simp) ?_
    intro t ht hk
    rcases mem_cons.1 ht with rfl | ht
    · exact .start (h.idle i a hget hk) src
    · exact h.busy t ht hk
  | @acted action t t' next ht hturn =>
    refine ⟨h.later.trans hturn.later,h.idle,?_⟩
    intro u hu hk
    obtain ⟨v,hv,heq⟩ := mem_map.1 hu
    split at heq
    · subst heq
      exact (h.busy t ht (hturn.index.symm.trans hk)).act hturn h.later
    · subst heq
      exact h.busy v hv hk
  | resulted ht respawn =>
    obtain ⟨-,rfl⟩ := turnOf_eq_some ht
    exact h.result ht _ respawn
  | @lost j t ht respawn => exact ⟨h.later,h.idle,(h.dropTurn j).busy⟩
  | respawned hj =>
    refine h.putAgent ?_ h.busy
    rintro a heq rfl
    cases heq
    exact absurd rfl hke
  | signalled hsignal =>
    refine ⟨h.later,h.idle,?_⟩
    intro t' ht' hk
    obtain ⟨t,ht,rfl | rfl⟩ := mem_signalInFlightTask ht'
    · exact h.busy t' ht hk
    · obtain ⟨ha,-,hr⟩ := h.busy t ht hk
      exact ⟨ha,fun m' heq => hsignal m' (Control.sent.inj heq),hr⟩
  | switched d m' => cases hq
  | left d =>
    refine ⟨h.later,?_,h.busy⟩
    intro i b hb hk
    rw [getElem?_map] at hb
    obtain ⟨slot,hs,heq⟩ := map_eq_some_iff.1 hb
    obtain ⟨a,rfl,rfl⟩ := map_eq_some_iff.1 heq
    exact (h.idle i a hs hk).trim (.invalidateChannel a d)
  | refilling | failed | joined => exact ⟨h.later,h.idle,h.busy⟩

lemma Applied.run {as : List Action} (h : Applied c m k n w) (hrun : run P w as = some w')
    (hq : ∀ action ∈ as, action.isSwitch = false) (hk : .respawned k true ∉ as) : Applied c m k n w' := by
  induction as generalizing w with
  | nil =>
    cases hrun
    exact h
  | cons action as ih =>
    obtain ⟨next,hst,hr⟩ := bind_eq_some_iff.1 hrun
    refine ih (h.step hst (hq action (by simp)) ?_) hr
      (fun a ha => hq a (by simp [ha])) fun hm => hk (by simp [hm])
    rintro rfl
    exact hk (by simp)

/-- The switch of a channel is done at the `k`-th agent: on the idle path it was answered so, on
the busy path it has cancelled the turn of the channel. -/
def Switches (P : Settings) (c : Uuid) (m : String) (k : ℕ) (w w' : World) : Prop :=
  (w.handleSwitchModelControl c m = ( w',"switched") ∧ (first (·.hasSession c) w.agents).map Prod.fst =
    some k) ∨
  ∃ t, w.turnOf k = some t ∧ t.source = .channel c ∧ t.control = .sent (.switchModel m) ∧
    step P w (.act k (.receive (some (.ok ())))) = some w'

lemma follows_switched (a : OwnedAgent) (c : Uuid) (m : String) (n : ℕ) :
    Follows c m n ((a.setModel m).invalidateChannel c) := by
  refine ⟨rfl,?_⟩
  intro s hs
  change (a.state.sessions.erase c).lookup c = some s at hs
  rw [lookup_erase_eq,if_pos rfl] at hs
  cases hs

lemma handleSwitchModelControl_switched (h : w.handleSwitchModelControl c m = ( w',"switched")) :
    ∃ i a, first (·.hasSession c) w.agents = some (i,a) ∧
      w' = { w with agents := w.agents.set i (some ((a.setModel m).invalidateChannel c)) } := by
  unfold World.handleSwitchModelControl at h
  split at h
  · have hs := congrArg Prod.snd h
    dsimp only at hs
    split at hs
    · exact absurd hs (by decide)
    · exact absurd hs (by decide)
  · rcases switchIdleAgentModel_cases w.agents c m with ⟨hn,-⟩ | ⟨i,a,hf,hsw⟩
    · have hs := congrArg Prod.snd h
      dsimp only at hs
      split at hs
      · exact absurd ‹_› hn
      · exact absurd hs (by decide)
      · exact absurd hs (by decide)
    · refine ⟨i,a,hf,?_⟩
      rw [hsw] at h
      exact (congrArg Prod.fst h).symm

lemma Switches.applied (hp : w.Placed) (h : Switches P c m k w w') : Applied c m k w'.nextSession w' := by
  rcases h with ⟨hsw,hk⟩ | ⟨t,ht,hso,hse,hst⟩
  · obtain ⟨i,a,hf,rfl⟩ := handleSwitchModelControl_switched hsw
    rw [hf] at hk
    cases hk
    have hget := (first_eq_some_iff.1 hf).1
    refine ⟨le_rfl,?_,?_⟩
    · intro j b hb hi
      -- the only agent of that index is the one just changed
      have hj : j = i := (SlotPool.Placed.home (hp.switch c m) j b ?_).symm.trans hi
      · subst hj
        rw [getElem?_set_some _ (by simp [hget]),if_pos rfl] at hb
        cases hb
        exact follows_switched a c m _
      · rw [hsw]
        exact hb
    · intro t ht hi
      exact absurd hi (SlotPool.Placed.not_out hp hget (mem_map_of_mem ht))
  · obtain ⟨t₁,ht₁,ha⟩ := bind_eq_some_iff.1 hst
    rw [ht] at ht₁
    cases ht₁
    obtain ⟨⟨t',next⟩,hd,rfl⟩ := map_eq_some_iff.1 ha
    have he : t' = { t.finish (t.agent.controlled t.source (.switchModel m) (some (.ok ()))) with control :=
          .received } := by
      unfold Turn.act at hd
      split at hd
      all_goals simp_all
    obtain ⟨hm,rfl⟩ := turnOf_eq_some ht
    refine ⟨le_rfl,?_,?_⟩
    · intro j a hget hi
      have hj := SlotPool.Placed.home hp j a hget
      exact absurd (hi.symm.trans hj) (SlotPool.Placed.not_out hp hget (mem_map_of_mem hm))
    · intro u hu hi
      obtain ⟨v,hv,heq⟩ := mem_map.1 hu
      split at heq
      · subst heq
        rw [he]
        refine ⟨?_,by simp,?_⟩
        · have hfo := follows_switched t.agent c m next
          rw [hso]
          exact hfo
        · rintro - s hs
          cases hs
      next hne =>
        subst heq
        exact absurd hi hne

/-- A claim of the channel takes the agent of slot `k` when that is the first idle one and no
other idle agent has a session of the channel. -/
lemma claim_first {ags rest : List (Option OwnedAgent)} {a b : OwnedAgent} (hidle : ags[k]? = some (some a))
    (hf : ∀ (i : ℕ) d, ags[i]? = some (some d) → i ≠ k → k < i ∧ d.hasSession c = false)
    (h : tryClaim ags (some c) = some (b,rest)) : b = a := by
  have hb : ∀ j < k, ∀ d, ags[j]? ≠ some (some d) := by
    intro j hj d hd
    exact absurd (hf j d hd hj.ne).1 hj.not_gt
  have hp : first (fun _ => true) ags = some (k,a) :=
    first_eq_some_iff.2 ⟨hidle,rfl,fun j hj d hd => absurd hd (hb j hj d)⟩
  unfold tryClaim at h
  cases ha : first (·.hasSession c) ags with
  | none =>
    simp only [bind_some,ha,hp] at h
    cases h
    rfl
  | some found =>
    obtain ⟨i,d⟩ := found
    obtain ⟨hget,hs,-⟩ := first_eq_some_iff.1 ha
    have hi : i = k := by
      by_contra hne
      rw [(hf i d hget hne).2] at hs
      cases hs
    subst hi
    rw [hidle] at hget
    cases hget
    simp only [bind_some,ha] at h
    cases h
    rfl

def Reachable (P : Settings) (w : World) : Prop :=
  ∃ started actions, run P (.fromSlots P started) actions = some w

lemma Reachable.sound (h : Reachable P w) : w.Sound := by
  obtain ⟨started,as,hrun⟩ := h
  exact sound_run (sound_fromSlots P started) hrun

/-- After a switch of the channel at agent `k`, with any actions but another switch in between,
the next claim of the channel starts a turn on that agent, under the new model, and as long as no
other switch comes the turns of the channel there run in sessions created after the switch. It
takes that the agent is idle and its process was not replaced, that no lower slot is idle, and
that no other idle agent has a session of the channel. -/
theorem switch_takes_effect {w₀ w₁ w₂ w₃ : World} {actions : List Action} {a : OwnedAgent}
    (hreach : Reachable P w₀) (hswitch : Switches P c m k w₀ w₁)
    (hrun : run P w₁ actions = some w₂) (hquiet : ∀ action ∈ actions, action.isSwitch = false)
    (hclaim : step P w₂ (.claim (.channel c)) = some w₃)
    (hkept : .respawned k true ∉ actions) (hidle : w₂.agents[k]? = some (some a))
    (hfirst : ∀ (i : ℕ) b, w₂.agents[i]? = some (some b) → i ≠ k → k < i ∧ b.hasSession c = false) :
    (∃ t ∈ w₃.turns, t.source = .channel c ∧ t.stage = .starting ∧ t.agent.index = k ∧
      t.agent.desiredModel = some m) ∧
    ∀ more w₄, run P w₃ more = some w₄ → (∀ action ∈ more, action.isSwitch = false) →
      .respawned k true ∉ more → ∀ t ∈ w₄.turns, t.agent.index = k → t.source = .channel c →
        t.agent.desiredModel = some m ∧ ∀ s, t.stage.session = some s → w₁.nextSession ≤ s := by
  have hp := hreach.sound.placed
  have hb := (hswitch.applied hp).run hrun hquiet hkept
  have hsound : w₁.Sound := by
    rcases hswitch with ⟨hs,-⟩ | ⟨t,-,-,-,hstep⟩
    · exact sound_step hreach.sound (show step P w₀ (.switchModel c m) = some w₁ by rw [step,hs])
    · exact sound_step hreach.sound hstep
  have hi : a.index = k := SlotPool.Placed.home (sound_run hsound hrun).placed k a hidle
  constructor
  · obtain ⟨⟨b,rest⟩,hta,rfl⟩ := map_eq_some_iff.1 hclaim
    have hba : b = a := claim_first hidle hfirst hta
    subst hba
    exact ⟨_,mem_cons_self ..,rfl,rfl,hi,(hb.idle k b hidle hi).model⟩
  · intro more w₄ hm hquiet' hkept' t ht hk hso
    have ha := (hb.step hclaim rfl (by simp)).run hm hquiet' hkept'
    have hf := ha.busy t ht hk
    exact ⟨hf.agent.model,hf.running hso⟩

def twoAgents : Settings := ⟨none,0,false⟩
def standup : Uuid := .ofNat 16 1
def triage : Uuid := .ofNat 16 2

/-- A reply to `session/new` that lists one model. -/
def offers (model : String) : Handoff.Json :=
  .object [("models",.object [("availableModels",.array [.object [("modelId",.string model)]])])]

/-- Two agents are claimed one after the other, and both turns end. -/
def firstTurns (earlier later : Uuid) : List Action :=
  [.claim (.channel earlier),.claim (.channel later),.act 0 (.resolve (.ok (offers "opus"))),
    .act 1 (.resolve (.ok (offers "opus"))),.act 0 (.completed .endTurn),.act 1 (.completed .endTurn),
    .result 0 false,.result 1 false]

theorem switch_takes_effect_first_slot : ∃ w₀ w₁ w₂ w₃,
    Reachable twoAgents w₀ ∧ Switches twoAgents standup "opus" 0 w₀ w₁ ∧
    run twoAgents w₁ [.claim (.channel triage)] = some w₂ ∧
      step twoAgents w₂ (.claim (.channel standup)) = some w₃ ∧
    ∃ t ∈ w₃.turns, t.source = .channel standup ∧ t.stage = .starting ∧ t.agent.index = 0 ∧
      t.agent.desiredModel = some "opus" := by
  have hv : ((run twoAgents (.fromSlots twoAgents [true,true]) (firstTurns standup triage)).bind fun w₀ =>
      let switched := w₀.handleSwitchModelControl standup "opus"
      (run twoAgents switched.1 [.claim (.channel triage)]).bind fun w₂ =>
        (step twoAgents w₂ (.claim (.channel standup))).map fun _ =>
          (switched.2,(first (·.hasSession standup) w₀.agents).map Prod.fst,
            w₂.agents.map isSome)) = some ("switched",some 0,[true,false]) := by
    decide +kernel
  obtain ⟨w₀,hrun₀,hv⟩ := bind_eq_some_iff.1 hv
  obtain ⟨w₂,hrun₂,hv⟩ := bind_eq_some_iff.1 hv
  obtain ⟨w₃,hc,hv⟩ := map_eq_some_iff.1 hv
  simp only [Prod.mk.injEq] at hv
  obtain ⟨hst,hsl,hso⟩ := hv
  have hr : Reachable twoAgents w₀ := ⟨_,_,hrun₀⟩
  have hs : Switches twoAgents standup "opus" 0 w₀ (w₀.handleSwitchModelControl standup "opus").1 :=
    .inl ⟨Prod.ext rfl hst,hsl⟩
  -- only the first slot is idle at the claim
  have hsm : ∀ (i : ℕ) (b : Bool), [true,false][i]? = some b →
      ∃ slot, w₂.agents[i]? = some slot ∧ slot.isSome = b := by
    intro i b hb
    rw [← hso,getElem?_map] at hb
    exact map_eq_some_iff.1 hb
  obtain ⟨slot,hget,hsl⟩ := hsm 0 true rfl
  obtain ⟨a,rfl⟩ := isSome_iff_exists.1 hsl
  refine ⟨w₀,_,w₂,w₃,hr,hs,hrun₂,hc,?_⟩
  refine (switch_takes_effect hr hs hrun₂ (by decide) hc (by simp) hget ?_).1
  intro i b hb hne
  have hi : (w₂.agents.map isSome)[i]? = some true := by
    rw [getElem?_map,hb]
    rfl
  rw [hso] at hi
  match i, hi with
  | 0, _ => exact absurd rfl hne
  | 1, hi => cases hi

/-- The channel had its session at the second agent. The switch is answered as done there, but
the next turn of the channel goes to the first idle slot and runs without the model. -/
theorem switched_model_missed : ∃ w₀ w₁ w₂, Reachable twoAgents w₀ ∧
    Switches twoAgents standup "opus" 1 w₀ w₁ ∧
    step twoAgents w₁ (.claim (.channel standup)) = some w₂ ∧
    w₂.turns.map (fun t => (t.source,t.agent.desiredModel)) = [(.channel standup,none)] := by
  have hv : ((run twoAgents (.fromSlots twoAgents [true,true]) (firstTurns triage standup)).bind fun w₀ =>
      let switched := w₀.handleSwitchModelControl standup "opus"
      (step twoAgents switched.1 (.claim (.channel standup))).map fun w₂ =>
        (switched.2,(first (·.hasSession standup) w₀.agents).map Prod.fst,
          w₂.turns.map fun t => (t.source,t.agent.desiredModel))) =
      some ("switched",some 1,[(.channel standup,none)]) := by
    decide +kernel
  obtain ⟨w₀,hrun₀,hv⟩ := bind_eq_some_iff.1 hv
  obtain ⟨w₂,hc,hv⟩ := map_eq_some_iff.1 hv
  simp only [Prod.mk.injEq] at hv
  obtain ⟨hs,hsl,ht⟩ := hv
  exact ⟨w₀,_,w₂,⟨_,_,hrun₀⟩,.inl ⟨Prod.ext rfl hs,hsl⟩,hc,ht⟩

end BuzzSolo.AgentPool
