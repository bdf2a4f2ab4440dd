import BuzzSolo.McpServerSteps

/-! The restart budget of an MCP server. One invocation at a time starts it again, and the count of
attempts begins anew after each successful start, so the budget holds only while every process that
is started answers a call before it is lost. -/
namespace BuzzSolo.McpServer

open Supervision Option

/-- What holds of the phases of all invocations. A seen state is an old one or the current one. -/
def Fits (S : Settings) (c : Core) : Phase → Prop
  | .calling client => client < c.nextClient
  | .swapping seen _ _ _ => seen.version ≤ c.current.version ∧
    (seen.version = c.current.version → seen = c.current)
  | .spawning n tools => ∃ a r reason prev, c.current.state = .dead a r reason prev ∧
      n = a+1 ∧ a < S.maxAttempts ∧ prev = tools
  | _ => True

/-- The life of the server as a supervised process. -/
def Tracks (c : Core) : Life → Prop
  | .alive client => ∃ tools, c.current.state = .healthy client tools
  | .resting a => (∃ r reason tools, c.current.state = .dead a r reason tools) ∧
      ∀ i n tools, c.phase i ≠ .spawning n tools
  | .reviving a => (∃ r reason tools, c.current.state = .dead a r reason tools) ∧
      ∃ i n tools, c.phase i = .spawning n tools

structure Consistent (S : Settings) (c : Core) : Prop where
  fits : ∀ i, Fits S c (c.phase i)
  lock : ∀ i, (c.phase i).locks = true ↔ c.restartLock = some i
  client : ∀ client tools, c.current.state = .healthy client tools → client < c.nextClient
  life : ∃ life, Tracks c life ∧ Reach Bool S.maxAttempts life c.nextClient c.history

variable {w w' : World}

section

variable {S : Settings} {c : Core} {i : ℕ} {p : Phase}

lemma Arises.fits (h : Consistent S c) (hnew : Arises c p) : Fits S c p ∧ p.locks = false := by
  cases p with
  | calling cl =>
    obtain ⟨tools,hst⟩ := hnew
    exact ⟨h.client cl tools hst,rfl⟩
  | swapping seen why msg byKill => exact ⟨hnew ▸ ⟨le_rfl,fun _ => rfl⟩,rfl⟩
  | holding | spawning => exact hnew.elim
  | _ => exact ⟨trivial,rfl⟩

lemma Consistent.lock_eq (h : Consistent S c) (hi : (c.phase i).locks = true) : c.restartLock = some i :=
  (h.lock i).1 hi

variable {j : ℕ}

/-- Two invocations never hold the lock at once. -/
lemma Consistent.locks_unique (h : Consistent S c) (hi : (c.phase i).locks = true)
    (hj : (c.phase j).locks = true) : j = i := by
  have hs := (h.lock_eq hj).symm.trans (h.lock_eq hi)
  exact some.inj hs

variable {tools : List String}

lemma locks_of_spawning {n : ℕ} (h : c.phase i = .spawning n tools) : (c.phase i).locks = true := by
  rw [h]
  rfl

lemma Tracks.unique {l m : Life} (h : Tracks c l) (h' : Tracks c m) : l = m := by
  cases l <;> cases m <;> grind [Tracks]

variable (h : Consistent S c)
include h

lemma Consistent.reach {l : Life} (ht : Tracks c l) : Reach Bool S.maxAttempts l c.nextClient c.history := by
  obtain ⟨life,hl,hr⟩ := h.life
  exact hl.unique ht ▸ hr

lemma Consistent.reach_reviving {n : ℕ} (hi : c.phase i = .spawning n tools) :
    ∃ a r reason, c.current.state = .dead a r reason tools ∧ n = a+1 ∧
      Reach Bool S.maxAttempts (.reviving a) c.nextClient c.history := by
  have hf := h.fits i
  rw [hi] at hf
  obtain ⟨a,r,reason,prev,hst,rfl,-,rfl⟩ := hf
  exact ⟨a,r,reason,hst,rfl,h.reach ⟨⟨r,reason,_,hst⟩,i,_,_,hi⟩⟩

lemma Consistent.not_spawning_of_holding (hi : c.phase i = .holding) :
    ∀ j n tools, c.phase j ≠ .spawning n tools := by
  intro j n tools hs
  have hj : j = i := h.locks_unique (by rw [hi]; rfl) (locks_of_spawning hs)
  rw [hj,hi] at hs
  cases hs

lemma Consistent.not_spawning_of_healthy {cl : ℕ}
    (hst : c.current.state = .healthy cl tools) : ∀ j n tools, c.phase j ≠ .spawning n tools := by
  intro j n prev hs
  obtain ⟨a,r,why,hd,-⟩ := h.reach_reviving hs
  rw [hst] at hd
  cases hd

omit h

structure Undisturbed (S : Settings) (c c' : Core) (i : ℕ) : Prop where
  phase : c'.phase = c.phase
  fits : ∀ j, j ≠ i → Fits S c' (c.phase j)
  lock : ∀ j, j ≠ i → ((c.phase j).locks = true ↔ c'.restartLock = some j)
  client : ∀ client tools, c'.current.state = .healthy client tools → client < c'.nextClient

variable {c' : Core}

lemma Undisturbed.put (life : Life) (h : Undisturbed S c c' i) (hf : Fits S c' p)
    (hlock : p.locks = true ↔ c'.restartLock = some i) (ht : Tracks (c'.put i p) life)
    (hr : Reach Bool S.maxAttempts life c'.nextClient c'.history) : Consistent S (c'.put i p) := by
  refine ⟨?_,?_,h.client,life,ht,hr⟩
  · intro j
    by_cases hj : j = i
    · subst hj
      rwa [Core.put_phase_self]
    · rw [Core.put_phase_of_ne _ _ hj,h.phase]
      exact h.fits j hj
  · intro j
    by_cases hj : j = i
    · subst hj
      rwa [Core.put_phase_self]
    · rw [Core.put_phase_of_ne _ _ hj,h.phase]
      exact h.lock j hj

lemma tracks_put {life : Life} (ht : Tracks c life) (hold : ∀ n tools, c.phase i ≠ .spawning n tools)
    (hnew : ∀ n tools, p ≠ .spawning n tools) : Tracks (c.put i p) life := by
  cases life with
  | alive cl => exact ht
  | resting a =>
    refine ⟨ht.1,?_⟩
    intro j n tools
    by_cases hj : j = i
    · subst hj
      simpa using hnew n tools
    · simpa [hj] using ht.2 j n tools
  | reviving a =>
    obtain ⟨hst,j,n,tools,hj⟩ := ht
    have hne : j ≠ i := by
      rintro rfl
      exact hold n tools hj
    exact ⟨hst,j,n,tools,by simpa [hne] using hj⟩

lemma not_spawning {q : Phase} (h : q.locks = false) : ∀ n tools, q ≠ .spawning n tools := by
  rintro n tools rfl
  cases h

lemma Consistent.none_spawning (h : Consistent S c) (hi : (c.phase i).locks = true)
    (hnew : p.locks = false) : ∀ j n tools, (c.put i p).phase j ≠ .spawning n tools := by
  intro j n tools
  by_cases hj : j = i
  · subst hj
    simpa using not_spawning hnew n tools
  · intro hs
    rw [Core.put_phase_of_ne c p hj] at hs
    exact hj (h.locks_unique hi (locks_of_spawning hs))

lemma Consistent.lock_none (h : Consistent S c) (hi : (c.phase i).locks = true) (hj : j ≠ i) :
    (c.phase j).locks = true ↔ none = some j :=
  ⟨fun hl => absurd (h.locks_unique hi hl) hj,fun hn => by cases hn⟩

/-- A phase fits a newer state, unless it is the one of a starter. -/
lemma Fits.store {q : Phase} (hf : Fits S c q) (hfree : q.locks = false)
    (hv : c'.current.version = c.current.version+1) (hn : c.nextClient ≤ c'.nextClient) : Fits S c' q := by
  cases q with
  | calling cl => exact hf.trans_le hn
  | swapping seen why msg byKill =>
    have hle := hf.1
    refine ⟨by omega,fun heq => ?_⟩
    omega
  | spawning n tools => cases hfree
  | _ => trivial

lemma Consistent.free_of_ne (h : Consistent S c) (hi : (c.phase i).locks = true) (hj : j ≠ i) :
    (c.phase j).locks = false := by
  cases hl : (c.phase j).locks with
  | false => rfl
  | true => exact absurd (h.locks_unique hi hl) hj

lemma CoreStep.consistent (h : Consistent S c) (hstep : CoreStep S c i c') : Consistent S c' := by
  obtain ⟨life,htracks,hreach⟩ := h.life
  cases hstep with
  | stay => exact h
  | @move p hold hnew =>
    obtain ⟨hfit,hf⟩ := hnew.fits h
    have hside : Undisturbed S c c i := ⟨rfl,fun j _ => h.fits j,fun j _ => h.lock j,h.client⟩
    refine hside.put _ hfit ?_ (tracks_put htracks (not_spawning hold) (not_spawning hf)) hreach
    rw [← h.lock i,hf,hold]
  | acquire hold hlock =>
    have hside : Undisturbed S c { c with restartLock := some i } i := by
      refine ⟨rfl,fun j _ => ?_,fun j hj => ?_,h.client⟩
      · exact h.fits j
      · rw [h.lock j,hlock]
        simp [hj.symm]
    exact hside.put _ trivial (by simp [Phase.locks])
      (tracks_put (c := { c with restartLock := some i }) htracks (not_spawning hold)
        (fun _ _ hp => by cases hp)) hreach
  | @release p hold hnew =>
    obtain ⟨hfit,hf⟩ := hnew.fits h
    have hi : (c.phase i).locks = true := by rw [hold]; rfl
    have hside : Undisturbed S c { c with restartLock := none } i :=
      ⟨rfl,fun j _ => h.fits j,fun j hj => h.lock_none hi hj,h.client⟩
    refine hside.put _ hfit (by simp [hf]) ?_ hreach
    exact tracks_put (c := { c with restartLock := none }) htracks
      (fun n tools hs => by rw [hold] at hs; cases hs) (not_spawning hf)
  | @attempt a r reason tools hold hst ha =>
    have hi : (c.phase i).locks = true := by rw [hold]; rfl
    have hside : Undisturbed S c { c with history := .attempt :: c.history } i :=
      ⟨rfl,fun j _ => h.fits j,fun j _ => h.lock j,h.client⟩
    refine hside.put (.reviving a) ⟨a,r,reason,tools,hst,rfl,ha,rfl⟩ ?_ ?_ ?_
    · simpa [Phase.locks] using h.lock_eq hi
    · exact ⟨⟨r,reason,tools,hst⟩,i,a+1,tools,by simp⟩
    · exact .begin (h.reach ⟨⟨r,reason,tools,hst⟩,h.not_spawning_of_holding hold⟩) ha
  | @revive n prev tools hold =>
    have hi := locks_of_spawning hold
    obtain ⟨a,r,reason,hst,hn,hrev⟩ := h.reach_reviving hold
    refine Undisturbed.put (c := c) (.alive c.nextClient)
      ⟨rfl,fun j hj => ?_,fun j hj => h.lock_none hi hj,?_⟩ trivial (by simp [Phase.locks])
      ⟨tools,rfl⟩ (.revive hrev)
    · exact (h.fits j).store (h.free_of_ne hi hj) rfl (Nat.le_succ _)
    · rintro cl tools' heq
      cases heq
      exact Nat.lt_succ_self _
  | @fail n prev r reason out hold =>
    have hi := locks_of_spawning hold
    obtain ⟨a,r',reason',hst,rfl,hrev⟩ := h.reach_reviving hold
    refine Undisturbed.put (c := c) (.resting (a+1))
      ⟨rfl,fun j hj => ?_,fun j hj => h.lock_none hi hj,?_⟩ trivial (by simp [Phase.locks])
      ⟨⟨r,reason,prev,rfl⟩,h.none_spawning hi rfl⟩ (.fail hrev)
    · exact (h.fits j).store (h.free_of_ne hi hj) rfl le_rfl
    · rintro cl tools' heq
      cases heq
  | @abandon n prev p hold hnew =>
    obtain ⟨hfit,hf⟩ := hnew.fits h
    have hi := locks_of_spawning hold
    obtain ⟨a,r,reason,hst,rfl,hrev⟩ := h.reach_reviving hold
    exact Undisturbed.put (c := c) (.resting a)
      ⟨rfl,fun j _ => h.fits j,fun j hj => h.lock_none hi hj,h.client⟩ hfit (by simp [hf])
      ⟨⟨r,reason,prev,hst⟩,h.none_spawning hi hf⟩ (.abandon hrev)
  | @lose seen reason msg byKill cl tools r out hold hse hversion =>
    have hfits := h.fits i
    rw [hold] at hfits
    have hcurrent : c.current.state = .healthy cl tools := by
      rw [← hfits.2 hversion.symm,hse]
    have hnone := h.not_spawning_of_healthy hcurrent
    have hi : (c.phase i).locks = false := by rw [hold]; rfl
    refine Undisturbed.put (c := c) (.resting 1)
      ⟨rfl,fun j _ => ?_,fun j _ => h.lock j,?_⟩ trivial ?_ ?_ (.lose (h.reach ⟨tools,hcurrent⟩))
    · cases hp : c.phase j with
      | spawning n tools => exact absurd hp (hnone j n tools)
      | holding => trivial
      | _ => exact (hp ▸ h.fits j).store rfl rfl le_rfl
    · rintro cl tools' heq
      cases heq
    · rw [← h.lock i,hi]
      rfl
    · refine ⟨⟨r,reason,tools,rfl⟩,?_⟩
      intro j n prev
      by_cases hj : j = i
      · subst hj
        simp
      · simpa [hj] using hnone j n prev
  | @answer cl isError out hold =>
    have hfits := h.fits i
    rw [hold] at hfits
    have hi : (c.phase i).locks = false := by rw [hold]; rfl
    refine Undisturbed.put (c := c) _ ⟨rfl,fun j _ => h.fits j,fun j _ => h.lock j,h.client⟩ trivial ?_
      (tracks_put (c := { c with history := .answered cl isError :: c.history }) htracks
        (not_spawning hi) (not_spawning rfl)) (.answer hreach hfits)
    rw [← h.lock i,hi]
    rfl

lemma consistent_start (S : Settings) (name : String) (tools : List String) :
    Consistent S (start name tools).core := by
  refine ⟨fun _ => trivial,fun i => ?_,?_,.alive 0,⟨tools,rfl⟩,.start⟩
  · simp [World.core,start,Phase.locks]
  · rintro cl tools' h
    cases h
    exact Nat.one_pos

lemma consistent_run {as : List Action} (h : Consistent S w.core)
    (hrun : w.run S as = some w') : Consistent S w'.core := by
  induction as generalizing w with
  | nil =>
    cases hrun
    exact h
  | cons a as ih =>
    obtain ⟨mid,hst,hr⟩ := bind_eq_some_iff.1 hrun
    exact ih ((coreStep_step hst).consistent h) hr

end

/-- However the invocations interleave, one of them at most holds the restart lock, and one starts the server
only while it is dead with attempts left. -/
theorem one_starter (S : Settings) (name : String) (tools : List String) (actions : List Action) :
    (∀ w, (start name tools).run S actions = some w → ∀ i j, (w.tasks i).phase.locks = true →
      (w.tasks j).phase.locks = true → j = i) ∧
    ∀ w, (start name tools).run S actions = some w → ∀ i n prev, (w.tasks i).phase = .spawning n prev →
      ∃ a r why, w.current.state = .dead a r why prev ∧ n = a+1 ∧ a < S.maxAttempts := by
  have hc {w : World} (hrun : (start name tools).run S actions = some w) : Consistent S w.core :=
    consistent_run (consistent_start S name tools) hrun
  refine ⟨fun w hrun i j hi hj => (hc hrun).locks_unique hi hj,fun w hrun i n prev hi => ?_⟩
  have hf := (hc hrun).fits i
  rw [show w.core.phase i = _ from hi] at hf
  obtain ⟨a,r,why,_,hs,hn,ha,rfl⟩ := hf
  exact ⟨a,r,why,hs,hn,ha⟩

section

variable {S : Settings} {c c' : Core} {i : ℕ}

def Exhausted (S : Settings) (c : Core) : Prop :=
  ∃ a r reason tools, c.current.state = .dead a r reason tools ∧ S.maxAttempts ≤ a

lemma Exhausted.none_spawning (hout : Exhausted S c) (h : Consistent S c) :
    ∀ j n tools, c.phase j ≠ .spawning n tools := by
  intro j n tools hs
  obtain ⟨a,r,reason,prev,hst,ha⟩ := hout
  have hf := h.fits j
  rw [hs] at hf
  obtain ⟨b,r',reason',prev',hstate',-,hb,-⟩ := hf
  rw [hst] at hstate'
  cases hstate'
  omega

lemma CoreStep.exhausted (hstep : CoreStep S c i c') (h : Consistent S c) (hout : Exhausted S c) :
    c'.name = c.name ∧ c'.current = c.current ∧
      c'.history.countP Supervision.Event.isAttempt = c.history.countP Supervision.Event.isAttempt := by
  have hn := hout.none_spawning h
  obtain ⟨a,r,why,prev,hst,ha⟩ := hout
  cases hstep with
  | attempt hold hd hlt =>
    rw [hst] at hd
    cases hd
    omega
  | revive hold | fail hold | abandon hold => exact absurd hold (hn _ _ _)
  | lose hold hse hversion =>
    have hf := h.fits i
    rw [hold] at hf
    rw [hf.2 hversion.symm,hst] at hse
    cases hse
  | _ => exact ⟨rfl,rfl,by simp [Core.put,Supervision.Event.isAttempt]⟩

lemma CoreStep.phase_of_ne (hst : CoreStep S c i c') {j : ℕ} (hj : j ≠ i) : c'.phase j = c.phase j := by
  cases hst with
  | stay => rfl
  | _ => rw [Core.put_phase_of_ne _ _ hj]

lemma checkRestartState_exhausted {name : String} {a r lm now : ℕ} {why : String}
    {tools : List String} (h : lm ≤ a) :
    checkRestartState name (.dead a r why tools) lm now = .error (exhaustedText name) := by
  simp [checkRestartState,h]

/-- The phases of an invocation that finds its server exhausted. -/
def Refused (name : String) (p : Phase) : Prop :=
  p = .idle ∨ p = .loading ∨ p = .checking ∨
    p = .finished (.failed ("mcp: " ++ exhaustedText name)) ∨ p = .finished (.failed "cancelled")

lemma refused_step {a : Action} (hout : Exhausted S w.core)
    (hphase : Refused w.name (w.tasks a.index).phase) (hstep : w.step S a = some w') :
    Refused w.name (w'.tasks a.index).phase := by
  obtain ⟨n,r,why,tools,hst,hn⟩ := hout
  have hd : w.current.state = .dead n r why tools := hst
  cases a with
  | cancel v =>
    cases hstep
    exact hphase
  | invoke i call =>
    simp only [World.step] at hstep
    split at hstep
    · cases hstep
      unfold World.invoke
      split
      · simp [Refused,World.setPhase,Action.index]
      · simp [Refused,Action.index]
    · cases hstep
  | advance i now =>
    simp only [World.step,World.advance] at hstep
    change Refused w.name (w.tasks i).phase at hphase
    rcases hphase with hp | hp | hp | hp | hp
    · simp [hp] at hstep
    · simp only [hp,hd,some.injEq] at hstep
      subst hstep
      simp [Refused,World.setPhase,Action.index]
    · simp only [hp,hd,checkRestartState_exhausted hn,some.injEq] at hstep
      subst hstep
      simp [Refused,World.fail,World.setPhase,Action.index]
    · simp [hp] at hstep
    · simp [hp] at hstep
  | spawned i | replied i | swap i | observeCancel i | elapse i | abort i =>
    change Refused w.name (w.tasks i).phase at hphase
    rcases hphase with hp | hp | hp | hp | hp <;> simp [World.step,World.spawned,World.replied,World.swap,
      World.observeCancel,World.elapse,World.abort,World.interrupt,hp] at hstep

/-- Whatever happens to an exhausted server, it is not started again, and an invocation that begins
now ends in the error that says so. -/
lemma exhausted_run {as : List Action} (h : Consistent S w.core)
    (hout : Exhausted S w.core) (hrun : w.run S as = some w') :
    w'.history.countP Supervision.Event.isAttempt = w.history.countP Supervision.Event.isAttempt ∧
      ∀ j, Refused w.name (w.tasks j).phase → Refused w.name (w'.tasks j).phase := by
  induction as generalizing w with
  | nil =>
    cases hrun
    exact ⟨rfl,fun _ hj => hj⟩
  | cons a as ih =>
    obtain ⟨mid,hst,hr⟩ := bind_eq_some_iff.1 hrun
    have hco := coreStep_step hst
    obtain ⟨hn,hcu,hc⟩ := hco.exhausted h hout
    have hm : Exhausted S mid.core := by
      unfold Exhausted
      rw [hcu]
      exact hout
    obtain ⟨hc',hphase'⟩ := ih (hco.consistent h) hm hr
    refine ⟨hc'.trans hc,fun j hj => ?_⟩
    have hs : mid.name = w.name := hn
    rw [← hs]
    apply hphase' j
    rw [hs]
    by_cases hi : j = a.index
    · subst hi
      exact refused_step hout hj hst
    · have ho : (mid.tasks j).phase = (w.tasks j).phase := hco.phase_of_ne hi
      rwa [ho]

end

/-- The restart budget, in the runs in which no start is dropped before its end and no process is
lost before its first successful call, except the one the session began with. Which results count
as successful makes no difference. -/
theorem restart_budget_kept (S : Settings) (name : String) (tools : List String)
    (success : Bool → Bool) (actions : List Action) (w : World)
    (hrun : (start name tools).run S actions = some w) (hearned : Earned success w.history)
    (hfinished : .abandoned ∉ w.history) :
    (∀ window, window <:+: w.history → (∀ e ∈ window, e.succeeds success = false) →
      window.countP Supervision.Event.isAttempt < S.maxAttempts) ∧
    (∀ window, window <+: w.history → (∀ e ∈ window, e.succeeds success = false) →
      window.countP Supervision.Event.isAttempt + 1 = S.maxAttempts →
      (∀ client prev, w.current.state ≠ .healthy client prev) →
      (∀ i n prev, (w.tasks i).phase ≠ .spawning n prev) →
      ∀ later w', w.run S later = some w' →
        w'.history.countP Supervision.Event.isAttempt = w.history.countP Supervision.Event.isAttempt ∧
        ∀ i outcome, (w.tasks i).phase = .idle → (w'.tasks i).phase = .finished outcome →
          outcome = .failed ("mcp: " ++ exhaustedText w.name) ∨ outcome = .failed "cancelled") := by
  have hco := consistent_run (consistent_start S name tools) hrun
  obtain ⟨life,ht,hre⟩ := hco.life
  refine ⟨fun window hw hq =>
    hre.attempts_lt S.maxAttempts_pos hearned hfinished hw hq,?_⟩
  intro window hw hq hcu hd hidle later w' hl
  have hout : Exhausted S w.core := by
    obtain ⟨earlier,he⟩ := hw
    have hs : _ ≤ spent _ Supervision.Event.isAttempt _ := countP_le_spent_append hq earlier
    rw [he] at hs
    have hc := hre.covered S.maxAttempts_pos hearned hfinished
    cases life with
    | alive client =>
      obtain ⟨prev,hstate⟩ := ht
      exact absurd hstate (hd client prev)
    | resting a =>
      obtain ⟨⟨r,reason,prev,hstate⟩,-⟩ := ht
      have hlt := hc.1
      exact ⟨a,r,reason,prev,hstate,by simp only [World.core] at hlt; omega⟩
    | reviving a =>
      obtain ⟨-,i,n,prev,hi⟩ := ht
      exact absurd hi (hidle i n prev)
  obtain ⟨ha,hphase⟩ := exhausted_run hco hout hl
  refine ⟨ha,fun i outcome hi hen => ?_⟩
  have hr := hphase i (.inl hi)
  rw [hen] at hr
  rcases hr with hp | hp | hp | hp | hp
  · cases hp
  · cases hp
  · cases hp
  · exact .inl (Phase.finished.inj hp)
  · exact .inr (Phase.finished.inj hp)

def defaultSettings : Settings := .ofConfig 3 500 30000

def shellCall : Invocation := ⟨false,"dev__shell","shell",true,660⟩

def crashes : List Action :=
  [.invoke 0 shellCall,.advance 0 0,.replied 0 (.transport "closed"),.advance 0 0,.swap 0 0 0,
    .invoke 1 shellCall,.advance 1 1000,.advance 1 1000,.advance 1 1000,.advance 1 1000,
    .spawned 1 (.error "spawn dev") 1000 0,
    .invoke 2 shellCall,.advance 2 9000,.advance 2 9000,.advance 2 9000,.advance 2 9000,
    .spawned 2 (.error "spawn dev") 9000 0]

theorem restart_budget_kept_crash : ∃ w, (start "dev" ["shell"]).run defaultSettings crashes = some w ∧
      w.history = [.failed,.attempt,.failed,.attempt,.lost 0] ∧
      (∀ window, window <:+: w.history → (∀ e ∈ window, e.succeeds (fun _ => true) = false) →
        window.countP Supervision.Event.isAttempt < defaultSettings.maxAttempts) ∧
      ∀ w', w.run defaultSettings [.invoke 3 shellCall,.advance 3 10000,.advance 3 10000] = some w' →
        w'.history.countP Supervision.Event.isAttempt = w.history.countP Supervision.Event.isAttempt := by
  have hv : ((start "dev" ["shell"]).run defaultSettings crashes).map (fun w =>
      (w.history,w.current.state,(List.range 3).map fun i => (w.tasks i).phase)) =
      some ([.failed,.attempt,.failed,.attempt,.lost 0],
        .dead 3 86409000 "restart failed: mcp: spawn dev" ["shell"],
        [.finished (.failed "mcp: call dev__shell: closed"),
          .finished (.failed "mcp: restart failed: mcp: spawn dev"),
          .finished (.failed "mcp: restart failed: mcp: spawn dev")]) := by decide +kernel
  obtain ⟨w,hrun,hw⟩ := map_eq_some_iff.1 hv
  simp only [Prod.mk.injEq] at hw
  obtain ⟨hh,hstate,-⟩ := hw
  have hk := restart_budget_kept defaultSettings "dev" ["shell"] (fun _ => true) crashes w hrun (by
      intro c rest hr
      have hm := hr.subset (List.mem_cons_self)
      rw [hh] at hm
      exact .inl (by simpa using hm))
    (by
      rw [hh]
      decide)
  refine ⟨w,hrun,hh,hk.1,fun w' hl => ?_⟩
  have hout : Exhausted defaultSettings w.core := ⟨_,_,_,_,hstate,by decide⟩
  have hn := hout.none_spawning (consistent_run (consistent_start _ _ _) hrun)
  refine (hk.2 w.history (List.prefix_refl _) ?_ ?_ ?_ ?_ _ w' hl).1
  · rw [hh]
    decide
  · rw [hh]
    decide
  · rw [hstate]
    rintro client prev h
    cases h
  · exact hn

/-- The call finds the server dead, starts it, is sent, and runs out of time. -/
def hangingCall (k : ℕ) : List Action :=
  [.invoke k shellCall,.advance k (1000*k),.advance k (1000*k),.advance k (1000*k),
    .advance k (1000*k),.spawned k (.ok ["shell"]) (1000*k) 0,.advance k (1000*k),.elapse k,
    .advance k (1000*k),.swap k (1000*k) 0]

def hangs (n : ℕ) : List Action :=
  [.invoke 0 shellCall,.advance 0 0,.elapse 0,.advance 0 0,.swap 0 0 0] ++
    (List.range n).flatMap fun k => hangingCall (k+1)

/-- The server after its `k`-th start, lost once more. -/
structure Wedged (k : ℕ) (w : World) : Prop where
  state : w.current.state = .dead 1 (1000*k+500) "tool timeout" ["shell"]
  lock : w.restartLock = none
  idle : ∀ j, k < j → (w.tasks j).phase = .idle
  uncancelled : w.cancelled = false
  attempts : w.history.countP Supervision.Event.isAttempt = k
  silent : ∀ e ∈ w.history, e.succeeds (fun _ => true) = false

lemma Wedged.hangingCall {k : ℕ} {w : World} (h : Wedged k w) :
    ∃ w', w.run defaultSettings (hangingCall (k+1)) = some w' ∧ Wedged (k+1) w' := by
  have hl : defaultSettings.maxAttempts = 3 := rfl
  have hd : backoff defaultSettings 1 0 = 500 := by decide
  have hr : ¬ 1000*(k+1) < 1000*k+500 := by omega
  have hrun : w.run defaultSettings (McpServer.hangingCall (k+1)) = some { w with
      current := ⟨w.current.version+2,.dead 1 (1000*(k+1)+500) "tool timeout" ["shell"]⟩
      restartLock := none
      nextClient := w.nextClient+1
      tasks := Function.update w.tasks (k+1) ⟨shellCall,.finished (.failed ("tool: timeout after " ++
        (660).repr ++ "s. The command took too long. Try a faster approach."))⟩
      history := .lost w.nextClient :: .revived w.nextClient :: .attempt :: w.history } := by
    simp [McpServer.hangingCall,World.run,World.step,World.invoke,World.advance,World.setPhase,
      World.mark,World.spawned,World.store,World.unlock,World.dispatch,World.elapse,World.interrupt,
      World.expire,World.swap,World.swapped,World.killed,checkRestartState,shellCall,
      h.idle (k+1) (Nat.lt_succ_self k),h.uncancelled,h.state,h.lock,hl,hd,hr]
  refine ⟨_,hrun,rfl,rfl,?_,h.uncancelled,?_,?_⟩
  · intro j hj
    simpa [(show j ≠ k+1 by omega)] using h.idle j (by omega)
  · have hc := h.attempts
    simp only [List.countP_cons,Supervision.Event.isAttempt,Bool.false_eq_true,if_false,if_true]
    omega
  · simpa [Supervision.Event.succeeds] using h.silent

lemma run_append (S : Settings) (w : World) (first second : List Action) :
    w.run S (first ++ second) = (w.run S first).bind fun w => w.run S second := by
  induction first generalizing w with
  | nil => rfl
  | cons a first ih =>
    simp only [List.cons_append,World.run,bind_assoc]
    congr 1
    funext w
    exact ih w

/-- However often the server has been started without answering a call, the next call starts it
again. -/
lemma wedged_hangs (n : ℕ) : ∃ w, (start "dev" ["shell"]).run defaultSettings (hangs n) = some w ∧
    Wedged n w := by
  induction n with
  | zero =>
    refine ⟨_,rfl,rfl,rfl,?_,rfl,rfl,?_⟩
    · intro j hj
      simp [World.swapped,World.killed,World.setPhase,World.mark,World.store,World.expire,
        World.dispatch,World.invoke,start,shellCall,Nat.pos_iff_ne_zero.1 hj]
    · decide
  | succ n ih =>
    obtain ⟨w,hrun,hw⟩ := ih
    obtain ⟨w',hrun',hw'⟩ := hw.hangingCall
    refine ⟨w',?_,hw'⟩
    have hl : hangs (n+1) = hangs n ++ hangingCall (n+1) := by
      simp [hangs,List.range_succ]
    rw [hl,run_append,hrun,bind_some,hrun']

/-- A server that hangs on every call is started once for each of them, also beyond the limit. -/
theorem hanging_server_restarted_forever : defaultSettings.maxAttempts = 3 ∧
    (∃ w, (start "dev" ["shell"]).run defaultSettings (hangs 4) = some w ∧
      w.history.countP Supervision.Event.isAttempt = 4 ∧
        ∀ e ∈ w.history, e.succeeds (fun _ => true) = false) ∧
    ∀ n, ∃ w, (start "dev" ["shell"]).run defaultSettings (hangs n) = some w ∧
      w.history.countP Supervision.Event.isAttempt = n ∧
        ∀ e ∈ w.history, e.succeeds (fun _ => true) = false := by
  have hf : ∀ n, ∃ w, (start "dev" ["shell"]).run defaultSettings (hangs n) = some w ∧
      w.history.countP Supervision.Event.isAttempt = n ∧
        ∀ e ∈ w.history, e.succeeds (fun _ => true) = false := by
    intro n
    obtain ⟨w,hrun,hw⟩ := wedged_hangs n
    exact ⟨w,hrun,hw.attempts,hw.silent⟩
  exact ⟨rfl,hf 4,hf⟩

end BuzzSolo.McpServer
