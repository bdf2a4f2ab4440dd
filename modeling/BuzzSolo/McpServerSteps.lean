import BuzzSolo.McpServer

/-! What the steps of the invocations do to the restarts of an MCP server: they take or return the
restart lock, begin or end a start, mark the server dead or record an answer. -/
namespace BuzzSolo.McpServer

open Supervision

structure Core where
  name : String
  phase : ℕ → Phase
  current : Snapshot
  restartLock : Option ℕ
  nextClient : ℕ
  history : List (Supervision.Event Bool)

def World.core (w : World) : Core :=
  ⟨w.name,fun i => (w.tasks i).phase,w.current,w.restartLock,w.nextClient,w.history⟩

def Core.put (c : Core) (i : ℕ) (p : Phase) : Core := { c with phase := Function.update c.phase i p }

@[simp] lemma Core.put_phase_self (c : Core) (i : ℕ) (p : Phase) : (c.put i p).phase i = p := by
  simp [put]

@[simp] lemma Core.put_phase_of_ne (c : Core) {i j : ℕ} (p : Phase) (h : j ≠ i) :
    (c.put i p).phase j = c.phase j := by
  simp [put,h]

/-- The phases that an invocation enters without the restart lock. -/
def Arises (c : Core) : Phase → Prop
  | .calling client => ∃ tools, c.current.state = .healthy client tools
  | .swapping seen _ _ _ => seen = c.current
  | .holding => False
  | .spawning _ _ => False
  | _ => True

/-- The phases in which an invocation has the restart lock. -/
def Phase.locks : Phase → Bool
  | holding => true
  | spawning _ _ => true
  | _ => false

inductive CoreStep (S : Settings) (c : Core) (i : ℕ) : Core → Prop
  | stay : CoreStep S c i c
  | move {p} (hold : (c.phase i).locks = false) (hnew : Arises c p) : CoreStep S c i (c.put i p)
  | acquire (hold : (c.phase i).locks = false) (hlock : c.restartLock = none) :
      CoreStep S c i ({ c with restartLock := some i }.put i .holding)
  | release {p} (hold : c.phase i = .holding) (hnew : Arises c p) :
      CoreStep S c i ({ c with restartLock := none }.put i p)
  | attempt {a r reason tools} (hold : c.phase i = .holding)
      (hstate : c.current.state = .dead a r reason tools) (ha : a < S.maxAttempts) :
      CoreStep S c i ({ c with history := .attempt :: c.history }.put i (.spawning (a+1) tools))
  | revive {n prev tools} (hold : c.phase i = .spawning n prev) : CoreStep S c i ({ c with
        current := ⟨c.current.version+1,.healthy c.nextClient tools⟩
        restartLock := none
        nextClient := c.nextClient+1
        history := .revived c.nextClient :: c.history }.put i .reloading)
  | fail {n prev r reason outcome} (hold : c.phase i = .spawning n prev) : CoreStep S c i ({ c with
        current := ⟨c.current.version+1,.dead n r reason prev⟩
        restartLock := none
        history := .failed :: c.history }.put i (.finished outcome))
  | abandon {n prev p} (hold : c.phase i = .spawning n prev) (hnew : Arises c p) :
      CoreStep S c i ({ c with restartLock := none, history := .abandoned :: c.history }.put i p)
  | lose {seen reason message byKill client tools r outcome}
      (hold : c.phase i = .swapping seen reason message byKill)
      (hseen : seen.state = .healthy client tools) (hversion : c.current.version = seen.version) :
      CoreStep S c i ({ c with
        current := ⟨c.current.version+1,.dead 1 r reason tools⟩
        history := .lost client :: c.history }.put i (.finished outcome))
  | answer {client isError outcome} (hold : c.phase i = .calling client) :
      CoreStep S c i ({ c with history := .answered client isError :: c.history }.put i (.finished outcome))

def Action.index : Action → ℕ
  | cancel _ => 0
  | invoke i _ => i
  | advance i _ => i
  | spawned i _ _ _ => i
  | replied i _ => i
  | swap i _ _ => i
  | observeCancel i => i
  | elapse i => i
  | abort i => i

section

variable {S : Settings} {w w' : World} {i : ℕ}

lemma locks_core {p : Phase} (hp : (w.tasks i).phase = p) (hf : p.locks = false) :
    (w.core.phase i).locks = false := by
  change (w.tasks i).phase.locks = false
  rw [hp,hf]

lemma core_setPhase (w : World) (i : ℕ) (p : Phase) : (w.setPhase i p).core = w.core.put i p := by
  have hp : (fun j => ((w.setPhase i p).tasks j).phase) = Function.update w.core.phase i p := by
    funext j
    by_cases hj : j = i
    · subst hj
      simp [World.setPhase]
    · simp [World.setPhase,hj,World.core]
  simp only [World.core,hp]
  rfl

lemma core_fail (w : World) (i : ℕ) (t : String) :
    (w.fail i t).core = w.core.put i (.finished (.failed ("mcp: " ++ t))) :=
  core_setPhase w i _

lemma coreStep_setPhase {p q : Phase} (hp : (w.tasks i).phase = q) (hf : q.locks = false)
    (hnew : Arises w.core p) : CoreStep S w.core i (w.setPhase i p).core := by
  rw [core_setPhase]
  exact .move (locks_core hp hf) hnew

lemma coreStep_fail {q : Phase} (hp : (w.tasks i).phase = q) (hf : q.locks = false) (t : String) :
    CoreStep S w.core i (w.fail i t).core :=
  coreStep_setPhase hp hf trivial

lemma core_swapped (w : World) (i : ℕ) (msg : String) (byKill : Bool) :
    (w.swapped i msg byKill).core = w.core.put i (.finished (.failed msg)) := by
  unfold World.swapped World.killed
  split
  · split
    · exact core_setPhase _ i _
    · exact core_setPhase w i _
  · exact core_setPhase w i _

lemma core_killed (w : World) (i : ℕ) (msg : String) :
    (w.killed i msg).core = w.core.put i (.finished (.failed msg)) :=
  core_swapped w i msg true

lemma core_expire (w : World) (i : ℕ) : ∃ p, (w.expire i).core = w.core.put i p ∧ ∀ c, Arises c p := by
  unfold World.expire
  simp only
  split
  · split
    · exact ⟨_,core_setPhase _ i _,fun _ => trivial⟩
    · exact ⟨_,core_setPhase _ i _,fun _ => trivial⟩
  · split
    · exact ⟨_,core_setPhase w i _,fun _ => trivial⟩
    · exact ⟨_,core_setPhase w i _,fun _ => trivial⟩

lemma coreStep_dispatch {cl : ℕ} {ts : List String} {q : Phase} (hp : (w.tasks i).phase = q)
    (hf : q.locks = false) (hst : w.current.state = .healthy cl ts) :
    CoreStep S w.core i (w.dispatch i cl ts).core := by
  unfold World.dispatch
  simp only
  split
  · exact coreStep_fail hp hf _
  · split
    · exact coreStep_fail hp hf _
    · exact coreStep_setPhase hp hf ⟨ts,hst⟩

lemma checkRestartState_ready {name : String} {st : ClientState} {lm now n : ℕ}
    {prev : List String} (h : checkRestartState name st lm now = .ok (.ready n prev)) :
    ∃ a r why, st = .dead a r why prev ∧ a < lm ∧ n = a+1 := by
  cases st with
  | healthy cl ts => simp [checkRestartState] at h
  | dead a r why ts =>
    simp only [checkRestartState] at h
    split at h
    · cases h
    · split at h
      · cases h
      · rename_i hlt hr
        cases h
        exact ⟨a,r,why,rfl,not_le.1 hlt,rfl⟩

lemma coreStep_advance {now : ℕ} (h : w.advance S i now = some w') : CoreStep S w.core i w'.core := by
  unfold World.advance at h
  cases hp : (w.tasks i).phase with
  | loading =>
    cases hs : w.current.state with
    | healthy cl ts =>
      simp only [hp,hs] at h
      cases h
      exact coreStep_dispatch hp rfl hs
    | dead a r why ts =>
      simp only [hp,hs] at h
      cases h
      exact coreStep_setPhase hp rfl trivial
  | checking =>
    cases hc : checkRestartState w.name w.current.state S.maxAttempts now with
    | error e =>
      simp only [hp,hc] at h
      cases h
      exact coreStep_fail hp rfl _
    | ok check =>
      cases check with
      | healthy | ready =>
        simp only [hp,hc] at h
        cases h
        exact coreStep_setPhase hp rfl trivial
  | waiting =>
    have hold := locks_core hp rfl
    cases hl : w.restartLock with
    | none =>
      simp only [hp,hl] at h
      cases h
      exact core_setPhase _ i _ ▸ .acquire hold hl
    | some j => simp [hp,hl] at h
  | holding =>
    cases hc : checkRestartState w.name w.current.state S.maxAttempts now with
    | error e =>
      simp only [hp,hc] at h
      cases h
      exact core_fail w.unlock i _ ▸ .release hp trivial
    | ok check =>
      cases check with
      | healthy =>
        simp only [hp,hc] at h
        cases h
        exact core_setPhase w.unlock i _ ▸ .release hp trivial
      | ready n prev =>
        simp only [hp,hc] at h
        cases h
        obtain ⟨a,r,why,hst,ha,rfl⟩ := checkRestartState_ready hc
        exact core_setPhase (w.mark .attempt) i _ ▸ .attempt hp hst ha
  | reloading =>
    cases hs : w.current.state with
    | healthy cl ts =>
      simp only [hp,hs] at h
      cases h
      exact coreStep_dispatch hp rfl hs
    | dead a r why ts =>
      simp only [hp,hs] at h
      cases h
      exact coreStep_fail hp rfl _
  | marking cl why msg =>
    cases hs : w.current.state with
    | healthy cur ts =>
      simp only [hp,hs] at h
      split at h
      · cases h
        exact coreStep_setPhase hp rfl rfl
      · cases h
        exact coreStep_setPhase hp rfl trivial
    | dead a r why ts =>
      simp only [hp,hs] at h
      cases h
      exact coreStep_setPhase hp rfl trivial
  | killing why msg =>
    have hold := locks_core hp rfl
    cases hs : w.current.state with
    | healthy cur ts =>
      simp only [hp,hs] at h
      cases h
      exact coreStep_setPhase hp rfl rfl
    | dead a r why ts =>
      simp only [hp,hs] at h
      cases h
      exact core_killed w i _ ▸ .move hold trivial
  | idle | spawning | calling | swapping | finished => simp [hp] at h

lemma coreStep_spawned {res : Except String (List String)} {now : ℕ} {jitter : ℤ}
    (h : w.spawned S i res now jitter = some w') : CoreStep S w.core i w'.core := by
  unfold World.spawned at h
  cases hp : (w.tasks i).phase with
  | spawning n prev =>
    cases res with
    | ok ts =>
      simp only [hp] at h
      cases h
      exact core_setPhase _ i _ ▸ .revive hp
    | error e =>
      simp only [hp] at h
      cases h
      exact core_fail _ i _ ▸ .fail hp
  | _ => simp [hp] at h

lemma coreStep_replied {rp : Reply} (h : w.replied i rp = some w') : CoreStep S w.core i w'.core := by
  unfold World.replied at h
  cases hp : (w.tasks i).phase with
  | calling cl =>
    simp only [hp] at h
    cases rp with
    | toolResult | rejected =>
      cases h
      split
      · exact core_setPhase _ i _ ▸ .answer hp
      · exact core_setPhase _ i _ ▸ .answer hp
    | unexpected | sendFailed =>
      cases h
      exact coreStep_fail hp rfl _
    | transport e =>
      cases h
      exact coreStep_setPhase hp rfl trivial
  | _ => simp [hp] at h

lemma coreStep_swap {now : ℕ} {jitter : ℤ} (h : w.swap S i now jitter = some w') :
    CoreStep S w.core i w'.core := by
  unfold World.swap at h
  cases hp : (w.tasks i).phase with
  | swapping seen why msg byKill =>
    have hold := locks_core hp rfl
    cases hs : seen.state with
    | healthy cl ts =>
      simp only [hp,hs] at h
      split at h
      · rename_i hv
        cases h
        exact core_swapped _ i _ _ ▸ .lose hp hs hv
      · cases h
        exact core_swapped w i _ _ ▸ .move hold trivial
    | dead a r why ts => simp [hp,hs] at h
  | _ => simp [hp] at h

lemma coreStep_observeCancel (h : w.observeCancel i = some w') : CoreStep S w.core i w'.core := by
  unfold World.observeCancel at h
  cases hp : (w.tasks i).phase with
  | calling cl =>
    simp only [hp] at h
    split at h
    · cases h
      exact coreStep_setPhase hp rfl trivial
    · cases h
  | _ => simp [hp] at h

/-- An interrupted invocation goes on in a phase without the lock. -/
lemma coreStep_interrupt {mid : World} {p : Phase} (h : w.interrupt i = some mid)
    (hnew : ∀ c, Arises c p) (hc : w'.core = mid.core.put i p) : CoreStep S w.core i w'.core := by
  unfold World.interrupt at h
  rw [hc]
  cases hp : (w.tasks i).phase with
  | waiting | calling =>
    have hold := locks_core hp rfl
    simp only [hp] at h
    cases h
    exact .move hold (hnew _)
  | spawning n prev =>
    simp only [hp] at h
    cases h
    exact .abandon hp (hnew _)
  | _ => simp [hp] at h

lemma coreStep_step {a : Action} (h : w.step S a = some w') : CoreStep S w.core a.index w'.core := by
  cases a with
  | cancel v =>
    cases h
    exact .stay
  | invoke i call =>
    simp only [World.step] at h
    split at h
    · rename_i hp
      have hold := locks_core hp rfl
      have hl : (World.core { w with tasks := Function.update w.tasks i ⟨call,.loading⟩ }) =
          w.core.put i .loading := by
        simp only [World.core]
        congr 1
        funext j
        by_cases hj : j = i
        · subst hj
          simp
        · simp [hj]
      cases h
      unfold World.invoke
      split
      · have hpu : ∀ p, (w.core.put i .loading).put i p = w.core.put i p := by
          simp [Core.put]
        rw [core_setPhase,hl,hpu]
        exact .move hold trivial
      · exact hl ▸ .move hold trivial
    · cases h
  | advance i now => exact coreStep_advance h
  | spawned i res now jitter => exact coreStep_spawned h
  | replied i rp => exact coreStep_replied h
  | swap i now jitter => exact coreStep_swap h
  | observeCancel i => exact coreStep_observeCancel h
  | elapse i =>
    obtain ⟨mid,hm,he⟩ := Option.map_eq_some_iff.1 h
    obtain ⟨p,hc,hnew⟩ := core_expire mid i
    exact coreStep_interrupt hm hnew (he ▸ hc)
  | abort i =>
    obtain ⟨mid,hm,hs⟩ := Option.map_eq_some_iff.1 h
    exact coreStep_interrupt hm (p := .finished .dropped) (fun _ => trivial) (hs ▸ core_setPhase mid i _)

end

end BuzzSolo.McpServer
