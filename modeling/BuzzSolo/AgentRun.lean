import BuzzSolo.AgentRequest

/-! A session of the agent: the rounds of a prompt, with steers and cancels between any two steps. A
step ends where the source waits: for the provider, for hooks, for a tool, or for a turn to
continue. -/
namespace BuzzSolo.BuzzAgent

open Handoff (Json)

structure Config where
  maxRounds : ℕ
  stopMaxRejections : ℕ
  maxHandoffs : ℕ
  maxHistoryBytes : ℕ
  maxContextTokens : ℕ
  maxOutputTokens : ℕ

/-- What a run finds around it: the configuration, the registry of tools and the JSON serializer. -/
structure Env where
  cfg : Config
  has : String → Bool
  isHook : String → Bool
  jsonText : Json → String

inductive ProviderStop
  | endTurn | toolUse | maxTokens | refusal | other
  deriving DecidableEq

inductive StopReason
  | endTurn | cancelled | maxTokens | maxTurnRequests | refusal
  deriving DecidableEq

def mapStop : ProviderStop → StopReason
  | .endTurn | .toolUse | .other => .endTurn
  | .maxTokens => .maxTokens
  | .refusal => .refusal

structure LlmResponse where
  text : String
  toolCalls : List ToolCall
  stop : ProviderStop
  inputTokens : Option ℕ

inductive InvokeOutcome
  | done (content : List ToolResultContent) (isError : Bool)
  | failed (message : String)

def outcomeToResult (call : ToolCall) : InvokeOutcome → ToolResult
  | .done content isError => ⟨call.providerId,content,isError⟩
  | .failed message => syntheticToolResult call message

/-- A batch of calls on its way, with a slot for each result. -/
structure Batch where
  calls : List ToolCall
  results : List (Option ToolResult)
  runnable : List ℕ

inductive Phase
  | idle
  | starting (prompt : List ContentBlock)
  | boundary
  | summarizing
  | compacting (summary : String) (currentPrompt : Option String)
  | ready
  | waiting
  | stopping
  | preflight (batch : Batch) (next : ℕ)
  | loadingSkill (batch : Batch) (next : ℕ)
  | executing (batch : Batch) (running : List ℕ) (cancelled : Bool)
  | finished (result : Except AgentError StopReason)

structure Session where
  history : List HistoryItem
  originalTask : Option String
  handoffCount : ℕ
  lastRequestInputTokens : Option ℕ
  lastRequestHistoryBytes : Option ℕ
  phase : Phase
  activeRunId : Option String
  cancel : Bool
  steer : List (List ContentBlock)
  round : ℕ
  stopRejections : ℕ
  nonce : ℕ
  /-- The histories of the model requests made so far. -/
  requests : List (List HistoryItem)
  /-- The steers of the run that were answered with success, with the number of requests before them. -/
  accepted : List (List ContentBlock × ℕ)

namespace Session

def new (nonce : ℕ) : Session where
  history := []
  originalTask := none
  handoffCount := 0
  lastRequestInputTokens := none
  lastRequestHistoryBytes := none
  phase := .idle
  activeRunId := none
  cancel := false
  steer := []
  round := 0
  stopRejections := 0
  nonce := nonce
  requests := []
  accepted := []

def finish (s : Session) (result : Except AgentError StopReason) : Session :=
  { s with phase := .finished result }

end Session

section

variable (E : Env) (s : Session)

def maxU64 : ℕ := 2^64-1

def pressureBytes (history : List HistoryItem) : ℕ :=
  (history.map (HistoryItem.contextPressureBytes E.jsonText)).sum

def tokenThreshold (maxContextTokens maxOutputTokens : ℕ) : ℕ :=
  min (maxContextTokens/10*9) (maxContextTokens - maxOutputTokens)

def byteFallbackThreshold (maxContextTokens maxOutputTokens maxHistoryBytes : ℕ) : ℕ :=
  min (tokenThreshold maxContextTokens maxOutputTokens) (maxHistoryBytes/10*9)

/-- A byte counts as a token. -/
def projectedHandoffInputTokens : ℕ :=
  match s.lastRequestInputTokens with
  | some measured =>
    min (measured + (pressureBytes E s.history - s.lastRequestHistoryBytes.getD 0)) maxU64
  | none => pressureBytes E s.history

def shouldHandoff : Bool :=
  match s.lastRequestInputTokens with
  | some _ => tokenThreshold E.cfg.maxContextTokens E.cfg.maxOutputTokens ≤ projectedHandoffInputTokens E s
  | none => byteFallbackThreshold E.cfg.maxContextTokens E.cfg.maxOutputTokens E.cfg.maxHistoryBytes <
      pressureBytes E s.history

def asksForSummary : Bool := shouldHandoff E s && s.handoffCount < E.cfg.maxHandoffs

def currentPrompt (history : List HistoryItem) : Option String :=
  history.reverse.findSome? HistoryItem.userText

def handoffText (summary : String) (postCompact : List (String × String)) : String :=
  "[Context Handoff]\n" ++ summary ++ if postCompact.isEmpty then ""
    else "\n\n[Post-compact hook output — untrusted]\n" ++ hookOutputsText postCompact

def skipHandoff : Session :=
  { s with history := truncateHistory E.jsonText s.history E.cfg.maxHistoryBytes, phase := .ready }

/-- The summary is there; a summary that is blank or could not be made is not used. -/
def onSummary (reply : Except String String) : Session :=
  if s.cancel then s.finish (.ok .cancelled)
  else
    match reply with
    | .ok summary =>
      if LineText.isBlank summary then skipHandoff E s
      else { s with history := [], phase := .compacting summary (currentPrompt s.history) }
    | .error _ => skipHandoff E s

def onPostCompact (summary : String) (prompt : Option String) (outputs : List (String × String)) : Session :=
  { s with
    history := .user (handoffText summary outputs) :: prompt.toList.map .user
    handoffCount := s.handoffCount + 1
    lastRequestInputTokens := none
    lastRequestHistoryBytes := none
    phase := .ready }

end

section

variable (E : Env) (s : Session)

/-- The text under which a queued steer is taken into the history, if it is. -/
def steerText (blocks : List ContentBlock) : Option String :=
  match promptToText blocks with
  | .ok text => if LineText.isBlank text then none else some text
  | .error _ => none

def drainSteers : Session :=
  { s with history := s.history ++ (s.steer.filterMap steerText).map .user, steer := [] }

def start (prompt : List ContentBlock) : Session :=
  match promptToText prompt with
  | .error e => s.finish (.error e)
  | .ok text =>
    if maxPromptBytes < text.utf8ByteSize then
      s.finish (.error (.invalidParams ("prompt: exceeds " ++ maxPromptBytes.repr ++ " bytes")))
    else
      { s with
        originalTask := s.originalTask.or (some text)
        history := s.history ++ [.user text]
        round := 0
        stopRejections := 0
        phase := .boundary }

def roundBoundary : Session :=
  if 0 < E.cfg.maxRounds ∧ E.cfg.maxRounds ≤ s.round then s.finish (.ok .maxTurnRequests)
  else if s.cancel then s.finish (.ok .cancelled)
  else if asksForSummary E (drainSteers s) then { drainSteers s with phase := .summarizing }
  else skipHandoff E (drainSteers s)

def sendRequest : Session :=
  if s.cancel then { s with round := s.round + 1 }.finish (.ok .cancelled)
  else { s with round := s.round + 1, requests := s.requests ++ [s.history], phase := .waiting }

def recordUsage (inputTokens : Option ℕ) : Session :=
  match inputTokens with
  | some tokens =>
    { s with
      lastRequestInputTokens := some tokens
      lastRequestHistoryBytes := some (pressureBytes E s.history) }
  | none => s

def onReply (reply : Except AgentError LlmResponse) : Session :=
  if s.cancel then s.finish (.ok .cancelled)
  else
    match reply with
    | .error e => s.finish (.error e)
    | .ok response =>
      let s := recordUsage E s response.inputTokens
      if response.toolCalls.isEmpty then
        if response.stop = .toolUse then
          s.finish (.error (.llm "provider: stop=tool_use but zero tool_calls"))
        else
          let s : Session := { s with history := s.history ++ [.assistant response.text []] }
          -- only a genuine end of the turn is put to the hooks
          if mapStop response.stop = .endTurn ∧ s.stopRejections < E.cfg.stopMaxRejections then
            { s with phase := .stopping }
          else s.finish (.ok (mapStop response.stop))
      else
        let calls := response.toolCalls.take maxToolCallsPerTurn
        { s with
          history := s.history ++ [.assistant response.text calls]
          phase := .preflight ⟨calls,calls.map fun _ => none,[]⟩ 0 }

def onStopHooks (objections : List (String × String)) : Session :=
  if objections.isEmpty then s.finish (.ok .endTurn)
  else
    { s with
      history := pushHookOutputsAsToolResults s.history "_Stop" s.nonce objections
      nonce := s.nonce + objections.length
      stopRejections := s.stopRejections + 1
      phase := .boundary }

end

section

variable (E : Env) (s : Session)

namespace Batch

def setResult (b : Batch) (i : ℕ) (result : ToolResult) : Batch :=
  { b with results := b.results.set i (some result) }

/-- A slot that has its result keeps it. -/
def fillResult (b : Batch) (i : ℕ) (result : ToolResult) : Batch :=
  { b with results := b.results.modify i fun slot => slot.or (some result) }

def fill (b : Batch) (places : ℕ → Bool) : List (Option ToolResult) :=
  fillSlots places b.calls b.results "cancelled"

end Batch

/-- The next call of a batch is looked at; a cancelled batch is answered at once. -/
def preflightStep (b : Batch) (next : ℕ) : Session :=
  match b.calls[next]? with
  | none => { s with phase := .executing b b.runnable false }
  | some call =>
    if s.cancel then
      { s with history := appendResults s.history b.calls (b.fill fun _ => true) }.finish (.ok .cancelled)
    else if call.name = loadSkillTool then { s with phase := .loadingSkill b next }
    else if !E.has call.name || E.isHook call.name then
      let b := b.setResult next (syntheticToolResult call ("unknown tool: " ++ call.name))
      { s with phase := .preflight b (next+1) }
    else { s with phase := .preflight { b with runnable := b.runnable ++ [next] } (next+1) }

def onSkill (b : Batch) (next : ℕ) (content : List ToolResultContent) (isError : Bool) : Session :=
  match b.calls[next]? with
  | none => s
  | some call => { s with phase := .preflight (b.setResult next ⟨call.providerId,content,isError⟩) (next+1) }

def onJoined (b : Batch) (running : List ℕ) (cancelled : Bool) (i : ℕ) (outcome : Option InvokeOutcome) :
    Session :=
  match b.calls[i]?, outcome with
  | some call, some outcome =>
    let b := if cancelled then b.fillResult i (outcomeToResult call outcome)
      else b.setResult i (outcomeToResult call outcome)
    { s with phase := .executing b (running.erase i) cancelled }
  -- a task that broke off leaves its slot as it is
  | _, _ => { s with phase := .executing b (running.erase i) cancelled }

def completeBatch (b : Batch) : Session :=
  let s : Session :=
    { s with history := appendResults s.history b.calls (b.fill fun i => decide (i ∈ b.runnable)) }
  if s.cancel then s.finish (.ok .cancelled) else { s with phase := .boundary }

end

section

variable (s : Session)

/-- `session/prompt`. -/
def acquireSession (runId : String) (prompt : List ContentBlock) : Except String Session :=
  match s.phase with
  | .idle => .ok { s with
      phase := .starting prompt
      activeRunId := some runId
      cancel := false
      steer := []
      accepted := [] }
  | _ => .error "session/prompt: prompt already in flight"

def releaseSession : Session := { s with phase := .idle, activeRunId := none, steer := [] }

/-- `_goose/unstable/session/steer`. -/
def steerSession (expectedRunId : String) (prompt : List ContentBlock) : Except String Session :=
  if prompt.isEmpty then .error "steer: prompt must not be empty"
  else if expectedRunId.isEmpty then .error "steer: expectedRunId must not be empty"
  else
    match s.activeRunId with
    | none => .error "steer: no active run to steer"
    | some active =>
      if active ≠ expectedRunId then
        .error ("steer: expected active run id `" ++ expectedRunId ++ "` but found `" ++ active ++ "`")
      else .ok { s with steer := s.steer ++ [prompt], accepted := s.accepted ++ [(prompt,s.requests.length)] }

end

inductive Action
  | prompt (runId : String) (blocks : List ContentBlock)
  | steer (expectedRunId : String) (blocks : List ContentBlock)
  | cancel
  | advance
  | summary (reply : Except String String)
  | postCompact (outputs : List (String × String))
  | reply (reply : Except AgentError LlmResponse)
  | stopHooks (objections : List (String × String))
  | hooksElsewhere (count : ℕ)
  | skill (content : List ToolResultContent) (isError : Bool)
  | joined (i : ℕ) (outcome : Option InvokeOutcome)
  | noticeCancel
  | complete

/-- The session after an action; a request that is refused leaves it as it is. -/
def step (E : Env) (s : Session) : Action → Option Session
  | .prompt runId blocks => some ((acquireSession s runId blocks).toOption.getD s)
  | .steer expectedRunId blocks => some ((steerSession s expectedRunId blocks).toOption.getD s)
  | .cancel => some { s with cancel := true }
  | .advance =>
    match s.phase with
    | .starting prompt => some (start s prompt)
    | .boundary => some (roundBoundary E s)
    | .ready => some (sendRequest s)
    | .preflight b next => some (preflightStep E s b next)
    | .finished _ => some (releaseSession s)
    | _ => none
  | .summary reply =>
    match s.phase with
    | .summarizing => some (onSummary E s reply)
    | _ => none
  | .postCompact outputs =>
    match s.phase with
    | .compacting summary prompt => some (onPostCompact s summary prompt outputs)
    | _ => none
  | .reply reply =>
    match s.phase with
    | .waiting => some (onReply E s reply)
    | _ => none
  | .stopHooks objections =>
    match s.phase with
    | .stopping => some (onStopHooks s objections)
    | _ => none
  -- the counter of hook ids is shared with the other sessions
  | .hooksElsewhere count => some { s with nonce := s.nonce + count }
  | .skill content isError =>
    match s.phase with
    | .loadingSkill b next => some (onSkill s b next content isError)
    | _ => none
  | .joined i outcome =>
    match s.phase with
    | .executing b running cancelled =>
      if i ∈ running then some (onJoined s b running cancelled i outcome) else none
    | _ => none
  | .noticeCancel =>
    match s.phase with
    | .executing b running _ => if s.cancel then some { s with phase := .executing b running true } else none
    | _ => none
  | .complete =>
    match s.phase with
    | .executing b running cancelled =>
      -- after a cancel the calls still running may be given up
      if running.isEmpty || cancelled then some (completeBatch s b) else none
    | _ => none

inductive Reach (E : Env) : Session → Prop
  | new (nonce : ℕ) : Reach E (.new nonce)
  | step {s s' : Session} {action : Action} (hs : Reach E s) (h : step E s action = some s') : Reach E s'

def run (E : Env) (s : Session) : List Action → Option Session
  | [] => some s
  | action :: actions => (step E s action).bind fun s' => run E s' actions

lemma Reach.run {E : Env} {s s' : Session} {as : List Action} (h : Reach E s)
    (hrun : run E s as = some s') : Reach E s' := by
  induction as generalizing s with
  | nil =>
    cases hrun
    exact h
  | cons a as ih =>
    obtain ⟨mid,hst,hr⟩ := Option.bind_eq_some_iff.1 hrun
    exact ih (h.step hst) hr

def defaultConfig : Config where
  maxRounds := 0
  stopMaxRejections := 3
  maxHandoffs := 10
  maxHistoryBytes := 16*1024*1024
  maxContextTokens := 200000
  maxOutputTokens := 32768

def bareEnv : Env where
  cfg := defaultConfig
  has _ := false
  isHook _ := false
  jsonText _ := "\x7b\x7d"

section

variable {E : Env} {s s' : Session}

inductive Transition (E : Env) (s : Session) : Session → Prop
  | refused : Transition E s s
  | acquired (runId : String) (prompt : List ContentBlock) (hphase : s.phase = .idle) :
    Transition E s { s with
      phase := .starting prompt, activeRunId := some runId, cancel := false, steer := [], accepted := [] }
  | steered (blocks : List ContentBlock) (runId : String) (hrun : s.activeRunId = some runId) :
    Transition E s { s with
      steer := s.steer ++ [blocks], accepted := s.accepted ++ [(blocks,s.requests.length)] }
  | cancelled : Transition E s { s with cancel := true }
  | counted (n : ℕ) : Transition E s { s with nonce := n }
  | started {prompt : List ContentBlock} (hphase : s.phase = .starting prompt) :
    Transition E s (start s prompt)
  | bounded (hphase : s.phase = .boundary) : Transition E s (roundBoundary E s)
  | summarized (hphase : s.phase = .summarizing) (reply : Except String String) :
    Transition E s (onSummary E s reply)
  | compacted {summary : String} {prompt : Option String} (hphase : s.phase = .compacting summary prompt)
      (outputs : List (String × String)) : Transition E s (onPostCompact s summary prompt outputs)
  | sent (hphase : s.phase = .ready) : Transition E s (sendRequest s)
  | replied (hphase : s.phase = .waiting) (reply : Except AgentError LlmResponse) :
    Transition E s (onReply E s reply)
  | stopped (hphase : s.phase = .stopping) (objections : List (String × String)) :
    Transition E s (onStopHooks s objections)
  | looked {b : Batch} {next : ℕ} (hphase : s.phase = .preflight b next) :
    Transition E s (preflightStep E s b next)
  | loaded {b : Batch} {next : ℕ} (hphase : s.phase = .loadingSkill b next) (content : List ToolResultContent)
      (isError : Bool) : Transition E s (onSkill s b next content isError)
  | joined {b : Batch} {running : List ℕ} {cancelled : Bool}
    (hphase : s.phase = .executing b running cancelled)
      (i : ℕ) (outcome : Option InvokeOutcome) : Transition E s (onJoined s b running cancelled i outcome)
  | noticed {b : Batch} {running : List ℕ} {cancelled : Bool}
    (hphase : s.phase = .executing b running cancelled) :
    Transition E s { s with phase := .executing b running true }
  | completed {b : Batch} {running : List ℕ} {cancelled : Bool}
    (hphase : s.phase = .executing b running cancelled) :
    Transition E s (completeBatch s b)
  | released {result : Except AgentError StopReason} (hphase : s.phase = .finished result) :
    Transition E s (releaseSession s)

lemma transition_acquire (runId : String) (pr : List ContentBlock) :
    Transition E s ((acquireSession s runId pr).toOption.getD s) := by
  unfold acquireSession
  cases hp : s.phase with
  | idle => exact .acquired runId pr hp
  | _ => exact .refused

lemma transition_steer (runId : String) (pr : List ContentBlock) :
    Transition E s ((steerSession s runId pr).toOption.getD s) := by
  unfold steerSession
  split_ifs
  · exact .refused
  · exact .refused
  · cases hrun : s.activeRunId with
    | none => exact .refused
    | some active =>
      dsimp only
      split_ifs
      · exact .refused
      · have hs : Transition E s _ := .steered pr active hrun
        rw [hrun] at hs
        exact hs

/-- Each step is one of the transitions. -/
lemma transition_of_step {a : Action} (h : step E s a = some s') : Transition E s s' := by
  cases a with
  | prompt runId blocks =>
    cases h
    exact transition_acquire runId blocks
  | steer runId blocks =>
    cases h
    exact transition_steer runId blocks
  | cancel =>
    cases h
    exact .cancelled
  | hooksElsewhere cnt =>
    cases h
    exact .counted _
  | advance =>
    simp only [step] at h
    cases hp : s.phase <;> rw [hp] at h <;> cases h
    · exact .started hp
    · exact .bounded hp
    · exact .sent hp
    · exact .looked hp
    · exact .released hp
  | summary rp =>
    simp only [step] at h
    cases hp : s.phase <;> rw [hp] at h <;> cases h
    exact .summarized hp rp
  | postCompact outputs =>
    simp only [step] at h
    cases hp : s.phase <;> rw [hp] at h <;> cases h
    exact .compacted hp outputs
  | reply rp =>
    simp only [step] at h
    cases hp : s.phase <;> rw [hp] at h <;> cases h
    exact .replied hp rp
  | stopHooks objs =>
    simp only [step] at h
    cases hp : s.phase <;> rw [hp] at h <;> cases h
    exact .stopped hp objs
  | skill cont isError =>
    simp only [step] at h
    cases hp : s.phase <;> rw [hp] at h <;> cases h
    exact .loaded hp cont isError
  | joined i out =>
    simp only [step] at h
    cases hp : s.phase with
    | executing b running cancelled =>
      rw [hp] at h
      dsimp only at h
      split_ifs at h
      cases h
      exact .joined hp i out
    | _ =>
      rw [hp] at h
      cases h
  | noticeCancel =>
    simp only [step] at h
    cases hp : s.phase with
    | executing b running cancelled =>
      rw [hp] at h
      split_ifs at h
      cases h
      exact .noticed hp
    | _ =>
      rw [hp] at h
      cases h
  | complete =>
    simp only [step] at h
    cases hp : s.phase with
    | executing b running cancelled =>
      rw [hp] at h
      dsimp only at h
      split_ifs at h
      cases h
      exact .completed hp
    | _ =>
      rw [hp] at h
      cases h

end

end BuzzSolo.BuzzAgent
