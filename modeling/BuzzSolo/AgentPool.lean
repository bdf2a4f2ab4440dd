import BuzzSolo.Handoff
import BuzzSolo.HashTable
import BuzzSolo.SlotPool

/-! The pool of agent processes of the harness: claims by session affinity, the prompt task of a
turn, control signals, respawns and model switches. A session is named by its number in the order of
creation. -/
namespace BuzzSolo.AgentPool

open HashTable
open Handoff (Json)

inductive PromptSource
  | channel (id : Uuid)
  | heartbeat
  deriving DecidableEq

def PromptSource.channelId : PromptSource → Option Uuid
  | .channel id => some id
  | .heartbeat => none

inductive AcpError
  | io
  | json
  | agentExited
  | idleTimeout
  | hardTimeout
  | cancelDrainTimeout
  | timeout
  | writeTimeout
  | protocol
  | agentError (code : ℤ)
  deriving DecidableEq

/-- The errors after which the process is not used again. -/
def AcpError.isTransport : AcpError → Bool
  | .io | .writeTimeout | .timeout | .protocol => true
  | _ => false

inductive StopReason
  | endTurn
  | cancelled
  | maxTokens
  | maxTurnRequests
  | refusal
  deriving DecidableEq

inductive TimeoutKind
  | idle
  | hard

inductive PromptOutcome
  | ok (stop : StopReason)
  | error (e : AcpError)
  | agentExited
  | timeout (kind : TimeoutKind)
  | cancelled
  | cancelDrainTimeout

/-- Whether the agent goes back to its slot; otherwise its process is replaced. -/
def PromptOutcome.returnsAgent : PromptOutcome → Bool
  | .ok _ | .cancelled => true
  | .error e => !e.isTransport
  | .agentExited | .timeout _ | .cancelDrainTimeout => false

inductive ControlSignal
  | cancel
  | interrupt
  | steer
  | rotate
  | switchModel (model : String)
  deriving DecidableEq

structure SessionState where
  sessions : Table Uuid ℕ
  heartbeatSession : Option ℕ
  turnCounts : Table Uuid ℕ
  heartbeatTurnCount : ℕ

namespace SessionState

def empty : SessionState := ⟨∅,none,∅,0⟩

def invalidateChannel (s : SessionState) (channelId : Uuid) : SessionState :=
  { s with turnCounts := s.turnCounts.erase channelId, sessions := s.sessions.erase channelId }

def invalidate (s : SessionState) : PromptSource → SessionState
  | .channel id => s.invalidateChannel id
  | .heartbeat => { s with heartbeatSession := none, heartbeatTurnCount := 0 }

def session (s : SessionState) : PromptSource → Option ℕ
  | .channel id => s.sessions.lookup id
  | .heartbeat => s.heartbeatSession

def store (s : SessionState) (id : ℕ) : PromptSource → SessionState
  | .channel channelId => { s with sessions := s.sessions.insert channelId id }
  | .heartbeat => { s with heartbeatSession := some id }

def countTurn (s : SessionState) : PromptSource → SessionState × ℕ
  | .channel id =>
    let count := (s.turnCounts.lookup id).getD 0 + 1
    ({ s with turnCounts := s.turnCounts.insert id count },count)
  | .heartbeat => ({ s with heartbeatTurnCount := s.heartbeatTurnCount + 1 },s.heartbeatTurnCount + 1)

end SessionState

structure ModelCapabilities where
  configOptionsRaw : List Json
  availableModelsRaw : Option Json

def extractModelConfigOptions (reply : Json) : List Json :=
  (((reply.get "configOptions").bind Json.asArray).getD []).filter fun option =>
    (option.get "category").bind Json.asStr = some "model"

def extractModelState (reply : Json) : Option Json := reply.get "models"

def modelInCatalog (caps : ModelCapabilities) (desired : String) : Bool :=
  (caps.configOptionsRaw.any fun option =>
    (((option.get "options").bind Json.asArray).getD []).any fun value =>
      (value.get "value").bind Json.asStr = some desired) ||
  (((caps.availableModelsRaw.bind (·.get "availableModels")).bind Json.asArray).getD []).any fun model =>
    (model.get "modelId").bind Json.asStr = some desired

structure OwnedAgent where
  index : ℕ
  state : SessionState
  modelCapabilities : Option ModelCapabilities
  desiredModel : Option String
  modelOverridden : Bool

structure Settings where
  model : Option String
  maxTurnsPerSession : ℕ
  /-- Whether a new session of a channel is opened with an initial message. -/
  initialMessage : Bool

namespace OwnedAgent

def spawned (P : Settings) (index : ℕ) : OwnedAgent := ⟨index,.empty,none,P.model,false⟩

variable (a : OwnedAgent)

def hasSession (channelId : Uuid) : Bool := (a.state.sessions.lookup channelId).isSome

def invalidateChannel (channelId : Uuid) : OwnedAgent :=
  { a with state := a.state.invalidateChannel channelId }

def invalidate (source : PromptSource) : OwnedAgent := { a with state := a.state.invalidate source }

def invalidateAll : OwnedAgent := { a with state := .empty }

def setModel (model : String) : OwnedAgent := { a with desiredModel := some model, modelOverridden := true }

def captureModels (reply : Json) : OwnedAgent :=
  let fresh := ⟨extractModelConfigOptions reply,extractModelState reply⟩
  { a with modelCapabilities := a.modelCapabilities.or (some fresh) }

/-- An initial message that failed; `cleanup` is the answer to the cancel after an idle timeout. -/
def initialMessageFailed (source : PromptSource) (cleanup : Except AcpError Unit) :
    AcpError → OwnedAgent × PromptOutcome
  | .agentExited => (a.invalidateAll,.agentExited)
  | .idleTimeout =>
    match cleanup with
    | .error .agentExited => (a.invalidateAll,.agentExited)
    | _ => (a.invalidate source,.timeout .idle)
  | .hardTimeout => (a.invalidateAll,.timeout .hard)
  | e => (a.invalidate source,.error e)

def promptFailed (source : PromptSource) (cleanup : Except AcpError Unit) :
    AcpError → OwnedAgent × PromptOutcome
  | .agentExited => (a.invalidateAll,.agentExited)
  | .idleTimeout =>
    match cleanup with
    -- a clean cancel leaves the session in place
    | .ok _ => (a,.timeout .idle)
    | .error .agentExited => (a.invalidateAll,.agentExited)
    | .error _ => (a.invalidate source,.timeout .idle)
  | .hardTimeout => (a.invalidateAll,.timeout .hard)
  | .agentError code => (a,.error (.agentError code))
  | e => (a.invalidate source,.error e)

def promptCompleted (P : Settings) (source : PromptSource) (stop : StopReason) : OwnedAgent × PromptOutcome :=
  if stop = .maxTokens ∨ stop = .maxTurnRequests then (a.invalidate source,.ok stop)
  else if P.maxTurnsPerSession = 0 then (a,.ok stop)
  else
    let counted := a.state.countTurn source
    let b := { a with state := counted.1 }
    if P.maxTurnsPerSession ≤ counted.2 then (b.invalidate source,.ok stop) else (b,.ok stop)

/-- The model of a switch is set before the turn is cancelled. -/
def takeSignal : ControlSignal → OwnedAgent
  | .switchModel model => a.setModel model
  | _ => a

def cancelFailed (source : PromptSource) : AcpError → OwnedAgent × PromptOutcome
  | .agentExited => (a.invalidateAll,.agentExited)
  | .idleTimeout => (a.invalidate source,.timeout .idle)
  | .cancelDrainTimeout | .hardTimeout => (a.invalidate source,.cancelDrainTimeout)
  | e => (a.invalidate source,.error e)

def completedBeforeSignal (source : PromptSource) : ControlSignal → OwnedAgent
  | .rotate | .switchModel _ => a.invalidate source
  | _ => a

/-- A control signal; `inFlight` is the answer to the cancel of a prompt still in flight. -/
def controlled (source : PromptSource) (signal : ControlSignal) (inFlight : Option (Except AcpError Unit)) :
    OwnedAgent × PromptOutcome :=
  let b := a.takeSignal signal
  match inFlight with
  | some (.ok _) => (b.invalidate source,.cancelled)
  | some (.error e) => b.cancelFailed source e
  | none => (b.completedBeforeSignal source signal,.ok .endTurn)

end OwnedAgent

/-- The one-shot control channel of a turn. -/
inductive Control
  | absent
  | armed
  | sent (signal : ControlSignal)
  | received
  deriving DecidableEq

inductive Stage
  | starting
  | greeting (session : ℕ)
  | prompting (session : ℕ)
  | ended (outcome : PromptOutcome)

def Stage.session : Stage → Option ℕ
  | .greeting session | .prompting session => some session
  | .starting | .ended _ => none

/-- An entry of the task map together with its task. -/
structure Turn where
  agent : OwnedAgent
  source : PromptSource
  control : Control
  stage : Stage

inductive TurnAction
  /-- The session is looked up, or asked for with this answer. -/
  | resolve (answer : Except (Option Json × AcpError) Json)
  | greeted
  | greetingFailed (e : AcpError) (cleanup : Except AcpError Unit)
  | completed (stop : StopReason)
  | failed (e : AcpError) (cleanup : Except AcpError Unit)
  | receive (inFlight : Option (Except AcpError Unit))

namespace Turn

def start (agent : OwnedAgent) (source : PromptSource) : Turn :=
  ⟨agent,source,if source = .heartbeat then .absent else .armed,.starting⟩

variable (t : Turn)

def finish (result : OwnedAgent × PromptOutcome) : Turn :=
  { t with agent := result.1, stage := .ended result.2 }

def create (P : Settings) (next : ℕ) (reply : Json) : Turn :=
  let agent := t.agent.captureModels reply
  { t with
    agent := { agent with state := agent.state.store next t.source }
    stage := if P.initialMessage = true ∧ t.source ≠ .heartbeat then .greeting next else .prompting next }

/-- A session that could not be created. The catalog stays when the reply came before the error. -/
def createFailed (reply : Option Json) (e : AcpError) : Turn :=
  let agent := (reply.map t.agent.captureModels).getD t.agent
  t.finish (if e = .agentExited then (agent.invalidateAll,.agentExited) else (agent,.error e))

def resolve (P : Settings) (next : ℕ) (answer : Except (Option Json × AcpError) Json) : Turn × ℕ :=
  match t.agent.state.session t.source with
  | some session => ({ t with stage := .prompting session },next)
  | none =>
    match answer with
    | .ok reply => (t.create P next reply,next+1)
    | .error (reply,e) => (t.createFailed reply e,next)

/-- The turn and the number of the next session after an action of its task. -/
def act (P : Settings) (next : ℕ) (action : TurnAction) : Option (Turn × ℕ) :=
  match t.stage, action with
  | .starting, .resolve answer => some (t.resolve P next answer)
  | .greeting session, .greeted => some ({ t with stage := .prompting session },next)
  | .greeting _, .greetingFailed e cleanup =>
    some (t.finish (t.agent.initialMessageFailed t.source cleanup e),next)
  | .prompting _, .completed stop => some (t.finish (t.agent.promptCompleted P t.source stop),next)
  | .prompting _, .failed e cleanup => some (t.finish (t.agent.promptFailed t.source cleanup e),next)
  | .prompting _, .receive inFlight =>
    match t.control with
    | .sent signal =>
      some ({ t.finish (t.agent.controlled t.source signal inFlight) with control := .received },next)
    | _ => none
  | _, _ => none

end Turn

structure World where
  agents : List (Option OwnedAgent)
  turns : List Turn
  /-- The slots whose process is gone, kept for statements. -/
  vacant : List ℕ
  /-- The slots with `respawn_in_flight`. -/
  respawning : List ℕ
  removedChannels : List Uuid
  nextSession : ℕ

def World.fromSlots (P : Settings) (started : List Bool) : World where
  agents := started.mapIdx fun i up => if up then some (.spawned P i) else none
  turns := []
  vacant := (List.range started.length).filter fun i => started[i]? = some false
  respawning := []
  removedChannels := []
  nextSession := 0

/-- First an idle agent that has a session for the channel, then any idle agent. -/
def tryClaim (agents : List (Option OwnedAgent)) (channelId : Option Uuid) :
    Option (OwnedAgent × List (Option OwnedAgent)) :=
  let affine := channelId.bind fun id => SlotPool.first (·.hasSession id) agents
  (affine.or (SlotPool.first (fun _ => true) agents)).map fun found => (found.2,agents.set found.1 none)

def returnAgent (agents : List (Option OwnedAgent)) (agent : OwnedAgent) : List (Option OwnedAgent) :=
  agents.set agent.index (some agent)

inductive IdleSwitchResult
  | switched
  | unsupportedModel
  | noIdleAgent

def switchIdleAgentModel (agents : List (Option OwnedAgent)) (channelId : Uuid) (model : String) :
    List (Option OwnedAgent) × IdleSwitchResult :=
  match SlotPool.first (·.hasSession channelId) agents with
  | none => (agents,.noIdleAgent)
  | some (i,a) =>
    if (a.modelCapabilities.map (modelInCatalog · model)).getD true then
      (agents.set i (some ((a.setModel model).invalidateChannel channelId)),.switched)
    else (agents,.unsupportedModel)

def signalInFlightTask (channelId : Uuid) (signal : ControlSignal) : List Turn → List Turn × Bool
  | [] => ([],false)
  | t :: turns =>
    if t.source = .channel channelId then
      if t.control = .armed then ({ t with control := .sent signal } :: turns,true) else (t :: turns,false)
    else
      let rest := signalInFlightTask channelId signal turns
      (t :: rest.1,rest.2)

namespace World

variable (w : World)

def inFlight (source : PromptSource) : Bool := w.turns.any fun t => t.source = source

/-- The world after a `switch_model` control frame, and the status it is answered with. -/
def handleSwitchModelControl (channelId : Uuid) (model : String) : World × String :=
  if w.inFlight (.channel channelId) then
    let signalled := signalInFlightTask channelId (.switchModel model) w.turns
    ({ w with turns := signalled.1 },if signalled.2 then "sent" else "turn_ending")
  else
    let switched := switchIdleAgentModel w.agents channelId model
    ({ w with agents := switched.1 }, match switched.2 with
      | .switched => "switched"
      | .unsupportedModel => "unsupported_model"
      | .noIdleAgent => "no_active_turn")

def turnOf (k : ℕ) : Option Turn := w.turns.find? fun t => t.agent.index = k

def setTurn (k : ℕ) (turn : Turn) : World :=
  { w with turns := w.turns.map fun t => if t.agent.index = k then turn else t }

def dropTurn (k : ℕ) : World := { w with turns := w.turns.filter fun t => t.agent.index ≠ k }

/-- The process of a turn is gone; the circuit breaker decides whether another one is started at once. -/
def lose (k : ℕ) (respawn : Bool) : World :=
  { w.dropTurn k with
    vacant := k :: w.vacant
    respawning := if respawn then k :: w.respawning else w.respawning }

/-- A task that has sent its result is done; a channel left meanwhile loses its session. -/
def handlePromptResult (t : Turn) (outcome : PromptOutcome) (respawn : Bool) : World :=
  let agent := w.removedChannels.foldl OwnedAgent.invalidateChannel t.agent
  if outcome.returnsAgent then { w.dropTurn agent.index with agents := returnAgent w.agents agent }
  else w.lose agent.index respawn

def slotAlive (k : ℕ) : Bool := (w.agents[k]?.getD none).isSome || (w.turnOf k).isSome

end World

inductive Action
  | claim (source : PromptSource)
  | act (agent : ℕ) (action : TurnAction)
  | result (agent : ℕ) (respawn : Bool)
  | panicked (agent : ℕ) (respawn : Bool)
  /-- Maintenance starts a process for an empty slot. -/
  | refill (agent : ℕ)
  | respawned (agent : ℕ) (started : Bool)
  | signal (channelId : Uuid) (signal : ControlSignal)
  | switchModel (channelId : Uuid) (model : String)
  | leave (channelId : Uuid)
  | join (channelId : Uuid)

def step (P : Settings) (w : World) : Action → Option World
  | .claim source =>
    (tryClaim w.agents source.channelId).map fun claimed =>
      { w with agents := claimed.2, turns := .start claimed.1 source :: w.turns }
  | .act k action =>
    (w.turnOf k).bind fun t => (t.act P w.nextSession action).map fun done =>
      { w.setTurn k done.1 with nextSession := done.2 }
  | .result k respawn =>
    (w.turnOf k).bind fun t =>
      match t.stage with
      | .ended outcome => some (w.handlePromptResult t outcome respawn)
      | _ => none
  | .panicked k respawn =>
    (w.turnOf k).bind fun t =>
      match t.stage with
      | .ended _ => none
      | _ => some (w.lose k respawn)
  | .refill k =>
    if w.agents.length ≤ k || w.slotAlive k || k ∈ w.respawning then none
    else some { w with respawning := k :: w.respawning }
  | .respawned k started =>
    if k ∈ w.respawning then
      let rest := { w with respawning := w.respawning.erase k }
      some (if started then
        { rest with agents := returnAgent w.agents (.spawned P k), vacant := w.vacant.erase k }
      else rest)
    else none
  | .signal channelId signal =>
    -- a switch goes through its own handler
    match signal with
    | .switchModel _ => none
    | signal => some { w with turns := (signalInFlightTask channelId signal w.turns).1 }
  | .switchModel channelId model => some (w.handleSwitchModelControl channelId model).1
  | .leave channelId =>
    some { w with
      agents := w.agents.map (Option.map (·.invalidateChannel channelId))
      removedChannels := channelId :: w.removedChannels }
  | .join channelId => some { w with removedChannels := w.removedChannels.filter (· ≠ channelId) }

def run (P : Settings) (w : World) (actions : List Action) : Option World := actions.foldlM (step P) w

end BuzzSolo.AgentPool
