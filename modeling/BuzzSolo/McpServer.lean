import BuzzSolo.Supervision

/-! One MCP server of an agent session with its restarts and the invocations that share it. A step
is one load or store of the shared client, one step of the restart lock, or one thing that happens
outside. Times are in milliseconds. -/
namespace BuzzSolo.McpServer

open Supervision

structure Settings where
  maxAttempts : ℕ
  backoffBase : ℕ
  backoffMax : ℕ
  maxAttempts_pos : 0 < maxAttempts

def Settings.ofConfig (mcpMaxRestartAttempts mcpRestartBaseMs mcpRestartMaxMs : ℕ) : Settings where
  maxAttempts := max mcpMaxRestartAttempts 1
  backoffBase := max mcpRestartBaseMs 1
  backoffMax := max mcpRestartMaxMs 1
  maxAttempts_pos := Nat.lt_of_lt_of_le Nat.one_pos (Nat.le_max_right _ _)

/-- A client is known by its incarnation. -/
inductive ClientState
  | healthy (client : ℕ) (tools : List String)
  | dead (attempts nextRetry : ℕ) (reason : String) (tools : List String)
  deriving DecidableEq

inductive RestartCheck
  | healthy
  | ready (attemptN : ℕ) (prevTools : List String)

def exhaustedText (name : String) : String :=
  "The MCP server '" ++ name ++ "' is unavailable (exhausted). Its tools have been removed for this session."

def checkRestartState (name : String) (state : ClientState) (maxAttempts now : ℕ) :
    Except String RestartCheck :=
  match state with
  | .healthy _ _ => .ok .healthy
  | .dead attempts nextRetry reason tools =>
    if maxAttempts ≤ attempts then .error (exhaustedText name)
    else if now < nextRetry then
      .error ("server '" ++ name ++ "' is recovering (last error: " ++ reason ++
        "). Try again later or use a different tool.")
    else .ok (.ready (attempts+1) tools)

def backoff (S : Settings) (attempt : ℕ) (jitterPercent : ℤ) : ℕ :=
  let ms := min (S.backoffBase * 2^(min (attempt-1) 20)) S.backoffMax
  ((ms : ℤ) + (ms * jitterPercent).tdiv 100).toNat

structure Invocation where
  hook : Bool
  qname : String
  bare : String
  /-- The arguments are a JSON object or null. -/
  argumentsOk : Bool
  timeoutSecs : ℕ

inductive Outcome
  | done (isError : Bool)
  | failed (message : String)
  | dropped
  deriving DecidableEq

/-- What `ArcSwap` holds: each store makes a new pointer. -/
structure Snapshot where
  version : ℕ
  state : ClientState
  deriving DecidableEq

inductive Phase
  | idle
  | loading
  | checking
  | waiting
  | holding
  | spawning (attemptN : ℕ) (prevTools : List String)
  | reloading
  | calling (client : ℕ)
  | marking (client : ℕ) (reason message : String)
  | killing (reason message : String)
  | swapping (seen : Snapshot) (reason message : String) (byKill : Bool)
  | finished (outcome : Outcome)
  deriving DecidableEq

structure Task where
  call : Invocation
  phase : Phase

inductive Reply
  | toolResult (isError : Bool)
  | unexpected
  | rejected (error : String)
  | transport (error : String)
  | sendFailed (error : String)

structure World where
  name : String
  current : Snapshot
  restartLock : Option ℕ
  nextClient : ℕ
  hookTimeouts : ℕ
  cancelled : Bool
  tasks : ℕ → Task
  history : List (Supervision.Event Bool)

inductive Action
  | cancel (value : Bool)
  | invoke (i : ℕ) (call : Invocation)
  | advance (i now : ℕ)
  | spawned (i : ℕ) (result : Except String (List String)) (now : ℕ) (jitterPercent : ℤ)
  | replied (i : ℕ) (reply : Reply)
  | swap (i now : ℕ) (jitterPercent : ℤ)
  | observeCancel (i : ℕ)
  | elapse (i : ℕ)
  | abort (i : ℕ)

namespace World

variable (S : Settings) (w : World)

def setPhase (i : ℕ) (phase : Phase) : World :=
  { w with tasks := Function.update w.tasks i { w.tasks i with phase := phase } }

def mark (e : Supervision.Event Bool) : World := { w with history := e :: w.history }

def store (state : ClientState) : World := { w with current := ⟨w.current.version+1,state⟩ }

def unlock : World := { w with restartLock := none }

/-- The error texts of `AgentError::Mcp`. -/
def fail (i : ℕ) (text : String) : World := w.setPhase i (.finished (.failed ("mcp: " ++ text)))

def dispatch (i client : ℕ) (tools : List String) : World :=
  let call := (w.tasks i).call
  if call.bare ∉ tools then
    w.fail i ("tool '" ++ call.qname ++
        "': no longer available; the MCP server restarted with a different tool set.")
  else if call.argumentsOk = false then
    w.fail i ("tool " ++ call.qname ++ " arguments must be a JSON object")
  else w.setPhase i (.calling client)

def invoke (i : ℕ) (call : Invocation) : World :=
  let invoked := { w with tasks := Function.update w.tasks i ⟨call,.loading⟩ }
  if call.hook = false ∧ w.cancelled = true then invoked.setPhase i (.finished (.failed "cancelled"))
  else invoked

/-- The end of a kill; a hook forgets its timeouts after it. -/
def killed (i : ℕ) (message : String) : World :=
  let w := if (w.tasks i).call.hook then { w with hookTimeouts := 0 } else w
  w.setPhase i (.finished (.failed message))

def swapped (i : ℕ) (message : String) (byKill : Bool) : World :=
  if byKill then w.killed i message else w.setPhase i (.finished (.failed message))

/-- The steps of an invocation that depend on nothing outside. -/
def advance (i now : ℕ) : Option World :=
  match (w.tasks i).phase with
  | .loading =>
    match w.current.state with
    | .healthy client tools => some (w.dispatch i client tools)
    | .dead _ _ _ _ => some (w.setPhase i .checking)
  | .checking =>
    match checkRestartState w.name w.current.state S.maxAttempts now with
    | .error e => some (w.fail i e)
    | .ok .healthy => some (w.setPhase i .reloading)
    | .ok (.ready _ _) => some (w.setPhase i .waiting)
  | .waiting =>
    match w.restartLock with
    | none => some ({ w with restartLock := some i }.setPhase i .holding)
    | some _ => none
  | .holding =>
    match checkRestartState w.name w.current.state S.maxAttempts now with
    | .error e => some (w.unlock.fail i e)
    | .ok .healthy => some (w.unlock.setPhase i .reloading)
    | .ok (.ready attemptN prevTools) => some ((w.mark .attempt).setPhase i (.spawning attemptN prevTools))
  | .reloading =>
    match w.current.state with
    | .healthy client tools => some (w.dispatch i client tools)
    | .dead _ _ reason _ =>
      some (w.fail i ("tool '" ++ (w.tasks i).call.qname ++ "': server '" ++ w.name ++
        "' restart failed: " ++ reason))
  | .marking client reason message =>
    match w.current.state with
    | .healthy current _ =>
      if current = client then some (w.setPhase i (.swapping w.current reason message false))
      else some (w.setPhase i (.finished (.failed message)))
    | .dead _ _ _ _ => some (w.setPhase i (.finished (.failed message)))
  | .killing reason message =>
    match w.current.state with
    | .healthy _ _ => some (w.setPhase i (.swapping w.current reason message true))
    | .dead _ _ _ _ => some (w.killed i message)
  | _ => none

/-- The end of `spawn_one`, and what `maybe_restart` stores. -/
def spawned (i : ℕ) (result : Except String (List String)) (now : ℕ) (jitterPercent : ℤ) : Option World :=
  match (w.tasks i).phase with
  | .spawning attemptN prevTools =>
    match result with
    | .ok tools =>
      some ({ ((w.store (.healthy w.nextClient tools)).mark (.revived w.nextClient)).unlock with
        nextClient := w.nextClient+1 }.setPhase i .reloading)
    | .error e =>
      let reason := "restart failed: mcp: " ++ e
      let delay :=
        if S.maxAttempts ≤ attemptN then 86400000 else backoff S attemptN jitterPercent
      some ((((w.store (.dead attemptN (now+delay) reason prevTools)).mark .failed).unlock).fail i reason)
  | _ => none

def replied (i : ℕ) (reply : Reply) : Option World :=
  match (w.tasks i).phase with
  | .calling client =>
    let call := (w.tasks i).call
    let answer := fun isError : Bool =>
      let w := if call.hook then { w with hookTimeouts := 0 } else w
      (w.mark (.answered client isError)).setPhase i (.finished (.done isError))
    match reply with
    | .toolResult isError => some (answer isError)
    | .rejected _ => some (answer true)
    | .unexpected => some (w.fail i ("call " ++ call.qname ++ ": unexpected response type"))
    | .sendFailed e => some (w.fail i ("call " ++ call.qname ++ ": " ++ e))
    | .transport e =>
      some (w.setPhase i (.marking client ("call failed: " ++ e) ("mcp: call " ++ call.qname ++ ": " ++ e)))
  | _ => none

/-- `compare_and_swap` of what was seen with a dead client. -/
def swap (i now : ℕ) (jitterPercent : ℤ) : Option World :=
  match (w.tasks i).phase with
  | .swapping seen reason message byKill =>
    match seen.state with
    | .healthy client tools =>
      if w.current.version = seen.version then
        some (((w.store (.dead 1 (now + backoff S 1 jitterPercent) reason tools)).mark
          (.lost client)).swapped i message byKill)
      else some (w.swapped i message byKill)
    | .dead _ _ _ _ => none
  | _ => none

/-- A call that sees the cancel of its session; the hooks have a receiver of their own. -/
def observeCancel (i : ℕ) : Option World :=
  match (w.tasks i).phase with
  | .calling _ =>
    if w.cancelled = true ∧ (w.tasks i).call.hook = false then
      some (w.setPhase i (.finished (.failed "cancelled")))
    else none
  | _ => none

def expire (i : ℕ) : World :=
  let call := (w.tasks i).call
  if call.hook then
    let w := { w with hookTimeouts := w.hookTimeouts+1 }
    if 2 ≤ w.hookTimeouts then w.setPhase i (.killing "hook timeout (consecutive)" "hook timeout")
    else w.setPhase i (.finished .dropped)
  else if w.cancelled = true then w.setPhase i (.finished (.failed "cancelled"))
  else w.setPhase i (.killing "tool timeout" ("tool: timeout after " ++ call.timeoutSecs.repr ++
    "s. The command took too long. Try a faster approach."))

/-- An invocation ends where it waits: for the lock, for the new process or for the answer. What it
was doing there is dropped. -/
def interrupt (i : ℕ) : Option World :=
  match (w.tasks i).phase with
  | .waiting => some w
  | .spawning _ _ => some (w.mark .abandoned).unlock
  | .calling _ => some w
  | _ => none

def elapse (i : ℕ) : Option World := (w.interrupt i).map fun w => w.expire i

def abort (i : ℕ) : Option World := (w.interrupt i).map fun w => w.setPhase i (.finished .dropped)

def step : Action → Option World
  | .cancel value => some { w with cancelled := value }
  | .invoke i call => if (w.tasks i).phase = .idle then some (w.invoke i call) else none
  | .advance i now => w.advance S i now
  | .spawned i result now jitterPercent => w.spawned S i result now jitterPercent
  | .replied i reply => w.replied i reply
  | .swap i now jitterPercent => w.swap S i now jitterPercent
  | .observeCancel i => w.observeCancel i
  | .elapse i => w.elapse i
  | .abort i => w.abort i

def run : World → List Action → Option World
  | w,[] => some w
  | w,action :: rest => (w.step S action).bind fun w => run w rest

end World

/-- A server as `spawn_all` registers it. -/
def start (name : String) (tools : List String) : World where
  name := name
  current := ⟨0,.healthy 0 tools⟩
  restartLock := none
  nextClient := 1
  hookTimeouts := 0
  cancelled := false
  tasks := fun _ => ⟨⟨false,"","",true,0⟩,.idle⟩
  history := []

end BuzzSolo.McpServer
