import BuzzSolo.AgentHistory

/-! The request bodies that the history is written to for the three kinds of providers. Each of
them keeps the results of an assistant item's calls together, right after the calls. -/
namespace BuzzSolo.BuzzAgent

open Handoff (Json)
open CallPairing List

structure ToolDef where
  name : String
  description : String
  inputSchema : Json

/-- How the thinking effort of the configuration is put into a request. -/
structure Efforts (Effort : Type) where
  anthropicThinkingConfig : String → Effort → ℕ → Option Json × Option Json
  openaiEffortStr : Effort → String

def toolsField (tools : List ToolDef) : Option (List ToolDef) := if tools.isEmpty then none else some tools

lemma head_not_result {P : HistoryItem → Prop} {his : List HistoryItem}
    (h : Paired HistoryItem.role his) (hu : ∀ t, P (.user t))
    (ha : ∀ t tcs, P (.assistant t tcs)) : ∀ item ∈ his.head?, P item := by
  intro item hi
  cases item with
  | user t => exact hu t
  | assistant t tcs => exact ha t tcs
  | toolResult r => exact absurd rfl (h.head_not_answer _ hi r.providerId)

variable {his : List HistoryItem}

section

inductive AnthropicContent
  | text (text : String)
  | image (mediaType data : String)

inductive AnthropicBlock
  | text (text : String)
  | toolUse (id name : String) (input : Json)
  | toolResult (toolUseId : String) (content : List AnthropicContent) (isError : Bool)

inductive MessageRole
  | user
  | assistant

structure AnthropicMessage where
  role : MessageRole
  content : List AnthropicBlock

structure AnthropicBody where
  model : String
  maxTokens : ℕ
  system : String
  messages : List AnthropicMessage
  thinking : Option Json
  outputConfig : Option Json
  tools : Option (List ToolDef)

def anthropicToolResultContent (content : List ToolResultContent) : List AnthropicContent :=
  content.map fun c =>
    match c with
    | .text text => .text text
    | .image data mimeType => .image mimeType data

def anthropicFlush (messages : List AnthropicMessage) (pending : List AnthropicBlock) :
    List AnthropicMessage :=
  if pending.isEmpty then messages else messages ++ [⟨.user,pending⟩]

def anthropicAssistantContent (text : String) (toolCalls : List ToolCall) : List AnthropicBlock :=
  (if text.isEmpty then [] else [.text text]) ++ toolCalls.map fun c =>
    .toolUse c.providerId c.name c.arguments

def anthropicResultBlock (r : ToolResult) : AnthropicBlock :=
  .toolResult r.providerId (anthropicToolResultContent r.content) r.isError

/-- The message of an assistant item; a turn without text and calls is left out. -/
def anthropicTurn (text : String) (toolCalls : List ToolCall) : List AnthropicMessage :=
  let content := anthropicAssistantContent text toolCalls
  if content.isEmpty then [] else [⟨.assistant,content⟩]

def anthropicItem : List AnthropicMessage × List AnthropicBlock → HistoryItem →
    List AnthropicMessage × List AnthropicBlock
  | (messages,pending), .user text => (anthropicFlush messages pending ++ [⟨.user,[.text text]⟩],[])
  | (messages,pending), .assistant text toolCalls =>
    (anthropicFlush messages pending ++ anthropicTurn text toolCalls,[])
  | (messages,pending), .toolResult r => (messages,pending ++ [anthropicResultBlock r])

def anthropicFrom (messages : List AnthropicMessage) (pending : List AnthropicBlock)
    (history : List HistoryItem) : List AnthropicMessage :=
  let encoded := history.foldl anthropicItem (messages,pending)
  anthropicFlush encoded.1 encoded.2

def anthropicBody {Effort : Type} (E : Efforts Effort) (maxOutputTokens : ℕ) (systemPrompt : String)
    (history : List HistoryItem) (tools : List ToolDef) (effectiveModel : String) (effort : Option Effort) :
    AnthropicBody where
  model := effectiveModel
  maxTokens := maxOutputTokens
  system := systemPrompt
  messages := anthropicFrom [] [] history
  thinking := effort.bind fun e => (E.anthropicThinkingConfig effectiveModel e maxOutputTokens).1
  outputConfig := effort.bind fun e => (E.anthropicThinkingConfig effectiveModel e maxOutputTokens).2
  tools := toolsField tools

def AnthropicBlock.useId : AnthropicBlock → Option String
  | .toolUse id _ _ => some id
  | _ => none

def AnthropicBlock.resultId : AnthropicBlock → Option String
  | .toolResult toolUseId _ _ => some toolUseId
  | _ => none

def AnthropicMessage.toolUses (m : AnthropicMessage) : List String := m.content.filterMap AnthropicBlock.useId

/-- An assistant message with tool uses is followed by one user message with exactly their results. -/
def anthropicAnswered (m : AnthropicMessage) (after : List AnthropicMessage) : Prop :=
  m.role = .assistant → m.toolUses ≠ [] → ∃ next rest, after = next :: rest ∧ next.role = .user ∧
    next.content.map AnthropicBlock.resultId = m.toolUses.map some

lemma anthropicAnswered_append (m : AnthropicMessage) (a b : List AnthropicMessage)
    (h : anthropicAnswered m a) : anthropicAnswered m (a ++ b) := by
  intro hr hu
  obtain ⟨next,rest,rfl,hn⟩ := h hr hu
  exact ⟨next,rest ++ b,rfl,hn⟩

/-- Results are put off, and written before the next item. -/
def anthropicWriter : Writer HistoryItem AnthropicMessage AnthropicBlock where
  now
    | .user text => [⟨.user,[.text text]⟩]
    | .assistant text toolCalls => anthropicTurn text toolCalls
    | .toolResult _ => []
  later
    | .toolResult r => some [anthropicResultBlock r]
    | _ => none
  flush := anthropicFlush []
  flush_nil := rfl

lemma anthropicFrom_eq_run (msgs : List AnthropicMessage) (pend : List AnthropicBlock)
    (his : List HistoryItem) :
    anthropicFrom msgs pend his = anthropicWriter.run msgs pend his := by
  have hf : ∀ msgs pend, anthropicFlush msgs pend = msgs ++ anthropicFlush [] pend := by
    intro msgs pend
    unfold anthropicFlush
    split_ifs <;> simp
  have hi : anthropicItem = anthropicWriter.step := by
    funext st item
    cases item with
    | user | assistant => exact congrArg (· ++ _,[]) (hf st.1 st.2)
    | toolResult r => simp [anthropicItem,Writer.step,anthropicWriter]
  unfold anthropicFrom
  rw [hi,hf]
  rfl

lemma toolUses_assistant (t : String) (tcs : List ToolCall) :
    AnthropicMessage.toolUses ⟨.assistant,anthropicAssistantContent t tcs⟩ = tcs.map ToolCall.providerId := by
  have ht : (if t.isEmpty then [] else [AnthropicBlock.text t]).filterMap AnthropicBlock.useId = [] := by
    split_ifs <;> rfl
  rw [AnthropicMessage.toolUses,anthropicAssistantContent,filterMap_append,ht,nil_append, filterMap_map]
  induction tcs with
  | nil => rfl
  | cons c tcs ih => exact congrArg (c.providerId :: ·) ih

lemma followed_anthropicTurn {tcs : List ToolCall} {rs : List ToolResult} (t : String)
    (h : rs.map ToolResult.providerId = tcs.map ToolCall.providerId) : Followed anthropicAnswered
      (anthropicTurn t tcs ++ anthropicFlush [] (rs.map anthropicResultBlock)) := by
  have hus : Followed anthropicAnswered (anthropicFlush [] (rs.map anthropicResultBlock)) := by
    unfold anthropicFlush
    split_ifs
    · exact followed_nil
    · exact followed_cons (fun hro => by cases hro) followed_nil
  unfold anthropicTurn
  dsimp only
  split_ifs with hc
  · exact hus
  · refine followed_cons (fun _ hu => ?_) hus
    rw [toolUses_assistant] at hu ⊢
    have hr : rs.map anthropicResultBlock ≠ [] := by
      intro hn
      rw [← h,map_eq_nil_iff.1 hn] at hu
      exact hu rfl
    refine ⟨⟨.user,rs.map anthropicResultBlock⟩,[],?_,rfl,?_⟩
    · rw [anthropicFlush,if_neg (by simpa using hr)]
      rfl
    · rw [← h,map_map,map_map]
      rfl

lemma followed_anthropic (h : Paired HistoryItem.role his) :
    Followed anthropicAnswered (anthropicFrom [] [] his) := by
  rw [anthropicFrom_eq_run]
  refine Paired.induct (P := fun his => Followed anthropicAnswered (anthropicWriter.run [] [] his))
    followed_nil ?_ ?_ h
  · intro item his hi _ ih
    obtain ⟨t,rfl⟩ := role_eq_plain hi
    rw [anthropicWriter.run_cons rfl]
    exact followed_cons (fun hr => by cases hr) ih
  · intro item ids anss his hi ha hre ih
    obtain ⟨t,tcs,rfl,rfl⟩ := role_eq_opens hi
    obtain ⟨rs,rfl,hid⟩ := exists_results ha
    have hb : rs.flatMap (fun r => [anthropicResultBlock r]) = rs.map anthropicResultBlock :=
      map_eq_flatMap.symm
    have hs : rs.flatMap (fun r => anthropicWriter.now (.toolResult r)) = [] := by
      simp [anthropicWriter]
    rw [anthropicWriter.run_turn rfl (fun r => rfl) (head_not_result hre (fun _ => rfl) fun _ _ => rfl) rs,
      hb,hs,nil_append,← append_assoc]
    exact (followed_anthropicTurn t hid).append anthropicAnswered_append ih

end

section

structure OpenAiCall where
  id : String
  name : String
  arguments : String

inductive OpenAiMessage
  | system (content : String)
  | user (content : String)
  | userImages (urls : List String)
  | assistant (content : String) (toolCalls : Option (List OpenAiCall))
  | tool (toolCallId content : String)

structure OpenAiBody where
  model : String
  maxCompletionTokens : ℕ
  messages : List OpenAiMessage
  reasoningEffort : Option String
  tools : Option (List ToolDef)

def openaiToolTextContent (content : List ToolResultContent) : String :=
  "\n".intercalate (content.map fun c =>
    match c with
    | .text text => text
    | .image data mimeType => "This tool result included an image (" ++ mimeType ++ ", " ++
        data.utf8ByteSize.repr ++ " base64 bytes) that is provided in the next user message.")

def imageUrls (content : List ToolResultContent) : List String :=
  content.filterMap fun c =>
    match c with
    | .image data mimeType => some ("data:" ++ mimeType ++ ";base64," ++ data)
    | .text _ => none

def flushImages (messages : List OpenAiMessage) (pending : List String) : List OpenAiMessage :=
  if pending.isEmpty then messages else messages ++ [.userImages pending]

variable (jsonText : Json → String)

def openaiAssistant (text : String) (toolCalls : List ToolCall) : OpenAiMessage :=
  .assistant text (if toolCalls.isEmpty then none
    else some (toolCalls.map fun c => ⟨c.providerId,c.name,jsonText c.arguments⟩))

def openaiResult (r : ToolResult) : OpenAiMessage := .tool r.providerId (openaiToolTextContent r.content)

def openaiItem : List OpenAiMessage × List String → HistoryItem → List OpenAiMessage × List String
  | (messages,pending), .user text => (flushImages messages pending ++ [.user text],[])
  | (messages,pending), .assistant text toolCalls =>
    (flushImages messages pending ++ [openaiAssistant jsonText text toolCalls],[])
  | (messages,pending), .toolResult r => (messages ++ [openaiResult r],pending ++ imageUrls r.content)

def openaiFrom (messages : List OpenAiMessage) (pending : List String) (history : List HistoryItem) :
    List OpenAiMessage :=
  let encoded := history.foldl (openaiItem jsonText) (messages,pending)
  flushImages encoded.1 encoded.2

def openaiBody {Effort : Type} (E : Efforts Effort) (maxOutputTokens : ℕ) (systemPrompt : String)
    (history : List HistoryItem) (tools : List ToolDef) (effectiveModel : String) (effort : Option Effort) :
    OpenAiBody where
  model := effectiveModel
  maxCompletionTokens := maxOutputTokens
  messages := openaiFrom jsonText [.system systemPrompt] [] history
  reasoningEffort := effort.map E.openaiEffortStr
  tools := toolsField tools

def OpenAiMessage.callIds : OpenAiMessage → List String
  | .assistant _ toolCalls => (toolCalls.getD []).map OpenAiCall.id
  | _ => []

def OpenAiMessage.resultId : OpenAiMessage → Option String
  | .tool toolCallId _ => some toolCallId
  | _ => none

/-- The tool messages of an assistant message come directly and together after it. -/
def openaiAnswered (m : OpenAiMessage) (after : List OpenAiMessage) : Prop :=
  ∃ answers rest, after = answers ++ rest ∧ answers.map OpenAiMessage.resultId = m.callIds.map some

lemma openaiAnswered_append (m : OpenAiMessage) (a b : List OpenAiMessage)
    (h : openaiAnswered m a) : openaiAnswered m (a ++ b) := by
  obtain ⟨anss,rest,rfl,hi⟩ := h
  exact ⟨anss,rest ++ b,by rw [append_assoc],hi⟩

lemma openaiAnswered_of_no_calls {m : OpenAiMessage} (h : m.callIds = []) (aft : List OpenAiMessage) :
    openaiAnswered m aft := ⟨[],aft,rfl,by rw [h]; rfl⟩

/-- The images of results are put off, and written before the next item. -/
def openaiWriter : Writer HistoryItem OpenAiMessage String where
  now
    | .user text => [.user text]
    | .assistant text toolCalls => [openaiAssistant jsonText text toolCalls]
    | .toolResult r => [openaiResult r]
  later
    | .toolResult r => some (imageUrls r.content)
    | _ => none
  flush := flushImages []
  flush_nil := rfl

lemma openaiFrom_eq_run (msgs : List OpenAiMessage) (pend : List String) (his : List HistoryItem) :
    openaiFrom jsonText msgs pend his = (openaiWriter jsonText).run msgs pend his := by
  have hf : ∀ msgs pend, flushImages msgs pend = msgs ++ flushImages [] pend := by
    intro msgs pend
    unfold flushImages
    split_ifs <;> simp
  have hi : openaiItem jsonText = (openaiWriter jsonText).step := by
    funext st item
    cases item with
    | user | assistant => exact congrArg (· ++ _,[]) (hf st.1 st.2)
    | toolResult r => rfl
  unfold openaiFrom
  rw [hi,hf]
  rfl

lemma callIds_openaiAssistant (t : String) (tcs : List ToolCall) :
    (openaiAssistant jsonText t tcs).callIds = tcs.map ToolCall.providerId := by
  cases tcs with
  | nil => rfl
  | cons c tcs => simp [openaiAssistant,OpenAiMessage.callIds]

/-- The tool messages of every assistant message come directly and together after it. -/
lemma followed_openai (h : Paired HistoryItem.role his) (systemPrompt : String) :
    Followed openaiAnswered (openaiFrom jsonText [.system systemPrompt] [] his) := by
  have hsi : ∀ msgs : List OpenAiMessage, (∀ m ∈ msgs, m.callIds = []) → Followed openaiAnswered msgs := by
    intro msgs hn bef m aft heq
    exact openaiAnswered_of_no_calls (hn m (by simp [heq])) aft
  have hb : Followed openaiAnswered ((openaiWriter jsonText).run [] [] his) := by
    refine Paired.induct (P := fun his => Followed openaiAnswered ((openaiWriter jsonText).run [] [] his))
      followed_nil ?_ ?_ h
    · intro item his hi _ ih
      obtain ⟨t,rfl⟩ := role_eq_plain hi
      rw [(openaiWriter jsonText).run_cons rfl]
      exact followed_cons (openaiAnswered_of_no_calls rfl _) ih
    · intro item ids anss his hi ha hre ih
      obtain ⟨t,tcs,rfl,rfl⟩ := role_eq_opens hi
      obtain ⟨rs,rfl,hid⟩ := exists_results ha
      have ht : rs.flatMap (fun r => (openaiWriter jsonText).now (.toolResult r)) =
          rs.map openaiResult := map_eq_flatMap.symm
      have hr : Followed openaiAnswered (rs.map openaiResult) := by
        apply hsi
        intro m hm
        obtain ⟨r,-,rfl⟩ := mem_map.1 hm
        rfl
      have him : ∀ urls, Followed openaiAnswered (flushImages [] urls) := by
        intro urls
        unfold flushImages
        split_ifs
        · exact followed_nil
        · exact followed_cons (openaiAnswered_of_no_calls rfl _) followed_nil
      rw [(openaiWriter jsonText).run_turn rfl (fun r => rfl)
        (head_not_result hre (fun _ => rfl) fun _ _ => rfl)
        rs,ht]
      refine followed_cons ⟨rs.map openaiResult,_,rfl,?_⟩
        (hr.append openaiAnswered_append ((him _).append openaiAnswered_append ih))
      rw [callIds_openaiAssistant,← hid,map_map,map_map]
      rfl
  have hs := (openaiWriter jsonText).run_append [.system systemPrompt] [] [] his
  rw [append_nil] at hs
  rw [openaiFrom_eq_run,hs]
  exact followed_cons (openaiAnswered_of_no_calls rfl _) hb

end

section

inductive ResponsesItem
  | user (text : String)
  | userImages (urls : List String)
  | assistant (text : String)
  | functionCall (callId name arguments : String)
  | functionCallOutput (callId output : String)

structure ResponsesBody where
  model : String
  instructions : String
  maxOutputTokens : ℕ
  input : List ResponsesItem
  reasoning : Option String
  tools : Option (List ToolDef)

variable (jsonText : Json → String)

def responsesItem : HistoryItem → List ResponsesItem
  | .user text => [.user text]
  | .assistant text toolCalls => (if text.isEmpty then [] else [.assistant text]) ++
      toolCalls.map fun c => .functionCall c.providerId c.name (jsonText c.arguments)
  | .toolResult r => .functionCallOutput r.providerId (openaiToolTextContent r.content) ::
      if (imageUrls r.content).isEmpty then [] else [.userImages (imageUrls r.content)]

def responsesInput (history : List HistoryItem) : List ResponsesItem :=
  history.flatMap (responsesItem jsonText)

def responsesBody {Effort : Type} (E : Efforts Effort) (maxOutputTokens : ℕ) (systemPrompt : String)
    (history : List HistoryItem) (tools : List ToolDef) (effectiveModel : String) (effort : Option Effort) :
    ResponsesBody where
  model := effectiveModel
  instructions := systemPrompt
  maxOutputTokens := maxOutputTokens
  input := responsesInput jsonText history
  reasoning := effort.map E.openaiEffortStr
  tools := toolsField tools

def ResponsesItem.outputId : ResponsesItem → Option String
  | .functionCallOutput callId _ => some callId
  | _ => none

/-- The items that no assistant item is written to. -/
def ResponsesItem.isAnswer : ResponsesItem → Bool
  | .functionCallOutput _ _ | .userImages _ => true
  | _ => false

lemma responses_results (rs : List ToolResult) :
    (responsesInput jsonText (rs.map HistoryItem.toolResult)).filterMap ResponsesItem.outputId =
        rs.map ToolResult.providerId ∧
      ∀ item ∈ responsesInput jsonText (rs.map HistoryItem.toolResult), item.isAnswer = true := by
  induction rs with
  | nil => simp [responsesInput]
  | cons r rs ih =>
    have hf : responsesInput jsonText ((r :: rs).map HistoryItem.toolResult) =
        responsesItem jsonText (.toolResult r) ++ responsesInput jsonText
          (rs.map HistoryItem.toolResult) := by
      simp [responsesInput]
    have him : ∀ urls : List String, (if urls.isEmpty then []
        else [ResponsesItem.userImages urls]).filterMap ResponsesItem.outputId = [] := by
      intro urls
      split_ifs <;> rfl
    rw [hf]
    refine ⟨?_,?_⟩
    · rw [filterMap_append,ih.1,responsesItem,filterMap_cons,him]
      rfl
    · intro item hi
      rcases mem_append.1 hi with hi | hi
      · rw [responsesItem,mem_cons] at hi
        rcases hi with rfl | hi
        · rfl
        · split_ifs at hi
          · simp at hi
          · rw [mem_singleton.1 hi]
            rfl
      · exact ih.2 item hi

/-- The outputs for the calls of an assistant item come right after the calls, in order and once each,
before anything of what follows the item and its results. -/
def ResponsesAnswered (history : List HistoryItem) : Prop :=
  ∀ before text toolCalls after, history = before ++ .assistant text toolCalls :: after →
    ∃ outputs rest, responsesInput jsonText history = responsesInput jsonText before ++
        (responsesItem jsonText (.assistant text toolCalls) ++ (outputs ++ responsesInput jsonText rest)) ∧
      rest <:+ after ∧ outputs.filterMap ResponsesItem.outputId = toolCalls.map ToolCall.providerId ∧
      ∀ item ∈ outputs, item.isAnswer = true

lemma responsesAnswered_of_paired (h : Paired HistoryItem.role his) : ResponsesAnswered jsonText his := by
  rintro bef t tcs aft rfl
  obtain ⟨anss,rest,rfl,ha,-⟩ := h.answered rfl
  obtain ⟨rs,rfl,hi⟩ := exists_results ha
  obtain ⟨ho,han⟩ := responses_results jsonText rs
  refine ⟨responsesInput jsonText (rs.map .toolResult),rest,?_,suffix_append _ _,?_,han⟩
  · simp [responsesInput]
  · rw [ho,hi]

end

end BuzzSolo.BuzzAgent
