import BuzzSolo.Handoff
import BuzzSolo.JsonText
import BuzzSolo.LineText
import BuzzSolo.CallPairing

/-! The history that an agent session keeps for its model: its items and their sizes, the texts of
prompts, the results that hooks and tools leave in it, and the truncation that keeps its size. -/
namespace BuzzSolo.BuzzAgent

open Handoff (Json)
open CallPairing List

def maxPromptBytes : ℕ := 1024*1024
def maxToolCallsPerTurn : ℕ := 64
def imageContextTokenEquiv : ℕ := 16*1024
def loadSkillTool : String := "load_skill"
def errorReflectionSuffix : String :=
  "\n\n[Reflect] Before retrying, identify the cause and change your approach."

inductive ToolResultContent
  | text (text : String)
  | image (data mimeType : String)

def ToolResultContent.estimatedBytes : ToolResultContent → ℕ
  | .text s => s.utf8ByteSize
  | .image data mimeType => data.utf8ByteSize + mimeType.utf8ByteSize

/-- An image weighs as much as its visual tokens. -/
def ToolResultContent.contextPressureBytes : ToolResultContent → ℕ
  | .text s => s.utf8ByteSize
  | .image _ mimeType => imageContextTokenEquiv + mimeType.utf8ByteSize

structure ToolCall where
  providerId : String
  name : String
  arguments : Json

structure ToolResult where
  providerId : String
  content : List ToolResultContent
  isError : Bool

inductive HistoryItem
  | user (text : String)
  | assistant (text : String) (toolCalls : List ToolCall)
  | toolResult (result : ToolResult)

namespace HistoryItem

def isUser : HistoryItem → Bool
  | .user _ => true
  | _ => false

def userText : HistoryItem → Option String
  | .user text => some text
  | _ => none

/-- The size of an item; `jsonText` is `serde_json::to_string`. -/
def sizeWith (jsonText : Json → String) (contentSize : ToolResultContent → ℕ) : HistoryItem → ℕ
  | .user s => s.utf8ByteSize
  | .assistant text toolCalls => text.utf8ByteSize + (toolCalls.map fun c =>
      c.providerId.utf8ByteSize + c.name.utf8ByteSize + (jsonText c.arguments).utf8ByteSize).sum
  | .toolResult r => r.providerId.utf8ByteSize + (r.content.map contentSize).sum

def estimatedBytes (jsonText : Json → String) : HistoryItem → ℕ :=
  sizeWith jsonText ToolResultContent.estimatedBytes

def contextPressureBytes (jsonText : Json → String) : HistoryItem → ℕ :=
  sizeWith jsonText ToolResultContent.contextPressureBytes

/-- An assistant item calls for the results of its tool calls. -/
def role : HistoryItem → Role String
  | .user _ => .plain
  | .assistant _ toolCalls => .opens (toolCalls.map ToolCall.providerId)
  | .toolResult result => .answers result.providerId

end HistoryItem

section

inductive ContentBlock
  | text (text : String)
  | resourceLink (uri : String)
  | unsupported
  deriving DecidableEq

inductive AgentError
  | invalidParams (message : String)
  | llm (message : String)
  | llmAuth (message : String)
  | llmModelNotFound (message : String)
  | mcp (message : String)
  | cancelled
  deriving DecidableEq

def blockText : ContentBlock → Option String
  | .text text => some text
  | .resourceLink uri => some ("[resource: " ++ uri ++ "]")
  | .unsupported => none

def promptToText (prompt : List ContentBlock) : Except AgentError String :=
  Checks.okOr ((prompt.mapM blockText).map fun parts => "\n".intercalate parts)
    (.invalidParams "prompt: unsupported content block (only text and resource_link are advertised)")

def formatHookOutputBody (hook server text : String) : String :=
  JsonText.objectText [("hook",.str hook),("server",.str server),("text",.str text)]

def syntheticHookId (hook server : String) (ordinal : ℕ) : String :=
  "buzz_hook_" ++ hook ++ "_" ++ server ++ "_" ++ ordinal.repr

/-- A call and its result for each hook output; the ids take their numbers from `nonce` on. -/
def hookOutputItems (hook : String) : ℕ → List (String × String) → List HistoryItem
  | _, [] => []
  | nonce, (server,text) :: outputs =>
    .assistant "" [⟨syntheticHookId hook server nonce,server ++ "__" ++ hook,.object []⟩] ::
      .toolResult ⟨syntheticHookId hook server nonce,[.text (formatHookOutputBody hook server text)],false⟩ ::
        hookOutputItems hook (nonce+1) outputs

def pushHookOutputsAsToolResults (history : List HistoryItem) (hook : String) (nonce : ℕ)
    (outputs : List (String × String)) : List HistoryItem :=
  history ++ hookOutputItems hook nonce outputs

def syntheticToolResult (call : ToolCall) (message : String) : ToolResult :=
  ⟨call.providerId,[.text message],true⟩

def hookOutputsText (outputs : List (String × String)) : String :=
  "\n\n".intercalate (outputs.map fun output => "[" ++ output.1 ++ "]\n" ++ output.2)

end

section

def finalResult (call : ToolCall) (slot : Option ToolResult) : ToolResult :=
  let result := slot.getD ⟨call.providerId,[.text "internal error: missing result"],true⟩
  if result.isError then { result with content := result.content ++ [.text errorReflectionSuffix] }
  else result

def appendResults (history : List HistoryItem) (calls : List ToolCall) (results : List (Option ToolResult)) :
    List HistoryItem :=
  history ++ calls.mapIdx fun i call => .toolResult (finalResult call (results[i]?.getD none))

/-- The slots with the empty ones among the given places filled in. -/
def fillSlots (places : ℕ → Bool) (calls : List ToolCall) (results : List (Option ToolResult))
    (message : String) : List (Option ToolResult) :=
  calls.mapIdx fun i call =>
    (results[i]?.getD none).or (if places i then some (syntheticToolResult call message) else none)

end

section

variable (jsonText : Json → String)

def totalBytes (history : List HistoryItem) : ℕ := (history.map (HistoryItem.estimatedBytes jsonText)).sum

def dropTurn : List HistoryItem → Option (List HistoryItem)
  | [] => none
  | _ :: rest =>
    match rest.dropWhile fun item => !item.isUser with
    | [] => none
    | kept => some kept

/-- Turns are dropped from the front while the rest is too large; each one takes an item at least. -/
def truncateLoop (maxBytes : ℕ) : ℕ → List HistoryItem → List HistoryItem
  | 0, history => history
  | fuel+1, history =>
    if totalBytes jsonText history ≤ maxBytes then history
    else
      match dropTurn history with
      | none => history
      | some kept => truncateLoop maxBytes fuel kept

def truncateHistory (history : List HistoryItem) (maxBytes : ℕ) : List HistoryItem :=
  truncateLoop jsonText maxBytes history.length history

end

section

lemma dropTurn_eq_some {his kept : List HistoryItem} (h : dropTurn his = some kept) :
    ∃ dropped t rest, his = dropped ++ kept ∧ dropped ≠ [] ∧ kept = .user t :: rest := by
  cases his with
  | nil => cases h
  | cons item rest =>
    simp only [dropTurn] at h
    cases hr : rest.dropWhile fun item => !item.isUser with
    | nil =>
      rw [hr] at h
      cases h
    | cons first tl =>
      rw [hr] at h
      cases h
      have hs := takeWhile_append_dropWhile (p := fun item : HistoryItem => !item.isUser) (l := rest)
      have hf := head?_dropWhile_not (fun item : HistoryItem => !item.isUser) rest
      rw [hr] at hs hf
      cases first with
      | user t =>
        refine ⟨item :: rest.takeWhile fun item => !item.isUser,t,tl,?_,by simp,rfl⟩
        rw [cons_append,hs]
      | assistant | toolResult => simp [HistoryItem.isUser] at hf

section

variable {jsonText : Json → String} {maxBytes : ℕ} {his kept rest : List HistoryItem}

lemma dropTurn_eq_none (h : dropTurn his = none) : ∀ item ∈ his.tail, item.isUser = false := by
  cases his with
  | nil => simp
  | cons item rest =>
    simp only [dropTurn] at h
    split at h
    next hn => simpa using dropWhile_eq_nil_iff.1 hn
    · cases h

/-- What truncation may leave of a history: all of it, or a part from a user item on. -/
def Keepable (history kept : List HistoryItem) : Prop :=
  kept = history ∨ kept <:+ history ∧ ∃ text rest, kept = .user text :: rest

lemma suffix_dropWhile {t : String} (h : .user t :: kept <:+ rest) :
    .user t :: kept <:+ rest.dropWhile fun item => !item.isUser := by
  induction rest with
  | nil => exact h
  | cons item rest ih =>
    rcases suffix_cons_iff.1 h with heq | h
    · rw [← heq]
      exact suffix_refl _
    · rw [dropWhile_cons]
      split_ifs
      · exact ih h
      · exact h.trans (suffix_cons item rest)

lemma keepable_iff : Keepable his kept ↔
    kept = his ∨ ∃ next, dropTurn his = some next ∧ Keepable next kept := by
  refine or_congr_right' fun hne => ⟨?_,?_⟩
  · rintro ⟨hs,t,more,rfl⟩
    cases his with
    | nil => exact absurd (suffix_nil.1 hs) hne
    | cons item rest =>
      have hn := suffix_dropWhile ((suffix_cons_iff.1 hs).resolve_left hne)
      refine ⟨rest.dropWhile fun item => !item.isUser,?_,.inr ⟨hn,t,more,rfl⟩⟩
      simp only [dropTurn]
      split
      next hni => simp [hni] at hn
      · rfl
  · rintro ⟨next,hd,hk⟩
    obtain ⟨dropped,t,more,rfl,-,rfl⟩ := dropTurn_eq_some hd
    rcases hk with rfl | ⟨hs,hk⟩
    · exact ⟨suffix_append _ _,t,more,rfl⟩
    · exact ⟨hs.trans (suffix_append _ _),hk⟩

/-- The loop ends because the rest fits or has no second user item, never for want of fuel, and
what it drops is no part of anything that fits. -/
lemma truncateLoop_settled (fuel : ℕ) (hf : his.length ≤ fuel) :
    Keepable his (truncateLoop jsonText maxBytes fuel his) ∧
    (totalBytes jsonText (truncateLoop jsonText maxBytes fuel his) ≤ maxBytes ∨
      dropTurn (truncateLoop jsonText maxBytes fuel his) = none) ∧
    ∀ kept, Keepable his kept → totalBytes jsonText kept ≤ maxBytes →
      Keepable (truncateLoop jsonText maxBytes fuel his) kept := by
  induction fuel generalizing his with
  | zero =>
    obtain rfl := length_eq_zero_iff.1 (Nat.le_zero.1 hf)
    exact ⟨.inl rfl,.inr rfl,fun kept hk _ => hk⟩
  | succ fuel ih =>
    rw [truncateLoop]
    split_ifs with hsi
    · exact ⟨.inl rfl,.inl hsi,fun kept hk _ => hk⟩
    · cases hd : dropTurn his with
      | none => exact ⟨.inl rfl,.inr hd,fun kept hk _ => hk⟩
      | some next =>
        obtain ⟨dropped,t,more,rfl,hne,rfl⟩ := dropTurn_eq_some hd
        have hp := length_pos_iff.2 hne
        rw [length_append] at hf
        obtain ⟨hke,hs,hl⟩ := @ih (.user t :: more) (by omega)
        refine ⟨keepable_iff.2 (.inr ⟨_,hd,hke⟩),hs,fun kept hk hfi => ?_⟩
        rcases keepable_iff.1 hk with rfl | ⟨next,hn,hk⟩
        · exact absurd hfi hsi
        · cases hd.symm.trans hn
          exact hl kept hk hfi

lemma keepable_truncateHistory (jsonText : Json → String) (mb : ℕ) (his : List HistoryItem) :
    Keepable his (truncateHistory jsonText his mb) := (truncateLoop_settled _ le_rfl).1

/-- Truncation leaves the longest part that fits, if one does, and else the part from the last user
item on, or the whole history where no user item follows its first item. -/
theorem truncateHistory_longest (jsonText : Json → String) (maxBytes : ℕ) (history : List HistoryItem) :
    Keepable history (truncateHistory jsonText history maxBytes) ∧
    ((∃ kept, Keepable history kept ∧ totalBytes jsonText kept ≤ maxBytes) →
      totalBytes jsonText (truncateHistory jsonText history maxBytes) ≤ maxBytes ∧
      ∀ kept, Keepable history kept → totalBytes jsonText kept ≤ maxBytes →
        kept.length ≤ (truncateHistory jsonText history maxBytes).length) ∧
    ((¬∃ kept, Keepable history kept ∧ totalBytes jsonText kept ≤ maxBytes) →
      ∀ item ∈ (truncateHistory jsonText history maxBytes).tail, item.isUser = false) := by
  obtain ⟨hk,hs,hl⟩ := @truncateLoop_settled jsonText maxBytes history _ le_rfl
  refine ⟨hk,?_,fun hn => dropTurn_eq_none (hs.resolve_left fun hf => hn ⟨_,hk,hf⟩)⟩
  rintro ⟨kept,hke,hf⟩
  refine ⟨?_,fun part hp hsi => ?_⟩
  · rcases hs with hsi | hla
    · exact hsi
    · rcases keepable_iff.1 (hl kept hke hf) with rfl | ⟨next,hne,-⟩
      · exact hf
      · exact absurd (hla.symm.trans hne) (by simp)
  · rcases hl part hp hsi with rfl | ⟨hsu,-⟩
    · exact le_rfl
    · exact hsu.length_le

end

lemma truncateHistory_of_fits {jsonText : Json → String} {mb : ℕ} {his : List HistoryItem}
    (h : totalBytes jsonText his ≤ mb) : truncateHistory jsonText his mb = his := by
  unfold truncateHistory
  cases his with
  | nil => rfl
  | cons item rest => rw [length_cons,truncateLoop,if_pos h]

lemma paired_hookOutputItems (hook : String) (nonce : ℕ) (outputs : List (String × String)) :
    Paired HistoryItem.role (hookOutputItems hook nonce outputs) := by
  induction outputs generalizing nonce with
  | nil => rfl
  | cons output outputs ih =>
    have ht : Paired HistoryItem.role
        [.assistant "" [⟨syntheticHookId hook output.1 nonce,output.1 ++ "__" ++ hook,.object []⟩],
          .toolResult ⟨syntheticHookId hook output.1 nonce,
            [.text (formatHookOutputBody hook output.1 output.2)],false⟩] := by
      apply paired_turn
      · rfl
      · rfl
    exact ht.append (ih (nonce+1))

lemma role_eq_plain {item : HistoryItem} (h : item.role = .plain) : ∃ t, item = .user t := by
  cases item with
  | user t => exact ⟨t,rfl⟩
  | assistant | toolResult => cases h

lemma role_eq_opens {item : HistoryItem} {ids : List String} (h : item.role = .opens ids) :
    ∃ t tcs, item = .assistant t tcs ∧ tcs.map ToolCall.providerId = ids := by
  cases item with
  | user | toolResult => cases h
  | assistant t tcs =>
    cases h
    exact ⟨t,tcs,rfl,rfl⟩

lemma exists_results {anss : List HistoryItem} {ids : List String}
    (h : anss.map HistoryItem.role = ids.map .answers) :
    ∃ rs : List ToolResult, anss = rs.map HistoryItem.toolResult ∧ rs.map ToolResult.providerId = ids := by
  induction anss generalizing ids with
  | nil => exact ⟨[],rfl,(map_eq_nil_iff.1 h.symm).symm⟩
  | cons item anss ih =>
    cases ids with
    | nil => simp at h
    | cons id ids =>
      simp only [map_cons,cons.injEq] at h
      obtain ⟨rs,rfl,hi⟩ := ih h.2
      cases item with
      | user | assistant => cases h.1
      | toolResult res =>
        cases h.1
        exact ⟨res :: rs,rfl,by rw [map_cons,hi]⟩

lemma finalResult_providerId {call : ToolCall} {slot : Option ToolResult}
    (h : ∀ res ∈ slot, res.providerId = call.providerId) :
    (finalResult call slot).providerId = call.providerId := by
  have hs : (slot.getD ⟨call.providerId,[.text "internal error: missing result"],true⟩).providerId =
      call.providerId := by
    cases slot with
    | none => rfl
    | some res => exact h res rfl
  unfold finalResult
  dsimp only
  split_ifs
  · exact hs
  · exact hs

end

end BuzzSolo.BuzzAgent
