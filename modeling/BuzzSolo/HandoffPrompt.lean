import BuzzSolo.ContextProjection

/-! The prompt for the summary of a handoff: the newest items of the history that fit a budget of
bytes. An item that does not fit is left out and the older ones are still tried. -/
namespace BuzzSolo.BuzzAgent

open List

def handoffMaxOutputTokens : ℕ := 8192
def handoffOriginalTaskMaxBytes : ℕ := 16*1024
def handoffMaxToolNames : ℕ := 20

def ToolResultContent.asTextLossy : ToolResultContent → String
  | .text s => s
  | .image data mimeType => "[image: " ++ mimeType ++ ", " ++ data.utf8ByteSize.repr ++ " base64 bytes]"

def ToolResult.text (r : ToolResult) : String :=
  "\n".intercalate (r.content.map ToolResultContent.asTextLossy)

/-- `push_history_snippet`. -/
def historySnippet : HistoryItem → String
  | .user s => "[user] " ++ s ++ "\n"
  | .assistant text toolCalls =>
    "[assistant] " ++ text ++ toolCalls.foldr (fun c names => " tool:" ++ c.name ++ names) "" ++ "\n"
  | .toolResult r => (if r.isError then "[tool_err] " else "[tool] ") ++ r.text ++ "\n"

/-- The characters that end within the given number of bytes. -/
def cutBytes : ℕ → List Char → List Char
  | _, [] => []
  | n, c :: cs => if c.utf8Size ≤ n then c :: cutBytes (n - c.utf8Size) cs else []

def clampBytes (s : String) (maxBytes : ℕ) : String :=
  if s.utf8ByteSize ≤ maxBytes then s
  else if maxBytes < 4 then .ofList (cutBytes maxBytes s.toList)
  else .ofList (cutBytes (maxBytes - "…".utf8ByteSize) s.toList) ++ "…"

/-- The texts taken so far, the oldest first, their bytes, and how many items were left out. -/
structure Excerpts where
  snippets : List String
  bytes : ℕ
  dropped : ℕ
  deriving DecidableEq

def addExcerpt (budget : ℕ) (item : HistoryItem) (acc : Excerpts) : Excerpts :=
  let snippet := historySnippet item
  if budget < acc.bytes + snippet.utf8ByteSize then
    if acc.snippets.isEmpty then ⟨[clampBytes snippet budget],budget,acc.dropped + 1⟩
    else { acc with dropped := acc.dropped + 1 }
  else ⟨snippet :: acc.snippets,acc.bytes + snippet.utf8ByteSize,acc.dropped⟩

/-- The loop over the history, from its newest item. -/
def excerpts (budget : ℕ) (history : List HistoryItem) : Excerpts :=
  history.foldr (addExcerpt budget) ⟨[],0,0⟩

def omissionNote (dropped : ℕ) : String :=
  if 0 < dropped then "(… " ++ dropped.repr ++ " older items omitted)\n" else ""

def historyHeader : String := "\n# Session History (oldest first)\n"

def handoffTail : String :=
  "\n# Instructions\nProduce a context handoff summary covering: (1) original task, " ++
    "(2) what was accomplished, (3) key decisions, (4) what remains, (5) one concrete next step. " ++
    "Be concise but thorough. Plain text.\n"

section

variable (E : Env) (tools : List String) (s : Session)

def handoffHead : String :=
  "[Internal handoff #" ++ (s.handoffCount + 1).repr ++ " — context reset]\n\n# Original Task\n" ++
    clampBytes (s.originalTask.getD "(unknown)") handoffOriginalTaskMaxBytes ++ "\n\n# Available Tools\n" ++
    (if tools.isEmpty then "(none)"
    else ", ".intercalate (tools.take handoffMaxToolNames) ++ if handoffMaxToolNames < tools.length then
        ", … (+" ++ (tools.length - handoffMaxToolNames).repr ++ " more)"
      else "") ++ "\n"

def fixedBytes : ℕ :=
  (handoffHead tools s).utf8ByteSize + historyHeader.utf8ByteSize + handoffTail.utf8ByteSize

def promptBudget : ℕ := E.cfg.maxContextTokens - handoffMaxOutputTokens - fixedBytes tools s

def handoffPromptOf (dropped : ℕ) (snippets : List String) : String :=
  handoffHead tools s ++ historyHeader ++ omissionNote dropped ++ snippets.foldr (· ++ ·) "" ++ handoffTail

def buildHandoffPrompt : String :=
  let taken := excerpts (promptBudget E tools s) s.history
  handoffPromptOf tools s taken.dropped taken.snippets

end

section

variable {E : Env} {tools : List String} {s : Session} {budget : ℕ} {older kept : List HistoryItem}
  {acc : Excerpts}

def snippetBytes (history : List HistoryItem) : ℕ :=
  (history.map fun item => (historySnippet item).utf8ByteSize).sum

lemma snippetBytes_eq (his : List HistoryItem) :
    snippetBytes his = ((his.map historySnippet).map String.utf8ByteSize).sum := by
  rw [snippetBytes,map_map]
  rfl

lemma historySnippet_pos (item : HistoryItem) : 0 < (historySnippet item).utf8ByteSize := by
  have hn : "\n".utf8ByteSize = 1 := by decide
  cases item <;> simp only [historySnippet,String.utf8ByteSize_append] <;> omega

lemma excerpts_of_fits (h : snippetBytes kept ≤ budget) :
    excerpts budget kept = ⟨kept.map historySnippet,snippetBytes kept,0⟩ := by
  induction kept with
  | nil => rfl
  | cons item kept ih =>
    simp only [snippetBytes,map_cons,sum_cons] at h ⊢
    have hf : ¬budget < snippetBytes kept + (historySnippet item).utf8ByteSize := by
      rw [snippetBytes]
      omega
    rw [excerpts,foldr_cons,← excerpts,ih (by rw [snippetBytes]; omega),addExcerpt,if_neg hf,
      snippetBytes,add_comm]

lemma foldr_addExcerpt_dropped (ha : acc.snippets ≠ [])
    (h : ∀ item ∈ older, budget < acc.bytes + (historySnippet item).utf8ByteSize) :
    older.foldr (addExcerpt budget) acc = { acc with dropped := acc.dropped + older.length } := by
  induction older with
  | nil => rfl
  | cons item older ih =>
    rw [foldr_cons,ih fun i hi => h i (mem_cons_of_mem _ hi),addExcerpt,if_pos (h item mem_cons_self)]
    simp [ha,add_assoc]

lemma dropped_foldr_le (budget : ℕ) (acc : Excerpts) (older : List HistoryItem) :
    (older.foldr (addExcerpt budget) acc).dropped ≤ acc.dropped + older.length := by
  induction older with
  | nil => rfl
  | cons item older ih =>
    rw [foldr_cons,length_cons,addExcerpt]
    split_ifs <;> dsimp only <;> omega

/-- Where an older part is left out as a whole, no item of it fits. -/
lemma not_fits_of_dropped (ha : acc.snippets ≠ [])
    (h : (older.foldr (addExcerpt budget) acc).dropped = acc.dropped + older.length) :
    ∀ item ∈ older, budget < acc.bytes + (historySnippet item).utf8ByteSize := by
  induction older with
  | nil => simp
  | cons item older ih =>
    have hle := dropped_foldr_le budget acc older
    rw [foldr_cons,length_cons] at h
    have hd : (older.foldr (addExcerpt budget) acc).dropped = acc.dropped + older.length := by
      rw [addExcerpt] at h
      split_ifs at h <;> dsimp only at h <;> omega
    have hold := ih hd
    rw [foldr_addExcerpt_dropped ha hold,addExcerpt] at h
    refine forall_mem_cons.2 ⟨?_,hold⟩
    by_contra hf
    rw [if_neg hf] at h
    dsimp only at h
    omega

/-- Once an excerpt was taken, those of older items come whole and within the budget. -/
lemma foldr_addExcerpt_taken (older : List HistoryItem) (ha : acc.snippets ≠ []) (hb : acc.bytes ≤ budget) :
    ∃ taken, (older.foldr (addExcerpt budget) acc).snippets = taken ++ acc.snippets ∧
      acc.bytes + (taken.map String.utf8ByteSize).sum ≤ budget ∧
      (older.foldr (addExcerpt budget) acc).bytes = acc.bytes + (taken.map String.utf8ByteSize).sum := by
  induction older with
  | nil => exact ⟨[],rfl,hb,rfl⟩
  | cons item older ih =>
    obtain ⟨taken,hs,hle,hby⟩ := ih
    rw [foldr_cons,addExcerpt]
    split_ifs with hf he
    · simp [hs,ha] at he
    · exact ⟨taken,hs,hle,hby⟩
    · refine ⟨historySnippet item :: taken,congrArg _ hs,?_,?_⟩ <;> simp only [map_cons,sum_cons] <;> omega

lemma size_foldr_append (ts : List String) :
    (ts.foldr (· ++ ·) "").utf8ByteSize = (ts.map String.utf8ByteSize).sum := by
  induction ts with
  | nil => rfl
  | cons t ts ih => simp [ih,String.utf8ByteSize_append]

lemma size_handoffPromptOf (dropped : ℕ) (snippets : List String) :
    (handoffPromptOf tools s dropped snippets).utf8ByteSize =
      fixedBytes tools s + (omissionNote dropped).utf8ByteSize + (snippets.map String.utf8ByteSize).sum := by
  simp only [handoffPromptOf,String.utf8ByteSize_append,size_foldr_append,fixedBytes]
  omega

/-- The excerpts of the items, of which that of the newest may be cut short. -/
def ExcerptsOf (items : List HistoryItem) (snippets : List String) : Prop :=
  snippets = items.map historySnippet ∨ ∃ init newest n, items = init ++ [newest] ∧
    snippets = init.map historySnippet ++ [clampBytes (historySnippet newest) n]

/-- The prompt keeps to its bound, has the excerpts of a suffix of the history and states how many items
are before it. -/
def HoldsNewest (E : Env) (tools : List String) (s : Session) : Prop :=
  let taken := excerpts (promptBudget E tools s) s.history
  (buildHandoffPrompt E tools s).utf8ByteSize ≤
      max (fixedBytes tools s) (E.cfg.maxContextTokens - handoffMaxOutputTokens) ∧
    ∃ older kept, s.history = older ++ kept ∧ ExcerptsOf kept taken.snippets ∧ taken.dropped = older.length

lemma excerpts_append (h : snippetBytes kept ≤ budget) : excerpts budget (older ++ kept) =
    older.foldr (addExcerpt budget) ⟨kept.map historySnippet,snippetBytes kept,0⟩ := by
  rw [excerpts,foldr_append,← excerpts,excerpts_of_fits h]

lemma excerpts_whole (hx : ExcerptsOf kept (excerpts budget (older ++ kept)).snippets)
    (hd : (excerpts budget (older ++ kept)).dropped = older.length) :
    (kept = [] → older = []) ∧ (excerpts budget (older ++ kept)).snippets = kept.map historySnippet ∧
      snippetBytes kept ≤ budget := by
  obtain he | ⟨init,newest,he⟩ := (older ++ kept).eq_nil_or_concat
  · obtain ⟨rfl,rfl⟩ := append_eq_nil_iff.1 he
    exact ⟨fun _ => rfl,rfl,Nat.zero_le _⟩
  rw [concat_eq_append] at he
  rw [he,excerpts,foldr_append,foldr_cons,foldr_nil,addExcerpt] at hx hd ⊢
  simp only [Nat.zero_add,isEmpty_nil,if_true] at hx hd ⊢
  by_cases hnew : budget < (historySnippet newest).utf8ByteSize
  · -- the newest item is cut: it counts as left out, and nothing fits any more
    have hz := @foldr_addExcerpt_dropped budget init
      ⟨[clampBytes (historySnippet newest) budget],budget,1⟩ (by simp)
      fun i _ => Nat.lt_add_of_pos_right (historySnippet_pos i)
    rw [if_pos hnew,hz] at hd hx
    have hl := congrArg length he
    simp only [length_append,length_singleton] at hl hd
    obtain rfl := eq_nil_of_length_eq_zero (by omega : kept.length = 0)
    obtain hx | ⟨_,_,_,hx,-⟩ := hx <;> simp at hx
  · rw [if_neg hnew] at hx ⊢
    obtain ⟨taken,hs,hle,-⟩ := @foldr_addExcerpt_taken budget
      ⟨[historySnippet newest],(historySnippet newest).utf8ByteSize,0⟩ init (by simp) (not_lt.1 hnew)
    rw [hs] at hx ⊢
    have hw : taken ++ [historySnippet newest] = kept.map historySnippet := by
      obtain hx | ⟨init',newest',n,rfl,hx⟩ := hx
      · exact hx
      · rw [← append_assoc] at he
        obtain ⟨-,hn⟩ := append_inj' he rfl
        obtain ⟨ht,-⟩ := append_inj' hx rfl
        rw [map_append,ht,hn,map_singleton]
    refine ⟨fun hk => by simp [hk] at hw,hw,?_⟩
    rw [snippetBytes_eq,← hw,map_append,sum_append,map_singleton,sum_singleton,Nat.add_comm]
    exact hle

theorem handoff_prompt_newest (E : Env) (tools : List String) (s : Session) :
    HoldsNewest E tools s ↔ ∃ older kept, s.history = older ++ kept ∧ (kept = [] → older = []) ∧
      (omissionNote older.length).utf8ByteSize + snippetBytes kept ≤ promptBudget E tools s ∧
      ∀ item ∈ older, promptBudget E tools s < snippetBytes kept + (historySnippet item).utf8ByteSize := by
  have hp : promptBudget E tools s = E.cfg.maxContextTokens - handoffMaxOutputTokens - fixedBytes tools s :=
    rfl
  constructor
  · rintro ⟨hsize,older,kept,hh,hx,hd⟩
    rw [hh] at hx hd
    obtain ⟨hne,hw,hb⟩ := excerpts_whole hx hd
    refine ⟨older,kept,hh,hne,?_,?_⟩
    · rw [buildHandoffPrompt,size_handoffPromptOf,hh,hd,hw,← snippetBytes_eq] at hsize
      by_cases hk : kept = []
      · rw [hne hk,hk]
        exact Nat.zero_le _
      · -- a history that fits leaves the budget above zero, so that the bound is that of the window
        obtain ⟨item,hi⟩ := exists_mem_of_ne_nil _ hk
        have hpos : 0 < snippetBytes kept :=
          (historySnippet_pos item).trans_le (single_le_sum (by simp) _ (mem_map_of_mem hi))
        omega
    · by_cases hk : kept = []
      · simp [hne hk]
      · rw [excerpts_append hb] at hd
        exact not_fits_of_dropped (by simpa using hk) (hd.trans (Nat.zero_add _).symm)
  · rintro ⟨older,kept,hh,hne,hfit,hold⟩
    have ht : excerpts (promptBudget E tools s) s.history =
        ⟨kept.map historySnippet,snippetBytes kept,older.length⟩ := by
      rw [hh,excerpts_append ((Nat.le_add_left _ _).trans hfit)]
      by_cases hk : kept = []
      · rw [hne hk]
        rfl
      · rw [foldr_addExcerpt_dropped (by simpa using hk) hold,Nat.zero_add]
    refine ⟨?_,older,kept,hh,?_,?_⟩
    · rw [buildHandoffPrompt,size_handoffPromptOf,ht,← snippetBytes_eq]
      dsimp only
      omega
    · exact .inl (by rw [ht])
    · rw [ht]

end

/-- A window that leaves forty bytes for the history of the task `a`. -/
def narrowEnv : Env :=
  { roomyEnv with cfg := { roomyEnv.cfg with maxContextTokens := 8559, maxOutputTokens := 4096 } }

/-- The history for which the summarizer is asked, what the prompt has of it, and the bytes of the prompt. -/
def handoffAfter (actions : List Action) : Option (List String × Excerpts × ℕ) :=
  (run narrowEnv (.new 0) actions).bind fun s =>
    let s := drainSteers s
    if asksForSummary narrowEnv s then
      some (s.history.map historySnippet,excerpts (promptBudget narrowEnv [] s) s.history,
        (buildHandoffPrompt narrowEnv [] s).utf8ByteSize)
    else none

/-- A long item is left out while an older one is taken, and the note exceeds the bound of 367 bytes; the
newest item is cut short and counts as left out. -/
theorem handoff_prompt_gap : handoffAfter
    (turn "a" (some 1) ++ turn (longText 40) (some 9000) ++ [.prompt "run_1" [.text "b"],.advance]) =
      some (["[user] a
","[assistant] noted
","[user] aaaaaaaaaaaaaaaaaaaaaaaaaaaaaaaaaaaaaaaa
", "[assistant] noted
","[user] b
"],⟨["[user] a
","[assistant] noted
","[user] b
"],36,2⟩,391) ∧ handoffAfter (turn "a" (some 9000) ++ [.prompt "run_1" [.text (longText 40)],.advance]) =
      some (["[user] a
","[assistant] noted
","[user] aaaaaaaaaaaaaaaaaaaaaaaaaaaaaaaaaaaaaaaa
"], ⟨["[user] aaaaaaaaaaaaaaaaaaaaaaaaaaaaaa…"],40,3⟩,395) := by
  decide +kernel

end BuzzSolo.BuzzAgent
