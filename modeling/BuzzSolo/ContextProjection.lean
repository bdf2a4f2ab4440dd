import BuzzSolo.AgentRun

/-! The projection of the next request's tokens from the last measured one: a token for each byte by
which the history has grown. It covers the request as long as nothing that was measured has been
dropped since. -/
namespace BuzzSolo.BuzzAgent

open List

/-- What a provider counts: an overhead, and at most a token for each byte of an item. -/
structure TokenCount (E : Env) where
  overhead : ℕ
  item : HistoryItem → ℕ
  item_le : ∀ i, item i ≤ i.contextPressureBytes E.jsonText

variable {E : Env} (T : TokenCount E) {s s' : Session}

def TokenCount.count (history : List HistoryItem) : ℕ := T.overhead + (history.map T.item).sum

/-- A response with its usage leaves the exact count of its request, and one without leaves the
measurement as it is. -/
def Exact (s s' : Session) : Prop :=
  s.phase = .waiting → s'.lastRequestInputTokens = some (T.count s.history) ∨
    s'.lastRequestInputTokens = s.lastRequestInputTokens ∧
      s'.lastRequestHistoryBytes = s.lastRequestHistoryBytes

/-- Where a round goes on without a handoff, nothing is dropped from a measured history. -/
def Uncut (s s' : Session) : Prop :=
  s'.phase = .ready → s'.lastRequestInputTokens ≠ none → s.history <+: s'.history

/-- The sessions that are reached with exact reports and without such a truncation. -/
inductive Metered : Session → Prop
  | new (nonce : ℕ) : Metered (.new nonce)
  | step {s s' : Session} (action : Action) (hs : Metered s) (h : step E s action = some s')
    (hexact : Exact T s s') (hcut : Uncut s s') : Metered s'

def Emptied (s : Session) : Prop := ∃ summary prompt, s.phase = .compacting summary prompt

/-- The measured history is the front of the present one. -/
def Measured (s : Session) : Prop :=
  ∀ n ∈ s.lastRequestInputTokens, Emptied s ∨ ∃ front, front <+: s.history ∧ n = T.count front ∧
    s.lastRequestHistoryBytes = some (pressureBytes E front)

variable {T}

lemma Measured.grow (h : Measured T s) (he : Emptied s → Emptied s')
    (ht : s'.lastRequestInputTokens = s.lastRequestInputTokens)
    (hb : s'.lastRequestHistoryBytes = s.lastRequestHistoryBytes)
    (hh : s'.lastRequestInputTokens ≠ none → s.history <+: s'.history) : Measured T s' := by
  rintro n hn
  obtain hs | ⟨front,hp,hc,hby⟩ := h n (ht ▸ hn)
  · exact .inl (he hs)
  · exact .inr ⟨front,hp.trans (hh (by rw [hn]; simp)),hc,hb.trans hby⟩

lemma onReply_fields (rp : Except AgentError LlmResponse) :
    (((onReply E s rp).lastRequestInputTokens = s.lastRequestInputTokens ∧
        (onReply E s rp).lastRequestHistoryBytes = s.lastRequestHistoryBytes) ∨
      (onReply E s rp).lastRequestHistoryBytes = some (pressureBytes E s.history)) ∧
    s.history <+: (onReply E s rp).history := by
  unfold onReply
  split_ifs
  · exact ⟨.inl ⟨rfl,rfl⟩,prefix_rfl⟩
  · cases rp with
    | error e => exact ⟨.inl ⟨rfl,rfl⟩,prefix_rfl⟩
    | ok resp =>
      obtain ⟨t,cs,stop,tokens⟩ := resp
      cases tokens with
      | none =>
        dsimp only [recordUsage]
        split_ifs
        · exact ⟨.inl ⟨rfl,rfl⟩,prefix_rfl⟩
        all_goals exact ⟨.inl ⟨rfl,rfl⟩,prefix_append _ _⟩
      | some tokens =>
        dsimp only [recordUsage]
        split_ifs
        · exact ⟨.inr rfl,prefix_rfl⟩
        all_goals exact ⟨.inr rfl,prefix_append _ _⟩

lemma Measured.transition (h : Measured T s) (ht : Transition E s s') (hexact : Exact T s s')
    (hcut : Uncut s s') : Measured T s' := by
  have hg {v : Session} (he : ¬Emptied s) := @Measured.grow E T s v h fun hs => absurd hs he
  cases ht with
  | refused => exact h
  | steered | cancelled | counted => exact h.grow id rfl rfl fun _ => prefix_rfl
  | acquired _ _ hphase | noticed hphase | released hphase =>
    exact hg (by simp [Emptied,hphase]) rfl rfl fun _ => prefix_rfl
  | compacted => exact fun n hn => nomatch hn
  | started hphase =>
    have he : ¬Emptied s := by simp [Emptied,hphase]
    unfold start
    split
    · exact hg he rfl rfl fun _ => prefix_rfl
    · split_ifs
      · exact hg he rfl rfl fun _ => prefix_rfl
      · exact hg he rfl rfl fun _ => prefix_append _ _
  | bounded hphase =>
    have he : ¬Emptied s := by simp [Emptied,hphase]
    unfold roundBoundary at hcut ⊢
    split_ifs at hcut ⊢
    · exact hg he rfl rfl fun _ => prefix_rfl
    · exact hg he rfl rfl fun _ => prefix_rfl
    · exact hg he rfl rfl fun _ => prefix_append _ _
    · exact hg he rfl rfl (hcut rfl)
  | summarized hphase rp =>
    have he : ¬Emptied s := by simp [Emptied,hphase]
    have hskip (hc : Uncut s (skipHandoff E s)) : Measured T (skipHandoff E s) := hg he rfl rfl (hc rfl)
    unfold onSummary at hcut ⊢
    split_ifs at hcut ⊢
    · exact hg he rfl rfl fun _ => prefix_rfl
    · cases rp with
      | ok summary =>
        dsimp only at hcut ⊢
        split_ifs at hcut ⊢
        · exact hskip hcut
        · exact fun _ _ => .inl ⟨_,_,rfl⟩
      | error e => exact hskip hcut
  | sent hphase =>
    unfold sendRequest
    split_ifs <;> exact hg (by simp [Emptied,hphase]) rfl rfl fun _ => prefix_rfl
  | replied hphase rp =>
    obtain ⟨hf,hp⟩ := @onReply_fields E s rp
    have he : ¬Emptied s := by simp [Emptied,hphase]
    obtain hx | ⟨ht,hb⟩ := hexact hphase
    · obtain ⟨ht,hb⟩ | hb := hf
      · exact hg he ht hb fun _ => hp
      · rintro n hn
        exact .inr ⟨s.history,hp,Option.some.inj (hn.symm.trans hx),hb⟩
    · exact hg he ht hb fun _ => hp
  | stopped hphase objs =>
    have he : ¬Emptied s := by simp [Emptied,hphase]
    unfold onStopHooks
    split_ifs
    · exact hg he rfl rfl fun _ => prefix_rfl
    · exact hg he rfl rfl fun _ => prefix_append _ _
  | looked hphase =>
    have he : ¬Emptied s := by simp [Emptied,hphase]
    unfold preflightStep
    split
    · exact hg he rfl rfl fun _ => prefix_rfl
    · split_ifs
      · exact hg he rfl rfl fun _ => prefix_append _ _
      all_goals exact hg he rfl rfl fun _ => prefix_rfl
  | loaded hphase | joined hphase =>
    first | unfold onSkill | unfold onJoined
    split <;> exact hg (by simp [Emptied,hphase]) rfl rfl fun _ => prefix_rfl
  | completed hphase =>
    unfold completeBatch
    dsimp only
    split_ifs <;> exact hg (by simp [Emptied,hphase]) rfl rfl fun _ => prefix_append _ _

lemma Metered.measured (h : Metered T s) : Measured T s := by
  induction h with
  | new => exact fun n hn => nomatch hn
  | step _ _ hst hexact hcut ih => exact ih.transition (transition_of_step hst) hexact hcut

lemma pressureBytes_append (fr back : List HistoryItem) :
    pressureBytes E (fr ++ back) = pressureBytes E fr + pressureBytes E back := by
  simp [pressureBytes]

lemma sum_item_le (hi : List HistoryItem) : (hi.map T.item).sum ≤ pressureBytes E hi :=
  sum_le_sum fun i _ => T.item_le i

/-- At every handoff check with a measurement, the projection covers the tokens of a request with
the present history, if nothing measured has been dropped. -/
theorem projection_covers (hs : Metered T s) (hphase : s.phase = .boundary)
    (hm : s.lastRequestInputTokens ≠ none) :
    min (T.count (drainSteers s).history) maxU64 ≤ projectedHandoffInputTokens E (drainSteers s) := by
  obtain ⟨n,hn⟩ := Option.ne_none_iff_exists'.1 hm
  obtain ⟨summary,prompt,hc⟩ | ⟨front,⟨back,hf⟩,rfl,hb⟩ := hs.measured n hn
  · simp [hphase] at hc
  · have hno : (drainSteers s).history = front ++ (back ++ (s.steer.filterMap steerText).map .user) := by
      rw [← append_assoc,hf]
      rfl
    have hle := @sum_item_le E T (back ++ (s.steer.filterMap steerText).map .user)
    have hp : projectedHandoffInputTokens E (drainSteers s) =
        min (T.count front + (pressureBytes E (drainSteers s).history - pressureBytes E front)) maxU64 := by
      simp [projectedHandoffInputTokens,drainSteers,hn,hb]
    rw [hp,hno,pressureBytes_append]
    simp only [TokenCount.count,map_append,sum_append] at hle ⊢
    omega

/-- A token for each byte, but only one for a given user text. -/
def sparseCount (E : Env) (overhead : ℕ) (text : String) : TokenCount E where
  overhead := overhead
  item i := if i.userText = some text then min 1 (i.contextPressureBytes E.jsonText) else
    i.contextPressureBytes E.jsonText
  item_le i := by split_ifs <;> simp

def answered (text : String) (inputTokens : Option ℕ) : Action := .reply (.ok ⟨text,[],.endTurn,inputTokens⟩)

theorem projection_covers_objection : ∃ s, Metered (sparseCount bareEnv 5 "a") s ∧
    s.lastRequestInputTokens = some 5 ∧
    min ((sparseCount bareEnv 5 "a").count (drainSteers s).history) maxU64 ≤
      projectedHandoffInputTokens bareEnv (drainSteers s) := by
  have hs : Metered (sparseCount bareEnv 5 "a") _ :=
    .step (.stopHooks [("dev","not yet")]) (.step (answered "" (some 5)) (.step .advance (.step .advance
      (.step .advance (.step (.prompt "run_1" []) (.new 0) rfl nofun nofun) rfl nofun nofun) rfl nofun
        fun _ h => absurd rfl h) rfl nofun nofun) rfl (fun _ => .inl rfl) nofun) rfl nofun nofun
  exact ⟨_,hs,rfl,projection_covers hs rfl nofun⟩

def turn (text : String) (inputTokens : Option ℕ) : List Action :=
  [.prompt "run_1" [.text text],.advance,.advance,.advance,answered "noted" inputTokens,.advance]

lemma run_turn {text : String} (inputTokens : Option ℕ) (hs : s.phase = .idle)
    (hcfg : E.cfg.maxRounds = 0 ∧ E.cfg.stopMaxRejections = 0) (ht : text.utf8ByteSize ≤ maxPromptBytes)
    (hno : asksForSummary E { s with history := s.history ++ [.user text] } = false) :
    let sent :=
      { s with history := truncateHistory E.jsonText (s.history ++ [.user text]) E.cfg.maxHistoryBytes }
    ∃ s', run E s (turn text inputTokens) = some s' ∧ s'.phase = .idle ∧
      s'.history = sent.history ++ [.assistant "noted" []] ∧
      s'.lastRequestInputTokens = (recordUsage E sent inputTokens).lastRequestInputTokens ∧
      s'.lastRequestHistoryBytes = (recordUsage E sent inputTokens).lastRequestHistoryBytes := by
  obtain ⟨history,task,handoffs,tokens,bytes,phase,active,cancel,steer,round,rejections,nonce,requests,
    accepted⟩ := s
  dsimp only at hs hno ⊢
  subst hs
  have hp : promptToText [.text text] = .ok text := rfl
  have hno' : ∀ s : Session, s.history = history ++ [.user text] → s.lastRequestInputTokens = tokens →
      s.lastRequestHistoryBytes = bytes → s.handoffCount = handoffs → asksForSummary E s = false := by
    intro s hh ht hb hc
    rw [← hno]
    simp only [asksForSummary,shouldHandoff,projectedHandoffInputTokens,hh,ht,hb,hc]
    rfl
  cases inputTokens <;> simp [run,turn,step,acquireSession,Except.toOption,start,hp,not_lt.2 ht,
    roundBoundary,hcfg,drainSteers,hno',skipHandoff,sendRequest,answered,onReply,recordUsage,mapStop,
    Session.finish,releaseSession]

def roomyEnv : Env := { bareEnv with
  cfg :=
    { defaultConfig with maxHistoryBytes := 1024*1024, maxContextTokens := 2000000, stopMaxRejections := 0 } }

/-- A measured turn, one that is truncated and has no report, and a third one: at its handoff check the
projection is short of the request. -/
def Undercounts (a c : String) : Prop :=
  let T := sparseCount roomyEnv 0 a
  ∃ first second s, run roomyEnv (.new 0) (turn a (some 1)) = some first ∧
    first.history = [.user a,.assistant "noted" []] ∧ T.count [.user a] = 1 ∧
    run roomyEnv first (turn c none) = some second ∧
    run roomyEnv second [.prompt "run_1" [.text "e"],.advance] = some s ∧ s.phase = .boundary ∧
    s.lastRequestInputTokens = some 1 ∧ projectedHandoffInputTokens roomyEnv (drainSteers s) = 8 ∧
    T.count (drainSteers s).history = 600007

lemma run_start {text : String} (hs : s.phase = .idle) (ht : text.utf8ByteSize ≤ maxPromptBytes) :
    run E s [.prompt "run_1" [.text text],.advance] = some { s with
      phase := .boundary
      activeRunId := some "run_1"
      cancel := false
      steer := []
      accepted := []
      originalTask := s.originalTask.or (some text)
      history := s.history ++ [.user text]
      round := 0
      stopRejections := 0 } := by
  have hp : promptToText [.text text] = .ok text := rfl
  simp [run,step,acquireSession,hs,Except.toOption,start,hp,not_lt.2 ht]

lemma undercounts {a c : String} (ha : a.utf8ByteSize = 600000) (hc : c.utf8ByteSize = 600001) :
    Undercounts a c := by
  have hn : "noted".utf8ByteSize = 5 := by decide
  have he : "e".utf8ByteSize = 1 := by decide
  have hca : c ≠ a := fun h => by simpa [ha,hc] using congrArg String.utf8ByteSize h
  have hea : "e" ≠ a := fun h => by simpa [ha,he] using congrArg String.utf8ByteSize h
  have hsize (history : List HistoryItem) : pressureBytes roomyEnv history =
    (history.map (HistoryItem.sizeWith bareEnv.jsonText ToolResultContent.contextPressureBytes)).sum := rfl
  -- the first request fits, the second drops the first turn
  have hkeep : truncateHistory roomyEnv.jsonText [.user a] roomyEnv.cfg.maxHistoryBytes = [.user a] := by
    simp [truncateHistory,truncateLoop,totalBytes,HistoryItem.estimatedBytes,HistoryItem.sizeWith,ha,roomyEnv]
  have hcut : truncateHistory roomyEnv.jsonText [.user a,.assistant "noted" [],.user c]
      roomyEnv.cfg.maxHistoryBytes = [.user c] := by
    simp [truncateHistory,truncateLoop,totalBytes,HistoryItem.estimatedBytes,HistoryItem.sizeWith,ha,
      hc,hn,roomyEnv,dropTurn,HistoryItem.isUser]
  obtain ⟨first,hr₁,hi₁,hh₁,ht₁,hb₁⟩ := run_turn (E := roomyEnv) (s := .new 0) (some 1) rfl ⟨rfl,rfl⟩
    (ha.trans_le (by decide)) (by
      refine Bool.and_eq_false_imp.2 fun hf => absurd hf ?_
      rw [shouldHandoff,Session.new]
      simp only [hsize,nil_append,map_cons,map_nil,HistoryItem.sizeWith,ha]
      decide)
  simp only [Session.new,nil_append,hkeep,cons_append] at hh₁ hb₁
  have hb₁ : first.lastRequestHistoryBytes = some 600000 := by
    simp [hb₁,recordUsage,hsize,HistoryItem.sizeWith,ha]
  obtain ⟨second,hr₂,hi₂,hh₂,ht₂,hb₂⟩ := run_turn (E := roomyEnv) (s := first) none hi₁ ⟨rfl,rfl⟩
    (hc.trans_le (by decide)) (by
      refine Bool.and_eq_false_imp.2 fun hf => absurd hf ?_
      rw [shouldHandoff,projectedHandoffInputTokens,ht₁,hb₁,hh₁]
      simp only [hsize,cons_append,nil_append,map_cons,map_nil,HistoryItem.sizeWith,ha,hc,hn,recordUsage]
      decide)
  simp only [hh₁,cons_append,nil_append,hcut] at hh₂
  have ht₂ : second.lastRequestInputTokens = some 1 := ht₂.trans ht₁
  have hb₂ : second.lastRequestHistoryBytes = some 600000 := hb₂.trans hb₁
  refine ⟨first,second,_,hr₁,hh₁,?_,hr₂,run_start hi₂ (by decide),rfl,ht₂,?_,?_⟩
  · simp only [TokenCount.count,sparseCount,map_cons,map_nil,HistoryItem.userText,if_true,
      HistoryItem.contextPressureBytes,HistoryItem.sizeWith,ha,sum_cons,sum_nil]
    omega
  · simp only [projectedHandoffInputTokens,drainSteers,ht₂,hb₂,hh₂,hsize,cons_append,nil_append,map_cons,
      map_nil,HistoryItem.sizeWith,hc,hn,he,sum_cons,sum_nil,Option.getD_some,maxU64,filterMap_nil]
    omega
  · simp [TokenCount.count,drainSteers,hh₂,sparseCount,HistoryItem.userText,hca,hea,
      HistoryItem.contextPressureBytes,HistoryItem.sizeWith,hc,hn,he]

def longText (n : ℕ) : String := .ofList (replicate n 'a')

lemma size_longText (n : ℕ) : (longText n).utf8ByteSize = n := by
  unfold longText
  induction n with
  | zero => rfl
  | succ n ih =>
    rw [replicate_succ,String.ofList_cons,String.utf8ByteSize_append,ih,Nat.add_comm]
    rfl

theorem truncation_undercounts : Undercounts (longText 600000) (longText 600001) :=
  undercounts (size_longText _) (size_longText _)

end BuzzSolo.BuzzAgent
