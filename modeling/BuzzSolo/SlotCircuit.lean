import Mathlib.Tactic

/-! The circuit breaker of a slot of the agent pool: three crashes within a minute open it for the
cooldown, and the first restart after that is a probe. Times are in nanoseconds. -/
namespace BuzzSolo.Acp

open List

def circuitBreakerThreshold : ℕ := 3
def circuitBreakerWindow : ℕ := 60*10^9
def circuitBreakerCooldown : ℕ := 300*10^9
def respawnBaseDelay : ℕ := 10^9
def respawnMaxDelay : ℕ := 30*10^9

structure SlotCircuit where
  crashTimes : List ℕ
  openUntil : Option ℕ

inductive CrashVerdict
  | respawn (delay : ℕ)
  | circuitOpen
  | halfOpenProbe

def CrashVerdict.permits : CrashVerdict → Bool
  | .respawn _ | .halfOpenProbe => true
  | .circuitOpen => false

namespace SlotCircuit

variable (c : SlotCircuit) (now : ℕ)

/-- The circuit after a probe: one crash short of opening again. -/
def preSeeded : SlotCircuit := ⟨replicate (circuitBreakerThreshold - 1) now,none⟩

/-- The crashes within the window, with one at this moment. -/
def recentCrashes : List ℕ := (c.crashTimes ++ [now]).filter fun t => now - t < circuitBreakerWindow

/-- The factor that the clock gives the delay is the argument jitter. -/
def recordCrash (jitter : ℕ → ℕ) : SlotCircuit × CrashVerdict :=
  match c.openUntil with
  | some openUntil => if openUntil ≤ now then (preSeeded now,.halfOpenProbe) else (c,.circuitOpen)
  | none =>
    let recent := (c.recentCrashes now).length
    if circuitBreakerThreshold ≤ recent then
      (⟨c.recentCrashes now,some (now + circuitBreakerCooldown)⟩,.circuitOpen)
    else
      (⟨c.recentCrashes now,none⟩, .respawn
        (jitter (min (respawnBaseDelay*2^min (recent - 1) 5) respawnMaxDelay)))

def markSpawnFailed : SlotCircuit := { c with openUntil := some (now + circuitBreakerCooldown) }

def canRefill : SlotCircuit × Bool :=
  match c.openUntil with
  | some openUntil => if openUntil ≤ now then (preSeeded now,true) else (c,false)
  | none => (c,true)

end SlotCircuit

inductive CircuitCall
  | recordCrash (jitter : ℕ → ℕ)
  | markSpawnFailed
  | canRefill

structure CircuitVisit where
  circuit : SlotCircuit
  now : ℕ
  call : CircuitCall

namespace CircuitVisit

variable (v : CircuitVisit)

def after : SlotCircuit :=
  match v.call with
  | .recordCrash jitter => (v.circuit.recordCrash v.now jitter).1
  | .markSpawnFailed => v.circuit.markSpawnFailed v.now
  | .canRefill => (v.circuit.canRefill v.now).1

def isCrash : Bool :=
  match v.call with
  | .recordCrash _ => true
  | _ => false

def permits : Bool :=
  match v.call with
  | .recordCrash jitter => (v.circuit.recordCrash v.now jitter).2.permits
  | .markSpawnFailed => false
  | .canRefill => (v.circuit.canRefill v.now).2

def Opens : Prop := v.after.openUntil ≠ none ∧ v.after.openUntil ≠ v.circuit.openUntil

def Probes : Prop := v.circuit.openUntil ≠ none ∧ v.permits = true

/-- The restart that a crash is answered with. -/
def crashRestarts : List ℕ := if v.isCrash && v.permits then [v.now] else []

end CircuitVisit

namespace SlotCircuit

def visits : SlotCircuit → List (ℕ × CircuitCall) → List CircuitVisit
  | _, [] => []
  | c, (now,call) :: calls => ⟨c,now,call⟩ :: visits (CircuitVisit.after ⟨c,now,call⟩) calls

def Shut (c : SlotCircuit) (deadline : ℕ) : Prop := ∃ u, c.openUntil = some u ∧ deadline ≤ u

/-- Since a probe, nothing was recorded or the circuit is open until the window of the probe is over. -/
def OnProbe (c : SlotCircuit) (since : ℕ) : Prop :=
  c = preSeeded since ∨ c.Shut (since + circuitBreakerWindow)

/-- What a call does, by whether it records a crash and whether it permits a restart. -/
inductive Step (c : SlotCircuit) (now : ℕ) : Bool → Bool → SlotCircuit → Prop
  | refused {crash : Bool} {u : ℕ} (hu : c.openUntil = some u) (hlt : now < u) : Step c now crash false c
  | probed {crash : Bool} {u : ℕ} (hu : c.openUntil = some u) (hle : u ≤ now) :
    Step c now crash true (preSeeded now)
  | opened (hn : c.openUntil = none) (h : circuitBreakerThreshold ≤ (c.recentCrashes now).length) :
    Step c now true false ⟨c.recentCrashes now,some (now + circuitBreakerCooldown)⟩
  | failed : Step c now false false (c.markSpawnFailed now)
  | respawned (hn : c.openUntil = none) (h : (c.recentCrashes now).length < circuitBreakerThreshold) :
    Step c now true true ⟨c.recentCrashes now,none⟩
  | refilled (hn : c.openUntil = none) : Step c now false true c

lemma step_visit (v : CircuitVisit) : Step v.circuit v.now v.isCrash v.permits v.after := by
  unfold CircuitVisit.permits CircuitVisit.after CircuitVisit.isCrash
  cases v.call with
  | recordCrash jitter =>
    dsimp only [recordCrash]
    cases hu : v.circuit.openUntil with
    | some u =>
      dsimp only
      split_ifs with hle
      · exact .probed hu hle
      · exact .refused hu (not_le.1 hle)
    | none =>
      split_ifs with hle
      · exact .opened hu hle
      · exact .respawned hu (not_le.1 hle)
  | markSpawnFailed => exact .failed
  | canRefill =>
    dsimp only [canRefill]
    cases hu : v.circuit.openUntil with
    | some u =>
      dsimp only
      split_ifs with hle
      · exact .probed hu hle
      · exact .refused hu (not_le.1 hle)
    | none => exact .refilled hu

section

variable {c c' : SlotCircuit} {now dl since : ℕ} {crash permits : Bool}

lemma Shut.refused (hs : c.Shut dl) (h : Step c now crash permits c') (ht : now < dl) : permits = false := by
  obtain ⟨u,hu,hd⟩ := hs
  cases h with
  | refused | opened | failed => rfl
  | probed hu' hle =>
    rw [hu] at hu'
    cases hu'
    omega
  | respawned hn | refilled hn => simp [hu] at hn

lemma Shut.kept (hs : c.Shut dl) (h : Step c now crash permits c') (ht : now < dl)
    (hd : dl ≤ now + circuitBreakerCooldown) : c'.Shut dl := by
  have hp := hs.refused h ht
  cases h with
  | refused => exact hs
  | opened | failed => exact ⟨_,rfl,hd⟩
  | probed | respawned | refilled => cases hp

lemma Step.openUntil_eq (h : Step c now crash permits c') (hn : c'.openUntil ≠ none)
    (hc : c'.openUntil ≠ c.openUntil) : c'.openUntil = some (now + circuitBreakerCooldown) := by
  cases h with
  | opened | failed => rfl
  | probed | respawned => simp [preSeeded] at hn
  | refused | refilled => exact absurd rfl hc

lemma Step.preSeeded_eq (h : Step c now crash true c') (ho : c.openUntil ≠ none) : c' = preSeeded now := by
  cases h with
  | probed => rfl
  | respawned hn | refilled hn => exact absurd hn ho

lemma recentCrashes_preSeeded (hs : since ≤ now) (ht : now < since + circuitBreakerWindow) :
    (preSeeded since).recentCrashes now = [since,since,now] := by
  have hlt : now - since < circuitBreakerWindow := by omega
  have hp : 0 < circuitBreakerWindow := by decide
  simp [recentCrashes,preSeeded,circuitBreakerThreshold,hlt,hp]

lemma OnProbe.kept (ho : c.OnProbe since) (h : Step c now crash permits c') (hs : since ≤ now)
    (ht : now < since + circuitBreakerWindow) : c'.OnProbe since := by
  have hd : since + circuitBreakerWindow ≤ now + circuitBreakerCooldown := add_le_add hs (by decide)
  obtain rfl | ho := ho
  · cases h with
    | refused hu | probed hu => cases hu
    | opened | failed => exact .inr ⟨_,rfl,hd⟩
    | respawned hn h => simp [recentCrashes_preSeeded hs ht,circuitBreakerThreshold] at h
    | refilled => exact .inl rfl
  · exact .inr (ho.kept h ht hd)

lemma OnProbe.reopened (ho : c.OnProbe since) (h : Step c now true permits c') (hs : since ≤ now)
    (ht : now < since + circuitBreakerWindow) : permits = false ∧ ∃ u, c'.openUntil = some u ∧ now < u := by
  obtain rfl | ho := ho
  · cases h with
    | refused hu | probed hu => cases hu
    | opened => exact ⟨rfl,_,rfl,Nat.lt_add_of_pos_right (by decide)⟩
    | respawned hn h => simp [recentCrashes_preSeeded hs ht,circuitBreakerThreshold] at h
  · obtain ⟨u,hu,hle⟩ := ho.kept h ht (add_le_add hs (by decide))
    exact ⟨ho.refused h ht,u,hu,by omega⟩

end

section

variable {c : SlotCircuit} {cs : List (ℕ × CircuitCall)}

lemma now_mem_of_mem_visits {v : CircuitVisit} (h : v ∈ c.visits cs) : v.now ∈ cs.map Prod.fst := by
  induction cs generalizing c with
  | nil => simp [visits] at h
  | cons call cs ih =>
    obtain rfl | h := mem_cons.1 h
    · simp
    · exact mem_cons_of_mem _ (ih h)

lemma visits_invariant (I : SlotCircuit → Prop) {since deadline : ℕ}
    (hI : ∀ v : CircuitVisit, I v.circuit → since ≤ v.now → v.now < deadline → I v.after)
    (hs : (cs.map Prod.fst).Pairwise (· ≤ ·)) (hle : ∀ t ∈ cs.map Prod.fst, since ≤ t) (h : I c) :
    ∀ v ∈ c.visits cs, v.now < deadline → I v.circuit := by
  induction cs generalizing c with
  | nil => simp [visits]
  | cons call cs ih =>
    simp only [map_cons,pairwise_cons] at hs
    simp only [map_cons,mem_cons,forall_eq_or_imp] at hle
    rintro v hv hd
    obtain rfl | hv := mem_cons.1 hv
    · exact h
    · have hlt := (hs.1 _ (now_mem_of_mem_visits hv)).trans_lt hd
      exact ih hs.2 hle.2 (hI ⟨c,call.1,call.2⟩ h hle.1 hlt) v hv hd

/-- A property of any two calls of which one is made after the other. -/
lemma visits_pairwise {R : CircuitVisit → CircuitVisit → Prop}
    (hR : ∀ (v : CircuitVisit) cs, (cs.map Prod.fst).Pairwise (· ≤ ·) →
      (∀ t ∈ cs.map Prod.fst, v.now ≤ t) → ∀ w ∈ v.after.visits cs, R v w)
    (hs : (cs.map Prod.fst).Pairwise (· ≤ ·)) : (c.visits cs).Pairwise R := by
  induction cs generalizing c with
  | nil => exact .nil
  | cons call cs ih =>
    simp only [map_cons,pairwise_cons] at hs
    exact .cons (hR ⟨c,call.1,call.2⟩ cs hs.2 hs.1) (ih hs.2)

end

section

/-- The restarts so far, which no window holds more of than crashes that the closed circuit remembers. -/
structure Kept (c : SlotCircuit) (restarts : List ℕ) (now : ℕ) : Prop where
  past : ∀ p ∈ restarts, p ≤ now
  windows : ∀ a, restarts.countP (fun p => a ≤ p ∧ p < a + circuitBreakerWindow) ≤ circuitBreakerThreshold - 1
  closed : c.openUntil = none → c.crashTimes.length ≤ circuitBreakerThreshold - 1 ∧
    ∀ a, now < a + circuitBreakerWindow → restarts.countP (a ≤ ·) ≤ c.crashTimes.countP (a ≤ ·)
  opened : ∀ u ∈ c.openUntil, ∀ p ∈ restarts, p + circuitBreakerCooldown ≤ u

variable {c c' : SlotCircuit} {restarts : List ℕ} {now t : ℕ} {crash permits : Bool}

variable (h : Kept c restarts now)
include h

lemma Kept.later (hle : now ≤ t) : Kept c restarts t :=
  ⟨fun p hp => (h.past p hp).trans hle,h.windows,
    fun hn => ⟨(h.closed hn).1,fun a ha => (h.closed hn).2 a (hle.trans_lt ha)⟩,h.opened⟩

lemma Kept.shut (times : List ℕ) : Kept ⟨times,some (now + circuitBreakerCooldown)⟩ restarts now := by
  refine ⟨h.past,h.windows,by simp,?_⟩
  rintro u hu p hp
  cases hu
  exact Nat.add_le_add_right (h.past p hp) _

lemma Kept.restart {times : List ℕ} (hl : times.length ≤ circuitBreakerThreshold - 1)
    (hc : ∀ a, now < a + circuitBreakerWindow → (restarts ++ [now]).countP (a ≤ ·) ≤ times.countP (a ≤ ·)) :
    Kept ⟨times,none⟩ (restarts ++ [now]) now := by
  refine ⟨?_,fun a => ?_,fun _ => ⟨hl,hc⟩,by simp⟩
  · rintro p hp
    obtain hp | hp := mem_append.1 hp
    · exact h.past p hp
    · exact (mem_singleton.1 hp).le
  · by_cases ha : now < a + circuitBreakerWindow
    · calc (restarts ++ [now]).countP (fun p => a ≤ p ∧ p < a + circuitBreakerWindow)
          ≤ (restarts ++ [now]).countP (a ≤ ·) := countP_mono_left fun p _ hp => by simp_all
        _ ≤ times.countP (a ≤ ·) := hc a ha
        _ ≤ _ := countP_le_length.trans hl
    · simpa [ha] using h.windows a

lemma Kept.no_recent {u : ℕ} (hu : c.openUntil = some u) (hle : u ≤ now) {a : ℕ}
    (ha : now < a + circuitBreakerWindow) : restarts.countP (a ≤ ·) = 0 := by
  have hlt : circuitBreakerWindow < circuitBreakerCooldown := by decide
  rw [countP_eq_zero]
  rintro p hp
  have hold := h.opened u hu p hp
  simp only [decide_eq_true_eq]
  omega

omit h

lemma countP_recentCrashes {a : ℕ} (ha : now < a + circuitBreakerWindow) :
    (c.recentCrashes now).countP (a ≤ ·) = (c.crashTimes ++ [now]).countP (a ≤ ·) := by
  rw [recentCrashes,countP_filter]
  refine countP_congr fun t _ => ?_
  have hp : 0 < circuitBreakerWindow := by decide
  simp only [Bool.and_eq_true,decide_eq_true_eq]
  omega

lemma Kept.step (h : Kept c restarts now) (hs : Step c now crash permits c') :
    Kept c' (restarts ++ if crash && permits then [now] else []) now := by
  cases hs with
  | refused => simpa using h
  | opened | failed => simpa [markSpawnFailed] using h.shut _
  | refilled => simpa using h
  | respawned hn hlt =>
    refine h.restart (Nat.le_sub_one_of_lt hlt) fun a ha => ?_
    rw [countP_recentCrashes ha,countP_append,countP_append]
    exact Nat.add_le_add_right ((h.closed hn).2 a ha) _
  | probed hu hle =>
    have hno : ∀ a, now < a + circuitBreakerWindow → restarts.countP (a ≤ ·) = 0 := fun a ha =>
      h.no_recent hu hle ha
    cases crash with
    | true =>
      refine h.restart (by simp) fun a ha => ?_
      rw [countP_append,hno a ha]
      simp [circuitBreakerThreshold,countP_cons]
    | false =>
      refine ⟨by simpa using h.past,by simpa using h.windows,fun _ => ⟨by simp [preSeeded],fun a ha => ?_⟩,
        by simp [preSeeded]⟩
      simp [hno a ha]

lemma Kept.visits {calls : List (ℕ × CircuitCall)} (h : Kept c restarts now)
    (hs : (calls.map Prod.fst).Pairwise (· ≤ ·)) (hle : ∀ t ∈ calls.map Prod.fst, now ≤ t) (a : ℕ) :
    (restarts ++ (c.visits calls).flatMap CircuitVisit.crashRestarts).countP
      (fun p => a ≤ p ∧ p < a + circuitBreakerWindow) ≤ circuitBreakerThreshold - 1 := by
  induction calls generalizing c restarts now with
  | nil => simpa [SlotCircuit.visits] using h.windows a
  | cons call calls ih =>
    simp only [map_cons,pairwise_cons] at hs
    have hk := (h.later (hle call.1 (by simp))).step (step_visit ⟨c,call.1,call.2⟩)
    have ht := ih hk hs.2 hs.1
    rwa [append_assoc] at ht

end

/-- The breaker of a slot over every list of calls at times that do not go back. -/
theorem crash_loop_broken {calls : List (ℕ × CircuitCall)} (hs : (calls.map Prod.fst).Pairwise (· ≤ ·)) :
    (visits ⟨[],none⟩ calls).Pairwise (fun v w =>
      v.Opens → w.now < v.now + circuitBreakerCooldown → w.permits = false) ∧
    (∀ a, ((visits ⟨[],none⟩ calls).flatMap CircuitVisit.crashRestarts).countP
      (fun p => a ≤ p ∧ p < a + circuitBreakerWindow) ≤ circuitBreakerThreshold - 1) ∧
    (visits ⟨[],none⟩ calls).Pairwise fun v w =>
      v.Probes → w.isCrash = true → w.now < v.now + circuitBreakerWindow →
        w.permits = false ∧ ∃ u, w.after.openUntil = some u ∧ w.now < u := by
  refine ⟨visits_pairwise ?_ hs,fun a => ?_,visits_pairwise ?_ hs⟩
  · rintro v calls hs hle w hw ho ht
    have hsh : v.after.Shut (v.now + circuitBreakerCooldown) :=
      ⟨_,(step_visit v).openUntil_eq ho.1 ho.2,le_rfl⟩
    refine Shut.refused (visits_invariant (Shut · (v.now + circuitBreakerCooldown)) ?_ hs hle hsh w hw ht)
      (step_visit w) ht
    exact fun v' h hs ht => h.kept (step_visit v') ht (Nat.add_le_add_right hs _)
  · have hk : Kept ⟨[],none⟩ [] 0 := ⟨by simp,by simp,by simp,by simp⟩
    simpa using hk.visits hs (by simp) a
  · rintro v calls hs hle w hw ⟨ho,hp⟩ hc ht
    have hv := step_visit v
    rw [hp] at hv
    have hpr : v.after.OnProbe v.now := .inl (hv.preSeeded_eq ho)
    have hw' := step_visit w
    rw [hc] at hw'
    refine OnProbe.reopened (visits_invariant (OnProbe · v.now) ?_ hs hle hpr w hw ht) hw'
      (hle _ (now_mem_of_mem_visits hw)) ht
    exact fun v' h hs ht => h.kept (step_visit v') hs ht

def crashLoop : List (ℕ × CircuitCall) :=
  [(0,.recordCrash id),(10^9,.recordCrash id),(2*10^9,.recordCrash id),(302*10^9,.canRefill)]

theorem crash_loop_broken_refill : ((visits ⟨[],none⟩ crashLoop).map CircuitVisit.permits) =
    [true,true,false,true] ∧
    (visits ⟨[],none⟩ crashLoop).Pairwise fun v w =>
      v.Opens → w.now < v.now + circuitBreakerCooldown → w.permits = false :=
  ⟨by decide,(crash_loop_broken (by decide)).1⟩

end SlotCircuit

end BuzzSolo.Acp
