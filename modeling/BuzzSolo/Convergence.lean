import BuzzSolo.RestartTransparency

/-! Convergence of the effective list. In whatever order the same events arrive, a store keeps every
regular event and the winner of each replacement key; of two copies that differ in their signature
only, it keeps the one that came first. -/
namespace BuzzSolo.EventStore

open Ingest LatestRegister List

variable {X : Crates}

def acceptAll (X : Crates) (writer : Option ByteArray) (events : List Event) : Store :=
  events.foldl (fun s e => (accept X .synced s e).1) ⟨[],[],∅,writer⟩

/-- `w` is newer than `e`, or as old with an id that is not greater. -/
def Outranks (w e : Event) : Prop :=
  e.createdAt < w.createdAt ∨ (e.createdAt = w.createdAt ∧ w.id.toHex ≤ e.id.toHex)

/-- What the effective list of the events `xs` is: every regular event, and for each key
the one event of the key that no other outranks. -/
structure Converged (xs : List Event) (effective : List StoredEvent) : Prop where
  submitted : ∀ s ∈ effective, s.event ∈ xs
  regular : ∀ e ∈ xs, replacementKey e = none → unsigned e ∈ effective.map fun s => unsigned s.event
  winner : ∀ e ∈ xs, ∀ key, replacementKey e = some key → ∃ w ∈ effective, replacementKey w.event = some key ∧
      (∀ r ∈ xs, replacementKey r = some key → Outranks w.event r) ∧
      ∀ s ∈ effective, replacementKey s.event = some key → s = w

lemma outranks_iff (w e : Event) : Outranks w e ↔ rank e ≤ rank w := by
  rw [rank,rank,Prod.Lex.toLex_le_toLex]
  rfl

lemma acceptAll_refines (wr : Option ByteArray) (es : List Event)
    (hcol : NoCollision X.toNostr es) (hs : ∀ e ∈ es, Serializes X e) : Refines X es (acceptAll X wr es) := by
  induction es using reverseRecOn with
  | nil => exact refines_empty wr
  | append_singleton es e ih =>
    have hr := ih (hcol.subset fun _ => mem_append_left _)
      fun a ha => hs a (mem_append_left _ ha)
    simpa [acceptAll] using accept_refines hcol (hs e (by simp)) hr

section

variable {xs : List Event} (hcol : NoCollision X.toNostr xs) (hadm : ∀ e ∈ xs, Admitted X e)

include hcol

lemma mem_of_mem_kept {s : StoredEvent} (hs : s ∈ (ledger X xs).kept) :
    ∃ e ∈ xs, Admitted X e ∧ storedEvent X e = s :=
  mem_admitted.1 ((sound_ledger hcol).history_mem s ((sound_ledger hcol).kept_mem s hs))

include hadm in
/-- Each submitted event is covered by a kept event: a copy of it, or a rival that ranks
at least as high. -/
lemma kept_of_mem {e : Event} (he : e ∈ xs) : ∃ w ∈ (ledger X xs).kept, unsigned w.event = unsigned e ∨
      (Rivals stream w (storedEvent X e) ∧ rank e ≤ rank w.event) := by
  have had := mem_admitted.2 ⟨e,he,hadm e he,rfl⟩
  obtain ⟨w,hw,hid | hr⟩ := (sound_ledger hcol).covered _ had
  · obtain ⟨a,ha,hva,rfl⟩ := mem_of_mem_kept hcol hw
    exact ⟨storedEvent X a,hw,.inl (unsigned_eq_of_id_eq hcol ha he hva.1 (hadm e he).1 hid)⟩
  · exact ⟨w,hw,.inr hr⟩

include hadm in
lemma converged_ledger : Converged xs (ledger X xs).kept := by
  have hkey : ∀ {a b : Event}, unsigned a = unsigned b → replacementKey a = replacementKey b ∧
      rank a = rank b := by
    intro a b h
    have hb : a.toEventBody = b.toEventBody := congrArg Prod.snd h
    exact ⟨replacementKey_congr hb,rank_congr hb (congrArg Prod.fst h)⟩
  refine ⟨?_,?_,?_⟩
  · intro s hs
    obtain ⟨a,ha,-,rfl⟩ := mem_of_mem_kept hcol hs
    exact ha
  · intro e he hn
    obtain ⟨w,hw,hc | ⟨hr,-⟩⟩ := kept_of_mem hcol hadm he
    · exact mem_map.2 ⟨w,hw,hc⟩
    · exact absurd hn hr.1
  · intro e he key hk
    obtain ⟨w,hw,hwk⟩ : ∃ w ∈ (ledger X xs).kept, replacementKey w.event = some key := by
      obtain ⟨w,hw,hc | ⟨hr,-⟩⟩ := kept_of_mem hcol hadm he
      · exact ⟨w,hw,(hkey hc).1.trans hk⟩
      · exact ⟨w,hw,hr.2.trans hk⟩
    have ho : ∀ s ∈ (ledger X xs).kept, replacementKey s.event = some key → s = w := by
      intro s hs hsk
      have hr : Rivals stream s w := ⟨by simp [hwk],by simp [hsk,hwk]⟩
      exact (sound_ledger hcol).separated.eq_of_rivals hs hw hr
    refine ⟨w,hw,hwk,?_,ho⟩
    intro r hr hrk
    rw [outranks_iff]
    obtain ⟨v,hv,hc | ⟨hri,hle⟩⟩ := kept_of_mem hcol hadm hr
    · have hvw := ho v hv ((hkey hc).1.trans hrk)
      exact hvw ▸ (hkey hc).2.ge
    · have hvw := ho v hv (hri.2.trans hrk)
      exact hvw ▸ hle

/-- What the register keeps of an event set does not depend on the order it came in: the
kept ids are those of the latest events. -/
lemma kept_subset {ys : List Event} (hsa : ∀ e, e ∈ xs ↔ e ∈ ys) {u : EventId × EventBody}
    (hu : u ∈ (ledger X xs).kept.map fun s => unsigned s.event) :
    u ∈ (ledger X ys).kept.map fun s => unsigned s.event := by
  have hcol' : NoCollision X.toNostr ys := hcol.subset fun e he => (hsa e).2 he
  have had : ∀ t, t ∈ admitted X xs ↔ t ∈ admitted X ys := by
    intro t
    simp only [mem_admitted,hsa]
  obtain ⟨s,hs,rfl⟩ := mem_map.1 hu
  obtain ⟨y,⟨hy,hm⟩,hid⟩ := (kept_ident_iff (admitted X xs) (consistent_admitted hcol)
    (fun _ _ _ _ h => rank_inj _ _ h) s.event.id).1 ⟨s,hs,rfl⟩
  obtain ⟨t,ht,hti⟩ := (kept_ident_iff (admitted X ys) (consistent_admitted hcol')
    (fun _ _ _ _ h => rank_inj _ _ h) s.event.id).2
    ⟨y,⟨(had y).1 hy,fun z hz => hm z ((had z).2 hz)⟩,hid⟩
  obtain ⟨a,ha,hva,rfl⟩ := mem_of_mem_kept hcol hs
  obtain ⟨b,hb,hvb,rfl⟩ := mem_of_mem_kept hcol' ht
  exact mem_map.2 ⟨_,ht,unsigned_eq_of_id_eq hcol ((hsa b).2 hb) ha hvb.1 hva.1 hti⟩

end

/-- Convergence: two stores that were given the same verified durable events, in any order
and any number of times, hold the same unsigned effective events. -/
theorem effective_convergence (X : Crates) (writer writer' : Option ByteArray)
    (xs ys : List Event) (hsame : ∀ e, e ∈ xs ↔ e ∈ ys) (hadm : ∀ e ∈ xs, Admitted X e)
    (hser : ∀ e ∈ xs, Serializes X e) (hcol : NoCollision X.toNostr xs) :
    Converged xs (acceptAll X writer xs).events ∧ Converged xs (acceptAll X writer' ys).events ∧
    ∀ u, u ∈ (acceptAll X writer xs).events.map (fun s => unsigned s.event) ↔
      u ∈ (acceptAll X writer' ys).events.map (fun s => unsigned s.event) := by
  have hcol' := hcol.subset fun e he => (hsame e).2 he
  have hadm' := fun e he => hadm e ((hsame e).2 he)
  have hs := acceptAll_refines writer xs hcol hser
  have ht := acceptAll_refines writer' ys hcol' fun e he => hser e ((hsame e).2 he)
  have hcs : Converged xs (acceptAll X writer xs).events := by
    rw [hs.events_eq]
    exact converged_ledger hcol hadm
  have hct : Converged ys (acceptAll X writer' ys).events := by
    rw [ht.events_eq]
    exact converged_ledger hcol' hadm'
  refine ⟨hcs,⟨?_,?_,?_⟩,fun u => ⟨?_,?_⟩⟩
  · exact fun s hs => (hsame _).2 (hct.submitted s hs)
  · exact fun e he => hct.regular e ((hsame e).1 he)
  · intro e he key hk
    obtain ⟨w,hw,hwk,hb,ho⟩ := hct.winner e ((hsame e).1 he) key hk
    exact ⟨w,hw,hwk,fun r hr => hb r ((hsame r).1 hr),ho⟩
  · rw [hs.events_eq,ht.events_eq]
    exact kept_subset hcol hsame
  · rw [hs.events_eq,ht.events_eq]
    exact kept_subset hcol' fun e => (hsame e).symm

/-- The crates on the profile and the note; all three events verify and are durable. -/
def profileCrates : Crates := signedOnly [newProfile,oldProfile,note] fun _ => none

theorem effective_convergence_profile : Converged [newProfile,oldProfile,note]
      (acceptAll profileCrates (some ByteArray.empty) [newProfile,oldProfile,note]).events ∧
    Converged [newProfile,oldProfile,note]
      (acceptAll profileCrates none [oldProfile,note,newProfile,note,oldProfile]).events ∧
    ∀ u, u ∈ (acceptAll profileCrates (some ByteArray.empty)
        [newProfile,oldProfile,note]).events.map (fun s => unsigned s.event) ↔
          u ∈ (acceptAll profileCrates none
        [oldProfile,note,newProfile,note,oldProfile]).events.map (fun s => unsigned s.event) := by
  have hi : IdsMatch [newProfile,oldProfile,note] := by decide +kernel
  have hs : ∀ e, e ∈ [newProfile,oldProfile,note] ↔ e ∈ [oldProfile,note,newProfile,note,oldProfile] := by
    simp only [mem_cons]
    tauto
  have hd : ∀ e ∈ [newProfile,oldProfile,note], isEphemeralKind e.kind = false := by decide
  exact effective_convergence profileCrates (some ByteArray.empty) none _ _ hs
    (fun e he => ⟨verified_signedOnly hi he,hd e he⟩) (fun e _ => rfl)
    (noCollision_signedOnly hi)

/-- The note once more, under another valid signature of its author. -/
def noteResigned : Event :=
  { note with
    sig := .ofNat 64 0xf1bc6b89d2162a06c7734dfe34d2a9d6fecb64e6f9e9618eed04e2ad2eaea40e98c9f7d3b0952e8aa170916126c3f21dbc3c9d6b73d3234bdf3dae1005818ceb }

/-- Signatures are not unique, and the copy that arrives first is the one that is served. -/
theorem effective_copy_by_arrival : let X := signedOnly [note,noteResigned] fun _ => none
    (∀ e ∈ [note,noteResigned], Admitted X e) ∧ [note,noteResigned].Perm [noteResigned,note] ∧
    (acceptAll X (some ByteArray.empty) [note,noteResigned]).events.map StoredEvent.event = [note] ∧
    (acceptAll X (some ByteArray.empty) [noteResigned,note]).events.map StoredEvent.event = [noteResigned] ∧
    note ≠ noteResigned := by
  decide +kernel

end BuzzSolo.EventStore
