import BuzzSolo.HandoffOrder

/-! Strangers to a handoff. An event whose signer no open names and whose effective owner
owns no open is accepted nowhere, whatever it links and says, so it can only show up among
the ignored events. -/
namespace BuzzSolo.Handoff

open Checks HexText OwnerAttestation List

/-- The event is no open, no open of the list names its signer, and its effective owner, if
it has one, is not the effective owner of any of them. -/
structure Stranger (C : Crates) (events : List Event) (x : Event) : Prop where
  not_open : lifecycle x.toEventBody ≠ some handoffOpen
  signer : ∀ o ∈ events, lifecycle o.toEventBody = some handoffOpen →
    x.pubkey.toHex ∉ tagValues o.toEventBody "p"
  owner : ∀ w, eventOwner C.toSchnorr x.toEventBody = .ok w → ∀ o ∈ events,
    lifecycle o.toEventBody = some handoffOpen → eventOwner C.toSchnorr o.toEventBody ≠ .ok w

/-- An event that fails the validation may stand anywhere. -/
lemma accepted_insert {val : Event → Except String Unit} {x : Event} (before after : List Event)
    (step id : String) (h : val x ≠ .ok ()) : accepted val (stepEvents (before ++ x :: after) step id) =
      accepted val (stepEvents (before ++ after) step id) := by
  have hx : (val x).toBool = false := by
    cases hv : val x with
    | error why => rfl
    | ok u => exact absurd hv h
  rw [accepted,accepted,stepEvents,stepEvents,filter_filter,filter_filter]
  simp [hx]

section

variable {C : Crates} {o x : Event} {a : OpenAuthority} {bef aft : List Event}
variable (hx : Stranger C (bef ++ aft) x)

section

variable (ho : o ∈ bef ++ aft) (hlife : lifecycle o.toEventBody = some handoffOpen)
variable (h : validateOpen C o = .ok a)

include hx ho hlife h

lemma claim_inert : validateClaim C a x ≠ .ok () := by
  intro hv
  have hc := ((authorizes_of_validateOpen h).validateClaim_iff x).1 hv
  exact hx.signer o ho hlife hc.signer

lemma return_inert {cl : Event} {es : List Event}
    (hc : cl ∈ acceptedClaims C a es) : validateReturn C a cl x ≠ .ok () := by
  intro hv
  have ha := authorizes_of_validateOpen h
  have hr := (ha.validateReturn_iff cl x).1 hv
  apply hx.signer o ho hlife
  rw [hr.signer]
  exact (ha.mem_acceptedClaims.1 hc).2.signer

lemma close_inert (ret : Event) : validateClose C a ret x ≠ .ok () := by
  intro hv
  obtain ⟨w,hw,hop⟩ := ((authorizes_of_validateOpen h).validateClose_iff ret x).1 hv |>.owner
  exact hx.owner w hw o ho hlife hop

lemma acceptedClaims_insert : acceptedClaims C a (bef ++ x :: aft) = acceptedClaims C a (bef ++ aft) :=
  accepted_insert bef aft _ _ (claim_inert hx ho hlife h)

lemma claimsByAuthor_insert : claimsByAuthor C a (bef ++ x :: aft) = claimsByAuthor C a (bef ++ aft) := by
  rw [claimsByAuthor,claimsByAuthor,acceptedClaims_insert hx ho hlife h]

lemma conflicted_insert : conflicted C a (bef ++ x :: aft) = conflicted C a (bef ++ aft) := by
  rw [conflicted,conflicted,claimsByAuthor_insert hx ho hlife h]

lemma chosenClaim_insert : chosenClaim C a (bef ++ x :: aft) = chosenClaim C a (bef ++ aft) := by
  rw [chosenClaim,chosenClaim,sortedClaims,sortedClaims,conflicted_insert hx ho hlife h,
    acceptedClaims_insert hx ho hlife h]

lemma chosenReturn_insert : chosenReturn C a (bef ++ x :: aft) = chosenReturn C a (bef ++ aft) := by
  rw [chosenReturn,chosenReturn,chosenClaim_insert hx ho hlife h]
  refine Option.bind_congr fun cl hc => ?_
  have hcl : cl ∈ acceptedClaims C a (bef ++ aft) := by
    unfold chosenClaim at hc
    split at hc
    · simp at hc
    · exact ((SortedSelection.picks_head? _).some cl hc).1
  rw [newestReturn,newestReturn,accepted_insert bef aft _ _ (return_inert hx ho hlife h hcl)]

lemma chosenClose_insert : chosenClose C a (bef ++ x :: aft) = chosenClose C a (bef ++ aft) := by
  rw [chosenClose,chosenClose,chosenReturn_insert hx ho hlife h]
  refine Option.bind_congr fun ret _ => ?_
  rw [firstClose,firstClose,accepted_insert bef aft _ _ (close_inert hx ho hlife h ret)]

lemma core_insert_valid :
    core (reduceHandoff C o (bef ++ x :: aft)) = core (reduceHandoff C o (bef ++ aft)) := by
  rw [reduceHandoff_eq C a _ h,reduceHandoff_eq C a _ h,core_stateFromAuthority,core_stateFromAuthority,
    chosenState,chosenState,conflicted_insert hx ho hlife h,claimsByAuthor_insert hx ho hlife h,
    chosenClaim_insert hx ho hlife h,chosenReturn_insert hx ho hlife h,chosenClose_insert hx ho hlife h]

end

include hx

lemma invalidOpens_insert : invalidOpens C (bef ++ x :: aft) = invalidOpens C (bef ++ aft) := by
  simp [invalidOpens,filterMap_append,hx.not_open]

lemma ack_inert (ids : List String) : validateInvalidAck C (invalidOpens C (bef ++ aft)) x ≠ .ok ids := by
  intro hv
  simp only [validateInvalidAck,bind_eq_ok,require_eq_ok,exists_unit] at hv
  obtain ⟨-,ctx,-,w,hw,⟨hne,-⟩,-,-,fds,-,-,xs,-,-,targets,-,-,hs,checks,hch,-⟩ := hv
  obtain ⟨id,hid⟩ := exists_mem_of_ne_nil _ hne
  have ht : id ∈ sortedSet targets := by
    rw [hs,mem_sortedSet]
    exact hid
  obtain ⟨_,hc⟩ := ok_of_collect hch ht
  simp only [checkAckTarget,bind_eq_ok,require_eq_ok,okOr_eq_ok,exists_unit] at hc
  obtain ⟨v,hv,-,-,rfl⟩ := hc
  obtain ⟨-,o,ho,hlife,-,hi⟩ := mem_invalidOpens.1 (mem_of_lastOf hv)
  exact hx.owner _ hw o ho hlife (invalidOpenAuthority_eq_ok.1 hi).2.2.2.1

lemma ackedBy_insert (oid : String) :
    ackedBy C (bef ++ x :: aft) oid = ackedBy C (bef ++ aft) oid := by
  have hn : acceptedAcks C (invalidOpens C (bef ++ aft)) x = [] := by
    rw [acceptedAcks]
    split
    · rename_i ids hv
      exact absurd hv (ack_inert hx ids)
    · rfl
  have ha : (ackEvents (bef ++ x :: aft)).flatMap (acceptedAcks C (invalidOpens C (bef ++ aft))) =
      (ackEvents (bef ++ aft)).flatMap (acceptedAcks C (invalidOpens C (bef ++ aft))) := by
    simp only [ackEvents,filter_append,flatMap_append]
    by_cases hac : lifecycle x.toEventBody = some handoffAckInvalid <;> simp [hac,hn]
  rw [ackedBy,ackedBy,invalidOpens_insert hx,ha]

lemma core_insert (ho : o ∈ bef ++ aft) (hlife : lifecycle o.toEventBody = some handoffOpen) :
    core (reduceHandoff C o (bef ++ x :: aft)) = core (reduceHandoff C o (bef ++ aft)) := by
  cases h : validateOpen C o with
  | error why =>
    rw [reduceHandoff_invalid _ h,reduceHandoff_invalid _ h]
    apply core_invalidState
    rw [acks_acceptedByOpen,acks_acceptedByOpen,ackedBy_insert hx]
  | ok a => exact core_insert_valid hx ho hlife h

end

/-- Strangers are inert. An event of a stranger, put anywhere into the list, changes neither
which handoffs are reported nor anything in a report but the ignored events. -/
theorem strangers_inert (C : Crates) (selected : Option String) (before after : List Event) (x : Event)
    (hx : Stranger C (before ++ after) x) : (handoffs C selected (before ++ x :: after)).map core =
      (handoffs C selected (before ++ after)).map core := by
  have hop : reportedOpens selected (before ++ x :: after) = reportedOpens selected (before ++ after) := by
    simp [reportedOpens,hx.not_open]
  have hs : ∀ events, (handoffs C selected events).map core =
      ((reportedOpens selected events).map fun o => core (reduceHandoff C o events)).insertionSort
        ReportOrder := by
    intro events
    have h := map_insertionSort (r := ReportOrder) (s := ReportOrder) core
      ((reportedOpens selected events).map fun o => reduceHandoff C o events)
      (fun _ _ _ _ => Iff.rfl)
    rw [map_map] at h
    exact h
  rw [hs,hs,hop]
  congr 1
  refine map_congr_left fun o ho => ?_
  obtain ⟨hin,hc⟩ := mem_filter.1 ho
  simp only [Bool.and_eq_true,decide_eq_true_eq] at hc
  exact core_insert hx hin hc.1

/-- A claim of the handoff by a key that the open does not name. -/
def strangerClaim : Event where
  pubkey := .ofNat 32 0xe493dbf1c10d80f3581e4904930b1404cc6c13900ee0758474fa94abe8c4cd13
  createdAt := 1700001020
  kind := 1
  tags := [⟨"t",["handoff:claim"]⟩,⟨"h",["buzz"]⟩,⟨"e",[parserOpen.id.toHex,"","root"]⟩]
  content := ""
  id := .ofNat 32 0xbb2cbde11d50489fd466a1c4dea8902e8309bbf2249463132b1de5a1c23d06b1
  sig := .ofNat 64 0x16d4cfdb03f9a354d008678a0287610c06e4ac7a4cc48bfa090258b429e574794bd451e4fbc67e7303cbd81acb4b14259e9137f434cee91adf1b42797e91b37e

theorem strangers_inert_port : let C := parserCrates (strangerClaim :: parserEvents)
    Stranger C [parserOpen,parserClaim] strangerClaim ∧
    (handoffs C none [parserOpen,strangerClaim,parserClaim]).map core =
      (handoffs C none [parserOpen,parserClaim]).map core := by
  intro C
  have how : eventOwner C.toSchnorr strangerClaim.toEventBody = .ok strangerClaim.pubkey := by
    decide +kernel
  have hx : Stranger C [parserOpen,parserClaim] strangerClaim := by
    refine ⟨by decide +kernel,by decide +kernel,fun w hw => ?_⟩
    cases hw
    decide +kernel
  exact ⟨hx,strangers_inert C none [parserOpen] [parserClaim] strangerClaim hx⟩

end BuzzSolo.Handoff
