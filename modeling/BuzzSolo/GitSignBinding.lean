import BuzzSolo.GitSignRoundTrip

/-! What a git signature binds. The signed bytes are delimited by colons that no part holds, and
only an absent attestation leaves no trace: one can be taken for the beginning of an unattested
payload. -/
namespace BuzzSolo.GitSign

open ByteText Checks HexText JsonText

section

variable {Key : Type} {X : Crates Key}

lemma colon_not_mem_utf8 {s : String} (h : IsPlain s) : (58 : UInt8) ∉ utf8 s := by
  rw [utf8_of_ascii h.ascii]
  intro hm
  obtain ⟨c,hc,hco⟩ := List.mem_map.1 hm
  have hp := h c hc
  simp only [isPlainChar,decide_eq_true_eq] at hp
  have hcode := congrArg UInt8.toNat hco
  rw [ascii,toNat_ofNat_lt (by omega)] at hcode
  exact hp.2.2.2.1 hcode

lemma utf8_colon : utf8 ":" = [58] := by decide

lemma part_unique_utf8 {s₁ s₂ : String} {r₁ r₂ : List UInt8} (h₁ : IsPlain s₁) (h₂ : IsPlain s₂)
    (h : utf8 s₁ ++ 58 :: r₁ = utf8 s₂ ++ 58 :: r₂) : s₁ = s₂ ∧ r₁ = r₂ := by
  obtain ⟨hs,hr⟩ := part_unique (colon_not_mem_utf8 h₁) (colon_not_mem_utf8 h₂) h
  exact ⟨utf8_injective hs,hr⟩

lemma signingInput_eq (t : ℕ) (oa : Option OwnerTag) (pay : List UInt8) :
    signingInput t oa pay = utf8 domainSeparator ++ (utf8 t.repr ++ 58 :: (oaBinding oa ++ pay)) := by
  simp [signingInput,utf8_colon]

lemma oaBinding_some_append (oa : OwnerTag) (pay : List UInt8) : oaBinding (some oa) ++ pay =
      utf8 oa.owner ++ 58 :: (utf8 oa.conditions ++ 58 :: (utf8 oa.sig ++ 58 :: pay)) := by
  simp [oaBinding,utf8_colon]

variable {oa₁ oa₂ : Option OwnerTag} {p₁ p₂ : List UInt8}

/-- The timestamp is read off the signed bytes, whatever follows it. -/
lemma signingInput_unique {t₁ t₂ : ℕ} (h : signingInput t₁ oa₁ p₁ = signingInput t₂ oa₂ p₂) :
    t₁ = t₂ ∧ oaBinding oa₁ ++ p₁ = oaBinding oa₂ ++ p₂ := by
  rw [signingInput_eq,signingInput_eq] at h
  obtain ⟨ht,hr⟩ := part_unique_utf8 (isPlain_repr t₁) (isPlain_repr t₂) (List.append_cancel_left h)
  have hc : ":".toList.head? = some ':' := by decide
  have hn : t₁.repr ++ ":" = t₂.repr ++ ":" := by rw [ht]
  exact ⟨(repr_unique hc hc (by decide) (by decide) hn).1,hr⟩

variable {pk₁ pk₂ : String}

lemma oaBinding_unique {oa₁ oa₂ : OwnerTag}
    (h₁ : validateOa X pk₁ oa₁ = .ok ()) (h₂ : validateOa X pk₂ oa₂ = .ok ())
    (h : oaBinding (some oa₁) ++ p₁ = oaBinding (some oa₂) ++ p₂) : oa₁ = oa₂ ∧ p₁ = p₂ := by
  obtain ⟨howner₁,hsig₁,hcond₁,-,-⟩ := validateOa_eq_ok.1 h₁
  obtain ⟨howner₂,hsig₂,hcond₂,-,-⟩ := validateOa_eq_ok.1 h₂
  rw [oaBinding_some_append,oaBinding_some_append] at h
  obtain ⟨ho,h⟩ := part_unique_utf8 howner₁.isPlain howner₂.isPlain h
  obtain ⟨hc,h⟩ := part_unique_utf8 (isPlain_of_validateConditions hcond₁)
    (isPlain_of_validateConditions hcond₂) h
  obtain ⟨hs,hp⟩ := part_unique_utf8 hsig₁.isPlain hsig₂.isPlain h
  cases oa₂
  cases ho
  cases hc
  cases hs
  exact ⟨rfl,hp⟩

/-- The bytes that bind an attestation can stand at the beginning of the payload instead. -/
lemma signingInput_absorbed (t : ℕ) (oa : OwnerTag) (pay : List UInt8) :
    signingInput t (some oa) pay = signingInput t none (oaBinding (some oa) ++ pay) := by
  simp [signingInput,oaBinding]

/-- The payload does not begin with the bytes that some well-formed attestation is bound by. -/
def Unambiguous (X : Crates Key) (payload : List UInt8) : Prop :=
  ∀ pk oa, validateOa X pk oa = .ok () → ¬oaBinding (some oa) <+: payload

variable {i : SignInput} {s : Signed} {e : Envelope} {pay : List UInt8}

/-- The signature of an accepted envelope that signing has made was made for the same digest and key. -/
lemma digest_of_accepted (hi : Ideal X) {res : OaVerifyResult} (hs : doSign X i = .ok s) (he : WellFormed X e)
    (hc : checkSignature X e pay = .ok res) (hsi : e.sig = s.envelope.sig) :
    computeSigningHash X e.t e.oa pay =
      computeSigningHash X s.envelope.t s.envelope.oa i.payload ∧ e.pk = s.envelope.pk := by
  obtain ⟨raw,key,-,-,-,-,-,-,-,hpk,hm,-⟩ := doSign_eq_ok hs
  obtain ⟨pk,sig,hk,-,hr,hv,-⟩ := checkSignature_eq_ok.1 hc
  rw [hsi,hm,FixedBytes.fromHex_toHex] at hr
  cases hr
  obtain ⟨hd,rfl⟩ := (hi.verify _ _ _ _).1 hv
  obtain ⟨pk,hpe⟩ := FixedBytes.exists_toHex (n := 32) he.pk.2
    ((utf8ByteSize_of_ascii he.pk.isPlain.ascii).symm.trans he.pk.1)
  simp only [GitSign.parseBip340Pubkey,← hpe,hi.fromHex,bind_eq_ok,Except.ok.injEq,exists_eq_left'] at hk
  obtain ⟨-,-,rfl⟩ := hk
  exact ⟨hd,hpe.symm.trans hpk.symm⟩

lemma WellFormed.exists_checkOa (h : WellFormed X e) : ∃ res, checkOa X e = .ok res := by
  rcases hoa : e.oa with _ | oa
  · exact ⟨.absent,by simp [checkOa,hoa]⟩
  · obtain ⟨-,-,-,⟨ow,ho⟩,-⟩ := validateOa_eq_ok.1 (h.oa oa hoa)
    simp only [checkOa,hoa,bind_eq_ok,relabelled_ok]
    by_cases hv : verifyOa X e.pk oa = false
    · exact ⟨.invalidSignature,ow,ho,by rw [if_pos hv]⟩
    · cases he : enforceConditions oa.conditions e.t with
      | error msg => exact ⟨.conditionsViolated,ow,ho,by rw [if_neg hv]⟩
      | ok u => exact ⟨.valid,ow,ho,by rw [if_neg hv]⟩

lemma accepted_of_signingInput (hj : ConformingJson X.parseJson) (hi : Ideal X) {oa : Option OwnerTag}
    (hs : doSign X i = .ok s) (hoa : ∀ a ∈ oa, validateOa X s.envelope.pk a = .ok ())
    (hsize : (buildEnvelope s.envelope.pk s.envelope.sig s.envelope.t oa).utf8ByteSize ≤ maxJsonDecoded)
    (hl : pay.length ≤ maxPayload)
    (hin : signingInput s.envelope.t oa pay = signingInput s.envelope.t s.envelope.oa i.payload)
    (path : String) (sk : Option String) : ∃ file e lns,
      readEnvelope X path file = .ok e ∧ e.sig = s.envelope.sig ∧ e.oa = oa ∧ e.t = s.envelope.t ∧
        doVerify X path file sk pay = .ok lns ∧ goodsig s.envelope.pk ∈ lns := by
  obtain ⟨raw,key,-,-,-,-,-,-,-,hpk,hsg,-⟩ := doSign_eq_ok hs
  have hwf := wellFormed_of_doSign hs
  have hwf : WellFormed X { s.envelope with oa := oa } := ⟨hwf.pk,hwf.sig,hwf.t,hoa⟩
  have hr := hwf.readEnvelope_armor hj hsize path
  obtain ⟨res,hre⟩ := hwf.exists_checkOa
  have hd : computeSigningHash X s.envelope.t oa pay =
      computeSigningHash X s.envelope.t s.envelope.oa i.payload := congrArg X.sha256 hin
  have hch := checkSignature_of_sign (e := { s.envelope with oa := oa }) hi hpk hsg hd hl hre
  obtain ⟨lns,hv,hg,-⟩ := doVerify_of_checkSignature sk hr hch
  exact ⟨_,_,lns,hr,rfl,rfl,rfl,hv,hg⟩

/-- The signed bytes determine the message exactly when it has no attestation and its payload does not
begin like one. A signature is accepted for its own message only, as long as inputs do not collide under
the hash, exactly when the message has an attestation that is too long to go before the payload, or none,
and the payload begins with none that the envelope could hold. -/
theorem signature_binds_message (hjson : ConformingJson X.parseJson) (hideal : Ideal X) :
    (∀ t oa pk p, (∀ a ∈ oa, validateOa X pk a = .ok ()) →
      ((∀ t' oa' pk' p', (∀ a ∈ oa', validateOa X pk' a = .ok ()) →
        signingInput t oa p = signingInput t' oa' p' → t = t' ∧ oa = oa' ∧ p = p') ↔
      oa = none ∧ Unambiguous X p)) ∧
    ∀ i s, doSign X i = .ok s →
      ((∀ path file signingKey payload lines e, doVerify X path file signingKey payload = .ok lines →
        readEnvelope X path file = .ok e → e.sig = s.envelope.sig →
        (computeSigningHash X e.t e.oa payload = computeSigningHash X s.envelope.t s.envelope.oa i.payload →
          signingInput e.t e.oa payload = signingInput s.envelope.t s.envelope.oa i.payload) →
        payload = i.payload ∧ e.oa = s.envelope.oa ∧ e.t = s.envelope.t) ↔
      (∀ oa ∈ s.envelope.oa, maxPayload < (oaBinding (some oa) ++ i.payload).length) ∧
      (s.envelope.oa = none → ∀ oa, validateOa X s.envelope.pk oa = .ok () →
        (buildEnvelope s.envelope.pk s.envelope.sig s.envelope.t (some oa)).utf8ByteSize ≤ maxJsonDecoded →
        ¬oaBinding (some oa) <+: i.payload)) := by
  refine ⟨fun t oa pk p hoa => ⟨fun h => ?_,?_⟩,fun i s hs => ⟨fun h => ⟨?_,?_⟩,?_⟩⟩
  · cases oa with
    | some a => exact nomatch (h t none pk _ (by simp) (signingInput_absorbed t a p)).2.1
    | none =>
      refine ⟨rfl,?_⟩
      rintro pk' a ha ⟨rest,rfl⟩
      exact nomatch (h t (some a) pk' rest (by simpa using ha) (signingInput_absorbed t a rest).symm).2.1
  · rintro ⟨rfl,hp⟩ t' oa' pk' p' hoa' h
    obtain ⟨ht,hb⟩ := signingInput_unique h
    cases oa' with
    | none => exact ⟨ht,rfl,hb⟩
    | some a => exact absurd ⟨p',hb.symm⟩ (hp pk' a (hoa' a rfl))
  · -- without its attestation, before the payload with the attestation's bytes
    intro a ha
    by_contra hl
    have hin : signingInput s.envelope.t none (oaBinding (some a) ++ i.payload) =
        signingInput s.envelope.t s.envelope.oa i.payload := by
      rw [ha]
      exact (signingInput_absorbed _ _ _).symm
    have hwf := wellFormed_of_doSign hs
    have hwf : WellFormed X { s.envelope with oa := none } := ⟨hwf.pk,hwf.sig,hwf.t,by simp⟩
    obtain ⟨file,e,lns,hr,hsi,hoa,ht,hv,-⟩ := accepted_of_signingInput hjson hideal hs (by simp)
      (hwf.size_buildEnvelope (by simp)) (not_lt.1 hl) hin "" none
    have heq := (h _ _ _ _ _ _ hv hr hsi fun _ => by rw [hoa,ht,hin]).2.1
    rw [hoa,ha] at heq
    exact nomatch heq
  · rintro hn a ha hsize ⟨rest,hp⟩
    obtain ⟨-,-,-,-,hl,-⟩ := doSign_eq_ok hs
    have hin : signingInput s.envelope.t (some a) rest =
        signingInput s.envelope.t s.envelope.oa i.payload := by
      rw [hn,← hp]
      exact signingInput_absorbed _ _ _
    obtain ⟨file,e,lns,hr,hsi,hoa,ht,hv,-⟩ := accepted_of_signingInput hjson hideal hs (by simpa using ha)
      hsize (by rw [← hp,List.length_append] at hl; omega) hin "" none
    have heq := (h _ _ _ _ _ _ hv hr hsi fun _ => by rw [hoa,ht,hin]).2.1
    rw [hoa,hn] at heq
    exact nomatch heq
  · rintro ⟨hlong,hfree⟩ path file signingKey payload lines e hv hr hsi hash
    obtain ⟨e',result,hr',hc,-,-⟩ := doVerify_eq_ok hv
    cases hr.symm.trans hr'
    obtain ⟨-,hwf,hsize⟩ := eq_armor_of_readEnvelope hr
    obtain ⟨hd,hpk⟩ := digest_of_accepted hideal hs hwf hc hsi
    obtain ⟨ht,hb⟩ := signingInput_unique (hash hd)
    have hwo := hwf.oa
    cases hoa : e.oa with
    | none =>
      cases hso : s.envelope.oa with
      | none =>
        rw [hoa,hso] at hb
        exact ⟨hb,rfl,ht⟩
      | some a =>
        obtain ⟨-,-,-,hl,-⟩ := checkSignature_eq_ok.1 hc
        rw [hoa,hso] at hb
        have hb : payload = oaBinding (some a) ++ i.payload := hb
        exact absurd (hlong a hso) (not_lt.2 (hb ▸ hl))
    | some a =>
      cases hso : s.envelope.oa with
      | none =>
        rw [hoa,hso] at hb
        rw [hpk,hsi,ht,hoa] at hsize
        exact absurd ⟨payload,hb⟩ (hfree hso a (hpk ▸ hwo a hoa) hsize)
      | some b =>
        rw [hoa,hso] at hb
        obtain ⟨rfl,hp⟩ := oaBinding_unique (hwo a hoa) ((wellFormed_of_doSign hs).oa b hso) hb
        exact ⟨hp,rfl,ht⟩

lemma unambiguous_word {pay : List UInt8} (h : pay.head? = some 116) : Unambiguous X pay := by
  rintro pk oa hoa ⟨rest,rfl⟩
  obtain ⟨⟨hs,hhe⟩,-,-,-,-⟩ := validateOa_eq_ok.1 hoa
  -- an attestation begins with a hex digit
  have ha := utf8_of_ascii (IsHex.isPlain ⟨hs,hhe⟩).ascii
  rw [oaBinding_some_append,ha] at h
  cases hc : oa.owner.toList with
  | nil =>
    rw [utf8ByteSize_of_ascii (IsHex.isPlain ⟨hs,hhe⟩).ascii,hc] at hs
    cases hs
  | cons c cs =>
    rw [hc] at h
    have hcode := congrArg UInt8.toNat (Option.some.inj h)
    have hl := hhe c (by simp [hc])
    have hr : (48 ≤ c.toNat ∧ c.toNat ≤ 57) ∨ (97 ≤ c.toNat ∧ c.toNat ≤ 102) := by
      simpa [isLowerHexChar,Char.le_def,UInt32.le_iff_toNat_le] using hl
    rw [ascii,toNat_ofNat_lt (by omega)] at hcode
    change c.toNat = 116 at hcode
    omega

/-- Neither the bytes of a git object nor the signature made for it stand for another message. -/
theorem signature_binds_message_tree : (∀ oa p, (∀ a ∈ oa, validateOa sampleCrates "" a = .ok ()) →
      signingInput 7 none (utf8 "tree 1") = signingInput 7 oa p → p = utf8 "tree 1") ∧
    ∃ s, doSign sampleCrates (sampleInput none (utf8 "tree 1")) = .ok s ∧
      ∀ path file signingKey payload lines e, doVerify sampleCrates path file signingKey payload = .ok lines →
        readEnvelope sampleCrates path file = .ok e → e.sig = s.envelope.sig →
        signingInput e.t e.oa payload = signingInput s.envelope.t s.envelope.oa (utf8 "tree 1") →
        payload = utf8 "tree 1" := by
  have hw : Unambiguous sampleCrates (utf8 "tree 1") := unambiguous_word (by decide)
  obtain ⟨hm,hv⟩ := signature_binds_message conforming_readSample ideal_sampleCrates
  refine ⟨fun oa p hoa h => ((hm 7 none "" _ (by simp)).2 ⟨rfl,hw⟩ 7 oa "" p hoa h).2.2.symm,?_⟩
  obtain ⟨s,hs,hoa⟩ := doSign_sampleInput (utf8 "tree 1") (by decide +kernel)
    (show loadAuthTag sampleCrates (.ok none) = .ok none from rfl) rfl
  refine ⟨s,hs,fun path file signingKey payload lines e h hr hsi hin => ?_⟩
  exact ((hv _ s hs).2 ⟨by simp [hoa],fun _ oa hv _ => hw _ oa hv⟩ path file signingKey payload
    lines e h hr hsi
    fun _ => hin).1

lemma validateOa_sampleTag : validateOa sampleCrates (FixedBytes.ofNat 32 7).toHex sampleTag = .ok () := by
  refine validateOa_eq_ok.2
    ⟨isHex_toHex _,isHex_toHex _,by decide,⟨FixedBytes.ofNat 32 9,?_⟩,by decide +kernel⟩
  exact ideal_sampleCrates.parseBip340Pubkey (FixedBytes.ofNat 32 9)

/-- One byte string is signed for two messages, with and without an attestation; and verification accepts
the signature that was made for the one for the other. -/
theorem attestation_taken_for_payload : ConformingJson sampleCrates.parseJson ∧ Ideal sampleCrates ∧
      validateOa sampleCrates (FixedBytes.ofNat 32 7).toHex sampleTag = .ok () ∧
      signingInput 1700000000 (some sampleTag) (utf8 "tree 1") =
        signingInput 1700000000 none (oaBinding (some sampleTag) ++ utf8 "tree 1") ∧ ∃ s file e lines,
        doSign sampleCrates (sampleInput none (oaBinding (some sampleTag) ++ utf8 "tree 1")) = .ok s ∧
          s.envelope.oa = none ∧ readEnvelope sampleCrates "signature" file = .ok e ∧
          e.sig = s.envelope.sig ∧ e.oa = some sampleTag ∧
          doVerify sampleCrates "signature" file none (utf8 "tree 1") = .ok lines ∧
          goodsig s.envelope.pk ∈ lines := by
  obtain ⟨s,hs,hn⟩ := doSign_sampleInput (oaBinding (some sampleTag) ++ utf8 "tree 1") (by decide +kernel)
    (show loadAuthTag sampleCrates (.ok none) = .ok none from rfl) rfl
  obtain ⟨raw,key,hra,hkey,-,-,-,-,-,hpk,-,-⟩ := doSign_eq_ok hs
  cases hra
  cases hkey
  have hoa : ∀ a ∈ some sampleTag, validateOa sampleCrates s.envelope.pk a = .ok () := by
    rintro _ ⟨⟩
    exact hpk ▸ validateOa_sampleTag
  have hwf := wellFormed_of_doSign hs
  have hwf : WellFormed sampleCrates { s.envelope with oa := some sampleTag } := ⟨hwf.pk,hwf.sig,hwf.t,hoa⟩
  obtain ⟨file,e,lines,hr,hsi,hoa,-,hv,hg⟩ := accepted_of_signingInput conforming_readSample
    ideal_sampleCrates hs hoa (hwf.size_buildEnvelope (by simp; decide))
      (show (utf8 "tree 1").length ≤ maxPayload by decide +kernel)
    (by rw [hn]; exact signingInput_absorbed _ _ _) "signature" none
  exact ⟨conforming_readSample,ideal_sampleCrates,validateOa_sampleTag,signingInput_absorbed _ _ _,
    s,file,e,lines,
    hs,hn,hr,hsi,hoa,hv,hg⟩

end

end BuzzSolo.GitSign
