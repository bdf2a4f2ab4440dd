import BuzzSolo.GitSignEnvelope

/-! What signing emits is accepted by verification, and a signature has one encoding. -/
namespace BuzzSolo.GitSign

open ByteText Checks HexText JsonText List Option
open Handoff (Json field)

section

variable {Key : Type} {X : Crates Key}

/-- Schnorr signatures are accepted for their own message and key only, and every key that signs has a
public key that can be read from its hex text. -/
structure Ideal (X : Crates Key) : Prop where
  verify : ∀ key digest pk digest', X.verifySchnorr (X.signSchnorr key digest) digest' pk = true ↔
    digest' = digest ∧ pk = X.publicKey key
  fromHex : ∀ pk : PublicKey, X.fromHex pk.toHex = .ok pk
  xonly : ∀ key, X.xonly (X.publicKey key) = .ok ()

lemma Ideal.parseBip340Pubkey (h : Ideal X) (key : Key) :
    parseBip340Pubkey X (X.publicKey key).toHex = .ok (X.publicKey key) := by
  simp only [GitSign.parseBip340Pubkey,bind_eq_ok]
  exact ⟨_,h.fromHex _,(),h.xonly key,rfl⟩

lemma loadAuthTag_eq_some {configured : Except String (Option String)} {oa : OwnerTag}
    (h : loadAuthTag X configured = .ok (some oa)) : IsHex 64 oa.owner ∧ IsHex 128 oa.sig ∧
      validateConditions oa.conditions = true ∧ ∃ text items, configured = .ok (some text) ∧
        text.utf8ByteSize ≤ maxAuthTag ∧ X.parseJson text = .ok (.array items) ∧
          .string oa.conditions ∈ items := by
  unfold loadAuthTag at h
  rcases configured with e | _ | text
  · cases h
  · cases h
  · simp only [bind_eq_ok,require_eq_ok,okOr_eq_ok,relabelled_ok,exists_unit] at h
    obtain ⟨hsi,value,hp,items,hi,-,-,owner,-,conds,hc,sig,-,hv,ho,hs,hoa⟩ := h
    cases hoa
    refine ⟨⟨ho.1,all_eq_true.1 ho.2⟩,⟨hs.1,all_eq_true.1 hs.2⟩,hv,text,items,rfl, hsi,?_,?_⟩
    · cases value with
      | array items' =>
        cases hi
        exact hp
      | _ => cases hi
    · obtain ⟨item,hit,hst⟩ := bind_eq_some_iff.1 hc
      cases item with
      | string s =>
        cases hst
        exact mem_of_getElem? hit
      | _ => cases hst

lemma checkAuthTag_some {pk : String} {t : ℕ} {oa : OwnerTag} (h : checkAuthTag X pk t (some oa) = .ok ()) :
    (∃ ow, parseBip340Pubkey X oa.owner = .ok ow) ∧ oa.owner ≠ pk ∧ verifyOa X pk oa = true ∧
      enforceConditions oa.conditions t = .ok () := by
  simp only [checkAuthTag,bind_eq_ok,relabelled_ok,require_eq_ok,exists_unit] at h
  obtain ⟨ow,ho,hs,hv,he⟩ := h
  exact ⟨⟨ow,ho⟩,hs,hv,he⟩

variable {i : SignInput} {s : Signed}

/-- What signing has checked, and what it emits. -/
lemma doSign_eq_ok (h : doSign X i = .ok s) : ∃ raw key,
    i.rawKey = .ok raw ∧ X.parseSecretKey raw = .ok key ∧ i.payload.length ≤ maxPayload ∧
      i.clock = some s.envelope.t ∧ s.envelope.t ≤ maxTimestamp ∧
        loadAuthTag X i.authTag = .ok s.envelope.oa ∧
      checkAuthTag X s.envelope.pk s.envelope.t s.envelope.oa = .ok () ∧
        s.envelope.pk = (X.publicKey key).toHex ∧
      s.envelope.sig = (X.signSchnorr key (computeSigningHash X s.envelope.t s.envelope.oa i.payload)).toHex ∧
      s.armored = armor (utf8 (buildEnvelope s.envelope.pk s.envelope.sig s.envelope.t s.envelope.oa)) := by
  simp only [doSign,readPayload,bind_eq_ok,relabelled_ok,require_eq_ok,okOr_eq_ok,exists_unit] at h
  obtain ⟨raw,hr,key,hkey,-,-,pay,⟨hl,hp⟩,t,hc,ht,oa,hlo,hch,hs⟩ := h
  cases hp
  cases hs
  exact ⟨raw,key,hr,hkey,hl,hc,ht,hlo,hch,rfl,rfl,rfl⟩

lemma wellFormed_of_doSign (h : doSign X i = .ok s) : WellFormed X s.envelope := by
  obtain ⟨raw,key,-,-,-,-,ht,hl,hch,hpk,hsi,-⟩ := doSign_eq_ok h
  refine ⟨hpk ▸ isHex_toHex _,hsi ▸ isHex_toHex _,ht,?_⟩
  intro oa hoa
  rw [hoa] at hl hch
  obtain ⟨ho,hos,hc,-⟩ := loadAuthTag_eq_some hl
  obtain ⟨hkey,hs,-,-⟩ := checkAuthTag_some hch
  exact validateOa_eq_ok.2 ⟨ho,hos,hc,hkey,hs⟩

variable {e : Envelope} {payload : List UInt8} {result : OaVerifyResult}

lemma checkSignature_eq_ok : checkSignature X e payload = .ok result ↔
    ∃ pk sig, parseBip340Pubkey X e.pk = .ok pk ∧
      payload.length ≤ maxPayload ∧ FixedBytes.fromHex 64 e.sig = some sig ∧
      X.verifySchnorr sig (computeSigningHash X e.t e.oa payload) pk = true ∧ checkOa X e = .ok result := by
  simp only [checkSignature,readPayload,bind_eq_ok,relabelled_ok,okOr_eq_ok,require_eq_ok,exists_unit,
    FixedBytes.fromHex]
  constructor
  · rintro ⟨pk,hpk,_,⟨hl,hp⟩,bs,hb,sig,hs,hv,hoa⟩
    cases hp
    exact ⟨pk,sig,hpk,hl,by rw [hb]; exact hs,hv,hoa⟩
  · rintro ⟨pk,sig,hpk,hl,hs,hv,hoa⟩
    cases hb : HexText.decode e.sig.toList with
    | none =>
      rw [hb] at hs
      cases hs
    | some bs =>
      rw [hb] at hs
      exact ⟨pk,hpk,payload,⟨hl,rfl⟩,bs,rfl,sig,hs,hv,hoa⟩

/-- The result that verification reports about the attestation that was signed with. -/
def signedOa (e : Envelope) : OaVerifyResult :=
  match e.oa with
  | none => .absent
  | some _ => .valid

lemma checkOa_of_checkAuthTag (h : checkAuthTag X e.pk e.t e.oa = .ok ()) :
    checkOa X e = .ok (signedOa e) := by
  rcases hoa : e.oa with _ | oa
  · simp [checkOa,signedOa,hoa]
  · rw [hoa] at h
    obtain ⟨⟨ow,ho⟩,-,hv,he⟩ := checkAuthTag_some h
    simp only [checkOa,signedOa,hoa,bind_eq_ok,relabelled_ok]
    refine ⟨ow,ho,?_⟩
    rw [if_neg (by simp [hv]),he]

lemma checkSignature_of_sign (hi : Ideal X) {key : Key} {digest : Digest}
    (hpk : e.pk = (X.publicKey key).toHex)
    (hs : e.sig = (X.signSchnorr key digest).toHex) (hd : computeSigningHash X e.t e.oa payload = digest)
    (hl : payload.length ≤ maxPayload) (hoa : checkOa X e = .ok result) :
    checkSignature X e payload = .ok result := by
  rw [checkSignature_eq_ok]
  refine ⟨X.publicKey key,X.signSchnorr key digest,?_,hl,?_,?_,hoa⟩
  · rw [hpk,hi.parseBip340Pubkey]
  · rw [hs,FixedBytes.fromHex_toHex]
  · rw [hi.verify]
    exact ⟨hd,rfl⟩

lemma readEnvelope_of_doSign (hj : ConformingJson X.parseJson)
    (h : doSign X i = .ok s) (path : String) : readEnvelope X path s.armored = .ok s.envelope := by
  obtain ⟨raw,key,-,-,-,-,-,hl,-,-,-,ha⟩ := doSign_eq_ok h
  have hwf := wellFormed_of_doSign h
  rw [ha]
  refine hwf.readEnvelope_armor hj (hwf.size_buildEnvelope ?_) path
  intro oa hoa
  rw [hoa] at hl
  obtain ⟨-,-,-,t,xs,-,hs,hp,hm⟩ := loadAuthTag_eq_some hl
  exact (hj.strings t xs oa.conditions hp hm).trans hs

lemma doVerify_eq_ok {path file : String} {sk : Option String}
    {lns : List String} (h : doVerify X path file sk payload = .ok lns) : ∃ e result,
      readEnvelope X path file = .ok e ∧ checkSignature X e payload = .ok result ∧ goodsig e.pk ∈ lns ∧
        oaLines e result <:+ lns := by
  simp only [doVerify,bind_eq_ok,Except.ok.injEq] at h
  obtain ⟨e,hr,result,hc,rfl⟩ := h
  exact ⟨e,result,hr,hc,by simp,suffix_append _ _⟩

lemma doVerify_of_checkSignature {path file : String} (sk : Option String)
    (hr : readEnvelope X path file = .ok e)
    (hc : checkSignature X e payload = .ok result) :
    ∃ lns, doVerify X path file sk payload = .ok lns ∧ goodsig e.pk ∈ lns ∧
      oaLines e result <:+ lns := by
  have hrun : ∃ lns, doVerify X path file sk payload = .ok lns := by
    simp only [doVerify,bind_eq_ok]
    exact ⟨_,e,hr,result,hc,rfl⟩
  obtain ⟨lns,hv⟩ := hrun
  obtain ⟨e',result',hr',hc',hg,hl⟩ := doVerify_eq_ok hv
  rw [hr] at hr'
  cases hr'
  rw [hc] at hc'
  cases hc'
  exact ⟨lns,hv,hg,hl⟩

/-- The file that signing emits is accepted for the payload it was made for, with a good signature of the
signing key and the attestation, where there is one, as valid; and a file that is accepted is the
armored envelope that it holds, so one envelope is accepted from one file only. -/
theorem signature_round_trip (hjson : ConformingJson X.parseJson) (hideal : Ideal X) :
    (∀ i s path signingKey, doSign X i = .ok s → ∃ raw key lines,
      i.rawKey = .ok raw ∧ X.parseSecretKey raw = .ok key ∧ loadAuthTag X i.authTag = .ok s.envelope.oa ∧
        doVerify X path s.armored signingKey i.payload = .ok lines ∧ goodsig (X.publicKey key).toHex ∈ lines ∧
        ∀ oa ∈ s.envelope.oa, ["NOTATION_NAME nostr-oa-status","NOTATION_DATA valid",
          "NOTATION_NAME nostr-oa-owner","NOTATION_DATA " ++ oa.owner] <:+ lines) ∧
      (∀ path file signingKey payload lines, doVerify X path file signingKey payload = .ok lines →
        ∃ e, readEnvelope X path file = .ok e ∧ file = armor (utf8 (buildEnvelope e.pk e.sig e.t e.oa))) ∧
      ∀ path₁ path₂ file₁ file₂ e, readEnvelope X path₁ file₁ = .ok e → readEnvelope X path₂ file₂ = .ok e →
        file₁ = file₂ := by
  refine ⟨?_,?_,?_⟩
  · intro i s path signingKey hs
    obtain ⟨raw,key,hra,hkey,hl,-,-,hlo,ht,hpk,hsi,-⟩ := doSign_eq_ok hs
    have hr := readEnvelope_of_doSign hjson hs path
    have hc := checkSignature_of_sign hideal hpk hsi rfl hl (checkOa_of_checkAuthTag ht)
    obtain ⟨lines,hv,hg,hli⟩ := doVerify_of_checkSignature signingKey hr hc
    refine ⟨raw,key,lines,hra,hkey,hlo,hv,hpk ▸ hg,?_⟩
    intro oa hoa
    rw [mem_def] at hoa
    simpa [oaLines,signedOa,hoa,OaVerifyResult.asStatusStr] using hli
  · intro path file signingKey payload lines hv
    obtain ⟨e,result,hr,-,-,-⟩ := doVerify_eq_ok hv
    exact ⟨e,hr,(eq_armor_of_readEnvelope hr).1⟩
  · intro path₁ path₂ file₁ file₂ e h₁ h₂
    rw [(eq_armor_of_readEnvelope h₁).1,(eq_armor_of_readEnvelope h₂).1]

end

section

open Classical in
noncomputable def readFlat (text : String) : Except String Json :=
  if h : ∃ members, objectText members = text then
    .ok (.object (h.choose.map fun m => (m.1,ofFlat m.2)))
  else .error "not a flat object"

lemma readFlat_objectText (ms : List (String × Flat)) :
    readFlat (objectText ms) = .ok (.object (ms.map fun m => (m.1,ofFlat m.2))) := by
  have hex : ∃ members', objectText members' = objectText ms := ⟨ms,rfl⟩
  rw [readFlat,dif_pos hex,objectText_injective hex.choose_spec]

/-- A signature shows the key and the digest. -/
def sampleSignature (key : PublicKey) (digest : Digest) : FixedBytes 64 :=
  ⟨key.bytes ++ digest.bytes,by rw [length_append,key.length_bytes,digest.length_bytes]⟩

/-- An attestation of the signer, over the 82 bytes of its own message. -/
def sampleTag : OwnerTag where
  owner := (FixedBytes.ofNat 32 9).toHex
  conditions := ""
  sig := (sampleSignature (.ofNat 32 9) (.ofNat 32 82)).toHex

def sampleAuth : List String := ["auth",sampleTag.owner,sampleTag.conditions,sampleTag.sig]

open Classical in
/-- A parser that reads the flat objects, the attestation and nothing else. -/
noncomputable def readSample (text : String) : Except String Json :=
  if text = array (sampleAuth.map quote) then .ok (.array (sampleAuth.map .string)) else readFlat text

lemma conforming_readSample : ConformingJson readSample where
  object := by
    intro ms _ _
    have hne : objectText ms ≠ array (sampleAuth.map quote) := by
      intro h
      have hh := congrArg (fun s => s.toList.head?) h
      cases ms <;> simp [objectText,array,sampleAuth] at hh
    refine ⟨_,by rw [readSample,if_neg hne,readFlat_objectText],?_,?_⟩
    · intro name
      rw [field,find?_map,Option.map_map]
      rfl
    · intro f hf
      obtain ⟨m,hm,rfl⟩ := mem_map.1 hf
      exact mem_map_of_mem hm
  strings := by
    intro t xs s h hs
    unfold readSample readFlat at h
    split at h
    next ht =>
      cases h
      have hsize : ∀ s ∈ sampleAuth, s.utf8ByteSize ≤ (array (sampleAuth.map quote)).utf8ByteSize := by
        decide +kernel
      rw [ht]
      exact hsize s (by simpa using hs)
    · split at h <;> cases h

/-- Keys are their own public keys. -/
noncomputable def sampleCrates : Crates PublicKey where
  parseSecretKey s := okOr (FixedBytes.fromHex 32 s) "invalid secret key"
  publicKey := id
  signSchnorr := sampleSignature
  verifySchnorr sig digest pk := decide (sig.bytes = pk.bytes ++ digest.bytes)
  fromHex s := okOr (FixedBytes.fromHex 32 s) "invalid public key"
  xonly _ := .ok ()
  fromBech32 _ := none
  sha256 bytes := FixedBytes.ofNat 32 bytes.length
  parseJson := readSample
  base64Error := id
  date := Nat.repr

lemma ideal_sampleCrates : Ideal sampleCrates where
  verify := by
    intro key digest pk digest'
    simp only [sampleCrates,sampleSignature,decide_eq_true_eq]
    constructor
    · intro h
      have hl : key.bytes.length = pk.bytes.length := by rw [key.length_bytes,pk.length_bytes]
      obtain ⟨hpk,hd⟩ := append_inj h hl
      exact ⟨FixedBytes.bytes_injective hd.symm,FixedBytes.bytes_injective hpk.symm⟩
    · rintro ⟨rfl,rfl⟩
      rfl
  fromHex := by
    intro pk
    simp only [sampleCrates,FixedBytes.fromHex_toHex]
    rfl
  xonly := fun _ => rfl

lemma parseSecretKey_sampleCrates (key : PublicKey) : sampleCrates.parseSecretKey key.toHex = .ok key := by
  simp only [sampleCrates,FixedBytes.fromHex_toHex]
  rfl

def sampleInput (authTag : Option String) (payload : List UInt8) : SignInput where
  keyId := ""
  rawKey := .ok (FixedBytes.ofNat 32 7).toHex
  payload := payload
  clock := some 1700000000
  authTag := .ok authTag

lemma doSign_sampleInput (pay : List UInt8) {authTag : Option String} {oa : Option OwnerTag}
    (h : pay.length ≤ maxPayload) (hl : loadAuthTag sampleCrates (.ok authTag) = .ok oa)
    (hc : checkAuthTag sampleCrates (FixedBytes.ofNat 32 7).toHex 1700000000 oa = .ok ()) :
    ∃ s, doSign sampleCrates (sampleInput authTag pay) = .ok s ∧ s.envelope.oa = oa := by
  simp only [doSign,bind_eq_ok]
  exact ⟨_,⟨_,rfl,FixedBytes.ofNat 32 7,relabelled_ok.2 (parseSecretKey_sampleCrates _),(),
    require_eq_ok.2 (.inl rfl),(),require_eq_ok.2 (.inl rfl),pay,
    bind_eq_ok.2 ⟨(),require_eq_ok.2 h,rfl⟩,1700000000,rfl,(),require_eq_ok.2
      (by decide),oa,hl,(),hc,rfl⟩,rfl⟩

lemma loadAuthTag_sample :
    loadAuthTag sampleCrates (.ok (some (array (sampleAuth.map quote)))) = .ok (some sampleTag) := by
  simp only [loadAuthTag,bind_eq_ok,require_eq_ok,okOr_eq_ok,relabelled_ok,exists_unit]
  have hp : sampleCrates.parseJson (array (sampleAuth.map quote)) =
      .ok (.array (sampleAuth.map .string)) := by
    simp only [sampleCrates,readSample,if_true]
  exact ⟨by decide +kernel,_,hp,_,rfl,rfl,rfl,_,rfl,_,rfl,_,rfl,
    by decide +kernel,by decide +kernel,by decide +kernel,rfl⟩

lemma checkAuthTag_sample :
    checkAuthTag sampleCrates (FixedBytes.ofNat 32 7).toHex 1700000000 (some sampleTag) = .ok () := by
  have hk := ideal_sampleCrates.parseBip340Pubkey (FixedBytes.ofNat 32 9)
  simp only [checkAuthTag,bind_eq_ok,require_eq_ok,relabelled_ok,exists_unit]
  refine ⟨_,hk,by decide +kernel,?_,by decide⟩
  rw [verifyOa,show sampleTag.owner = (FixedBytes.ofNat 32 9).toHex from rfl]
  rw [show parseBip340Pubkey sampleCrates (FixedBytes.ofNat 32 9).toHex = _ from hk,sampleTag,
    FixedBytes.fromHex_toHex]
  simp [sampleCrates,sampleSignature]
  decide +kernel

end

theorem signature_round_trip_sample : ConformingJson sampleCrates.parseJson ∧ Ideal sampleCrates ∧
    ∃ s lines, doSign sampleCrates (sampleInput (some (array (sampleAuth.map quote))) [116,114,101,101,32]) =
      .ok s ∧
      doVerify sampleCrates "signature" s.armored none [116,114,101,101,32] = .ok lines ∧
      goodsig (FixedBytes.ofNat 32 7).toHex ∈ lines ∧ "NOTATION_DATA " ++ sampleTag.owner ∈ lines := by
  obtain ⟨s,hs,hoa⟩ := doSign_sampleInput [116,114,101,101,32] (by decide) loadAuthTag_sample
    checkAuthTag_sample
  obtain ⟨raw,key,lines,hr,hkey,-,hv,hg,hl⟩ :=
    (signature_round_trip conforming_readSample ideal_sampleCrates).1 _ s "signature" none hs
  cases hr
  cases hkey
  exact ⟨conforming_readSample,ideal_sampleCrates,s,lines,hs,hv,hg,(hl sampleTag hoa).subset (by simp)⟩

end BuzzSolo.GitSign
