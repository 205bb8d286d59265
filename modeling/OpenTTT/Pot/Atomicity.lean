import OpenTTT.Pot.Verifier

/-!
# Rejected frames leave no trace

`PotVerifier.verify` asks the nonce cache last, and adds the nonce only when everything has passed.
`checks` lists the steps of a verification with the errors that they end in, in their order;
`verifyCall_checked` says that the result is that of the first step that fails, and what becomes of
the cache. A frame that is rejected leaves the verifier as it was: asking the cache for a nonce that
it knows deletes nothing, and one that has expired is deleted only to be added again. So rejected
calls can be deleted from any run (`failure_atomic`).
-/

namespace OpenTTT

/-- Asking for a nonce that the cache knows changes nothing. -/
theorem MemoryNonceCache.has_snd_of_known {self : MemoryNonceCache} {now : ℤ} {nonce : String}
    (h : (self.has now nonce).1 = true) : (self.has now nonce).2 = self :=
  congrArg (fun cache => ({ self with cache := cache } : MemoryNonceCache))
    (ExpiringCache.has_snd_of_known (m := self.cache) h)

namespace PotVerifier

variable (cryptoVerify : CryptoVerify)

/-! ## The steps of a verification -/

/-- A TLS socket on which keys can be exported. -/
structure Connected (socket : TLSSocket) : Prop where
  encrypted : socket.encrypted = true
  exports : ∀ length label context,
    ∃ key, socket.exportKeyingMaterial length label context = .ok key

/-- Whether the binding key of a frame is the one that the session exports for its signed part. -/
def isBound (socket : TLSSocket) (parsed : PotFrame) : Bool :=
  match socket.exportKeyingMaterial TTTPS_BINDING_KEY_LENGTH TTTPS_EXPORTER_LABEL
    (parsed.potRecord.subarray 0 POT_WITHOUT_SIG_SIZE) with
  | .ok key => decide (key = parsed.bindingKey)
  | .error _ => false

/-- The steps in their order, each with the error that it ends in and whether it passes. -/
def checks (self : PotVerifier) (c : VerifyCall) (parsed : PotFrame) : List (VerifyError × Bool) :=
  [(.UNKNOWN_VERSION, decide (parsed.version = 1)),
    (.BINDING_KEY_MISMATCH, isBound c.socket parsed),
    (.SIGNATURE_INVALID, verifyEd25519 cryptoVerify self.issuerPubKey
      (parsed.potRecord.subarray 0 POT_WITHOUT_SIG_SIZE) parsed.ed25519Sig),
    (.SUBMISSION_OUTSIDE_TOLERANCE, decide (latency c.nowMs parsed ≤ tolerance parsed.tier)),
    (.NONCE_REPLAY, !(self.nonceCache.has c.hasNow (Buffer.toHex parsed.nonce)).1)]

/-- The error of the first step that fails. -/
def firstFailing (checks : List (VerifyError × Bool)) : Option VerifyError :=
  (checks.find? fun check => !check.2).map Prod.fst

theorem firstFailing_cons_true (e : VerifyError) (rest : List (VerifyError × Bool)) :
    firstFailing ((e, true) :: rest) = firstFailing rest := rfl

theorem firstFailing_cons_false (e : VerifyError) (rest : List (VerifyError × Bool)) :
    firstFailing ((e, false) :: rest) = some e := rfl

/-- What a call does to a verifier, with its result and the decoded frame. -/
structure Checked (self : PotVerifier) (c : VerifyCall) (parsed : PotFrame)
    (r : FrameVerifyResult) (next : PotVerifier) : Prop where
  /-- The error is that of the first step that fails. -/
  error : r.error = firstFailing (checks cryptoVerify self c parsed)
  valid : r.valid = true ↔ r.error = none
  /-- A rejected frame changes nothing. -/
  unchanged : r.valid = false → next = self
  /-- The nonce of a valid frame is added, with its expiry, -/
  added : r.valid = true →
    (Buffer.toHex parsed.nonce, c.addNow + self.nonceCache.ttlMs) ∈ next.nonceCache.cache.entries
  /-- and nothing else is. -/
  only : ∀ e ∈ next.nonceCache.cache.entries, e ∈ self.nonceCache.cache.entries ∨
    r.valid = true ∧ e = (Buffer.toHex parsed.nonce, c.addNow + self.nonceCache.ttlMs)

/-! ## Frames of the right length -/

theorem length_bindingKey {frame : Buffer} {parsed : PotFrame}
    (h : decodePotFrame frame = .ok parsed) :
    parsed.bindingKey.length = TTTPS_BINDING_KEY_LENGTH := by
  obtain ⟨bindingKey, r, -, rfl⟩ := decodePotFrame_eq_ok_iff.1 h
  exact Vector.length_toList

theorem potRecordWithoutSig_of_decode {frame : Buffer} {parsed : PotFrame}
    (h : decodePotFrame frame = .ok parsed) :
    potRecordWithoutSig parsed.potRecord =
      .ok (parsed.potRecord.subarray 0 POT_WITHOUT_SIG_SIZE) := by
  obtain ⟨bindingKey, r, -, rfl⟩ := decodePotFrame_eq_ok_iff.1 h
  exact if_neg (not_not.2 r.length_bytes)

/-- The binding of a session that exports keys. -/
theorem verifyBindingKey_eq {socket : TLSSocket} (hsocket : Connected socket) {frame : Buffer}
    {parsed : PotFrame} (h : decodePotFrame frame = .ok parsed) :
    verifyBindingKey socket (parsed.potRecord.subarray 0 POT_WITHOUT_SIG_SIZE) parsed.bindingKey =
      .ok (isBound socket parsed) := by
  obtain ⟨key, hkey⟩ := hsocket.exports TTTPS_BINDING_KEY_LENGTH TTTPS_EXPORTER_LABEL
    (parsed.potRecord.subarray 0 POT_WITHOUT_SIG_SIZE)
  have hexport : computeBindingKey socket (parsed.potRecord.subarray 0 POT_WITHOUT_SIG_SIZE) =
      .ok key := by
    rw [computeBindingKey, hsocket.encrypted, hkey]
    rfl
  rw [verifyBindingKey, if_neg (not_not.2 (length_bindingKey h)), hexport, ok_bind, isBound, hkey]
  refine congrArg Except.ok ?_
  unfold sameBytes
  by_cases hlen : key.length = parsed.bindingKey.length
  · rw [if_neg (not_not.2 hlen)]
  · rw [if_pos hlen]
    exact (decide_eq_false fun heq => hlen (congrArg List.length heq)).symm

/-- The checks on a frame of the right length, one after the other. -/
theorem checkFrame_of_decode (issuerPubKey : Buffer) {socket : TLSSocket} {frame : Buffer}
    {parsed : PotFrame} (hsocket : Connected socket) (h : decodePotFrame frame = .ok parsed)
    (nowMs : ℤ) :
    checkFrame cryptoVerify issuerPubKey socket frame nowMs = .ok (
      if parsed.version ≠ 1 then .error { valid := false, error := some .UNKNOWN_VERSION }
      else if !isBound socket parsed then
        .error { valid := false, error := some .BINDING_KEY_MISMATCH, frame := some parsed }
      else if !verifyEd25519 cryptoVerify issuerPubKey
          (parsed.potRecord.subarray 0 POT_WITHOUT_SIG_SIZE) parsed.ed25519Sig then
        .error { valid := false, error := some .SIGNATURE_INVALID, frame := some parsed }
      else if latency nowMs parsed > tolerance parsed.tier then
        .error { valid := false, error := some .SUBMISSION_OUTSIDE_TOLERANCE,
                 frame := some parsed, latencyMs := some (latency nowMs parsed) }
      else .ok parsed) := by
  have hlength : ¬ frame.length ≠ POT_FRAME_SIZE := by
    intro hlength
    rw [decodePotFrame, if_pos hlength] at h
    cases h
  rw [checkFrame, if_neg hlength, h]
  dsimp only
  rw [potRecordWithoutSig_of_decode h, ok_bind, verifyBindingKey_eq hsocket h, ok_bind]
  simp only [apply_ite Except.ok]
  rfl

/-! ## One call -/

theorem verifyCall_of_rejected {self : PotVerifier} {c : VerifyCall} {r : FrameVerifyResult}
    (h : checkFrame cryptoVerify self.issuerPubKey c.socket c.frame c.nowMs = .ok (.error r)) :
    verifyCall cryptoVerify self c = (.ok r, self) := by
  rw [verifyCall, h]

/-- A call that ends in the error of the first step that fails, with the verifier as it was. -/
theorem Checked.of_failing {self : PotVerifier} {c : VerifyCall} {parsed : PotFrame}
    {r : FrameVerifyResult} {e : VerifyError} (hvalid : r.valid = false) (herror : r.error = some e)
    (hfirst : firstFailing (checks cryptoVerify self c parsed) = some e) :
    Checked cryptoVerify self c parsed r self where
  error := herror.trans hfirst.symm
  valid := by simp [hvalid, herror]
  unchanged _ := rfl
  added h := by rw [hvalid] at h; cases h
  only _ he := Or.inl he

/-- The nonce step: a known nonce is rejected, and one that is not known is added. -/
theorem verifyCall_of_passed {self : PotVerifier} {c : VerifyCall} {parsed : PotFrame}
    (h : checkFrame cryptoVerify self.issuerPubKey c.socket c.frame c.nowMs = .ok (.ok parsed))
    (hfirst : firstFailing (checks cryptoVerify self c parsed) = firstFailing
      [(.NONCE_REPLAY, !(self.nonceCache.has c.hasNow (Buffer.toHex parsed.nonce)).1)]) :
    ∃ r, (verifyCall cryptoVerify self c).1 = .ok r ∧
      Checked cryptoVerify self c parsed r (verifyCall cryptoVerify self c).2 := by
  obtain ⟨seen, cache, hhas⟩ : ∃ seen cache, self.nonceCache.has c.hasNow
      (Buffer.toHex parsed.nonce) = (seen, cache) := ⟨_, _, rfl⟩
  rw [hhas] at hfirst
  cases seen with
  | true =>
    have hcache : cache = self.nonceCache := by
      have hknown := MemoryNonceCache.has_snd_of_known (congrArg Prod.fst hhas)
      rwa [hhas] at hknown
    have hrun : verifyCall cryptoVerify self c =
        (.ok { valid := false, error := some .NONCE_REPLAY, frame := some parsed }, self) := by
      rw [verifyCall, h]
      simp only [hhas, hcache, if_true]
    rw [hrun]
    exact ⟨_, rfl, .of_failing cryptoVerify rfl rfl hfirst⟩
  | false =>
    have hrun : verifyCall cryptoVerify self c = (.ok
        { valid := true, frame := some parsed, latencyMs := some (latency c.nowMs parsed) },
        { self with nonceCache := cache.add c.sweepNow c.addNow (Buffer.toHex parsed.nonce) }) := by
      rw [verifyCall, h]
      simp only [hhas]
      rfl
    have httl : cache.ttlMs = self.nonceCache.ttlMs :=
      (congrArg (fun q => MemoryNonceCache.ttlMs q.2) hhas).symm
    rw [hrun]
    refine ⟨_, rfl, hfirst.symm, by simp, nofun, fun _ => ?_, fun e he => ?_⟩
    · rw [← httl]
      exact ExpiringCache.self_mem_entries_add ..
    · rcases ExpiringCache.mem_entries_add he with rfl | he
      · exact Or.inr ⟨rfl, by rw [httl]⟩
      · rw [← congrArg (fun q => MemoryNonceCache.cache q.2) hhas] at he
        exact Or.inl (ExpiringCache.mem_entries_of_has he)

/-- The checks before the nonce: the first one that fails ends them with its error, and if none does
the nonce decides. -/
theorem checkFrame_cases (self : PotVerifier) {c : VerifyCall} {parsed : PotFrame}
    (hsocket : Connected c.socket) (hdecode : decodePotFrame c.frame = .ok parsed) :
    (∃ r e, checkFrame cryptoVerify self.issuerPubKey c.socket c.frame c.nowMs = .ok (.error r) ∧
      r.valid = false ∧ r.error = some e ∧
        firstFailing (checks cryptoVerify self c parsed) = some e) ∨
    checkFrame cryptoVerify self.issuerPubKey c.socket c.frame c.nowMs = .ok (.ok parsed) ∧
      firstFailing (checks cryptoVerify self c parsed) = firstFailing
        [(.NONCE_REPLAY, !(self.nonceCache.has c.hasNow (Buffer.toHex parsed.nonce)).1)] := by
  have hcheck := checkFrame_of_decode cryptoVerify self.issuerPubKey hsocket hdecode c.nowMs
  rcases ne_or_eq parsed.version 1 with hversion | hversion
  · rw [if_pos hversion] at hcheck
    refine Or.inl ⟨_, _, hcheck, rfl, rfl, ?_⟩
    rw [checks, decide_eq_false hversion, firstFailing_cons_false]
  rw [if_neg (not_not.2 hversion)] at hcheck
  rcases Bool.dichotomy (isBound c.socket parsed) with hbound | hbound
  · rw [hbound] at hcheck
    refine Or.inl ⟨_, _, hcheck, rfl, rfl, ?_⟩
    rw [checks, decide_eq_true hversion, hbound, firstFailing_cons_true, firstFailing_cons_false]
  rw [hbound, if_neg (by decide)] at hcheck
  rcases Bool.dichotomy (verifyEd25519 cryptoVerify self.issuerPubKey
    (parsed.potRecord.subarray 0 POT_WITHOUT_SIG_SIZE) parsed.ed25519Sig) with
    hsignature | hsignature
  · rw [hsignature] at hcheck
    refine Or.inl ⟨_, _, hcheck, rfl, rfl, ?_⟩
    rw [checks, decide_eq_true hversion, hbound, hsignature, firstFailing_cons_true,
      firstFailing_cons_true, firstFailing_cons_false]
  rw [hsignature, if_neg (by decide)] at hcheck
  rcases lt_or_ge (tolerance parsed.tier) (latency c.nowMs parsed) with hlate | hrecent
  · rw [if_pos hlate] at hcheck
    refine Or.inl ⟨_, _, hcheck, rfl, rfl, ?_⟩
    rw [checks, decide_eq_true hversion, hbound, hsignature, decide_eq_false hlate.not_ge,
      firstFailing_cons_true, firstFailing_cons_true, firstFailing_cons_true,
      firstFailing_cons_false]
  rw [if_neg hrecent.not_gt] at hcheck
  refine Or.inr ⟨hcheck, ?_⟩
  rw [checks, decide_eq_true hversion, hbound, hsignature, decide_eq_true hrecent,
    firstFailing_cons_true, firstFailing_cons_true, firstFailing_cons_true, firstFailing_cons_true]

/-- **What a call does**, on a frame of the right length and a socket that exports keys. -/
theorem verifyCall_checked (self : PotVerifier) (c : VerifyCall)
    (hlength : c.frame.length = POT_FRAME_SIZE) (hsocket : Connected c.socket) :
    ∃ parsed r, decodePotFrame c.frame = .ok parsed ∧
      (verifyCall cryptoVerify self c).1 = .ok r ∧
      Checked cryptoVerify self c parsed r (verifyCall cryptoVerify self c).2 := by
  obtain ⟨bindingKey, record, hframe⟩ := exists_record_of_length hlength
  have hdecode : decodePotFrame c.frame = .ok (record.frame bindingKey) :=
    hframe ▸ record.decodePotFrame_bytes bindingKey
  refine ⟨record.frame bindingKey, ?_⟩
  rcases checkFrame_cases cryptoVerify self hsocket hdecode with
    ⟨r, e, hcheck, hvalid, herror, hfirst⟩ | ⟨hcheck, hfirst⟩
  · rw [verifyCall_of_rejected cryptoVerify hcheck]
    exact ⟨r, hdecode, rfl, .of_failing cryptoVerify hvalid herror hfirst⟩
  · obtain ⟨r, hr⟩ := verifyCall_of_passed cryptoVerify hcheck hfirst
    exact ⟨r, hdecode, hr⟩

/-! ## Runs -/

/-- A rejected call leaves the verifier as it was. -/
theorem verifyCall_snd_of_rejected {self : PotVerifier} {c : VerifyCall}
    (h : ∃ r : FrameVerifyResult, (verifyCall cryptoVerify self c).1 = .ok r ∧ r.valid = false) :
    (verifyCall cryptoVerify self c).2 = self := by
  obtain ⟨r, hr, hvalid⟩ := h
  unfold verifyCall at hr ⊢
  split
  · rfl
  · rfl
  · rename_i parsed hcheck
    rw [hcheck] at hr
    dsimp only at hr ⊢
    split
    · -- a nonce that the cache knows is not deleted when it is asked for
      rename_i hseen
      rw [MemoryNonceCache.has_snd_of_known hseen]
    · rename_i hseen
      rw [if_neg hseen, Except.ok.injEq] at hr
      rw [← hr] at hvalid
      cases hvalid

/-- **Verifications are failure-atomic**: deleting any rejected calls from a run, here those marked
`false`, leaves the results of the others as they are; and every call returns the error of the first
step that fails, and adds its nonce if and only if no step does. -/
theorem failure_atomic (self : PotVerifier) (marked : List (Bool × VerifyCall))
    (hcalls : ∀ c ∈ marked, c.2.frame.length = POT_FRAME_SIZE ∧ Connected c.2.socket)
    (hrejected : ∀ result ∈ Mealy.outputsFor false marked
        (verifyAll cryptoVerify self (marked.map Prod.snd)),
      ∃ r : FrameVerifyResult, result = .ok r ∧ r.valid = false) :
    verifyAll cryptoVerify self (Mealy.inputsFor true marked) =
        Mealy.outputsFor true marked (verifyAll cryptoVerify self (marked.map Prod.snd)) ∧
      ∀ i c, (marked.map Prod.snd)[i]? = some c →
        ∃ parsed r, decodePotFrame c.frame = .ok parsed ∧
          (verifyAll cryptoVerify self (marked.map Prod.snd))[i]? = some (.ok r) ∧
          Checked cryptoVerify
            (Mealy.after (verifyCall cryptoVerify) self ((marked.map Prod.snd).take i)) c parsed r
            (Mealy.after (verifyCall cryptoVerify) self ((marked.map Prod.snd).take (i + 1))) := by
  constructor
  · exact Mealy.outputs_inputsFor_true _
      (fun _ _ => verifyCall_snd_of_rejected cryptoVerify) hrejected
  · intro i c hi
    obtain ⟨call, hcall, rfl⟩ := List.mem_map.1 (List.mem_of_getElem? hi)
    obtain ⟨parsed, r, hdecode, hresult, hchecked⟩ := verifyCall_checked cryptoVerify
      (Mealy.after (verifyCall cryptoVerify) self ((marked.map Prod.snd).take i)) call.2
      (hcalls call hcall).1 (hcalls call hcall).2
    refine ⟨parsed, r, hdecode, ?_, ?_⟩
    · rw [verifyAll, Mealy.outputs_getElem? _ self hi, hresult]
    · rw [List.take_add_one, hi, Option.toList_some, Mealy.after_concat]
      exact hchecked

/-- The same frame presented once more. -/
def replayedCalls : List (Bool × VerifyCall) :=
  [(true, futureCall 1700000120001), (false, futureCall 1700000120001)]

theorem verifyAll_replayedCalls :
    verifyAll futureVerify (new (.inl futureKey) .new) (replayedCalls.map Prod.snd) =
      [.ok { valid := true, frame := some futureFrame, latencyMs := some 0 },
        .ok { valid := false, error := some .NONCE_REPLAY, frame := some futureFrame }] := by
  unfold futureVerify
  simp only [replayedCalls, futureCall, futureFrame, futureMessage_eq, futureSignature_eq,
    futureKey_eq]
  decide +kernel

theorem connected_futureSocket : Connected futureSocket where
  encrypted := rfl
  exports _ _ _ := ⟨_, rfl⟩

/-- Without the replay, the frame is accepted as it is with it. -/
theorem failure_atomic_replayed :
    verifyAll futureVerify (new (.inl futureKey) .new) (Mealy.inputsFor true replayedCalls) =
      Mealy.outputsFor true replayedCalls
        (verifyAll futureVerify (new (.inl futureKey) .new) (replayedCalls.map Prod.snd)) := by
  refine (failure_atomic futureVerify (new (.inl futureKey) .new) replayedCalls ?_ ?_).1
  · intro c hc
    obtain ⟨now, hcall⟩ : ∃ now, c.2 = futureCall now := by
      simp only [replayedCalls, List.mem_cons, List.not_mem_nil, or_false] at hc
      rcases hc with rfl | rfl <;> exact ⟨_, rfl⟩
    have hlength : (futureCall now).frame.length = POT_FRAME_SIZE := by
      simp only [futureCall, futureMessage_eq, futureSignature_eq]
      rfl
    rw [hcall]
    exact ⟨hlength, connected_futureSocket⟩
  · rw [verifyAll_replayedCalls]
    intro result hresult
    rw [List.mem_singleton.1 hresult]
    exact ⟨_, rfl, rfl⟩

end PotVerifier

end OpenTTT
