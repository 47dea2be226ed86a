import StrategyDeploy.Session.Blob
import StrategyDeploy.Proofs.Except
import StrategyDeploy.Proofs.Bytes.Base64
import StrategyDeploy.Proofs.Session.Record
import StrategyDeploy.Proofs.Gzip.Member
import StrategyDeploy.Proofs.Deployment.Fingerprint
import StrategyDeploy.Proofs.Session.Steps

/-! Saving and restoring a session. -/
namespace StrategyDeploy.Session

open StrategyDeploy.Bytes StrategyDeploy.Deployment

theorem decode?_extract_versioned (r : Record) (h : r.encode.length < 2 ^ 32) :
    Record.decode? ((ByteArray.mk (recordVersion :: r.encode).toArray).extract 1
      (ByteArray.mk (recordVersion :: r.encode).toArray).size) = some r := by
  have body := (standsAt_mk (recordVersion :: r.encode)).right (a := [recordVersion]) (b := r.encode)
  have whole : (ByteArray.mk (recordVersion :: r.encode).toArray).size = 1 + r.encode.length := by
    show (recordVersion :: r.encode).toArray.size = _
    simp [Nat.add_comm]
  simp only [List.length_singleton, Nat.zero_add] at body
  rw [whole, body.extract, r.decode?_encode h]

variable {z : Gzip.Codec}

theorem Store.deserializeWith_serializeWith_eq (hz : z.Inverts) (C : Config) (st : Store) :
    Store.deserializeWith z C (st.serializeWith z) =
      if 1 + st.record.encode.length ≤ recordLimit then
        (if st.config.fingerprint = C.fingerprint then .ok ⟨C, st.state⟩ else .error .configMismatch)
      else .error .tooLarge := by
  have size : (ByteArray.mk (recordVersion :: st.record.encode).toArray).size =
      1 + st.record.encode.length := by
    show (recordVersion :: st.record.encode).toArray.size = _
    simp [Nat.add_comm]
  have unpacked : Gzip.decompressWith z
      (Gzip.compressWith z ⟨(recordVersion :: st.record.encode).toArray⟩) recordLimit =
      some (if (ByteArray.mk (recordVersion :: st.record.encode).toArray).size ≤ recordLimit
        then .data ⟨(recordVersion :: st.record.encode).toArray⟩ else .tooLarge) :=
    Gzip.decompressWith_compressWith hz (by decide)
  unfold Store.deserializeWith Store.serializeWith
  rw [size] at unpacked
  rw [trim_encodeBase64, decodeBase64?_encodeBase64]
  by_cases fits : 1 + st.record.encode.length ≤ recordLimit
  · rw [if_pos fits] at unpacked ⊢
    have tag : (ByteArray.mk (recordVersion :: st.record.encode).toArray)[0]? = some recordVersion :=
      (standsAt_mk (recordVersion :: st.record.encode)).getElem? (i := 0) (by simp)
    have small : st.record.encode.length < 2 ^ 32 := by unfold recordLimit at fits; omega
    have saved : st.record.fingerprint = st.config.fingerprint := rfl
    simp only [orFail, Except.ok_bind, unpacked, pure, Except.pure, tag, ne_eq,
      not_true_eq_false, if_false, decode?_extract_versioned _ small, saved]
    by_cases agree : st.config.fingerprint = C.fingerprint
    · rw [if_neg (not_not.mpr agree), if_pos agree, Store.record, Record.state_ofState]
    · rw [if_pos agree, if_neg agree]
      rfl
  · rw [if_neg fits] at unpacked ⊢
    simp only [orFail, Except.ok_bind, unpacked]
    rfl

theorem Store.deserializeWith_serializeWith (hz : z.Inverts) {C : Config}
    {st : Store} (hfp : st.config.fingerprint = C.fingerprint) :
    Store.deserializeWith z C (st.serializeWith z) =
        (if 1 + st.record.encode.length ≤ recordLimit then .ok ⟨C, st.state⟩
        else .error .tooLarge) ∧
      CodecError.tooLarge.message = "Malformed state record: record exceeds 1048576 bytes" := by
  refine ⟨?_, rfl⟩
  rw [Store.deserializeWith_serializeWith_eq hz, if_pos hfp]

theorem Store.run_vault_session {c : Config} (bindings : c.fieldBindings = ["p", "q"])
    {tk : TokenInfo} (token : c.depositToken "a" = .ok tk) :
    Store.run { config := c } [.setFields [("p", "1"), ("q", "2")], .setDeposit "a" "5"] =
      { config := c, state := ⟨[⟨"p", "1"⟩, ⟨"q", "2"⟩], [⟨"a", tk.address, "5"⟩]⟩ } := by
  have fields : ({ config := c } : Store).setFields [("p", "1"), ("q", "2")] =
      .ok { config := c, state := ⟨[⟨"p", "1"⟩, ⟨"q", "2"⟩], []⟩ } :=
    Store.setFields_of_forall_mem (by simp [bindings])
  have deposit : ({ config := c, state := ⟨[⟨"p", "1"⟩, ⟨"q", "2"⟩], []⟩ } : Store).setDeposit
      "a" "5" = .ok { config := c, state := ⟨[⟨"p", "1"⟩, ⟨"q", "2"⟩], [⟨"a", tk.address, "5"⟩]⟩ } :=
    Store.setDeposit_of_ok token
  simp only [Store.run, List.foldl, Store.after, Store.exec, fields, Except.map, deposit]

/-- A session of the vault document's deployment, with two fields and a deposit, saved with the
stored codec, restores. -/
theorem stored_session_restores : ∃ c, Config.load (vaultDocument "1") "y" = .ok c ∧
    let st := Store.run { config := c } [.setFields [("p", "1"), ("q", "2")], .setDeposit "a" "5"]
    (Store.deserializeWith Gzip.Codec.stored c (st.serializeWith Gzip.Codec.stored) =
        (if 1 + st.record.encode.length ≤ recordLimit then .ok ⟨c, st.state⟩
        else .error .tooLarge) ∧
      CodecError.tooLarge.message = "Malformed state record: record exceeds 1048576 bytes") := by
  obtain ⟨c, -, loaded, -, -, bindings, keys, -⟩ := vaultDocuments_load_shape
  obtain ⟨tk, token⟩ : ∃ tk, c.depositToken "a" = .ok tk :=
    (Config.depositToken_ok_iff (Config.load_depositsResolve loaded)).mpr (by simp [keys])
  refine ⟨c, loaded, Store.deserializeWith_serializeWith Gzip.Codec.stored_inverts ?_⟩
  rw [Store.run_vault_session bindings token]

theorem State.Sound.transfer {c d : Config} {s : State} (h : s.Sound c) (hd : d.DepositsResolve)
    (bindings : c.fieldBindings = d.fieldBindings) (tokens : c.depositKeys = d.depositKeys)
    (addresses : ∀ t ∈ c.depositKeys, (c.token? t).map (·.address) = (d.token? t).map (·.address)) :
    s.Sound d where
  bindings_nodup := h.bindings_nodup
  bindings_offered f hf := bindings ▸ h.bindings_offered f hf
  tokens_nodup := h.tokens_nodup
  tokens_offered a ha := tokens ▸ h.tokens_offered a ha
  addresses a ha := by
    obtain ⟨tk, htk, same⟩ := h.addresses a ha
    have offered := h.tokens_offered a ha
    obtain ⟨tk', htk'⟩ := (Config.depositToken_ok_iff hd).mpr (tokens ▸ offered)
    have lookup := addresses a.token offered
    rw [Config.token?_of_depositToken htk, Config.token?_of_depositToken htk', Option.map_some,
      Option.map_some, Option.some.injEq] at lookup
    exact ⟨tk', htk', lookup ▸ same⟩

/-- A session built by the checked operations on a loaded deployment, saved and restored into
another loaded deployment: the restore succeeds exactly when the fingerprints agree, fails with
a mismatch otherwise, and what it restores is the saved state, sound for the new deployment.
The fingerprint is trusted to have no collision between the two records, and the first record
to be shorter than `2 ^ 32` bytes, the most its four-byte lengths can frame. -/
theorem Store.restore_into_loaded_deployment (hz : z.Inverts) {source₁ source₂ id₁ id₂ : String}
    {c₁ c₂ : Config} (load₁ : Config.load source₁ id₁ = .ok c₁)
    (load₂ : Config.load source₂ id₂ = .ok c₂)
    (collision : Hash.keccak256 c₁.preimage = Hash.keccak256 c₂.preimage → c₁.preimage = c₂.preimage)
    (short : c₁.preimage.length < 2 ^ 32) (ops : List Op)
    (fits : 1 + (Store.run { config := c₁ } ops).record.encode.length ≤ recordLimit) :
    let st := Store.run { config := c₁ } ops
    let restored := Store.deserializeWith z c₂ (st.serializeWith z)
    ((∃ r, restored = .ok r) ↔ c₁.fingerprint = c₂.fingerprint) ∧
      (c₁.fingerprint ≠ c₂.fingerprint → restored = .error .configMismatch) ∧
      ∀ r, restored = .ok r → r = ⟨c₂, st.state⟩ ∧ r.state.Sound c₂ := by
  intro st restored
  have resolves₁ := Config.load_depositsResolve load₁
  have resolves₂ := Config.load_depositsResolve load₂
  obtain ⟨holds, offered⟩ := Holds.run resolves₁ (Holds.empty c₁) (SessionMap.offered_empty c₁) ops
  have restoredEq : restored =
      if c₁.fingerprint = c₂.fingerprint then .ok ⟨c₂, st.state⟩ else .error .configMismatch := by
    rw [← holds.config]
    exact (Store.deserializeWith_serializeWith_eq hz c₂ st).trans (if_pos fits)
  refine ⟨⟨?_, ?_⟩, ?_, ?_⟩
  · rintro ⟨r, hr⟩
    by_contra differ
    rw [restoredEq, if_neg differ] at hr
    cases hr
  · intro agree
    exact ⟨_, by rw [restoredEq, if_pos agree]⟩
  · intro differ
    rw [restoredEq, if_neg differ]
  · intro r hr
    by_cases agree : c₁.fingerprint = c₂.fingerprint
    · rw [restoredEq, if_pos agree] at hr
      cases hr
      refine ⟨rfl, ?_⟩
      rw [Config.load_fingerprint load₁, Config.load_fingerprint load₂, fingerprintOf_eq_iff]
        at agree
      obtain ⟨bindings, tokens, addresses⟩ :=
        Config.keys_of_preimage resolves₁ resolves₂ (collision agree) short
      exact (holds.sound offered).transfer resolves₂ bindings tokens addresses
    · rw [restoredEq, if_neg agree] at hr
      cases hr

/-- A session with two fields and a deposit, built on the first vault document's deployment,
saved with the stored codec and restored into the second's, which has other vaults and the
same fingerprint. -/
theorem redeployed_session_restores_soundly : ∃ c₁ c₂,
    Config.load (vaultDocument "1") "y" = .ok c₁ ∧ Config.load (vaultDocument "2") "y" = .ok c₂ ∧
    c₁.inputs ≠ c₂.inputs ∧
    let st := Store.run { config := c₁ } [.setFields [("p", "1"), ("q", "2")], .setDeposit "a" "5"]
    let restored := Store.deserializeWith Gzip.Codec.stored c₂ (st.serializeWith Gzip.Codec.stored)
    ((∃ r, restored = .ok r) ↔ c₁.fingerprint = c₂.fingerprint) ∧
      (c₁.fingerprint ≠ c₂.fingerprint → restored = .error .configMismatch) ∧
      ∀ r, restored = .ok r → r = ⟨c₂, st.state⟩ ∧ r.state.Sound c₂ := by
  obtain ⟨c₁, c₂, load₁, load₂, inputs, bindings, keys, records, short⟩ := vaultDocuments_load_shape
  obtain ⟨tk, token⟩ : ∃ tk, c₁.depositToken "a" = .ok tk :=
    (Config.depositToken_ok_iff (Config.load_depositsResolve load₁)).mpr (by simp [keys])
  have fits : 1 + (Store.run { config := c₁ }
      [.setFields [("p", "1"), ("q", "2")], .setDeposit "a" "5"]).record.encode.length ≤
      recordLimit := by
    rw [Store.run_vault_session bindings token]
    simp +decide [Store.record, Record.ofState, Record.encode, MsgPack.writeArray, MsgPack.writeBin,
      MsgPack.writeStr, MsgPack.binHeader, MsgPack.arrayHeader, MsgPack.strHeader,
      c₁.fingerprint.length_eq, tk.address.length_eq, recordLimit]
  exact ⟨c₁, c₂, load₁, load₂, inputs, Store.restore_into_loaded_deployment
    Gzip.Codec.stored_inverts load₁ load₂ (fun _ => records) short _ fits⟩

end StrategyDeploy.Session
