import StrategyDeploy.Deployment.Fingerprint
import StrategyDeploy.Proofs.Bytes.Layout
import StrategyDeploy.Proofs.Deployment.Loaded

/-! Reading a fingerprinted record back. -/
namespace StrategyDeploy.Deployment

open StrategyDeploy.Bytes StrategyDeploy.Evm StrategyDeploy.Hash

/-- The bytes a deployment's fingerprint is the digest of. -/
def Config.preimage (c : Config) : List UInt8 :=
  fingerprintRecord c.deployment c.fields c.deposits c.tokens

/-- What the record keeps of a field. -/
def FieldSpec.key (f : FieldSpec) : String × List Preset := (f.binding, f.presets)

/-- What the record keeps of a deposit, its token looked up in `tokens`. -/
def DepositSpec.key (tokens : List TokenInfo) (d : DepositSpec) :
    String × Option (Address × UInt8) × List String :=
  (d.token, (tokens.find? (·.key == d.token)).map (fun t => (t.address, t.decimals.toUInt8)),
    d.presets)

theorem length_keccak256 (input : List UInt8) : (keccak256 input).length = 32 := by
  simp [keccak256, bytesOfLane, List.range_succ]

theorem fingerprintOf_eq_iff {d d' : String} {fs fs' : List FieldSpec} {ds ds' : List DepositSpec}
    {ts ts' : List TokenInfo} :
    fingerprintOf d fs ds ts = fingerprintOf d' fs' ds' ts' ↔
      keccak256 (fingerprintRecord d fs ds ts) = keccak256 (fingerprintRecord d' fs' ds' ts') := by
  simp only [fingerprintOf, Fixed.ofBytes?, length_keccak256, dite_true]
  constructor
  · intro h
    exact congrArg Fixed.bytes h
  · intro h
    simp [h]

/-- The texts of a preset each have fewer than `2 ^ 32` bytes. -/
def Preset.Fits (p : Preset) : Prop :=
  (∀ name, p.name = some name → name.utf8ByteSize < 2 ^ 32) ∧ p.value.utf8ByteSize < 2 ^ 32

def FieldSpec.Fits (f : FieldSpec) : Prop :=
  f.binding.utf8ByteSize < 2 ^ 32 ∧ f.presets.length < 2 ^ 32 ∧ ∀ p ∈ f.presets, p.Fits

def DepositSpec.Fits (d : DepositSpec) : Prop :=
  d.token.utf8ByteSize < 2 ^ 32 ∧ d.presets.length < 2 ^ 32 ∧
    ∀ s ∈ d.presets, s.utf8ByteSize < 2 ^ 32

/-- Every text of a deployment's record has fewer than `2 ^ 32` bytes and every list fewer than
`2 ^ 32` items, so that each length fits its four bytes. -/
structure RecordFits (deployment : String) (fields : List FieldSpec) (deposits : List DepositSpec) :
    Prop where
  deployment : deployment.utf8ByteSize < 2 ^ 32
  fieldCount : fields.length < 2 ^ 32
  fields : ∀ f ∈ fields, f.Fits
  depositCount : deposits.length < 2 ^ 32
  deposits : ∀ d ∈ deposits, d.Fits

section Reading

variable {x y : List UInt8}

theorem length_countBytes (n : Nat) : (countBytes n).length = 4 := length_beBytes 4 n

theorem countBytes_append_inj {n m : Nat} (h : countBytes n ++ x = countBytes m ++ y)
    (hn : n < 2 ^ 32) (hm : m < 2 ^ 32) : n = m ∧ x = y := by
  obtain ⟨same, rest⟩ := List.append_inj h (by simp [length_countBytes])
  have values := congrArg beValue same
  simp only [countBytes, beValue_beBytes] at values
  have four : (256 : Nat) ^ 4 = 2 ^ 32 := by decide
  rw [four, Nat.mod_eq_of_lt hn, Nat.mod_eq_of_lt hm] at values
  exact ⟨values, rest⟩

theorem length_framed (s : String) : (framed s).length = 4 + s.utf8ByteSize := by
  simp [framed, length_countBytes, String.size_toByteArray]

theorem Preset.record_ne_nil (p : Preset) : p.record ≠ [] := by
  unfold Preset.record
  cases p.name <;> simp

theorem framed_ne_nil (s : String) : framed s ≠ [] := by
  simp [framed, countBytes, beBytes]

theorem FieldSpec.record_ne_nil (f : FieldSpec) : f.record ≠ [] := by
  simp [FieldSpec.record, framed_ne_nil]

theorem Fixed.ext_of_bytes {n : Nat} {a b : Fixed n} (h : a.bytes = b.bytes) : a = b := by
  cases a
  cases b
  cases h
  rfl

theorem DepositSpec.record_ne_nil (tokens : List TokenInfo) (d : DepositSpec) :
    d.record tokens ≠ [] := by
  simp [DepositSpec.record, framed_ne_nil]

theorem framed_append_inj {s t : String} (h : framed s ++ x = framed t ++ y)
    (hs : s.utf8ByteSize < 2 ^ 32) (ht : t.utf8ByteSize < 2 ^ 32) : s = t ∧ x = y := by
  simp only [framed, List.append_assoc] at h
  obtain ⟨sizes, h⟩ := countBytes_append_inj h hs ht
  have len : s.toUTF8.toList.length = t.toUTF8.toList.length := by
    simpa [String.size_toByteArray] using sizes
  obtain ⟨bytes, rest⟩ := List.append_inj h len
  refine ⟨?_, rest⟩
  apply String.toByteArray_inj.mp
  apply ByteArray.ext
  apply Array.toList_inj.mp
  simpa using bytes

theorem Preset.record_append_inj {p q : Preset} (h : p.record ++ x = q.record ++ y)
    (hp : p.Fits) (hq : q.Fits) : p = q ∧ x = y := by
  obtain ⟨pn, pv⟩ := p
  obtain ⟨qn, qv⟩ := q
  cases pn with
  | none =>
      cases qn with
      | none =>
          simp only [Preset.record, List.cons_append, List.cons.injEq, true_and] at h
          obtain ⟨same, rest⟩ := framed_append_inj h hp.2 hq.2
          exact ⟨by rw [same], rest⟩
      | some qn => simp [Preset.record] at h
  | some pn =>
      cases qn with
      | none => simp [Preset.record] at h
      | some qn =>
          simp only [Preset.record, List.cons_append, List.append_assoc, List.cons.injEq,
            true_and] at h
          obtain ⟨names, h⟩ := framed_append_inj h (hp.1 pn rfl) (hq.1 qn rfl)
          obtain ⟨values, rest⟩ := framed_append_inj h hp.2 hq.2
          exact ⟨by rw [names, values], rest⟩

theorem flatMap_append_inj {α β γ : Type} (rec₁ : α → List UInt8) (rec₂ : β → List UInt8)
    (key₁ : α → γ) (key₂ : β → γ) :
    ∀ {l₁ : List α} {l₂ : List β} {x y : List UInt8},
      (∀ a ∈ l₁, ∀ b ∈ l₂, ∀ x y, rec₁ a ++ x = rec₂ b ++ y → key₁ a = key₂ b ∧ x = y) →
      l₁.length = l₂.length → l₁.flatMap rec₁ ++ x = l₂.flatMap rec₂ ++ y →
      l₁.map key₁ = l₂.map key₂ ∧ x = y
  | [], [], _, _, _, _, h => by simpa using h
  | a :: l₁, b :: l₂, x, y, step, len, h => by
      simp only [List.flatMap_cons, List.append_assoc] at h
      obtain ⟨head, h⟩ := step a List.mem_cons_self b List.mem_cons_self _ _ h
      have later := flatMap_append_inj rec₁ rec₂ key₁ key₂
        (fun a ha b hb => step a (List.mem_cons_of_mem _ ha) b (List.mem_cons_of_mem _ hb))
        (by simpa using len) h
      exact ⟨by rw [List.map_cons, List.map_cons, head, later.1], later.2⟩

theorem FieldSpec.record_append_inj {f g : FieldSpec} (h : f.record ++ x = g.record ++ y)
    (hf : f.Fits) (hg : g.Fits) : f.key = g.key ∧ x = y := by
  simp only [FieldSpec.record, List.append_assoc] at h
  obtain ⟨binding, h⟩ := framed_append_inj h hf.1 hg.1
  obtain ⟨count, h⟩ := countBytes_append_inj h hf.2.1 hg.2.1
  obtain ⟨presets, rest⟩ := flatMap_append_inj Preset.record Preset.record id id
    (fun p hp q hq _ _ same => Preset.record_append_inj same (hf.2.2 p hp) (hg.2.2 q hq))
    count h
  simp only [List.map_id] at presets
  exact ⟨by rw [FieldSpec.key, FieldSpec.key, binding, presets], rest⟩

theorem DepositSpec.record_append_inj {ts us : List TokenInfo} {d e : DepositSpec}
    (hd : (ts.find? (·.key == d.token)).isSome) (he : (us.find? (·.key == e.token)).isSome)
    (h : d.record ts ++ x = e.record us ++ y) (fd : d.Fits) (fe : e.Fits) :
    d.key ts = e.key us ∧ x = y := by
  obtain ⟨t, ht⟩ := Option.isSome_iff_exists.mp hd
  obtain ⟨u, hu⟩ := Option.isSome_iff_exists.mp he
  simp only [DepositSpec.record, ht, hu, List.append_assoc] at h
  obtain ⟨token, h⟩ := framed_append_inj h fd.1 fe.1
  obtain ⟨address, h⟩ := List.append_inj h (by rw [t.address.length_eq, u.address.length_eq])
  obtain ⟨decimals, h⟩ := List.append_inj h rfl
  obtain ⟨count, h⟩ := countBytes_append_inj h fd.2.1 fe.2.1
  obtain ⟨presets, rest⟩ := flatMap_append_inj framed framed id id
    (fun s hs s' hs' _ _ same => framed_append_inj same (fd.2.2 s hs) (fe.2.2 s' hs'))
    count h
  simp only [List.map_id] at presets
  refine ⟨?_, rest⟩
  simp only [DepositSpec.key, ht, hu, Option.map_some]
  rw [token, presets, Fixed.ext_of_bytes address, (List.cons.inj decimals).1]

end Reading

section Sizes

theorem length_le_length_flatMap_of_mem {α : Type} {f : α → List UInt8} {l : List α} {a : α}
    (ha : a ∈ l) : (f a).length ≤ (l.flatMap f).length := by
  induction l with
  | nil => cases ha
  | cons b l ih =>
    rw [List.flatMap_cons, List.length_append]
    rcases List.mem_cons.mp ha with rfl | ha
    · omega
    · have := ih ha
      omega

theorem Preset.fits_of_length_lt {p : Preset} (short : p.record.length < 2 ^ 32) : p.Fits := by
  obtain ⟨name, value⟩ := p
  cases name with
  | none =>
    simp only [Preset.record, List.length_append, List.length_singleton, length_framed] at short
    refine ⟨fun _ h => ?_, ?_⟩
    · cases h
    · show value.utf8ByteSize < 2 ^ 32
      omega
  | some name =>
    simp only [Preset.record, List.cons_append, List.length_cons, List.length_append,
      length_framed] at short
    refine ⟨fun n h => ?_, ?_⟩
    · cases h
      omega
    · show value.utf8ByteSize < 2 ^ 32
      omega

theorem FieldSpec.fits_of_length_lt {f : FieldSpec} (short : f.record.length < 2 ^ 32) : f.Fits := by
  have count : f.presets.length ≤ (f.presets.flatMap Preset.record).length :=
    length_le_length_flatMap fun p _ => Preset.record_ne_nil p
  simp only [FieldSpec.record, List.length_append, length_framed, length_countBytes] at short
  refine ⟨by omega, by omega, fun p hp => Preset.fits_of_length_lt ?_⟩
  have := length_le_length_flatMap_of_mem (f := Preset.record) hp
  omega

theorem DepositSpec.fits_of_length_lt {tokens : List TokenInfo} {d : DepositSpec}
    (short : (d.record tokens).length < 2 ^ 32) : d.Fits := by
  have count : d.presets.length ≤ (d.presets.flatMap framed).length :=
    length_le_length_flatMap fun s _ => framed_ne_nil s
  simp only [DepositSpec.record, List.length_append, length_framed, length_countBytes] at short
  refine ⟨by omega, by omega, fun s hs => ?_⟩
  have := length_le_length_flatMap_of_mem (f := framed) hs
  rw [length_framed] at this
  omega

theorem RecordFits.of_length_lt {d : String} {fs : List FieldSpec} {ds : List DepositSpec}
    {ts : List TokenInfo} (short : (fingerprintRecord d fs ds ts).length < 2 ^ 32) :
    RecordFits d fs ds := by
  have nfs : fs.length ≤ (fs.flatMap FieldSpec.record).length :=
    length_le_length_flatMap fun f _ => FieldSpec.record_ne_nil f
  have nds : ds.length ≤ (ds.flatMap (DepositSpec.record ts)).length :=
    length_le_length_flatMap fun a _ => DepositSpec.record_ne_nil ts a
  simp only [fingerprintRecord, List.length_append, length_framed, length_countBytes] at short
  refine ⟨by omega, by omega, fun f hf => FieldSpec.fits_of_length_lt ?_, by omega,
    fun a ha => ?_⟩
  · have := length_le_length_flatMap_of_mem (f := FieldSpec.record) hf
    omega
  · have := length_le_length_flatMap_of_mem (f := DepositSpec.record ts) ha
    exact DepositSpec.fits_of_length_lt (show (a.record ts).length < 2 ^ 32 by omega)

end Sizes

theorem fingerprintRecord_inj_of_fits {d e : String} {fs gs : List FieldSpec}
    {ds es : List DepositSpec} {ts us : List TokenInfo}
    (hd : ∀ a ∈ ds, (ts.find? (·.key == a.token)).isSome)
    (he : ∀ a ∈ es, (us.find? (·.key == a.token)).isSome)
    (fits₁ : RecordFits d fs ds) (fits₂ : RecordFits e gs es)
    (h : fingerprintRecord d fs ds ts = fingerprintRecord e gs es us) :
    d = e ∧ fs.map FieldSpec.key = gs.map FieldSpec.key ∧
      ds.map (DepositSpec.key ts) = es.map (DepositSpec.key us) := by
  rw [← List.append_nil (fingerprintRecord d fs ds ts),
    ← List.append_nil (fingerprintRecord e gs es us)] at h
  simp only [fingerprintRecord, List.append_assoc] at h
  obtain ⟨-, h⟩ := framed_append_inj h (by decide +kernel) (by decide +kernel)
  obtain ⟨ids, h⟩ := framed_append_inj h fits₁.deployment fits₂.deployment
  obtain ⟨fieldCount, h⟩ := countBytes_append_inj h fits₁.fieldCount fits₂.fieldCount
  obtain ⟨fields, h⟩ := flatMap_append_inj FieldSpec.record FieldSpec.record FieldSpec.key
    FieldSpec.key (fun f hf g hg _ _ same =>
      FieldSpec.record_append_inj same (fits₁.fields f hf) (fits₂.fields g hg)) fieldCount h
  obtain ⟨depositCount, h⟩ := countBytes_append_inj h fits₁.depositCount fits₂.depositCount
  obtain ⟨deposits, -⟩ := flatMap_append_inj (DepositSpec.record ts) (DepositSpec.record us)
    (DepositSpec.key ts) (DepositSpec.key us) (fun a ha b hb _ _ same =>
      DepositSpec.record_append_inj (hd a ha) (he b hb) same (fits₁.deposits a ha)
        (fits₂.deposits b hb)) depositCount h
  exact ⟨ids, fields, deposits⟩

theorem fingerprintRecord_inj {d e : String} {fs gs : List FieldSpec} {ds es : List DepositSpec}
    {ts us : List TokenInfo} (hd : ∀ a ∈ ds, (ts.find? (·.key == a.token)).isSome)
    (he : ∀ a ∈ es, (us.find? (·.key == a.token)).isSome)
    (h : fingerprintRecord d fs ds ts = fingerprintRecord e gs es us)
    (short : (fingerprintRecord d fs ds ts).length < 2 ^ 32) :
    d = e ∧ fs.map FieldSpec.key = gs.map FieldSpec.key ∧
      ds.map (DepositSpec.key ts) = es.map (DepositSpec.key us) :=
  fingerprintRecord_inj_of_fits hd he (RecordFits.of_length_lt short)
    (RecordFits.of_length_lt (h ▸ short)) h

section Views

theorem flatMap_eq_of_map_key {α β γ : Type} {rec₁ : α → List UInt8} {rec₂ : β → List UInt8}
    {key₁ : α → γ} {key₂ : β → γ} (same : ∀ a b, key₁ a = key₂ b → rec₁ a = rec₂ b) :
    ∀ {l₁ : List α} {l₂ : List β}, l₁.map key₁ = l₂.map key₂ → l₁.flatMap rec₁ = l₂.flatMap rec₂
  | [], [], _ => rfl
  | [], _ :: _, h => by simp at h
  | _ :: _, [], h => by simp at h
  | a :: l₁, b :: l₂, h => by
    simp only [List.map_cons, List.cons.injEq] at h
    rw [List.flatMap_cons, List.flatMap_cons, same a b h.1, flatMap_eq_of_map_key same h.2]

theorem FieldSpec.record_eq_of_key {f g : FieldSpec} (h : f.key = g.key) : f.record = g.record := by
  simp only [FieldSpec.key, Prod.mk.injEq] at h
  simp only [FieldSpec.record, h.1, h.2]

theorem DepositSpec.record_eq_of_key {ts us : List TokenInfo} {d e : DepositSpec}
    (h : d.key ts = e.key us) : d.record ts = e.record us := by
  simp only [DepositSpec.key, Prod.mk.injEq] at h
  obtain ⟨token, lookup, presets⟩ := h
  rw [token] at lookup
  unfold DepositSpec.record
  rw [token, presets]
  cases ht : ts.find? (·.key == e.token) <;> cases hu : us.find? (·.key == e.token) <;>
    simp_all

theorem fingerprintRecord_eq_of_keys {d : String} {fs gs : List FieldSpec}
    {ds es : List DepositSpec} {ts us : List TokenInfo}
    (fields : fs.map FieldSpec.key = gs.map FieldSpec.key)
    (deposits : ds.map (DepositSpec.key ts) = es.map (DepositSpec.key us)) :
    fingerprintRecord d fs ds ts = fingerprintRecord d gs es us := by
  have fieldCount : fs.length = gs.length := by simpa using congrArg List.length fields
  have depositCount : ds.length = es.length := by simpa using congrArg List.length deposits
  simp only [fingerprintRecord, fieldCount, depositCount,
    flatMap_eq_of_map_key (fun _ _ => FieldSpec.record_eq_of_key) fields,
    flatMap_eq_of_map_key (fun _ _ => DepositSpec.record_eq_of_key) deposits]

theorem fingerprintRecord_eq_iff_of_fits {d e : String} {fs gs : List FieldSpec}
    {ds es : List DepositSpec} {ts us : List TokenInfo}
    (fits₁ : RecordFits d fs ds) (fits₂ : RecordFits e gs es)
    (hd : ∀ a ∈ ds, (ts.find? (·.key == a.token)).isSome)
    (he : ∀ a ∈ es, (us.find? (·.key == a.token)).isSome) :
    fingerprintRecord d fs ds ts = fingerprintRecord e gs es us ↔
      d = e ∧ fs.map FieldSpec.key = gs.map FieldSpec.key ∧
        ds.map (DepositSpec.key ts) = es.map (DepositSpec.key us) := by
  refine ⟨fingerprintRecord_inj_of_fits hd he fits₁ fits₂, ?_⟩
  rintro ⟨rfl, fields, deposits⟩
  exact fingerprintRecord_eq_of_keys fields deposits

end Views

section Loaded

variable {c d : Config}

theorem Config.find?_isSome_of_depositsResolve (h : c.DepositsResolve) :
    ∀ a ∈ c.deposits, (c.tokens.find? (·.key == a.token)).isSome := by
  intro a ha
  obtain ⟨tk, htk⟩ := h a.token (List.mem_map_of_mem ha)
  simp only [Config.token?] at htk
  simp [htk]

theorem Config.keys_of_preimage (hc : c.DepositsResolve) (hd : d.DepositsResolve)
    (same : c.preimage = d.preimage) (short : c.preimage.length < 2 ^ 32) :
    c.fieldBindings = d.fieldBindings ∧ c.depositKeys = d.depositKeys ∧
      ∀ t ∈ c.depositKeys, (c.token? t).map (·.address) = (d.token? t).map (·.address) := by
  obtain ⟨-, fields, deposits⟩ := fingerprintRecord_inj (find?_isSome_of_depositsResolve hc)
    (find?_isSome_of_depositsResolve hd) same short
  have bindings := congrArg (List.map Prod.fst) fields
  have tokens := congrArg (List.map Prod.fst) deposits
  simp only [List.map_map] at bindings tokens
  refine ⟨bindings, tokens, ?_⟩
  intro t ht
  obtain ⟨a, ha, rfl⟩ := List.mem_map.mp ht
  obtain ⟨b, -, hb⟩ := List.mem_map.mp (deposits ▸ List.mem_map_of_mem (f := DepositSpec.key c.tokens) ha)
  simp only [DepositSpec.key, Prod.mk.injEq] at hb
  obtain ⟨token, lookup, -⟩ := hb
  have addresses := congrArg (Option.map Prod.fst) lookup
  simp only [Option.map_map, Function.comp_def, token] at addresses
  simpa [Config.token?] using addresses.symm

end Loaded

/-- The fingerprinted record of a deployment is a function of its id, of each field's binding
and presets, and of each deposit's token, presets and the token's address and decimals, and of
nothing else. Where every text and list fits its four-byte length and every deposit token is
known, that function is one to one. So two loaded deployments that fit have equal fingerprints
exactly when they agree on all of these, wherever the digest of their records has no
collision. -/
theorem fingerprint_reads_only_session_view :
    (∀ (d : String) (fs gs : List FieldSpec) (ds es : List DepositSpec) (ts us : List TokenInfo),
      fs.map FieldSpec.key = gs.map FieldSpec.key →
      ds.map (DepositSpec.key ts) = es.map (DepositSpec.key us) →
      fingerprintRecord d fs ds ts = fingerprintRecord d gs es us) ∧
    (∀ (d e : String) (fs gs : List FieldSpec) (ds es : List DepositSpec) (ts us : List TokenInfo),
      RecordFits d fs ds → RecordFits e gs es →
      (∀ a ∈ ds, (ts.find? (·.key == a.token)).isSome) →
      (∀ a ∈ es, (us.find? (·.key == a.token)).isSome) →
      (fingerprintRecord d fs ds ts = fingerprintRecord e gs es us ↔
        d = e ∧ fs.map FieldSpec.key = gs.map FieldSpec.key ∧
          ds.map (DepositSpec.key ts) = es.map (DepositSpec.key us))) ∧
    ∀ (source₁ source₂ id₁ id₂ : String) (c₁ c₂ : Config),
      Config.load source₁ id₁ = .ok c₁ → Config.load source₂ id₂ = .ok c₂ →
      RecordFits c₁.deployment c₁.fields c₁.deposits →
      RecordFits c₂.deployment c₂.fields c₂.deposits →
      (keccak256 c₁.preimage = keccak256 c₂.preimage → c₁.preimage = c₂.preimage) →
      (c₁.fingerprint = c₂.fingerprint ↔ c₁.deployment = c₂.deployment ∧
        c₁.fields.map FieldSpec.key = c₂.fields.map FieldSpec.key ∧
        c₁.deposits.map (DepositSpec.key c₁.tokens) = c₂.deposits.map (DepositSpec.key c₂.tokens)) := by
  refine ⟨fun d fs gs ds es ts us => fingerprintRecord_eq_of_keys,
    fun d e fs gs ds es ts us => fingerprintRecord_eq_iff_of_fits, ?_⟩
  intro source₁ source₂ id₁ id₂ c₁ c₂ load₁ load₂ fits₁ fits₂ collision
  rw [Config.load_fingerprint load₁, Config.load_fingerprint load₂, fingerprintOf_eq_iff]
  have reads := fingerprintRecord_eq_iff_of_fits fits₁ fits₂
    (Config.find?_isSome_of_depositsResolve (Config.load_depositsResolve load₁))
    (Config.find?_isSome_of_depositsResolve (Config.load_depositsResolve load₂))
  constructor
  · intro digests
    exact reads.mp (collision digests)
  · intro view
    exact congrArg keccak256 (reads.mpr view)

/-- The deployments of the two vault documents differ in their vaults, fit, and have the same
fingerprint, which is read from what they offer a session. -/
theorem redeployed_fingerprint_view : ∃ c₁ c₂, Config.load (vaultDocument "1") "y" = .ok c₁ ∧
    Config.load (vaultDocument "2") "y" = .ok c₂ ∧ c₁.inputs ≠ c₂.inputs ∧
    c₁.fingerprint = c₂.fingerprint ∧
    RecordFits c₁.deployment c₁.fields c₁.deposits ∧ RecordFits c₂.deployment c₂.fields c₂.deposits ∧
    (c₁.fingerprint = c₂.fingerprint ↔ c₁.deployment = c₂.deployment ∧
      c₁.fields.map FieldSpec.key = c₂.fields.map FieldSpec.key ∧
      c₁.deposits.map (DepositSpec.key c₁.tokens) = c₂.deposits.map (DepositSpec.key c₂.tokens)) := by
  obtain ⟨c₁, c₂, loaded₁, loaded₂, inputs, -, -, records, short⟩ := vaultDocuments_load_shape
  have fits₁ := RecordFits.of_length_lt short
  have fits₂ := RecordFits.of_length_lt (records ▸ short)
  have same : c₁.fingerprint = c₂.fingerprint := by
    rw [Config.load_fingerprint loaded₁, Config.load_fingerprint loaded₂, fingerprintOf_eq_iff,
      records]
  exact ⟨c₁, c₂, loaded₁, loaded₂, inputs, same, fits₁, fits₂,
    fingerprint_reads_only_session_view.2.2 _ _ _ _ c₁ c₂ loaded₁ loaded₂ fits₁ fits₂
      (fun _ => records)⟩

end StrategyDeploy.Deployment
