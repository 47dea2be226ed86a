import StrategyDeploy.Proofs.Evm.Decoding

/-! The arguments of the order book's `addOrder2`, read back from their encoding. -/
namespace StrategyDeploy.Evm

open StrategyDeploy.Bytes

/-- An evaluable as the order book takes it: the interpreter, the store and the bytecode. -/
structure EvaluableV3 where
  interpreter : Address
  store : Address
  bytecode : List UInt8
  deriving DecidableEq, Repr

/-- A vault of an order as the order book takes it. -/
structure IO where
  token : Address
  decimals : Nat
  vaultId : Nat
  deriving DecidableEq, Repr

/-- The configuration of an order. -/
structure OrderConfigV3 where
  evaluable : EvaluableV3
  validInputs : List IO
  validOutputs : List IO
  nonce : Bytes32
  secret : Bytes32
  metadata : List UInt8
  deriving DecidableEq, Repr

/-- Context signed by a signer, passed to a task. -/
structure SignedContextV1 where
  signer : Address
  context : List Nat
  signature : List UInt8
  deriving DecidableEq, Repr

/-- A task the order book runs: an evaluable and its signed contexts. -/
structure TaskV1 where
  evaluable : EvaluableV3
  signedContext : List SignedContextV1
  deriving DecidableEq, Repr

def EvaluableV3.toAbi (e : EvaluableV3) : AbiValue :=
  .tuple [.address e.interpreter, .address e.store, .bytes e.bytecode]

def IO.toAbi (v : IO) : AbiValue :=
  .tuple [.address v.token, .uint v.decimals, .uint v.vaultId]

def SignedContextV1.toAbi (s : SignedContextV1) : AbiValue :=
  .tuple [.address s.signer, .array (s.context.map .uint), .bytes s.signature]

def TaskV1.toAbi (t : TaskV1) : AbiValue :=
  .tuple [t.evaluable.toAbi, .array (t.signedContext.map SignedContextV1.toAbi)]

def OrderConfigV3.inputsAbi (o : OrderConfigV3) : AbiValue := .array (o.validInputs.map IO.toAbi)

def OrderConfigV3.outputsAbi (o : OrderConfigV3) : AbiValue := .array (o.validOutputs.map IO.toAbi)

def OrderConfigV3.toAbi (o : OrderConfigV3) : AbiValue :=
  .tuple [o.evaluable.toAbi, o.inputsAbi, o.outputsAbi, .word o.nonce, .word o.secret,
    .bytes o.metadata]

/-- The 32 bytes at `pos`. -/
def fixedAt? (data : List UInt8) (pos : Nat) : Option Bytes32 :=
  Fixed.ofBytes? ((data.drop pos).take 32)

/-- `count` items of `size` bytes each, the first at `pos`. -/
def staticItemsAt? {α : Type} (item : List UInt8 → Nat → Option α) (size : Nat)
    (data : List UInt8) : Nat → Nat → Option (List α)
  | 0, _ => some []
  | count + 1, pos => do
    let x ← item data pos
    let rest ← staticItemsAt? item size data count (pos + size)
    return x :: rest

/-- The array of items of `size` bytes each whose length word stands at `pos`; the items follow
the length in place. -/
def staticArrayAt? {α : Type} (item : List UInt8 → Nat → Option α) (size : Nat)
    (data : List UInt8) (pos : Nat) : Option (List α) := do
  let count ← wordAt? data pos
  staticItemsAt? item size data count (pos + 32)

/-- The evaluable whose tuple starts at `pos`; its bytecode lies at the offset the third word
gives. -/
def evaluableAt? (data : List UInt8) (pos : Nat) : Option EvaluableV3 := do
  let interpreter ← addressAt? data pos
  let store ← addressAt? data (pos + 32)
  let offset ← wordAt? data (pos + 64)
  let bytecode ← bytesAt? data (pos + offset)
  return ⟨interpreter, store, bytecode⟩

/-- The vault whose three words start at `pos`; its decimals must fit in a byte. -/
def ioAt? (data : List UInt8) (pos : Nat) : Option IO := do
  let token ← addressAt? data pos
  let decimals ← wordAt? data (pos + 32)
  let vaultId ← wordAt? data (pos + 64)
  if decimals < 2 ^ 8 then return ⟨token, decimals, vaultId⟩ else none

/-- The signed context whose tuple starts at `pos`. -/
def signedContextAt? (data : List UInt8) (pos : Nat) : Option SignedContextV1 := do
  let signer ← addressAt? data pos
  let contextOffset ← wordAt? data (pos + 32)
  let context ← staticArrayAt? wordAt? 32 data (pos + contextOffset)
  let signatureOffset ← wordAt? data (pos + 64)
  let signature ← bytesAt? data (pos + signatureOffset)
  return ⟨signer, context, signature⟩

/-- The task whose tuple starts at `pos`. -/
def taskAt? (data : List UInt8) (pos : Nat) : Option TaskV1 := do
  let evaluableOffset ← wordAt? data pos
  let evaluable ← evaluableAt? data (pos + evaluableOffset)
  let contextsOffset ← wordAt? data (pos + 32)
  let signedContext ← arrayAt? signedContextAt? data (pos + contextsOffset)
  return ⟨evaluable, signedContext⟩

/-- The order configuration whose tuple starts at `pos`. -/
def orderConfigAt? (data : List UInt8) (pos : Nat) : Option OrderConfigV3 := do
  let evaluableOffset ← wordAt? data pos
  let evaluable ← evaluableAt? data (pos + evaluableOffset)
  let inputsOffset ← wordAt? data (pos + 32)
  let validInputs ← staticArrayAt? ioAt? 96 data (pos + inputsOffset)
  let outputsOffset ← wordAt? data (pos + 64)
  let validOutputs ← staticArrayAt? ioAt? 96 data (pos + outputsOffset)
  let nonce ← fixedAt? data (pos + 96)
  let secret ← fixedAt? data (pos + 128)
  let metadataOffset ← wordAt? data (pos + 160)
  let metadata ← bytesAt? data (pos + metadataOffset)
  return ⟨evaluable, validInputs, validOutputs, nonce, secret, metadata⟩

section Layout

variable {α : Type} (f : α → List UInt8)

theorem headsFrom_static (start : Nat) (xs : List α) :
    headsFrom start (xs.map fun x => (false, f x)) = (xs.map f).flatten := by
  induction xs with
  | nil => rfl
  | cons x xs ih => simp [headsFrom, ih]

theorem tailsOf_static (xs : List α) : tailsOf (xs.map fun x => (false, f x)) = [] := by
  induction xs with
  | nil => rfl
  | cons x xs ih => simp [tailsOf, ih]

theorem encode_array_static {enc : α → AbiValue} (hstatic : ∀ x, (enc x).isDynamic = false)
    (xs : List α) :
    (AbiValue.array (xs.map enc)).encode =
      numberWord xs.length ++ (xs.map fun x => (enc x).encode).flatten := by
  have parts : AbiValue.encodeAll (xs.map enc) = xs.map fun x => (false, (enc x).encode) := by
    simp [encodeAll_eq_map, hstatic]
  rw [AbiValue.encode, parts, assemble_eq, headsFrom_static, tailsOf_static, List.append_nil,
    List.length_map]

theorem EvaluableV3.isDynamic_toAbi (e : EvaluableV3) : e.toAbi.isDynamic = true := by
  simp [EvaluableV3.toAbi, AbiValue.isDynamic, AbiValue.anyDynamic]

theorem IO.isDynamic_toAbi (v : IO) : v.toAbi.isDynamic = false := by
  simp [IO.toAbi, AbiValue.isDynamic, AbiValue.anyDynamic]

theorem TaskV1.isDynamic_toAbi (t : TaskV1) : t.toAbi.isDynamic = true := by
  simp [TaskV1.toAbi, AbiValue.isDynamic, AbiValue.anyDynamic]

theorem EvaluableV3.encode_toAbi (e : EvaluableV3) :
    e.toAbi.encode = numberWord e.interpreter.toNat ++ numberWord e.store.toNat ++
      numberWord 96 ++ (numberWord e.bytecode.length ++ padToWords e.bytecode) := by
  simp [EvaluableV3.toAbi, AbiValue.encode, encodeAll_eq_map, assemble_eq, headSize, headsFrom,
    tailsOf, AbiValue.isDynamic]

theorem IO.encode_toAbi (v : IO) :
    v.toAbi.encode = numberWord v.token.toNat ++ numberWord v.decimals ++ numberWord v.vaultId := by
  simp [IO.toAbi, AbiValue.encode, encodeAll_eq_map, assemble_eq, headsFrom, tailsOf,
    AbiValue.isDynamic]

theorem IO.length_encode_toAbi (v : IO) : v.toAbi.encode.length = 96 := by
  simp [IO.encode_toAbi]

theorem TaskV1.encode_toAbi_nil (e : EvaluableV3) :
    (TaskV1.toAbi ⟨e, []⟩).encode =
      numberWord 64 ++ numberWord (64 + e.toAbi.encode.length) ++ e.toAbi.encode ++ numberWord 0 := by
  simp [TaskV1.toAbi, AbiValue.encode, assemble_eq, headSize, headsFrom, tailsOf,
    AbiValue.isDynamic, EvaluableV3.isDynamic_toAbi, AbiValue.encodeAll]

theorem OrderConfigV3.encode_toAbi (o : OrderConfigV3) :
    o.toAbi.encode = numberWord 192 ++ numberWord (192 + o.evaluable.toAbi.encode.length) ++
      numberWord (192 + o.evaluable.toAbi.encode.length + o.inputsAbi.encode.length) ++
      o.nonce.bytes ++ o.secret.bytes ++
      numberWord (192 + o.evaluable.toAbi.encode.length + o.inputsAbi.encode.length +
        o.outputsAbi.encode.length) ++
      o.evaluable.toAbi.encode ++ o.inputsAbi.encode ++ o.outputsAbi.encode ++
      (numberWord o.metadata.length ++ padToWords o.metadata) := by
  simp [OrderConfigV3.toAbi, OrderConfigV3.inputsAbi, OrderConfigV3.outputsAbi, AbiValue.encode,
    encodeAll_eq_map, assemble_eq, headSize, headsFrom, tailsOf, AbiValue.isDynamic,
    EvaluableV3.isDynamic_toAbi, o.nonce.length_eq, o.secret.length_eq, Nat.add_assoc]

end Layout

section Reading

variable {data : List UInt8} {pos : Nat}

theorem fixedAt?_of_standsAt {b : Bytes32} (h : StandsAt ⟨data.toArray⟩ pos b.bytes) :
    fixedAt? data pos = some b := by
  have bytes := h.take_drop
  rw [b.length_eq] at bytes
  rw [fixedAt?, bytes, Fixed.ofBytes?_bytes]

theorem evaluableAt?_of_standsAt (hsize : data.length < 2 ^ 256) {e : EvaluableV3}
    (h : StandsAt ⟨data.toArray⟩ pos e.toAbi.encode) : evaluableAt? data pos = some e := by
  rw [EvaluableV3.encode_toAbi] at h
  have interpreter := addressAt?_of_standsAt h.left.left.left
  have store := addressAt?_of_standsAt h.left.left.right
  have offset := wordAt?_of_standsAt (by decide) h.left.right
  have tail := h.right
  rw [padToWords, ← List.append_assoc] at tail
  have bytecode := bytesAt?_of_standsAt hsize tail.left
  simp only [length_numberWord, List.length_append, Nat.add_assoc] at store offset bytecode
  simp [evaluableAt?, interpreter, store, offset, bytecode]

theorem ioAt?_of_standsAt {v : IO} (hdecimals : v.decimals < 2 ^ 8) (hvault : v.vaultId < 2 ^ 256)
    (h : StandsAt ⟨data.toArray⟩ pos v.toAbi.encode) : ioAt? data pos = some v := by
  rw [IO.encode_toAbi] at h
  have token := addressAt?_of_standsAt h.left.left
  have decimals := wordAt?_of_standsAt (by omega) h.left.right
  have vault := wordAt?_of_standsAt hvault h.right
  have byte : v.decimals < 256 := hdecimals
  simp only [length_numberWord, List.length_append] at decimals vault
  simp [ioAt?, token, decimals, vault, byte]

variable {β : Type} {item : List UInt8 → Nat → Option β}

theorem staticItemsAt?_of_standsAt {enc : β → List UInt8} {size : Nat}
    (hlen : ∀ x, (enc x).length = size) {xs : List β}
    (hitem : ∀ x ∈ xs, ∀ pos, StandsAt ⟨data.toArray⟩ pos (enc x) → item data pos = some x)
    (h : StandsAt ⟨data.toArray⟩ pos (xs.map enc).flatten) :
    staticItemsAt? item size data xs.length pos = some xs := by
  induction xs generalizing pos with
  | nil => rfl
  | cons x xs ih =>
    simp only [List.map_cons, List.flatten_cons] at h
    have first := hitem x List.mem_cons_self _ h.left
    have later := h.right
    rw [hlen] at later
    have rest := ih (fun y hy => hitem y (List.mem_cons_of_mem _ hy)) later
    simp [staticItemsAt?, first, rest]

theorem staticArrayAt?_of_standsAt (hsize : data.length < 2 ^ 256) {enc : β → AbiValue}
    {size : Nat} (hpos : 0 < size) (hstatic : ∀ x, (enc x).isDynamic = false)
    (hlen : ∀ x, (enc x).encode.length = size) {xs : List β}
    (hitem : ∀ x ∈ xs, ∀ pos, StandsAt ⟨data.toArray⟩ pos (enc x).encode → item data pos = some x)
    (h : StandsAt ⟨data.toArray⟩ pos (AbiValue.array (xs.map enc)).encode) :
    staticArrayAt? item size data pos = some xs := by
  rw [encode_array_static hstatic] at h
  have items := h.right
  rw [length_numberWord] at items
  have fits := items.lt_of_length_lt hsize
  have fewer : xs.length ≤ ((xs.map fun x => (enc x).encode).flatten).length :=
    length_le_length_flatMap fun x _ => List.ne_nil_of_length_pos (by rw [hlen]; exact hpos)
  have count := wordAt?_of_standsAt (by omega) h.left
  simp only [staticArrayAt?, count, Option.bind_eq_bind, Option.bind_some]
  exact staticItemsAt?_of_standsAt hlen hitem items

theorem arrayAt?_nil (h : StandsAt ⟨data.toArray⟩ pos (numberWord 0)) :
    arrayAt? item data pos = some [] := by
  have count := wordAt?_of_standsAt (by decide) h
  have within := h.le_size
  rw [size_mk_toArray, length_numberWord] at within
  simp [arrayAt?, count, within, itemsAt?]

theorem taskAt?_of_standsAt (hsize : data.length < 2 ^ 256) {e : EvaluableV3}
    (h : StandsAt ⟨data.toArray⟩ pos (TaskV1.toAbi ⟨e, []⟩).encode) :
    taskAt? data pos = some ⟨e, []⟩ := by
  rw [TaskV1.encode_toAbi_nil] at h
  have fits := h.lt_of_length_lt hsize
  simp only [List.length_append, length_numberWord] at fits
  have evaluableOffset := wordAt?_of_standsAt (by decide) h.left.left.left
  have contextsOffset : wordAt? data (pos + 32) = some (64 + e.toAbi.encode.length) :=
    wordAt?_of_standsAt (by omega) (h.left.left.right.at (by simp))
  have evaluable : evaluableAt? data (pos + 64) = some e :=
    evaluableAt?_of_standsAt hsize (h.left.right.at (by simp))
  have contexts : arrayAt? signedContextAt? data (pos + (64 + e.toAbi.encode.length)) = some [] :=
    arrayAt?_nil (h.right.at (by simp; omega))
  simp [taskAt?, evaluableOffset, contextsOffset, evaluable, contexts]

theorem orderConfigAt?_of_standsAt (hsize : data.length < 2 ^ 256) {o : OrderConfigV3}
    (hvaults : ∀ v ∈ o.validInputs ++ o.validOutputs, v.decimals < 2 ^ 8 ∧ v.vaultId < 2 ^ 256)
    (h : StandsAt ⟨data.toArray⟩ pos o.toAbi.encode) : orderConfigAt? data pos = some o := by
  rw [OrderConfigV3.encode_toAbi] at h
  have fits := h.lt_of_length_lt hsize
  simp only [List.length_append, length_numberWord, Fixed.length_eq] at fits
  have evaluableOffset : wordAt? data pos = some 192 :=
    wordAt?_of_standsAt (by decide) h.left.left.left.left.left.left.left.left.left
  have inputsOffset : wordAt? data (pos + 32) = some (192 + o.evaluable.toAbi.encode.length) :=
    wordAt?_of_standsAt (by omega) (h.left.left.left.left.left.left.left.left.right.at (by simp))
  have outputsOffset : wordAt? data (pos + 64) =
      some (192 + o.evaluable.toAbi.encode.length + o.inputsAbi.encode.length) :=
    wordAt?_of_standsAt (by omega) (h.left.left.left.left.left.left.left.right.at (by simp))
  have nonce : fixedAt? data (pos + 96) = some o.nonce :=
    fixedAt?_of_standsAt (h.left.left.left.left.left.left.right.at (by simp))
  have secret : fixedAt? data (pos + 128) = some o.secret :=
    fixedAt?_of_standsAt (h.left.left.left.left.left.right.at (by simp [Fixed.length_eq]))
  have metadataOffset : wordAt? data (pos + 160) = some (192 + o.evaluable.toAbi.encode.length +
      o.inputsAbi.encode.length + o.outputsAbi.encode.length) :=
    wordAt?_of_standsAt (by omega)
      (h.left.left.left.left.right.at (by simp [Fixed.length_eq]))
  have evaluable : evaluableAt? data (pos + 192) = some o.evaluable :=
    evaluableAt?_of_standsAt hsize (h.left.left.left.right.at (by simp [Fixed.length_eq]))
  have vaults : ∀ vs : List IO, (∀ v ∈ vs, v.decimals < 2 ^ 8 ∧ v.vaultId < 2 ^ 256) →
      ∀ p, StandsAt ⟨data.toArray⟩ p (AbiValue.array (vs.map IO.toAbi)).encode →
        staticArrayAt? ioAt? 96 data p = some vs :=
    fun vs bounded p hp => staticArrayAt?_of_standsAt hsize (by decide) IO.isDynamic_toAbi
      IO.length_encode_toAbi
      (fun v hv q hq => ioAt?_of_standsAt (bounded v hv).1 (bounded v hv).2 hq) hp
  have inputs : staticArrayAt? ioAt? 96 data (pos + (192 + o.evaluable.toAbi.encode.length)) =
      some o.validInputs :=
    vaults _ (fun v hv => hvaults v (List.mem_append_left _ hv)) _
      (h.left.left.right.at (by simp only [List.length_append, length_numberWord, Fixed.length_eq]))
  have outputs : staticArrayAt? ioAt? 96 data
      (pos + (192 + o.evaluable.toAbi.encode.length + o.inputsAbi.encode.length)) =
      some o.validOutputs :=
    vaults _ (fun v hv => hvaults v (List.mem_append_right _ hv)) _
      (h.left.right.at (by simp only [List.length_append, length_numberWord, Fixed.length_eq]))
  have tail := h.right
  rw [padToWords, ← List.append_assoc] at tail
  have metadata : bytesAt? data (pos + (192 + o.evaluable.toAbi.encode.length +
      o.inputsAbi.encode.length + o.outputsAbi.encode.length)) = some o.metadata :=
    bytesAt?_of_standsAt hsize
      (tail.left.at (by simp only [List.length_append, length_numberWord, Fixed.length_eq]))
  simp [orderConfigAt?, evaluableOffset, evaluable, inputsOffset, inputs, outputsOffset, outputs,
    nonce, secret, metadataOffset, metadata]

end Reading

end StrategyDeploy.Evm

