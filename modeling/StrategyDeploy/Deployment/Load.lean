import StrategyDeploy.Document.Split
import StrategyDeploy.Deployment.FrontMatter
import StrategyDeploy.Deployment.Fingerprint
import StrategyDeploy.Evm.Word
import StrategyDeploy.Text.Blank

/-! Loading one gui deployment out of a document. -/
namespace StrategyDeploy.Deployment

open StrategyDeploy.Document StrategyDeploy.Evm StrategyDeploy.Text StrategyDeploy.Expression

/-- Why a deployment could not be loaded. -/
inductive ConfigError where
  | sectionMissing
  | deploymentNotFound (deployment : String)
  | parse (frontMatter : String)
  | unknownReference (kind name : String)
  | duplicate (kind name : String)
  | invalidAddress (owner value : String)
  | invalidVaultId (token value : String)
  deriving Repr, DecidableEq

/-- The report of a configuration error. The TOML reader words its own refusals, so
`tomlReport` gives its account of the front matter it refused. -/
def ConfigError.message (tomlReport : String → String) : ConfigError → String
  | .sectionMissing => "Gui config not found"
  | .deploymentNotFound d => s!"Deployment not found: {d}"
  | .parse frontMatter => s!"Front matter parse error: {tomlReport frontMatter}"
  | .unknownReference kind name => s!"Unknown {kind} reference: {name}"
  | .duplicate kind name => s!"Duplicate {kind} in deployment: {name}"
  | .invalidAddress owner value => s!"Invalid address for {owner}: {value}"
  | .invalidVaultId token value => s!"Invalid vault id for token {token}: {value}"

def lookupEntry {α : Type} (kind : String) (entries : List (String × α)) (name : String) :
    Except ConfigError α :=
  match entries.find? (·.1 == name) with
  | some (_, e) => .ok e
  | none => .error (.unknownReference kind name)

def parseAddress (owner value : String) : Except ConfigError Address :=
  match Address.parse? (trim value) with
  | some a => .ok a
  | none => .error (.invalidAddress owner value)

/-- Resolves a token by key; it must be on `network`. -/
def FrontMatter.resolveToken (fm : FrontMatter) (network : String) (key : String) :
    Except ConfigError TokenInfo := do
  let entry ← lookupEntry "token" fm.tokens key
  if entry.network != network then
    throw (.unknownReference "token" s!"{key} on network {network}")
  let address ← parseAddress key entry.address
  return ⟨key, address, entry.decimals, entry.label, entry.symbol⟩

/-- Resolves a token once per load: a key resolved before gives back what it gave then, and a
new key is resolved and kept. -/
def FrontMatter.resolveTokenMemo (fm : FrontMatter) (network key : String) :
    StateT (List TokenInfo) (Except ConfigError) TokenInfo := do
  match (← get).find? (·.key == key) with
  | some t => pure t
  | none =>
    let t ← fm.resolveToken network key
    modify (· ++ [t])
    pure t

def FrontMatter.resolveVault (fm : FrontMatter) (network : String) (v : VaultEntry) :
    StateT (List TokenInfo) (Except ConfigError) Vault := do
  let some vaultId := parseWord? v.vaultId
    | throw (.invalidVaultId v.token v.vaultId)
  return ⟨← fm.resolveTokenMemo network v.token, vaultId⟩

/-- One step of gathering a gui deployment's deposits or fields: the item goes at the end and
its name into the index at the position it takes; a name the index already holds is refused. -/
def pushIndexed {β : Type} (kind name : String) (item : β) (acc : List β × NameIndex) :
    Except ConfigError (List β × NameIndex) :=
  match acc.2.insert name acc.1.length with
  | (some _, _) => .error (.duplicate kind name)
  | (none, index) => .ok (acc.1 ++ [item], index)

def FrontMatter.gatherDeposit (fm : FrontMatter) (network : String)
    (acc : List DepositSpec × NameIndex) (d : DepositEntry) :
    StateT (List TokenInfo) (Except ConfigError) (List DepositSpec × NameIndex) := do
  let _ ← fm.resolveTokenMemo network d.token
  pushIndexed "deposit token" d.token ⟨d.token, d.min, d.presets⟩ acc

/-- Gathers the deposits in order, resolving each deposit's token before indexing it. -/
def FrontMatter.gatherDeposits (fm : FrontMatter) (network : String)
    (deposits : List DepositEntry) :
    StateT (List TokenInfo) (Except ConfigError) (List DepositSpec × NameIndex) :=
  deposits.foldlM (fm.gatherDeposit network) ([], {})

def FieldEntry.spec (f : FieldEntry) : FieldSpec :=
  ⟨f.binding, f.name, f.description, f.min, f.presets.map fun p => ⟨p.name, p.value⟩⟩

/-- Gathers the fields in order, indexing each binding. -/
def gatherFields (fields : List FieldEntry) : Except ConfigError (List FieldSpec × NameIndex) :=
  fields.foldlM (fun acc f => pushIndexed "field binding" f.binding f.spec acc) ([], {})

theorem NameIndex.get?_cons (ix : NameIndex) (name n : String) (position : Nat) :
    NameIndex.get? ⟨(name, position) :: ix.entries⟩ n =
      if name = n then some position else ix.get? n := by
  by_cases same : name = n
  · simp [NameIndex.get?, same]
  · simp [NameIndex.get?, same]

theorem NameIndex.Indexes.push {ix : NameIndex} {names : List String} (h : ix.Indexes names)
    {name : String} (fresh : ix.get? name = none) :
    NameIndex.Indexes ⟨(name, names.length) :: ix.entries⟩ (names ++ [name]) := by
  intro n i
  rw [NameIndex.get?_cons, List.getElem?_append, List.getElem?_singleton]
  by_cases same : name = n
  · subst same
    have absent : names[i]? ≠ some name := fun found => by
      rw [← h] at found
      rw [found] at fresh
      cases fresh
    by_cases below : i < names.length
    · simp only [if_true, below, Option.some.injEq]
      exact ⟨fun e => absurd below (by omega), fun found => absurd found absent⟩
    · simp only [if_true, below, if_false, Option.some.injEq]
      by_cases last : i - names.length = 0
      · simp only [last, if_true, iff_true]
        omega
      · simp only [last, if_false, reduceCtorEq, iff_false]
        omega
  · simp only [same, if_false, h n i]
    by_cases below : i < names.length
    · simp only [below, if_true]
    · simp only [below, if_false]
      constructor
      · intro found
        exact absurd (List.getElem?_eq_some_iff.mp found).1 below
      · intro found
        split at found
        · exact absurd (Option.some.inj found) same
        · cases found

theorem NameIndex.indexes_empty : ({} : NameIndex).Indexes [] := fun _ _ => by
  simp [NameIndex.get?]

theorem NameIndex.indexes_single (name : String) : NameIndex.Indexes ⟨[(name, 0)]⟩ [name] :=
  NameIndex.indexes_empty.push rfl

theorem pushIndexed_indexes {β : Type} (key : β → String) (item : β) {kind name : String}
    {items items' : List β} {ix ix' : NameIndex}
    (h : pushIndexed kind name item (items, ix) = .ok (items', ix')) (named : key item = name)
    (inv : ix.Indexes (items.map key)) : ix'.Indexes (items'.map key) := by
  unfold pushIndexed NameIndex.insert at h
  split at h
  · cases h
  · next fresh =>
    cases h
    simp only [Prod.mk.injEq] at fresh
    obtain ⟨fresh, rfl⟩ := fresh
    rw [List.map_append, List.map_singleton, named]
    have push := inv.push fresh
    rwa [List.length_map] at push

theorem gatherFields_indexes {fields : List FieldEntry} {specs : List FieldSpec} {ix : NameIndex}
    (h : gatherFields fields = .ok (specs, ix)) : ix.Indexes (specs.map (·.binding)) := by
  -- the index is right for the fields gathered so far, and each step keeps it so
  suffices run : ∀ (acc : List FieldSpec × NameIndex), acc.2.Indexes (acc.1.map (·.binding)) →
      fields.foldlM (fun acc f => pushIndexed "field binding" f.binding f.spec acc) acc =
        .ok (specs, ix) → ix.Indexes (specs.map (·.binding)) from
    run ([], {}) (fun _ _ => by simp [NameIndex.get?]) h
  clear h
  induction fields with
  | nil => intro acc inv h; cases h; exact inv
  | cons f rest ih =>
    intro ⟨items, index⟩ inv h
    rw [List.foldlM_cons] at h
    cases step : pushIndexed "field binding" f.binding f.spec (items, index) with
    | error e => rw [step] at h; cases h
    | ok next =>
      rw [step] at h
      obtain ⟨items', index'⟩ := next
      exact ih _ (pushIndexed_indexes FieldSpec.binding f.spec step rfl inv) h

theorem FrontMatter.gatherDeposit_run {fm : FrontMatter} {network : String}
    {acc acc' : List DepositSpec × NameIndex} {d : DepositEntry} {memo memo' : List TokenInfo}
    (h : (fm.gatherDeposit network acc d).run memo = .ok (acc', memo')) :
    (∃ t, (fm.resolveTokenMemo network d.token).run memo = .ok (t, memo')) ∧
      pushIndexed "deposit token" d.token ⟨d.token, d.min, d.presets⟩ acc = .ok acc' := by
  simp only [FrontMatter.gatherDeposit, StateT.run_bind] at h
  cases resolved : (fm.resolveTokenMemo network d.token).run memo with
  | error e => rw [resolved] at h; cases h
  | ok tm =>
    obtain ⟨t, memo₁⟩ := tm
    rw [resolved] at h
    cases step : pushIndexed "deposit token" d.token ⟨d.token, d.min, d.presets⟩ acc with
    | error e =>
      simp only [StateT.run_monadLift, step] at h
      cases h
    | ok next =>
      simp only [StateT.run_monadLift, step] at h
      cases h
      exact ⟨⟨t, rfl⟩, rfl⟩

theorem FrontMatter.gatherDeposits_indexes {fm : FrontMatter} {network : String}
    {deposits : List DepositEntry} {memo memo' : List TokenInfo} {specs : List DepositSpec}
    {ix : NameIndex} (h : (fm.gatherDeposits network deposits).run memo = .ok ((specs, ix), memo')) :
    ix.Indexes (specs.map (·.token)) := by
  suffices run : ∀ (acc : List DepositSpec × NameIndex) (memo : List TokenInfo),
      acc.2.Indexes (acc.1.map (·.token)) →
      (deposits.foldlM (fm.gatherDeposit network) acc).run memo = .ok ((specs, ix), memo') →
      ix.Indexes (specs.map (·.token)) from
    run ([], {}) memo (fun _ _ => by simp [NameIndex.get?]) h
  clear h
  induction deposits with
  | nil => intro acc memo inv h; cases h; exact inv
  | cons d rest ih =>
    intro ⟨items, index⟩ memo inv h
    simp only [List.foldlM_cons, StateT.run_bind] at h
    cases step : (fm.gatherDeposit network (items, index) d).run memo with
    | error e => rw [step] at h; cases h
    | ok next =>
      rw [step] at h
      obtain ⟨⟨items', index'⟩, memo₁⟩ := next
      exact ih _ memo₁
        (pushIndexed_indexes DepositSpec.token ⟨d.token, d.min, d.presets⟩
          (FrontMatter.gatherDeposit_run step).2 rfl inv) h

/-- Loads deployment `id` out of a document. -/
def Config.load (source id : String) : Except ConfigError Config := do
  let (frontMatter, body) := splitFrontMatter source
  let some fm := FrontMatter.parse? frontMatter | throw (.parse frontMatter)
  let some gui := fm.gui | throw .sectionMissing
  let some offered := gui.deployments.find? (·.deployment == id)
    | throw (.deploymentNotFound id)
  let deployment ← lookupEntry "deployment" fm.deployments id
  let scenario ← lookupEntry "scenario" fm.scenarios deployment.scenario
  let order ← lookupEntry "order" fm.orders deployment.order
  let deployerEntry ← lookupEntry "deployer" fm.deployers scenario.deployer
  let deployer ← parseAddress scenario.deployer deployerEntry.address
  let networkEntry ← lookupEntry "network" fm.networks deployerEntry.network
  let network : Network := ⟨deployerEntry.network, networkEntry.rpc, networkEntry.chainId⟩
  let orderbookEntry ← lookupEntry "orderbook" fm.orderbooks order.orderbook
  let orderbook ← parseAddress order.orderbook orderbookEntry.address
  -- one token memo serves the inputs, the outputs and the deposits, in that order
  let (inputs, tokens) ← (order.inputs.mapM (fm.resolveVault network.name)).run []
  let (outputs, tokens) ← (order.outputs.mapM (fm.resolveVault network.name)).run tokens
  match hd : (fm.gatherDeposits network.name offered.deposits).run tokens with
  | .error e => throw e
  | .ok ((deposits, depositIndex), tokens) =>
  match hf : gatherFields offered.fields with
  | .error e => throw e
  | .ok (fields, fieldIndex) =>
  return {
    deployment := id
    name := offered.name
    description := offered.description
    guiName := gui.name
    guiDescription := gui.description
    fields, deposits, fieldIndex, depositIndex, tokens, network, orderbook, deployer, inputs,
    outputs
    scenarioBindings := scenario.bindings
    expression := Expression.parse body
    fingerprint := fingerprintOf id fields deposits tokens
    fieldIndex_indexes := gatherFields_indexes hf
    depositIndex_indexes := FrontMatter.gatherDeposits_indexes hd }

end StrategyDeploy.Deployment
