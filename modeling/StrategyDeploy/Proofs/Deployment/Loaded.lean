import StrategyDeploy.Deployment.Load
import StrategyDeploy.Proofs.Except
import Mathlib.Algebra.Group.Nat.Defs
import Mathlib.Data.List.Nodup

/-! What a loaded deployment guarantees. -/
namespace StrategyDeploy.Deployment

open StrategyDeploy StrategyDeploy.Document

/-- The bindings a deployment offers, in declaration order. -/
def Config.fieldBindings (c : Config) : List String := c.fields.map (·.binding)

/-- The tokens a deployment offers deposits of, in declaration order. -/
def Config.depositKeys (c : Config) : List String := c.deposits.map (·.token)

/-- Every offered deposit has its token among the deployment's tokens. -/
def Config.DepositsResolve (c : Config) : Prop :=
  ∀ t ∈ c.depositKeys, ∃ tk, c.token? t = some tk

section Index

variable {α : Type} {ix : NameIndex} {l : List α} {key : α → String}

theorem NameIndex.Indexes.get?_eq_some (h : ix.Indexes (l.map key)) {name : String} {i : Nat} :
    ix.get? name = some i ↔ ∃ x, l[i]? = some x ∧ key x = name := by
  rw [h name i, List.getElem?_map, Option.map_eq_some_iff]

theorem NameIndex.Indexes.nodup {names : List String} (h : ix.Indexes names) : names.Nodup := by
  rw [List.nodup_iff_getElem?_ne_getElem?]
  intro i j before below same
  have hi := (h names[j] i).mpr (same.trans (List.getElem?_eq_getElem below))
  have hj := (h names[j] j).mpr (List.getElem?_eq_getElem below)
  rw [hi, Option.some.injEq] at hj
  omega

theorem NameIndex.Indexes.lookup_eq_some_iff [Inhabited α] (h : ix.Indexes (l.map key))
    {name : String} {x : α} :
    (ix.get? name).map (l[·]!) = some x ↔ x ∈ l ∧ key x = name := by
  rw [Option.map_eq_some_iff]
  constructor
  · rintro ⟨i, found, rfl⟩
    obtain ⟨y, at_i, rfl⟩ := h.get?_eq_some.mp found
    rw [List.getElem!_eq_getElem?_getD, at_i, Option.getD_some]
    exact ⟨List.mem_of_getElem? at_i, rfl⟩
  · rintro ⟨mem, rfl⟩
    obtain ⟨i, below, at_i⟩ := List.getElem_of_mem mem
    refine ⟨i, h.get?_eq_some.mpr ⟨x, by rw [List.getElem?_eq_getElem below, at_i], rfl⟩, ?_⟩
    rw [List.getElem!_eq_getElem?_getD, List.getElem?_eq_getElem below, at_i, Option.getD_some]

theorem NameIndex.Indexes.get?_eq_none_iff (h : ix.Indexes (l.map key)) {name : String} :
    ix.get? name = none ↔ name ∉ l.map key := by
  rw [List.mem_map, not_exists]
  constructor
  · rintro missing x ⟨mem, rfl⟩
    obtain ⟨i, below, rfl⟩ := List.getElem_of_mem mem
    rw [(h.get?_eq_some (i := i)).mpr ⟨_, List.getElem?_eq_getElem below, rfl⟩] at missing
    cases missing
  · intro absent
    cases found : ix.get? name with
    | none => rfl
    | some i =>
      obtain ⟨x, at_i, rfl⟩ := h.get?_eq_some.mp found
      exact absurd ⟨List.mem_of_getElem? at_i, rfl⟩ (absent x)

end Index

section Lookup

variable {c : Config}

theorem Config.fieldSpec_eq_ok_iff {b : String} {f : FieldSpec} :
    c.fieldSpec b = .ok f ↔ f ∈ c.fields ∧ f.binding = b := by
  rw [← c.fieldIndex_indexes.lookup_eq_some_iff]
  unfold Config.fieldSpec
  cases c.fieldIndex.get? b <;> simp

theorem Config.fieldSpec_of_not_mem {b : String} (h : b ∉ c.fieldBindings) :
    c.fieldSpec b = .error (.unknownBinding b) := by
  unfold Config.fieldSpec
  rw [c.fieldIndex_indexes.get?_eq_none_iff.mpr h]

theorem Config.fieldSpec_ok_iff {b : String} :
    (∃ f, c.fieldSpec b = .ok f) ↔ b ∈ c.fieldBindings := by
  simp only [Config.fieldSpec_eq_ok_iff, Config.fieldBindings, List.mem_map]

theorem Config.depositSpec_eq_ok_iff {t : String} {d : DepositSpec} :
    c.depositSpec t = .ok d ↔ d ∈ c.deposits ∧ d.token = t := by
  rw [← c.depositIndex_indexes.lookup_eq_some_iff]
  unfold Config.depositSpec
  cases c.depositIndex.get? t <;> simp

theorem Config.depositSpec_of_not_mem {t : String} (h : t ∉ c.depositKeys) :
    c.depositSpec t = .error (.unknownDepositToken t) := by
  unfold Config.depositSpec
  rw [c.depositIndex_indexes.get?_eq_none_iff.mpr h]

theorem Config.depositSpec_ok_iff {t : String} :
    (∃ d, c.depositSpec t = .ok d) ↔ t ∈ c.depositKeys := by
  simp only [Config.depositSpec_eq_ok_iff, Config.depositKeys, List.mem_map]

theorem Config.depositToken_ok_iff (h : c.DepositsResolve) {t : String} :
    (∃ tk, c.depositToken t = .ok tk) ↔ t ∈ c.depositKeys := by
  constructor
  · rintro ⟨tk, htk⟩
    unfold Config.depositToken at htk
    obtain ⟨d, hd, -⟩ := Except.bind_eq_ok.mp htk
    exact depositSpec_ok_iff.mp ⟨d, hd⟩
  · intro mem
    obtain ⟨d, hd⟩ := depositSpec_ok_iff.mpr mem
    obtain ⟨tk, htk⟩ := h t mem
    refine ⟨tk, ?_⟩
    unfold Config.depositToken
    rw [Except.bind_of_ok hd]
    simp [htk]

theorem Config.token?_of_depositToken {t : String} {tk : TokenInfo}
    (h : c.depositToken t = .ok tk) : c.token? t = some tk := by
  unfold Config.depositToken at h
  obtain ⟨_, -, h⟩ := Except.bind_eq_ok.mp h
  split at h
  · next found => cases h; exact found
  · cases h

end Lookup

section Load

theorem FrontMatter.key_of_resolveToken {fm : FrontMatter} {network key : String} {t : TokenInfo}
    (h : fm.resolveToken network key = .ok t) : t.key = key := by
  unfold FrontMatter.resolveToken at h
  obtain ⟨entry, -, h⟩ := Except.bind_eq_ok.mp h
  split at h
  · cases h
  · obtain ⟨address, -, h⟩ := Except.bind_eq_ok.mp h
    cases h
    rfl

/-- What the token memo of a load holds: each token resolved from its own key, each key once. -/
structure FrontMatter.TokenMemo (fm : FrontMatter) (network : String) (memo : List TokenInfo) :
    Prop where
  resolves : ∀ t ∈ memo, fm.resolveToken network t.key = .ok t
  keys_nodup : (memo.map (·.key)).Nodup

variable {fm : FrontMatter} {network key : String} {memo memo' : List TokenInfo} {t : TokenInfo}

theorem FrontMatter.resolveTokenMemo_run (hm : fm.TokenMemo network memo)
    (h : (fm.resolveTokenMemo network key).run memo = .ok (t, memo')) :
    fm.resolveToken network key = .ok t ∧ fm.TokenMemo network memo' ∧
      ∀ k, k ∈ memo'.map (·.key) ↔ k ∈ memo.map (·.key) ∨ k = key := by
  unfold FrontMatter.resolveTokenMemo at h
  simp only [StateT.run_bind, StateT.run_get, pure_bind] at h
  split at h
  · next _ cached found =>
    cases h
    have mem := List.mem_of_find?_eq_some found
    have same : t.key = key := by simpa using List.find?_some found
    refine ⟨same ▸ hm.resolves t mem, hm, fun k => ⟨.inl, ?_⟩⟩
    rintro (old | rfl)
    · exact old
    · exact List.mem_map.mpr ⟨t, mem, same⟩
  · next _ missing =>
    cases hr : fm.resolveToken network key with
    | error e => rw [hr] at h; cases h
    | ok t' =>
      rw [hr] at h
      cases h
      have same : t.key = key := FrontMatter.key_of_resolveToken hr
      have fresh : key ∉ memo.map (·.key) := by
        simpa using List.find?_eq_none.mp missing
      refine ⟨rfl, ⟨fun u hu => ?_, ?_⟩, fun k => ?_⟩
      · rcases List.mem_append.mp hu with old | new
        · exact hm.resolves u old
        · rw [List.mem_singleton.mp new, same]
          exact hr
      · rw [List.map_append, List.map_singleton, same]
        exact List.nodup_append.mpr ⟨hm.keys_nodup, List.nodup_singleton _,
          fun a ha b hb => by rw [List.mem_singleton.mp hb]; exact fun e => fresh (e ▸ ha)⟩
      · simp [same]


variable {v : VaultEntry} {vault : Vault}

theorem FrontMatter.resolveVault_run (hm : fm.TokenMemo network memo)
    (h : (fm.resolveVault network v).run memo = .ok (vault, memo')) :
    Evm.parseWord? v.vaultId = some vault.vaultId ∧ fm.resolveToken network v.token = .ok vault.token ∧
      fm.TokenMemo network memo' ∧
      ∀ k, k ∈ memo'.map (·.key) ↔ k ∈ memo.map (·.key) ∨ k = v.token := by
  unfold FrontMatter.resolveVault at h
  split at h
  · next vaultId parsed =>
    simp only [StateT.run_bind] at h
    cases hr : (fm.resolveTokenMemo network v.token).run memo with
    | error e => rw [hr] at h; cases h
    | ok tm =>
      obtain ⟨t, memo₁⟩ := tm
      rw [hr] at h
      cases h
      obtain ⟨resolved, kept, keys⟩ := FrontMatter.resolveTokenMemo_run hm hr
      exact ⟨parsed, resolved, kept, keys⟩
  · cases h


theorem FrontMatter.resolveVaults_run {vs : List VaultEntry} {vaults : List Vault}
    (hm : fm.TokenMemo network memo)
    (h : (vs.mapM (fm.resolveVault network)).run memo = .ok (vaults, memo')) :
    List.Forall₂ (fun v vault => Evm.parseWord? v.vaultId = some vault.vaultId ∧
        fm.resolveToken network v.token = .ok vault.token) vs vaults ∧
      fm.TokenMemo network memo' ∧
      ∀ k, k ∈ memo'.map (·.key) ↔ k ∈ memo.map (·.key) ∨ k ∈ vs.map (·.token) := by
  induction vs generalizing memo vaults with
  | nil =>
    cases h
    exact ⟨.nil, hm, by simp⟩
  | cons v rest ih =>
    simp only [List.mapM_cons, StateT.run_bind] at h
    cases hv : (fm.resolveVault network v).run memo with
    | error e => rw [hv] at h; cases h
    | ok vm =>
      obtain ⟨vault, memo₁⟩ := vm
      rw [hv, Except.bind_of_ok rfl] at h
      cases hrest : (rest.mapM (fm.resolveVault network)).run memo₁ with
      | error e => rw [hrest] at h; cases h
      | ok rm =>
        obtain ⟨vaults', memo₂⟩ := rm
        rw [hrest] at h
        cases h
        obtain ⟨parsed, resolved, kept, keys⟩ := FrontMatter.resolveVault_run hm hv
        obtain ⟨each, kept', keys'⟩ := ih kept hrest
        refine ⟨.cons ⟨parsed, resolved⟩ each, kept', fun k => ?_⟩
        rw [keys', keys]
        simp only [List.map_cons, List.mem_cons]
        tauto


theorem pushIndexed_items {β : Type} {kind name : String} {item : β} {items items' : List β}
    {ix ix' : NameIndex} (h : pushIndexed kind name item (items, ix) = .ok (items', ix')) :
    items' = items ++ [item] := by
  unfold pushIndexed at h
  split at h
  · cases h
  · cases h; rfl

theorem FrontMatter.gatherDeposits_run {ds : List DepositEntry} {specs : List DepositSpec}
    {ix : NameIndex} (hm : fm.TokenMemo network memo)
    (h : (fm.gatherDeposits network ds).run memo = .ok ((specs, ix), memo')) :
    specs = ds.map (fun d => ⟨d.token, d.min, d.presets⟩) ∧ fm.TokenMemo network memo' ∧
      ∀ k, k ∈ memo'.map (·.key) ↔ k ∈ memo.map (·.key) ∨ k ∈ ds.map (·.token) := by
  -- the deposits gathered so far come first; each step appends one and resolves its token
  suffices run : ∀ (items : List DepositSpec) (ix₀ : NameIndex) (memo : List TokenInfo),
      fm.TokenMemo network memo →
      (ds.foldlM (fm.gatherDeposit network) (items, ix₀)).run memo = .ok ((specs, ix), memo') →
      specs = items ++ ds.map (fun d => ⟨d.token, d.min, d.presets⟩) ∧ fm.TokenMemo network memo' ∧
        ∀ k, k ∈ memo'.map (·.key) ↔ k ∈ memo.map (·.key) ∨ k ∈ ds.map (·.token) from
    run [] {} memo hm h
  clear h hm
  induction ds with
  | nil =>
    intro items ix₀ memo hm h
    cases h
    exact ⟨by simp, hm, by simp⟩
  | cons d rest ih =>
    intro items ix₀ memo hm h
    simp only [List.foldlM_cons, StateT.run_bind] at h
    cases step : (fm.gatherDeposit network (items, ix₀) d).run memo with
    | error e => rw [step] at h; cases h
    | ok next =>
      rw [step] at h
      obtain ⟨⟨items', ix₁⟩, memo₁⟩ := next
      obtain ⟨⟨t, resolved⟩, pushed⟩ := FrontMatter.gatherDeposit_run step
      obtain ⟨-, kept, keys⟩ := FrontMatter.resolveTokenMemo_run hm resolved
      obtain ⟨specsEq, kept', keys'⟩ := ih items' ix₁ memo₁ kept h
      refine ⟨by rw [specsEq, pushIndexed_items pushed]; simp, kept', fun k => ?_⟩
      rw [keys', keys]
      simp only [List.map_cons, List.mem_cons]
      tauto

theorem gatherFields_run {fields : List FieldEntry} {specs : List FieldSpec} {ix : NameIndex}
    (h : gatherFields fields = .ok (specs, ix)) : specs = fields.map FieldEntry.spec := by
  suffices run : ∀ (items : List FieldSpec) (ix₀ : NameIndex),
      fields.foldlM (fun acc f => pushIndexed "field binding" f.binding f.spec acc) (items, ix₀) =
        .ok (specs, ix) → specs = items ++ fields.map FieldEntry.spec from
    run [] {} h
  clear h
  induction fields with
  | nil => intro items ix₀ h; cases h; simp
  | cons f rest ih =>
    intro items ix₀ h
    rw [List.foldlM_cons] at h
    cases step : pushIndexed "field binding" f.binding f.spec (items, ix₀) with
    | error e => rw [step] at h; cases h
    | ok next =>
      rw [step] at h
      obtain ⟨items', ix₁⟩ := next
      rw [ih items' ix₁ h, pushIndexed_items step]
      simp


theorem FrontMatter.tokens_of_passes {ins outs : List VaultEntry} {ds : List DepositEntry}
    {inputs outputs : List Vault} {specs : List DepositSpec} {ix : NameIndex}
    {memo₁ memo₂ tokens : List TokenInfo}
    (hin : (ins.mapM (fm.resolveVault network)).run [] = .ok (inputs, memo₁))
    (hout : (outs.mapM (fm.resolveVault network)).run memo₁ = .ok (outputs, memo₂))
    (hdep : (fm.gatherDeposits network ds).run memo₂ = .ok ((specs, ix), tokens)) :
    fm.TokenMemo network tokens ∧
      ∀ k, k ∈ tokens.map (·.key) ↔ k ∈ ins.map (·.token) ++ outs.map (·.token) ++ ds.map (·.token) := by
  obtain ⟨-, kept₁, keys₁⟩ := FrontMatter.resolveVaults_run ⟨by simp, by simp⟩ hin
  obtain ⟨-, kept₂, keys₂⟩ := FrontMatter.resolveVaults_run kept₁ hout
  obtain ⟨-, kept₃, keys₃⟩ := FrontMatter.gatherDeposits_run kept₂ hdep
  refine ⟨kept₃, fun k => ?_⟩
  rw [keys₃, keys₂, keys₁]
  simp only [List.map_nil, List.not_mem_nil, false_or, List.mem_append]

variable {source id : String} {c : Config}

theorem Config.load_eq_ok (h : Config.load source id = .ok c) :
    ∃ (fm : FrontMatter) (gui : GuiEntry) (offered : GuiDeploymentEntry)
      (deployment : DeploymentEntry) (scenario : ScenarioEntry) (order : OrderEntry)
      (deployer : ContractEntry) (memo₁ memo₂ : List TokenInfo),
      FrontMatter.parse? (splitFrontMatter source).1 = some fm ∧ fm.gui = some gui ∧
      gui.deployments.find? (·.deployment == id) = some offered ∧
      lookupEntry "deployment" fm.deployments id = .ok deployment ∧
      lookupEntry "scenario" fm.scenarios deployment.scenario = .ok scenario ∧
      lookupEntry "order" fm.orders deployment.order = .ok order ∧
      lookupEntry "deployer" fm.deployers scenario.deployer = .ok deployer ∧
      c.network.name = deployer.network ∧
      (order.inputs.mapM (fm.resolveVault deployer.network)).run [] = .ok (c.inputs, memo₁) ∧
      (order.outputs.mapM (fm.resolveVault deployer.network)).run memo₁ = .ok (c.outputs, memo₂) ∧
      (fm.gatherDeposits deployer.network offered.deposits).run memo₂ =
        .ok ((c.deposits, c.depositIndex), c.tokens) ∧
      gatherFields offered.fields = .ok (c.fields, c.fieldIndex) ∧
      c.deployment = id ∧ c.fingerprint = fingerprintOf c.deployment c.fields c.deposits c.tokens := by
  unfold Config.load at h
  split at h
  next frontMatter body split =>
  split at h
  next fm parsed =>
    split at h
    next gui hgui =>
      split at h
      next offered found =>
        simp only [Except.bind_eq_ok] at h
        obtain ⟨deployment, hd, scenario, hs, order, ho, deployer, hdep, _, -, _, -, _, -, _, -,
          ⟨inputs, memo₁⟩, hin, ⟨outputs, memo₂⟩, hout, h⟩ := h
        split at h
        · cases h
        · next deposits depositIndex tokens hdeposits =>
          split at h
          · cases h
          · next fields fieldIndex hfields =>
            cases h
            refine ⟨fm, gui, offered, deployment, scenario, order, deployer, memo₁, memo₂, ?_, hgui,
              found, hd, hs, ho, hdep, rfl, hin, hout, hdeposits, hfields, rfl, rfl⟩
            rw [split]
            exact parsed
      · cases h
    · cases h
  · cases h

theorem Config.load_depositsResolve (h : Config.load source id = .ok c) : c.DepositsResolve := by
  obtain ⟨fm, -, offered, -, -, order, deployer, memo₁, memo₂, -, -, -, -, -, -, -, -, hin, hout,
    hdep, -⟩ := Config.load_eq_ok h
  obtain ⟨specsEq, -, -⟩ := FrontMatter.gatherDeposits_run
    (FrontMatter.resolveVaults_run (FrontMatter.resolveVaults_run ⟨by simp, by simp⟩ hin).2.1
      hout).2.1 hdep
  obtain ⟨-, keys⟩ := FrontMatter.tokens_of_passes hin hout hdep
  intro key hkey
  have offeredKey : key ∈ offered.deposits.map (·.token) := by
    simpa [Config.depositKeys, specsEq, Function.comp_def] using hkey
  obtain ⟨u, hu, same⟩ := List.mem_map.mp ((keys key).mpr (List.mem_append_right _ offeredKey))
  have some : (c.token? key).isSome := by
    simp only [Config.token?, List.find?_isSome, beq_iff_eq]
    exact ⟨u, hu, same⟩
  exact Option.isSome_iff_exists.mp some

theorem Config.load_fingerprint (h : Config.load source id = .ok c) :
    c.fingerprint = fingerprintOf c.deployment c.fields c.deposits c.tokens := by
  obtain ⟨-, -, -, -, -, -, -, -, -, -, -, -, -, -, -, -, -, -, -, -, -, -, same⟩ :=
    Config.load_eq_ok h
  exact same

/-- A small deployment `y`: one field `b`, no deposits. -/
def exampleDocument : String :=
  "networks.n.rpc=\"\"\nnetworks.n.chain-id=1\n" ++
  "deployers.d.network=\"n\"\ndeployers.d.address=\"0x0000000000000000000000000000000000000001\"\n" ++
  "orderbooks.o.network=\"n\"\norderbooks.o.address=\"0x0000000000000000000000000000000000000001\"\n" ++
  "scenarios.s.deployer=\"d\"\norders.x.orderbook=\"o\"\n" ++
  "deployments.y.scenario=\"s\"\ndeployments.y.order=\"x\"\n" ++
  "[gui]\nname=\"\"\n[[gui.deployments]]\ndeployment=\"y\"\nname=\"\"\n" ++
  "[[gui.deployments.fields]]\nbinding=\"b\"\nname=\"\"\n"

theorem exampleDocument_load_shape : ∃ c, Config.load exampleDocument "y" = .ok c ∧
    c.depositKeys = [] ∧
    (fingerprintRecord c.deployment c.fields c.deposits c.tokens).length < 2 ^ 32 := by
  have h : ((Config.load exampleDocument "y").map fun c => (c.depositKeys,
      decide ((fingerprintRecord c.deployment c.fields c.deposits c.tokens).length < 2 ^ 32))) =
      .ok ([], true) := by
    decide +kernel
  obtain ⟨c, loaded, shape⟩ := Except.map_eq_ok.mp h
  simp only [Prod.mk.injEq] at shape
  exact ⟨c, loaded, shape.1, of_decide_eq_true shape.2⟩

theorem exampleDocument_loads : ∃ c, Config.load exampleDocument "y" = .ok c := by
  obtain ⟨c, loaded, -⟩ := exampleDocument_load_shape
  exact ⟨c, loaded⟩

/-- A deployment `y` whose order reads and writes vaults of token `a`, numbered `vaultId`, and
which offers fields `p` and `q` and deposits of `a`. Sections hold one entry each. -/
def vaultDocument (vaultId : String) : String :=
  "networks.n=\x7brpc=\"\",chain-id=1\x7d\n" ++
  "deployers.d=\x7bnetwork=\"n\",address=\"0x0000000000000000000000000000000000000001\"\x7d\n" ++
  "orderbooks.o=\x7bnetwork=\"n\",address=\"0x0000000000000000000000000000000000000001\"\x7d\n" ++
  "tokens.a=\x7bnetwork=\"n\",address=\"0x0000000000000000000000000000000000000002\",decimals=6\x7d\n" ++
  "scenarios.s.deployer=\"d\"\ndeployments.y=\x7bscenario=\"s\",order=\"x\"\x7d\n" ++
  "orders.x=\x7borderbook=\"o\",inputs=[\x7btoken=\"a\",vault-id=" ++ vaultId ++ "\x7d]," ++
  "outputs=[\x7btoken=\"a\",vault-id=" ++ vaultId ++ "\x7d]\x7d\n" ++
  "gui=\x7bname=\"\",deployments=[\x7bdeployment=\"y\",name=\"\"," ++
  "deposits=[\x7btoken=\"a\",presets=[\"1\"]\x7d]," ++
  "fields=[\x7bbinding=\"p\",name=\"\"\x7d,\x7bbinding=\"q\",name=\"\"\x7d]\x7d]\x7d\n"

/-- The token `a` of the vault documents. -/
def vaultToken : TokenInfo :=
  ⟨"a", ⟨List.replicate 19 0 ++ [2], rfl⟩, 6, none, none⟩

set_option synthInstance.maxSize 1024 in
theorem vaultDocument_one_evaluates : ((Config.load (vaultDocument "1") "y").map fun c =>
    (c.deployment, c.fields, c.deposits, c.tokens, c.inputs)) =
      .ok ("y", [⟨"p", "", "", none, []⟩, ⟨"q", "", "", none, []⟩], [⟨"a", none, ["1"]⟩],
        [vaultToken], [⟨vaultToken, 1⟩]) := by
  decide +kernel

set_option synthInstance.maxSize 1024 in
theorem vaultDocument_two_evaluates : ((Config.load (vaultDocument "2") "y").map fun c =>
    (c.deployment, c.fields, c.deposits, c.tokens, c.inputs)) =
      .ok ("y", [⟨"p", "", "", none, []⟩, ⟨"q", "", "", none, []⟩], [⟨"a", none, ["1"]⟩],
        [vaultToken], [⟨vaultToken, 2⟩]) := by
  decide +kernel

theorem vaultDocuments_load_shape : ∃ c₁ c₂,
    Config.load (vaultDocument "1") "y" = .ok c₁ ∧ Config.load (vaultDocument "2") "y" = .ok c₂ ∧
    c₁.inputs ≠ c₂.inputs ∧ c₁.fieldBindings = ["p", "q"] ∧ c₁.depositKeys = ["a"] ∧
    fingerprintRecord c₁.deployment c₁.fields c₁.deposits c₁.tokens =
      fingerprintRecord c₂.deployment c₂.fields c₂.deposits c₂.tokens ∧
    (fingerprintRecord c₁.deployment c₁.fields c₁.deposits c₁.tokens).length < 2 ^ 32 := by
  obtain ⟨c₁, loaded₁, held₁⟩ := Except.map_eq_ok.mp vaultDocument_one_evaluates
  obtain ⟨c₂, loaded₂, held₂⟩ := Except.map_eq_ok.mp vaultDocument_two_evaluates
  simp only [Prod.mk.injEq] at held₁ held₂
  obtain ⟨id₁, fields₁, deposits₁, tokens₁, inputs₁⟩ := held₁
  obtain ⟨id₂, fields₂, deposits₂, tokens₂, inputs₂⟩ := held₂
  refine ⟨c₁, c₂, loaded₁, loaded₂, ?_, ?_, ?_, ?_, ?_⟩
  · rw [inputs₁, inputs₂]
    decide
  · simp [Config.fieldBindings, fields₁]
  · simp [Config.depositKeys, deposits₁]
  · rw [id₁, fields₁, deposits₁, tokens₁, id₂, fields₂, deposits₂, tokens₂]
  · rw [id₁, fields₁, deposits₁, tokens₁]
    decide +kernel

end Load

end StrategyDeploy.Deployment
