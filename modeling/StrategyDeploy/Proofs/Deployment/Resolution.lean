import StrategyDeploy.Proofs.Deployment.Loaded
import Mathlib.Data.List.Nodup

/-! What loading resolves. -/
namespace StrategyDeploy.Deployment
open StrategyDeploy StrategyDeploy.Document StrategyDeploy.Evm StrategyDeploy.Text

variable {source id : String} {c : Config}

theorem FrontMatter.resolveToken_eq_ok {fm : FrontMatter} {network key : String} {t : TokenInfo}
    (h : fm.resolveToken network key = .ok t) :
    ∃ entry, lookupEntry "token" fm.tokens key = .ok entry ∧ entry.network = network ∧
      Address.parse? (trim entry.address) = some t.address ∧
      t = ⟨key, t.address, entry.decimals, entry.label, entry.symbol⟩ := by
  unfold FrontMatter.resolveToken at h
  obtain ⟨entry, found, h⟩ := Except.bind_eq_ok.mp h
  split at h
  · cases h
  · next onNetwork =>
    obtain ⟨address, parsed, h⟩ := Except.bind_eq_ok.mp h
    cases h
    refine ⟨entry, found, by simpa using onNetwork, ?_, rfl⟩
    unfold parseAddress at parsed
    split at parsed
    · next a read => cases parsed; exact read
    · cases parsed

/-- What a deployment loaded from front matter `fm` holds, for its gui deployment `offered`, its
order `order` and the network `network` of its deployer: the fields and deposits as declared,
each binding and token once and indexed at its position by the loader's loops, lookups that find
exactly the declared entry, and the tokens that the order and the deposits reference, each
resolved once from its entry in the tokens section. -/
structure Config.Resolved (c : Config) (fm : FrontMatter) (offered : GuiDeploymentEntry)
    (order : OrderEntry) (network : String) : Prop where
  fields_eq : c.fields = offered.fields.map FieldEntry.spec
  bindings_nodup : (offered.fields.map (·.binding)).Nodup
  fields_gathered : gatherFields offered.fields = .ok (c.fields, c.fieldIndex)
  fieldSpec_ok : ∀ b f, c.fieldSpec b = .ok f ↔ f ∈ c.fields ∧ f.binding = b
  fieldSpec_error : ∀ b, c.fieldSpec b = .error (.unknownBinding b) ↔ b ∉ c.fieldBindings
  deposits_eq : c.deposits = offered.deposits.map fun d => ⟨d.token, d.min, d.presets⟩
  tokens_nodup : (offered.deposits.map (·.token)).Nodup
  deposits_gathered : ∃ memo,
    (fm.gatherDeposits network offered.deposits).run memo = .ok ((c.deposits, c.depositIndex), c.tokens)
  depositSpec_ok : ∀ t d, c.depositSpec t = .ok d ↔ d ∈ c.deposits ∧ d.token = t
  depositSpec_error : ∀ t, c.depositSpec t = .error (.unknownDepositToken t) ↔ t ∉ c.depositKeys
  depositToken_ok : ∀ t, (∃ tk, c.depositToken t = .ok tk) ↔ ∃ d, c.depositSpec t = .ok d
  token_some : ∀ k, (∃ tk, c.token? k = some tk) ↔
    k ∈ order.inputs.map (·.token) ++ order.outputs.map (·.token) ++ offered.deposits.map (·.token)
  token_entry : ∀ k tk, c.token? k = some tk → ∃ entry, lookupEntry "token" fm.tokens k = .ok entry ∧
    entry.network = network ∧ Address.parse? (trim entry.address) = some tk.address ∧
    tk = ⟨k, tk.address, entry.decimals, entry.label, entry.symbol⟩
  token_keys_nodup : (c.tokens.map (·.key)).Nodup

theorem Config.fieldSpec_eq_error_iff {b : String} :
    c.fieldSpec b = .error (.unknownBinding b) ↔ b ∉ c.fieldBindings := by
  refine ⟨fun refused offered => ?_, Config.fieldSpec_of_not_mem⟩
  obtain ⟨f, found⟩ := Config.fieldSpec_ok_iff.mpr offered
  rw [found] at refused
  cases refused

theorem Config.depositSpec_eq_error_iff {t : String} :
    c.depositSpec t = .error (.unknownDepositToken t) ↔ t ∉ c.depositKeys := by
  refine ⟨fun refused offered => ?_, Config.depositSpec_of_not_mem⟩
  obtain ⟨d, found⟩ := Config.depositSpec_ok_iff.mpr offered
  rw [found] at refused
  cases refused

theorem Config.token?_of_memo {fm : FrontMatter} {network : String} {refs : List String}
    (memo : fm.TokenMemo network c.tokens) (keys : ∀ k, k ∈ c.tokens.map (·.key) ↔ k ∈ refs) :
    (∀ k, (∃ tk, c.token? k = some tk) ↔ k ∈ refs) ∧
      ∀ k tk, c.token? k = some tk → fm.resolveToken network k = .ok tk := by
  have found {k : String} {tk : TokenInfo} (h : c.token? k = some tk) : tk ∈ c.tokens ∧ tk.key = k :=
    ⟨List.mem_of_find?_eq_some h, by simpa using List.find?_some h⟩
  refine ⟨fun k => ?_, fun k tk h => ?_⟩
  · rw [← keys, ← Option.isSome_iff_exists]
    simp [Config.token?, List.find?_isSome]
  · obtain ⟨mem, rfl⟩ := found h
    exact memo.resolves tk mem

/-- Loading a gui deployment keeps its fields and deposits as declared, each binding and token
once and indexed at its position, with lookups that find exactly the declared entry, and resolves
exactly the tokens its order and its deposits reference, each once from its entry in the tokens
section on the deployer's network. -/
theorem Config.load_resolves_declared_entries (h : Config.load source id = .ok c) :
    ∃ (fm : FrontMatter) (gui : GuiEntry) (offered : GuiDeploymentEntry)
      (deployment : DeploymentEntry) (scenario : ScenarioEntry) (order : OrderEntry)
      (deployer : ContractEntry),
      FrontMatter.parse? (splitFrontMatter source).1 = some fm ∧ fm.gui = some gui ∧
      gui.deployments.find? (·.deployment == id) = some offered ∧
      lookupEntry "deployment" fm.deployments id = .ok deployment ∧
      lookupEntry "scenario" fm.scenarios deployment.scenario = .ok scenario ∧
      lookupEntry "order" fm.orders deployment.order = .ok order ∧
      lookupEntry "deployer" fm.deployers scenario.deployer = .ok deployer ∧
      c.Resolved fm offered order deployer.network := by
  obtain ⟨fm, gui, offered, deployment, scenario, order, deployer, memo₁, memo₂, parsed, hgui,
    found, hd, hs, ho, hdep, -, hin, hout, hdeposits, hfields, -⟩ := Config.load_eq_ok h
  have fieldsEq := gatherFields_run hfields
  have memo₂ok := (FrontMatter.resolveVaults_run
    (FrontMatter.resolveVaults_run ⟨by simp, by simp⟩ hin).2.1 hout).2.1
  obtain ⟨depositsEq, -, -⟩ := FrontMatter.gatherDeposits_run memo₂ok hdeposits
  obtain ⟨memo, keys⟩ := FrontMatter.tokens_of_passes hin hout hdeposits
  obtain ⟨tokenSome, tokenResolves⟩ := Config.token?_of_memo memo keys
  have bindingsNodup : (offered.fields.map (·.binding)).Nodup := by
    simpa [fieldsEq, Function.comp_def, FieldEntry.spec] using c.fieldIndex_indexes.nodup
  have tokensNodup : (offered.deposits.map (·.token)).Nodup := by
    simpa [depositsEq, Function.comp_def] using c.depositIndex_indexes.nodup
  refine ⟨fm, gui, offered, deployment, scenario, order, deployer, parsed, hgui, found, hd, hs, ho,
    hdep, ?_⟩
  exact {
    fields_eq := fieldsEq
    bindings_nodup := bindingsNodup
    fields_gathered := hfields
    fieldSpec_ok := fun _ _ => Config.fieldSpec_eq_ok_iff
    fieldSpec_error := fun _ => Config.fieldSpec_eq_error_iff
    deposits_eq := depositsEq
    tokens_nodup := tokensNodup
    deposits_gathered := ⟨memo₂, hdeposits⟩
    depositSpec_ok := fun _ _ => Config.depositSpec_eq_ok_iff
    depositSpec_error := fun _ => Config.depositSpec_eq_error_iff
    depositToken_ok := fun _ =>
      (Config.depositToken_ok_iff (Config.load_depositsResolve h)).trans Config.depositSpec_ok_iff.symm
    token_some := tokenSome
    token_entry := fun k tk found => FrontMatter.resolveToken_eq_ok (tokenResolves k tk found)
    token_keys_nodup := memo.keys_nodup }

/-- The vault document's deployment `y` loads, and what it holds is what the document declares:
its two fields, its deposit of `a`, and the token `a`, resolved once for the input vault, the
output vault and the deposit. -/
theorem vault_deployment_resolves : ∃ c, Config.load (vaultDocument "1") "y" = .ok c ∧
    ∃ (fm : FrontMatter) (gui : GuiEntry) (offered : GuiDeploymentEntry)
      (deployment : DeploymentEntry) (scenario : ScenarioEntry) (order : OrderEntry)
      (deployer : ContractEntry),
      FrontMatter.parse? (splitFrontMatter (vaultDocument "1")).1 = some fm ∧ fm.gui = some gui ∧
      gui.deployments.find? (·.deployment == "y") = some offered ∧
      lookupEntry "deployment" fm.deployments "y" = .ok deployment ∧
      lookupEntry "scenario" fm.scenarios deployment.scenario = .ok scenario ∧
      lookupEntry "order" fm.orders deployment.order = .ok order ∧
      lookupEntry "deployer" fm.deployers scenario.deployer = .ok deployer ∧
      c.Resolved fm offered order deployer.network := by
  obtain ⟨c, -, loaded, -⟩ := vaultDocuments_load_shape
  exact ⟨c, loaded, Config.load_resolves_declared_entries loaded⟩

end StrategyDeploy.Deployment
