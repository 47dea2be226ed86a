import StrategyDeploy.App.Application
import StrategyDeploy.Proofs.Session.Steps

/-! Applying values given on the command line to a session. -/
namespace StrategyDeploy.Deployment

variable {c : Config} {t : String}

theorem Config.depositToken_of_not_mem (h : t ∉ c.depositKeys) :
    c.depositToken t = .error (.unknownDepositToken t) := by
  simp only [Config.depositToken, Except.bind_of_error (Config.depositSpec_of_not_mem h)]

end StrategyDeploy.Deployment

namespace StrategyDeploy.Session

open StrategyDeploy StrategyDeploy.Deployment

variable {st : Store} {b v t a : String}

theorem Store.fieldSpec_checked_of_mem (h : b ∈ st.config.fieldBindings) :
    (do let _ ← st.config.fieldSpec b : Except BindingError PUnit) = .ok () := by
  obtain ⟨f, hf⟩ := Config.fieldSpec_ok_iff.mpr h
  simp only [Except.bind_of_ok hf]
  rfl

theorem Store.fieldSpec_checked_of_not_mem (h : b ∉ st.config.fieldBindings) :
    (do let _ ← st.config.fieldSpec b : Except BindingError PUnit) = .error (.unknownBinding b) := by
  simp only [Except.bind_of_error (Config.fieldSpec_of_not_mem h)]

theorem Store.setFields_of_find? {vs : List (String × String)}
    (first : vs.find? (fun p => p.1 ∉ st.config.fieldBindings) = some (b, v)) :
    st.setFields vs = .error (.unknownBinding b) := by
  have missing : b ∉ st.config.fieldBindings := by simpa using List.find?_some first
  have check : (vs.forM fun p => do let _ ← st.config.fieldSpec p.1) = .error (.unknownBinding b) :=
    List.forM_eq_error_of_find? first
      (fun p _ declared => Store.fieldSpec_checked_of_mem (by simpa using declared))
      (Store.fieldSpec_checked_of_not_mem missing)
  simp only [Store.setFields]
  rw [Except.bind_of_error check]

theorem Store.setFields_cons_of_mem {vs : List (String × String)} (h : b ∈ st.config.fieldBindings) :
    st.setFields ((b, v) :: vs) = { st with state := st.state.putField b v }.setFields vs := by
  simp only [Store.setFields, List.foldl_cons]
  rw [List.forM_cons_of_ok (f := fun p : String × String => do let _ ← st.config.fieldSpec p.1)
    (Store.fieldSpec_checked_of_mem h)]

theorem Store.setFields_cons_of_not_mem {vs : List (String × String)}
    (h : b ∉ st.config.fieldBindings) : st.setFields ((b, v) :: vs) = .error (.unknownBinding b) :=
  Store.setFields_of_find? (v := v) (by simp [h])

theorem Store.setFields_eq_foldlM (vs : List (String × String)) :
    ∀ st : Store, st.setFields vs = vs.foldlM (fun st p => st.setField p.1 p.2) st := by
  induction vs with
  | nil => intro st; rfl
  | cons p vs ih =>
    intro st
    obtain ⟨b, v⟩ := p
    by_cases h : b ∈ st.config.fieldBindings
    · rw [Store.setFields_cons_of_mem h, ih, List.foldlM_cons, Store.setField_of_mem h]
      rfl
    · rw [Store.setFields_cons_of_not_mem h, List.foldlM_cons, Store.setField_of_not_mem h]
      rfl

theorem Store.setDeposits_cons_of_ok {ds : List (String × String)} {tk : TokenInfo}
    (h : st.config.depositToken t = .ok tk) :
    st.setDeposits ((t, a) :: ds) = { st with state := st.state.putDeposit t tk.address a }.setDeposits ds := by
  simp only [Store.setDeposits, List.mapM_cons, h, Except.ok_bind]
  cases ds.mapM fun p => do
      let tk ← st.config.depositToken p.1
      return (p.1, tk.address, p.2) <;> rfl

theorem Store.setDeposits_cons_of_error {ds : List (String × String)} {e : BindingError}
    (h : st.config.depositToken t = .error e) : st.setDeposits ((t, a) :: ds) = .error e := by
  simp only [Store.setDeposits, List.mapM_cons, Except.bind_of_error h]
  rfl

theorem Store.setDeposits_eq_foldlM (ds : List (String × String)) :
    ∀ st : Store, st.setDeposits ds = ds.foldlM (fun st p => st.setDeposit p.1 p.2) st := by
  induction ds with
  | nil => intro st; rfl
  | cons p ds ih =>
    intro st
    obtain ⟨t, a⟩ := p
    cases h : st.config.depositToken t with
    | ok tk =>
      rw [Store.setDeposits_cons_of_ok h, ih, List.foldlM_cons, Store.setDeposit_of_ok h]
      rfl
    | error e =>
      rw [Store.setDeposits_cons_of_error h, List.foldlM_cons]
      simp only [Store.setDeposit, Except.bind_of_error h]
      rfl

theorem Store.config_of_setFields {vs : List (String × String)} {st' : Store}
    (h : st.setFields vs = .ok st') : st'.config = st.config := by
  obtain ⟨_, -, h⟩ := Except.bind_eq_ok.mp h
  cases h
  rfl

theorem Store.setDeposits_of_declared {ds : List (String × String)}
    (resolve : st.config.DepositsResolve) (declared : ∀ p ∈ ds, p.1 ∈ st.config.depositKeys) :
    ∃ st', st.setDeposits ds = .ok st' ∧ st'.config = st.config := by
  obtain ⟨rs, hrs⟩ : ∃ rs, (ds.mapM fun (p : String × String) => do
      let tk ← st.config.depositToken p.1
      return (p.1, tk.address, p.2)) = .ok rs := List.exists_mapM_eq_ok fun p hp => by
    obtain ⟨tk, htk⟩ := (Config.depositToken_ok_iff resolve).mpr (declared p hp)
    exact ⟨_, by simp only [Except.bind_of_ok htk]; rfl⟩
  exact ⟨_, Store.setDeposits_of_resolved hrs, rfl⟩

end StrategyDeploy.Session

namespace StrategyDeploy.App

open StrategyDeploy StrategyDeploy.Session StrategyDeploy.Deployment

section Checks

variable {c : Config} {t : String}

theorem depositToken_checked_of_mem (resolve : c.DepositsResolve) (h : t ∈ c.depositKeys) :
    (do let _ ← (c.depositToken t).mapError AppError.state : Except AppError PUnit) = .ok () := by
  obtain ⟨tk, htk⟩ := (Config.depositToken_ok_iff resolve).mpr h
  simp [htk, Except.mapError]

theorem depositToken_checked_of_not_mem (h : t ∉ c.depositKeys) :
    (do let _ ← (c.depositToken t).mapError AppError.state : Except AppError PUnit) =
      .error (.state (.unknownDepositToken t)) := by
  simp [Config.depositToken_of_not_mem h, Except.mapError]

end Checks

variable {app : Application} {fields deposits : List (String × String)}

theorem Application.apply_of_undeclared_deposit (resolve : app.store.config.DepositsResolve)
    {t a : String} (first : deposits.find? (fun p => p.1 ∉ app.store.config.depositKeys) = some (t, a)) :
    app.apply fields deposits = .error (.state (.unknownDepositToken t)) := by
  have missing : t ∉ app.store.config.depositKeys := by simpa using List.find?_some first
  have check : (deposits.forM fun p => do
      let _ ← (app.store.config.depositToken p.1).mapError AppError.state) =
      .error (.state (.unknownDepositToken t)) :=
    List.forM_eq_error_of_find? first
      (fun p _ declared => depositToken_checked_of_mem resolve (by simpa using declared))
      (depositToken_checked_of_not_mem missing)
  unfold Application.apply
  rw [Except.bind_of_error check]

theorem Application.apply_of_declared_deposits (resolve : app.store.config.DepositsResolve)
    (declared : ∀ p ∈ deposits, p.1 ∈ app.store.config.depositKeys) :
    app.apply fields deposits = (do
      let store ← (app.store.setFields fields).mapError AppError.state
      let store ← (store.setDeposits deposits).mapError AppError.state
      return { app with store }) := by
  have check : (deposits.forM fun p => do
      let _ ← (app.store.config.depositToken p.1).mapError AppError.state) = .ok () :=
    List.forM_eq_ok.mpr fun p hp => depositToken_checked_of_mem resolve (declared p hp)
  unfold Application.apply
  rw [Except.bind_of_ok check]

theorem Application.apply_of_undeclared_binding (resolve : app.store.config.DepositsResolve)
    (declared : ∀ p ∈ deposits, p.1 ∈ app.store.config.depositKeys) {b v : String}
    (first : fields.find? (fun p => p.1 ∉ app.store.config.fieldBindings) = some (b, v)) :
    app.apply fields deposits = .error (.state (.unknownBinding b)) := by
  rw [Application.apply_of_declared_deposits resolve declared, Store.setFields_of_find? first]
  rfl

theorem Application.apply_of_declared (resolve : app.store.config.DepositsResolve)
    (deposited : ∀ p ∈ deposits, p.1 ∈ app.store.config.depositKeys)
    (set : ∀ p ∈ fields, p.1 ∈ app.store.config.fieldBindings) :
    ∃ st, (app.store.setFields fields >>= fun st => st.setDeposits deposits) = .ok st ∧
      app.apply fields deposits = .ok { app with store := st } := by
  have written := Store.setFields_of_forall_mem set
  obtain ⟨st, hst, -⟩ : ∃ st', ({ app.store with
      state := fields.foldl (fun s p => s.putField p.1 p.2) app.store.state } : Store).setDeposits
      deposits = .ok st' ∧ st'.config = app.store.config :=
    Store.setDeposits_of_declared resolve deposited
  refine ⟨st, by rw [written, Except.ok_bind]; exact hst, ?_⟩
  rw [Application.apply_of_declared_deposits resolve deposited, written]
  simp only [Except.mapError, Except.ok_bind, hst]
  rfl

theorem Application.declared_of_apply_ok (resolve : app.store.config.DepositsResolve) {app' : Application}
    (h : app.apply fields deposits = .ok app') :
    (∀ p ∈ deposits, p.1 ∈ app.store.config.depositKeys) ∧
      ∀ p ∈ fields, p.1 ∈ app.store.config.fieldBindings := by
  have deposited : ∀ p ∈ deposits, p.1 ∈ app.store.config.depositKeys := by
    cases first : deposits.find? (fun p => p.1 ∉ app.store.config.depositKeys) with
    | none => simpa using first
    | some p =>
      rw [Application.apply_of_undeclared_deposit resolve first] at h
      cases h
  refine ⟨deposited, ?_⟩
  cases first : fields.find? (fun p => p.1 ∉ app.store.config.fieldBindings) with
  | none => simpa using first
  | some p =>
    rw [Application.apply_of_undeclared_binding resolve deposited first] at h
    cases h

/-- Applying values to a session checks every deposit token, then every binding, and writes only
when all pass. It fails exactly when one is not offered, naming the first offending deposit
token, or else the first offending binding; a failure gives no application, so the one the
caller holds stays as it was. Once the deposit tokens pass, the deposit batch cannot fail after
the field batch is written. Success leaves the store that setting each field value and then
each deposit, one by one, leaves. -/
theorem Application.apply_checks_before_writing (app : Application)
    (fields deposits : List (String × String)) (resolve : app.store.config.DepositsResolve) :
    ((∃ app', app.apply fields deposits = .ok app') ↔
      (∀ p ∈ deposits, p.1 ∈ app.store.config.depositKeys) ∧
        ∀ p ∈ fields, p.1 ∈ app.store.config.fieldBindings) ∧
    (∀ t a, deposits.find? (fun p => p.1 ∉ app.store.config.depositKeys) = some (t, a) →
      app.apply fields deposits = .error (.state (.unknownDepositToken t))) ∧
    (deposits.find? (fun p => p.1 ∉ app.store.config.depositKeys) = none → ∀ b v,
      fields.find? (fun p => p.1 ∉ app.store.config.fieldBindings) = some (b, v) →
      app.apply fields deposits = .error (.state (.unknownBinding b))) ∧
    (∀ app', app.apply fields deposits = .ok app' → ∃ st,
      (fields.foldlM (fun st p => st.setField p.1 p.2) app.store >>= fun st =>
        deposits.foldlM (fun st p => st.setDeposit p.1 p.2) st) = .ok st ∧
      app' = { app with store := st }) ∧
    (∀ st, app.store.setFields fields = .ok st →
      (∀ p ∈ deposits, p.1 ∈ app.store.config.depositKeys) →
      ∃ st', st.setDeposits deposits = .ok st') := by
  refine ⟨⟨fun ⟨_, h⟩ => Application.declared_of_apply_ok resolve h, fun ⟨deposited, set⟩ => ?_⟩,
    fun t a first => Application.apply_of_undeclared_deposit resolve first,
    fun none b v first => Application.apply_of_undeclared_binding resolve (by simpa using none) first,
    fun app' h => ?_, fun st written deposited => ?_⟩
  · obtain ⟨st, -, h⟩ := Application.apply_of_declared resolve deposited set
    exact ⟨_, h⟩
  · obtain ⟨deposited, set⟩ := Application.declared_of_apply_ok resolve h
    obtain ⟨st, batches, h'⟩ := Application.apply_of_declared resolve deposited set
    rw [h] at h'
    refine ⟨st, ?_, Except.ok.inj h'⟩
    simpa only [Store.setFields_eq_foldlM, Store.setDeposits_eq_foldlM] using batches
  · have same := Store.config_of_setFields written
    obtain ⟨st', h, -⟩ : ∃ st', st.setDeposits deposits = .ok st' ∧ st'.config = st.config :=
      Store.setDeposits_of_declared (same ▸ resolve) (same ▸ deposited)
    exact ⟨st', h⟩

/-- A session of the small deployment refuses a deposit of a token it does not offer, although
the field value given with it is for an offered binding. -/
theorem unknown_deposit_refused_before_fields : ∃ c, Config.load exampleDocument "y" = .ok c ∧
    c.DepositsResolve ∧
    ({ settings := {}, store := { config := c } } : Application).apply [("b", "7")] [("t", "1")] =
      .error (.state (.unknownDepositToken "t")) := by
  obtain ⟨c, loaded, none, -⟩ := exampleDocument_load_shape
  have resolve := Config.load_depositsResolve loaded
  refine ⟨c, loaded, resolve, ?_⟩
  apply (Application.apply_checks_before_writing _ [("b", "7")] [("t", "1")] resolve).2.1 "t" "1"
  simp [none]

end StrategyDeploy.App
