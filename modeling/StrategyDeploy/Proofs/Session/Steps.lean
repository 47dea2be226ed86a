import StrategyDeploy.Proofs.Session.InsertionMap
import StrategyDeploy.Proofs.Deployment.Loaded

/-! Runs of session operations. -/
namespace StrategyDeploy.Session

open StrategyDeploy StrategyDeploy.Deployment

/-- An operation a user issues on a session store. -/
inductive Op where
  | setField (binding value : String)
  | setFields (values : List (String × String))
  | getField (binding : String)
  | removeField (binding : String)
  | setDeposit (token amount : String)
  | setDeposits (deposits : List (String × String))
  | removeDeposit (token : String)
  | clear

/-- Runs one operation: the store after it, with the value read when it reads one. -/
def Store.exec (st : Store) : Op → Except BindingError (Store × Option String)
  | .setField b v => (st.setField b v).map (·, none)
  | .setFields vs => (st.setFields vs).map (·, none)
  | .getField b => (st.getField b).map (st, ·)
  | .removeField b => (st.removeField b).map (·, none)
  | .setDeposit t a => (st.setDeposit t a).map (·, none)
  | .setDeposits ds => (st.setDeposits ds).map (·, none)
  | .removeDeposit t => .ok (st.removeDeposit t, none)
  | .clear => .ok (st.clear, none)

/-- The store after an operation: the new store, or the old one when it is refused. -/
def Store.after (st : Store) (op : Op) : Store :=
  match st.exec op with
  | .ok (st', _) => st'
  | .error _ => st

/-- The store after a run of operations. -/
def Store.run (st : Store) (ops : List Op) : Store := ops.foldl Store.after st

section Checked

variable {st : Store} {b v t a : String}

theorem Store.setField_of_mem (h : b ∈ st.config.fieldBindings) :
    st.setField b v = .ok { st with state := st.state.putField b v } := by
  obtain ⟨f, hf⟩ := Config.fieldSpec_ok_iff.mpr h
  simp only [Store.setField, Except.bind_of_ok hf]
  rfl

theorem Store.setField_of_not_mem (h : b ∉ st.config.fieldBindings) :
    st.setField b v = .error (.unknownBinding b) := by
  simp only [Store.setField, Except.bind_of_error (Config.fieldSpec_of_not_mem h)]

theorem Store.getField_of_mem (h : b ∈ st.config.fieldBindings) :
    st.getField b = .ok (st.state.fieldValue? b) := by
  obtain ⟨f, hf⟩ := Config.fieldSpec_ok_iff.mpr h
  simp only [Store.getField, Except.bind_of_ok hf]
  rfl

theorem Store.getField_of_not_mem (h : b ∉ st.config.fieldBindings) :
    st.getField b = .error (.unknownBinding b) := by
  simp only [Store.getField, Except.bind_of_error (Config.fieldSpec_of_not_mem h)]

theorem Store.removeField_of_mem (h : b ∈ st.config.fieldBindings) :
    st.removeField b = .ok { st with state := st.state.dropField b } := by
  obtain ⟨f, hf⟩ := Config.fieldSpec_ok_iff.mpr h
  simp only [Store.removeField, Except.bind_of_ok hf]
  rfl

theorem Store.removeField_of_not_mem (h : b ∉ st.config.fieldBindings) :
    st.removeField b = .error (.unknownBinding b) := by
  simp only [Store.removeField, Except.bind_of_error (Config.fieldSpec_of_not_mem h)]

theorem Store.setFields_of_forall_mem {vs : List (String × String)}
    (h : ∀ p ∈ vs, p.1 ∈ st.config.fieldBindings) :
    st.setFields vs = .ok { st with state := vs.foldl (fun s p => s.putField p.1 p.2) st.state } := by
  have checked : (vs.forM fun (p : String × String) => do let _ ← st.config.fieldSpec p.1) = .ok () := by
    refine List.forM_eq_ok.mpr fun p hp => ?_
    obtain ⟨f, hf⟩ := Config.fieldSpec_ok_iff.mpr (h p hp)
    simp only [Except.bind_of_ok hf]
    rfl
  simp only [Store.setFields]
  rw [Except.bind_of_ok checked]
  rfl

theorem Store.setFields_of_exists_not_mem {vs : List (String × String)}
    (h : ∃ p ∈ vs, p.1 ∉ st.config.fieldBindings) : ∃ e, st.setFields vs = .error e := by
  obtain ⟨p, hp, absent⟩ := h
  apply Except.exists_error_of_ne_ok
  intro st' ok
  simp only [Store.setFields] at ok
  obtain ⟨⟨⟩, checked, -⟩ := Except.bind_eq_ok.mp ok
  have hp := List.forM_eq_ok.mp checked p hp
  rw [Except.bind_of_error (Config.fieldSpec_of_not_mem absent)] at hp
  cases hp

theorem Store.setDeposit_of_ok {tk : TokenInfo} (h : st.config.depositToken t = .ok tk) :
    st.setDeposit t a = .ok { st with state := st.state.putDeposit t tk.address a } := by
  simp only [Store.setDeposit, Except.bind_of_ok h]
  rfl

theorem Store.setDeposit_of_not_ok (h : ∀ tk, st.config.depositToken t ≠ .ok tk) :
    ∃ e, st.setDeposit t a = .error e := by
  obtain ⟨e, he⟩ := Except.exists_error_of_ne_ok h
  exact ⟨e, by simp only [Store.setDeposit, Except.bind_of_error he]⟩

theorem Store.setDeposits_of_resolved {ds : List (String × String)}
    {rs : List (String × Evm.Address × String)}
    (h : ds.mapM (fun (p : String × String) => do
      let tk ← st.config.depositToken p.1
      return (p.1, tk.address, p.2)) = .ok rs) :
    st.setDeposits ds =
      .ok { st with state := rs.foldl (fun s r => s.putDeposit r.1 r.2.1 r.2.2) st.state } := by
  simp only [Store.setDeposits]
  rw [Except.bind_of_ok h]
  rfl

theorem Store.setDeposits_of_exists_not_ok {ds : List (String × String)}
    (h : ∃ p ∈ ds, ∀ tk, st.config.depositToken p.1 ≠ .ok tk) : ∃ e, st.setDeposits ds = .error e := by
  obtain ⟨p, hp, missing⟩ := h
  apply Except.exists_error_of_ne_ok
  intro st' ok
  simp only [Store.setDeposits] at ok
  obtain ⟨rs, resolved, -⟩ := Except.bind_eq_ok.mp ok
  obtain ⟨r, hr⟩ := List.ok_of_mapM_eq_ok resolved p hp
  obtain ⟨tk, htk, -⟩ := Except.bind_eq_ok.mp hr
  exact missing tk htk

end Checked

/-- The bindings an operation checks. -/
def Op.bindings : Op → List String
  | .setField b _ | .getField b | .removeField b => [b]
  | .setFields vs => vs.map (·.1)
  | _ => []

/-- The deposit tokens an operation checks; dropping a deposit checks none. -/
def Op.tokens : Op → List String
  | .setDeposit t _ => [t]
  | .setDeposits ds => ds.map (·.1)
  | _ => []

/-- Whether a deployment offers every binding and deposit token an operation checks. -/
def Op.Admitted (c : Config) (op : Op) : Prop :=
  (∀ b ∈ op.bindings, b ∈ c.fieldBindings) ∧ ∀ t ∈ op.tokens, t ∈ c.depositKeys

instance (c : Config) (op : Op) : Decidable (op.Admitted c) :=
  inferInstanceAs (Decidable (_ ∧ _))

/-- The session a user means: field values and deposit amounts as insertion-ordered maps. -/
structure SessionMap where
  fields : InsertionMap String := .empty
  deposits : InsertionMap String := .empty

/-- What an operation does to the maps, and the value it reads. -/
def SessionMap.apply (m : SessionMap) : Op → SessionMap × Option String
  | .setField b v => ({ m with fields := m.fields.set b v }, none)
  | .setFields vs => ({ m with fields := vs.foldl (fun f p => f.set p.1 p.2) m.fields }, none)
  | .getField b => (m, m.fields.get? b)
  | .removeField b => ({ m with fields := m.fields.erase b }, none)
  | .setDeposit t a => ({ m with deposits := m.deposits.set t a }, none)
  | .setDeposits ds => ({ m with deposits := ds.foldl (fun d p => d.set p.1 p.2) m.deposits }, none)
  | .removeDeposit t => ({ m with deposits := m.deposits.erase t }, none)
  | .clear => ({}, none)

/-- The maps after an operation the deployment admits; a refused one changes nothing. -/
def SessionMap.after (c : Config) (m : SessionMap) (op : Op) : SessionMap :=
  if op.Admitted c then (m.apply op).1 else m

/-- The maps after a run of operations. -/
def SessionMap.run (c : Config) (m : SessionMap) (ops : List Op) : SessionMap :=
  ops.foldl (SessionMap.after c) m

/-- Every key of the maps is one the deployment offers. -/
structure SessionMap.Offered (c : Config) (m : SessionMap) : Prop where
  fields : ∀ b ∈ m.fields.keys, b ∈ c.fieldBindings
  deposits : ∀ t ∈ m.deposits.keys, t ∈ c.depositKeys

/-- A store holds the maps: the same keys with the same values in the same order, and every
deposit with the address the deployment gives its token. -/
structure Holds (c : Config) (st : Store) (m : SessionMap) : Prop where
  config : st.config = c
  fields : st.state.fields.map (fun f => (f.binding, f.value)) = m.fields.entries
  deposits : st.state.deposits.map (fun d => (d.token, d.amount)) = m.deposits.entries
  addresses : ∀ d ∈ st.state.deposits, ∃ tk, c.depositToken d.token = .ok tk ∧ tk.address = d.address

/-- What the checked operations keep true of a session for a deployment: bindings and tokens
each once and all offered, and every deposit with its token's address. -/
structure State.Sound (c : Config) (s : State) : Prop where
  bindings_nodup : (s.fields.map (·.binding)).Nodup
  bindings_offered : ∀ f ∈ s.fields, f.binding ∈ c.fieldBindings
  tokens_nodup : (s.deposits.map (·.token)).Nodup
  tokens_offered : ∀ d ∈ s.deposits, d.token ∈ c.depositKeys
  addresses : ∀ d ∈ s.deposits, ∃ tk, c.depositToken d.token = .ok tk ∧ tk.address = d.address

section Maps

variable {c : Config} {st : Store} {m : SessionMap}

theorem Holds.bindings_eq (h : Holds c st m) : st.state.fields.map (·.binding) = m.fields.keys := by
  simp only [InsertionMap.keys, ← h.fields, List.map_map]
  rfl

theorem Holds.tokens_eq (h : Holds c st m) : st.state.deposits.map (·.token) = m.deposits.keys := by
  simp only [InsertionMap.keys, ← h.deposits, List.map_map]
  rfl

theorem Holds.putField (h : Holds c st m) (b v : String) :
    Holds c { st with state := st.state.putField b v } { m with fields := m.fields.set b v } := by
  refine ⟨h.config, ?_, h.deposits, h.addresses⟩
  have nodup : (st.state.fields.map fun f => (f.binding, f.value).1).Nodup := by
    simpa only [h.bindings_eq] using m.fields.nodup_keys
  simp only [State.putField, InsertionMap.entries_set, ← h.fields]
  refine map_upsertFirst (fun (f : FieldValue) => (f.binding, f.value)) ?_ ?_ rfl nodup
  · exact fun f => Bool.beq_eq_decide_eq f.binding b
  · intro f same
    simpa using same

theorem Holds.putFields (h : Holds c st m) (vs : List (String × String)) :
    Holds c { st with state := vs.foldl (fun s p => s.putField p.1 p.2) st.state }
      { m with fields := vs.foldl (fun f p => f.set p.1 p.2) m.fields } := by
  induction vs generalizing st m with
  | nil => exact h
  | cons p vs ih => exact ih (h.putField p.1 p.2)

theorem Holds.putDeposit (h : Holds c st m) {t a : String} {tk : TokenInfo}
    (htk : c.depositToken t = .ok tk) :
    Holds c { st with state := st.state.putDeposit t tk.address a }
      { m with deposits := m.deposits.set t a } := by
  refine ⟨h.config, h.fields, ?_, ?_⟩
  · have nodup : (st.state.deposits.map fun d => (d.token, d.amount).1).Nodup := by
      simpa only [h.tokens_eq] using m.deposits.nodup_keys
    simp only [State.putDeposit, InsertionMap.entries_set, ← h.deposits]
    refine map_upsertFirst (fun (d : Deposit) => (d.token, d.amount)) ?_ ?_ rfl nodup
    · exact fun d => Bool.beq_eq_decide_eq d.token t
    · intro d same
      simpa using same
  · intro d hd
    rcases mem_upsertFirst hd with old | ⟨x, -, hit, rfl⟩ | rfl
    · exact h.addresses d old
    · rw [beq_iff_eq] at hit
      exact ⟨tk, by simpa [hit] using htk, rfl⟩
    · exact ⟨tk, htk, rfl⟩

theorem Holds.putDeposits (h : Holds c st m) {ds : List (String × String)}
    {rs : List (String × Evm.Address × String)}
    (resolved : List.Forall₂
      (fun p r => ∃ tk, c.depositToken p.1 = .ok tk ∧ r = (p.1, tk.address, p.2)) ds rs) :
    Holds c { st with state := rs.foldl (fun s r => s.putDeposit r.1 r.2.1 r.2.2) st.state }
      { m with deposits := ds.foldl (fun d p => d.set p.1 p.2) m.deposits } := by
  induction resolved generalizing st m with
  | nil => exact h
  | cons first _ ih =>
      obtain ⟨tk, htk, rfl⟩ := first
      exact ih (h.putDeposit htk)

theorem Holds.dropField (h : Holds c st m) (b : String) :
    Holds c { st with state := st.state.dropField b } { m with fields := m.fields.erase b } := by
  refine ⟨h.config, ?_, h.deposits, h.addresses⟩
  simp only [State.dropField, InsertionMap.entries_erase, ← h.fields, List.filter_map]
  congr 1
  exact List.filter_congr fun f _ => by simp [bne, Bool.beq_eq_decide_eq]

theorem Holds.dropDeposit (h : Holds c st m) (t : String) :
    Holds c { st with state := st.state.dropDeposit t } { m with deposits := m.deposits.erase t } := by
  refine ⟨h.config, h.fields, ?_, fun d hd => h.addresses d (List.mem_filter.mp hd).1⟩
  simp only [State.dropDeposit, InsertionMap.entries_erase, ← h.deposits, List.filter_map]
  congr 1
  exact List.filter_congr fun d _ => by simp [bne, Bool.beq_eq_decide_eq]

theorem Holds.clear (h : Holds c st m) : Holds c st.clear {} :=
  ⟨h.config, rfl, rfl, by simp [Store.clear]⟩

theorem Holds.fieldValue? (h : Holds c st m) (b : String) :
    st.state.fieldValue? b = m.fields.get? b := by
  simp only [State.fieldValue?, InsertionMap.get?, ← h.fields]
  induction st.state.fields with
  | nil => rfl
  | cons f fs ih =>
      by_cases same : f.binding = b
      · simp [same]
      · have other : (b == f.binding) = false := by simpa using Ne.symm same
        simp [List.lookup_cons, same, other, ih]

end Maps

section Run

variable {c : Config} {st : Store} {m : SessionMap}

theorem Holds.exec_of_admitted (hres : c.DepositsResolve) (h : Holds c st m) {op : Op}
    (hop : op.Admitted c) :
    ∃ st', st.exec op = .ok (st', (m.apply op).2) ∧ Holds c st' (m.apply op).1 := by
  have hc := h.config
  subst hc
  obtain ⟨bindings, tokens⟩ := hop
  cases op with
  | setField b v =>
      have hb := bindings b (List.mem_singleton_self b)
      exact ⟨_, by rw [Store.exec, Store.setField_of_mem hb]; rfl, h.putField b v⟩
  | setFields vs =>
      have hvs : ∀ p ∈ vs, p.1 ∈ st.config.fieldBindings :=
        fun p hp => bindings p.1 (List.mem_map_of_mem hp)
      exact ⟨_, by rw [Store.exec, Store.setFields_of_forall_mem hvs]; rfl, h.putFields vs⟩
  | getField b =>
      have hb := bindings b (List.mem_singleton_self b)
      refine ⟨st, ?_, h⟩
      rw [Store.exec, Store.getField_of_mem hb, h.fieldValue? b]
      rfl
  | removeField b =>
      have hb := bindings b (List.mem_singleton_self b)
      exact ⟨_, by rw [Store.exec, Store.removeField_of_mem hb]; rfl, h.dropField b⟩
  | setDeposit t a =>
      obtain ⟨tk, htk⟩ := (Config.depositToken_ok_iff hres).mpr (tokens t (List.mem_singleton_self t))
      exact ⟨_, by rw [Store.exec, Store.setDeposit_of_ok htk]; rfl, h.putDeposit htk⟩
  | setDeposits ds =>
      have each : ∀ p ∈ ds, ∃ r, (do
          let tk ← st.config.depositToken p.1
          return (p.1, tk.address, p.2) : Except BindingError _) = .ok r := by
        intro p hp
        obtain ⟨tk, htk⟩ :=
          (Config.depositToken_ok_iff hres).mpr (tokens p.1 (List.mem_map_of_mem hp))
        exact ⟨_, by rw [Except.bind_of_ok htk]; rfl⟩
      obtain ⟨rs, hrs⟩ := List.exists_mapM_eq_ok each
      have resolved : List.Forall₂ (fun p r =>
          ∃ tk, st.config.depositToken p.1 = .ok tk ∧ r = (p.1, tk.address, p.2)) ds rs :=
        (List.mapM_eq_ok_iff.mp hrs).imp fun p r hr => by
        obtain ⟨tk, htk, hr⟩ := Except.bind_eq_ok.mp hr
        exact ⟨tk, htk, (Except.ok.inj hr).symm⟩
      exact ⟨_, by rw [Store.exec, Store.setDeposits_of_resolved hrs]; rfl, h.putDeposits resolved⟩
  | removeDeposit t => exact ⟨_, rfl, h.dropDeposit t⟩
  | clear => exact ⟨_, rfl, h.clear⟩

theorem Holds.exec_of_not_admitted (hres : c.DepositsResolve) (h : Holds c st m) {op : Op}
    (hop : ¬op.Admitted c) : ∃ e, st.exec op = .error e := by
  have hc := h.config
  subst hc
  cases op with
  | setField b v =>
      have hb : b ∉ st.config.fieldBindings := by simpa [Op.Admitted, Op.bindings, Op.tokens] using hop
      exact ⟨_, by rw [Store.exec, Store.setField_of_not_mem hb]; rfl⟩
  | setFields vs =>
      have hvs : ∃ p ∈ vs, p.1 ∉ st.config.fieldBindings := by
        simpa [Op.Admitted, Op.bindings, Op.tokens] using hop
      obtain ⟨e, he⟩ := Store.setFields_of_exists_not_mem hvs
      exact ⟨e, by rw [Store.exec, he]; rfl⟩
  | getField b =>
      have hb : b ∉ st.config.fieldBindings := by simpa [Op.Admitted, Op.bindings, Op.tokens] using hop
      exact ⟨_, by rw [Store.exec, Store.getField_of_not_mem hb]; rfl⟩
  | removeField b =>
      have hb : b ∉ st.config.fieldBindings := by simpa [Op.Admitted, Op.bindings, Op.tokens] using hop
      exact ⟨_, by rw [Store.exec, Store.removeField_of_not_mem hb]; rfl⟩
  | setDeposit t a =>
      have ht : t ∉ st.config.depositKeys := by simpa [Op.Admitted, Op.bindings, Op.tokens] using hop
      have missing : ∀ tk, st.config.depositToken t ≠ .ok tk :=
        fun tk htk => ht ((Config.depositToken_ok_iff hres).mp ⟨tk, htk⟩)
      obtain ⟨e, he⟩ := Store.setDeposit_of_not_ok (a := a) missing
      exact ⟨e, by rw [Store.exec, he]; rfl⟩
  | setDeposits ds =>
      have hds : ∃ p ∈ ds, p.1 ∉ st.config.depositKeys := by
        simpa [Op.Admitted, Op.bindings, Op.tokens] using hop
      obtain ⟨p, hp, absent⟩ := hds
      have missing : ∀ tk, st.config.depositToken p.1 ≠ .ok tk :=
        fun tk htk => absent ((Config.depositToken_ok_iff hres).mp ⟨tk, htk⟩)
      obtain ⟨e, he⟩ := Store.setDeposits_of_exists_not_ok ⟨p, hp, missing⟩
      exact ⟨e, by rw [Store.exec, he]; rfl⟩
  | removeDeposit t => exact absurd ⟨by simp [Op.bindings], by simp [Op.tokens]⟩ hop
  | clear => exact absurd ⟨by simp [Op.bindings], by simp [Op.tokens]⟩ hop

theorem Holds.after (hres : c.DepositsResolve) (h : Holds c st m) (op : Op) :
    Holds c (st.after op) (m.after c op) := by
  by_cases hop : op.Admitted c
  · obtain ⟨st', hexec, hst'⟩ := h.exec_of_admitted hres hop
    simpa only [Store.after, hexec, SessionMap.after, hop, if_true] using hst'
  · obtain ⟨e, hexec⟩ := h.exec_of_not_admitted hres hop
    simpa only [Store.after, hexec, SessionMap.after, hop, if_false] using h

theorem SessionMap.offered_empty (c : Config) : SessionMap.Offered c {} :=
  ⟨by simp [InsertionMap.keys, InsertionMap.empty], by simp [InsertionMap.keys, InsertionMap.empty]⟩

theorem SessionMap.Offered.after (ho : m.Offered c) (op : Op) : (m.after c op).Offered c := by
  unfold SessionMap.after
  split
  · next hop =>
      obtain ⟨bindings, tokens⟩ := hop
      cases op with
      | setField b v =>
          refine ⟨fun x hx => ?_, ho.deposits⟩
          rcases InsertionMap.mem_keys_set hx with old | rfl
          · exact ho.fields x old
          · exact bindings x (List.mem_singleton_self x)
      | setFields vs =>
          refine ⟨fun x hx => ?_, ho.deposits⟩
          rcases InsertionMap.mem_keys_foldl_set hx with old | new
          · exact ho.fields x old
          · exact bindings x new
      | getField b => exact ho
      | removeField b => exact ⟨fun x hx => ho.fields x (InsertionMap.mem_keys_erase hx), ho.deposits⟩
      | setDeposit t a =>
          refine ⟨ho.fields, fun x hx => ?_⟩
          rcases InsertionMap.mem_keys_set hx with old | rfl
          · exact ho.deposits x old
          · exact tokens x (List.mem_singleton_self x)
      | setDeposits ds =>
          refine ⟨ho.fields, fun x hx => ?_⟩
          rcases InsertionMap.mem_keys_foldl_set hx with old | new
          · exact ho.deposits x old
          · exact tokens x new
      | removeDeposit t =>
          exact ⟨ho.fields, fun x hx => ho.deposits x (InsertionMap.mem_keys_erase hx)⟩
      | clear => exact SessionMap.offered_empty c
  · exact ho

theorem Holds.sound (h : Holds c st m) (ho : m.Offered c) : st.state.Sound c where
  bindings_nodup := h.bindings_eq ▸ m.fields.nodup_keys
  bindings_offered f hf := ho.fields f.binding (h.bindings_eq ▸ List.mem_map_of_mem hf)
  tokens_nodup := h.tokens_eq ▸ m.deposits.nodup_keys
  tokens_offered d hd := ho.deposits d.token (h.tokens_eq ▸ List.mem_map_of_mem hd)
  addresses := h.addresses

theorem Holds.run (hres : c.DepositsResolve) (h : Holds c st m) (ho : m.Offered c) (ops : List Op) :
    Holds c (st.run ops) (m.run c ops) ∧ (m.run c ops).Offered c := by
  induction ops generalizing st m with
  | nil => exact ⟨h, ho⟩
  | cons op ops ih => exact ih (h.after hres op) (ho.after op)

theorem Holds.empty (c : Config) : Holds c { config := c } {} :=
  ⟨rfl, rfl, rfl, by simp⟩

/-- From an empty store of a loaded deployment, every run of operations leaves a store that
holds the insertion-ordered maps of the same run and is sound for the deployment. The next
operation behaves on that store as on the maps: it is refused exactly when it names a binding
or token the deployment does not offer, and otherwise it reads the same value and leaves a store
that holds the maps after it. -/
theorem session_run_refines_insertion_maps {source id : String}
    (hload : Config.load source id = .ok c) (ops : List Op) :
    let st := Store.run { config := c } ops
    let m := SessionMap.run c {} ops
    Holds c st m ∧ st.state.Sound c ∧
      ∀ op, ((∃ e, st.exec op = .error e) ↔ ¬op.Admitted c) ∧
        (op.Admitted c →
          ∃ st', st.exec op = .ok (st', (m.apply op).2) ∧ Holds c st' (m.apply op).1) := by
  intro st m
  have hres := Config.load_depositsResolve hload
  obtain ⟨h, ho⟩ := (Holds.empty c).run hres (SessionMap.offered_empty c) ops
  refine ⟨h, h.sound ho, fun op => ⟨⟨fun ⟨e, refused⟩ hop => ?_, h.exec_of_not_admitted hres⟩,
    h.exec_of_admitted hres⟩⟩
  obtain ⟨st', ran, -⟩ := h.exec_of_admitted hres hop
  rw [refused] at ran
  cases ran

theorem example_run_refines_insertion_maps :
    ∃ c, Config.load exampleDocument "y" = .ok c ∧
      let st := Store.run { config := c } [.setField "b" "1", .setFields [("b", "2"), ("z", "3")]]
      let m := SessionMap.run c {} [.setField "b" "1", .setFields [("b", "2"), ("z", "3")]]
      Holds c st m ∧ st.state.Sound c ∧
        ∀ op, ((∃ e, st.exec op = .error e) ↔ ¬op.Admitted c) ∧
          (op.Admitted c →
            ∃ st', st.exec op = .ok (st', (m.apply op).2) ∧ Holds c st' (m.apply op).1) := by
  obtain ⟨c, loaded⟩ := exampleDocument_loads
  exact ⟨c, loaded, session_run_refines_insertion_maps loaded _⟩

end Run

end StrategyDeploy.Session
