import StrategyDeploy.Calldata.Compile
import StrategyDeploy.Proofs.Except
import StrategyDeploy.Proofs.Session.Steps
import StrategyDeploy.Proofs.Calldata.Multicall
import StrategyDeploy.Proofs.Calldata.Minimum
import Mathlib.Data.List.Forall2

/-! What an accepted update does to compilation. -/
namespace StrategyDeploy.Session

section Upsert

variable {β : Type} {hit : β → Bool} {update : β → β} {fresh : β}

theorem filter_upsertFirst (keeps : ∀ x, hit x = true → hit (update x) = true)
    (hf : hit fresh = true) (xs : List β) :
    (upsertFirst hit update fresh xs).filter hit =
      match xs.filter hit with
      | [] => [fresh]
      | x :: rest => update x :: rest := by
  induction xs with
  | nil => simp [upsertFirst, hf]
  | cons x xs ih =>
    unfold upsertFirst
    by_cases hx : hit x = true
    · simp [hx, keeps x hx]
    · simp [hx, ih]

theorem find?_upsertFirst (keeps : ∀ x, hit x = true → hit (update x) = true)
    (hf : hit fresh = true) (xs : List β) :
    (upsertFirst hit update fresh xs).find? hit = some ((xs.find? hit).elim fresh update) := by
  rw [← List.head?_filter, filter_upsertFirst keeps hf, ← List.head?_filter]
  cases xs.filter hit <;> rfl

theorem filter_upsertFirst_of_length_le_one (hu : ∀ x, hit x = true → update x = fresh)
    (hf : hit fresh = true) {xs : List β} (once : (xs.filter hit).length ≤ 1) :
    (upsertFirst hit update fresh xs).filter hit = [fresh] := by
  rw [filter_upsertFirst (fun x hx => hu x hx ▸ hf) hf]
  split
  · rfl
  · next x rest picked =>
    have hx : hit x = true := by
      have mem : x ∈ xs.filter hit := by
        rw [picked]
        exact List.mem_cons_self
      exact List.of_mem_filter mem
    have last : rest = [] := by
      rw [picked, List.length_cons] at once
      exact List.eq_nil_of_length_eq_zero (by omega)
    rw [hu x hx, last]

end Upsert

section Entries

variable {s : State}

theorem State.fieldValue?_putField (s : State) (b v : String) :
    (s.putField b v).fieldValue? b = some v := by
  simp only [State.fieldValue?, State.putField]
  rw [@find?_upsertFirst FieldValue (·.binding == b) (fun f => { f with value := v }) ⟨b, v⟩
    (fun _ hf => hf) (by simp) s.fields]
  cases s.fields.find? (·.binding == b) <;> rfl

theorem State.filter_putField {b v : String}
    (once : (s.fields.filter (·.binding == b)).length ≤ 1) :
    (s.putField b v).fields.filter (·.binding == b) = [⟨b, v⟩] := by
  refine filter_upsertFirst_of_length_le_one (fun f hf => ?_) (by simp) once
  obtain ⟨b', v'⟩ := f
  simp only [beq_iff_eq] at hf
  rw [hf]

theorem State.filter_putDeposit {t a : String} {address : Evm.Address}
    (once : (s.deposits.filter (·.token == t)).length ≤ 1) :
    (s.putDeposit t address a).deposits.filter (·.token == t) = [⟨t, address, a⟩] := by
  refine filter_upsertFirst_of_length_le_one (fun d hd => ?_) (by simp) once
  obtain ⟨t', address', a'⟩ := d
  simp only [beq_iff_eq] at hd
  rw [hd]

theorem State.filter_bindings (s : State) (b : String) :
    s.bindings.filter (·.1 == b) =
      (s.fields.filter (·.binding == b)).map fun f => (f.binding, f.value) := by
  rw [State.bindings, List.filter_map]
  rfl

end Entries

end StrategyDeploy.Session

namespace StrategyDeploy.Expression

theorem Bindings.get?_eq_getLast? (bs : Bindings) (name : String) :
    bs.get? name = (bs.filter (·.1 == name)).getLast?.map (·.2) := by
  rw [Bindings.get?, ← List.head?_filter, List.filter_reverse, List.head?_reverse]

theorem Bindings.get?_append_of_filter {bs bs' : Bindings} {name value : String}
    (h : bs'.filter (·.1 == name) = [(name, value)]) : (bs ++ bs').get? name = some value := by
  rw [Bindings.get?_eq_getLast?, List.filter_append, h, List.getLast?_concat]
  rfl

theorem resolve_of_binding {e : Expression} {b : Bindings} {word value : String} {sec : Section}
    (hsec : e.sections.find? (·.name == word) = some sec) (binding : sec.isCode = false)
    (supplied : b.get? word = some value) : e.resolve b word = .ok (some value) := by
  unfold resolve
  rw [hsec]
  obtain ⟨name, body⟩ := sec
  cases body with
  | code text => cases binding
  | literal default => simp [supplied]
  | elided message => simp [supplied]

end StrategyDeploy.Expression

namespace StrategyDeploy.Deployment

open StrategyDeploy.Evm StrategyDeploy.Amount StrategyDeploy.Calldata StrategyDeploy.Session

variable {c : Config}

theorem Config.depositFor_eq_ok {d : Session.Deposit} {call : Calldata} :
    c.depositFor d = .ok call ↔ ∃ tk amount vault, c.depositToken d.token = .ok tk ∧
      parseUnits d.amount tk.decimals = .ok amount ∧ c.vaultIdFor? d.token = some vault ∧
      call = ⟨c.orderbook, s!"deposit {d.token}", callData (selector depositSignature)
        [.address tk.address, .uint vault, .uint amount, .array []]⟩ := by
  unfold Config.depositFor Config.amountOf Config.tokenOf
  cases htk : c.depositToken d.token with
  | error e => simp [Except.mapError, bind, Except.bind]
  | ok tk =>
    cases hamt : parseUnits d.amount tk.decimals with
    | error e => simp [hamt, Except.mapError, bind, Except.bind]
    | ok amount =>
      cases hv : c.vaultIdFor? d.token with
      | none => simp [hamt, Except.mapError, bind, Except.bind, pure, Except.pure, throw,
          throwThe, MonadExceptOf.throw]
      | some vault =>
        simp [hamt, Except.mapError, bind, Except.bind, pure, Except.pure, eq_comm]

theorem Config.forall₂_filter_depositFor {deposits : List Session.Deposit} {ds : List Calldata}
    (h : deposits.mapM c.depositFor = .ok ds) (t : String) :
    List.Forall₂ (fun d call => c.depositFor d = .ok call)
      (deposits.filter (·.token == t)) (ds.filter (·.label == s!"deposit {t}")) := by
  refine List.rel_filter (fun d call made => ?_) (List.mapM_eq_ok_iff.mp h)
  obtain ⟨tk, amount, vault, -, -, -, rfl⟩ := Config.depositFor_eq_ok.mp made
  simp only [beq_iff_eq, String.append_right_inj]
  exact Iff.rfl

end StrategyDeploy.Deployment

namespace StrategyDeploy.Session

open StrategyDeploy.Deployment StrategyDeploy.Evm StrategyDeploy.Amount StrategyDeploy.Calldata
open StrategyDeploy.Expression

section Updates

variable {st st' : Store} {b v t a : String}

theorem Store.eq_of_setField (h : st.setField b v = .ok st') :
    (∃ f, st.config.fieldSpec b = .ok f) ∧ st' = { st with state := st.state.putField b v } := by
  obtain ⟨f, hf, made⟩ := Except.bind_eq_ok.mp h
  exact ⟨⟨f, hf⟩, (Except.ok.inj made).symm⟩

theorem Store.eq_of_setDeposit (h : st.setDeposit t a = .ok st') :
    ∃ tk, st.config.depositToken t = .ok tk ∧
      st' = { st with state := st.state.putDeposit t tk.address a } := by
  obtain ⟨tk, htk, made⟩ := Except.bind_eq_ok.mp h
  exact ⟨tk, htk, (Except.ok.inj made).symm⟩

theorem Store.getField_after_setField (h : st.setField b v = .ok st') :
    st'.getField b = .ok (some v) := by
  obtain ⟨⟨f, hf⟩, rfl⟩ := Store.eq_of_setField h
  simp only [Store.getField, Except.bind_of_ok hf, State.fieldValue?_putField]
  rfl

theorem Store.resolve_after_setField (h : st.setField b v = .ok st')
    (once : (st.state.fields.filter (·.binding == b)).length ≤ 1) {sec : Section}
    (hsec : st'.config.expression.sections.find? (·.name == b) = some sec)
    (binding : sec.isCode = false) :
    st'.config.expression.resolve (st'.config.bindingsFor st'.state) b = .ok (some v) := by
  obtain ⟨-, rfl⟩ := Store.eq_of_setField h
  refine resolve_of_binding hsec binding (Bindings.get?_append_of_filter ?_)
  rw [State.filter_bindings, State.filter_putField once]
  rfl

theorem Store.depositCalls_after_setDeposit (h : st.setDeposit t a = .ok st')
    (once : (st.state.deposits.filter (·.token == t)).length ≤ 1) {ds : List Calldata}
    (made : st'.config.depositCalls st'.state = .ok ds) :
    ∃ tk amount vault, st'.config.depositToken t = .ok tk ∧
      parseUnits a tk.decimals = .ok amount ∧ st'.config.vaultIdFor? t = some vault ∧
      ds.filter (·.label == s!"deposit {t}") =
        [⟨st'.config.orderbook, s!"deposit {t}", callData (selector depositSignature)
          [.address tk.address, .uint vault, .uint amount, .array []]⟩] := by
  obtain ⟨tk, htk, rfl⟩ := Store.eq_of_setDeposit h
  obtain ⟨-, calls⟩ := (Config.depositCalls_eq_ok _ _).mp made
  have pairs := Config.forall₂_filter_depositFor calls t
  rw [State.filter_putDeposit once] at pairs
  obtain ⟨call, rest, compiled, none_left, calls_eq⟩ := List.forall₂_cons_left_iff.mp pairs
  rw [List.forall₂_nil_left_iff.mp none_left] at calls_eq
  obtain ⟨tk', amount, vault, htk', hamt, hv, rfl⟩ := Config.depositFor_eq_ok.mp compiled
  exact ⟨tk', amount, vault, htk', hamt, hv, calls_eq⟩

end Updates

/-- An update the store accepts reaches compilation when the session held its key at most once.
After `v` is set for the binding `b`, reading `b` back gives `v`; and when the session held `b`
at most once, composition puts `v` in place of the word `b` wherever the first section named
`b` is a binding. After `a` is set as the deposit of `t` on a session that held `t` at most once,
deposits that compile hold exactly one call labelled for `t`: the `deposit2` call to the
orderbook, for the token the deployment gives `t`, into its vault, of `a` in the token's
smallest unit. -/
theorem Store.accepted_update_reaches_compilation (st : Store) :
    (∀ b v st', st.setField b v = .ok st' →
      st'.getField b = .ok (some v) ∧
      ((st.state.fields.filter (·.binding == b)).length ≤ 1 →
        ∀ sec, st'.config.expression.sections.find? (·.name == b) = some sec →
          sec.isCode = false →
          st'.config.expression.resolve (st'.config.bindingsFor st'.state) b = .ok (some v))) ∧
    (∀ t a st', st.setDeposit t a = .ok st' →
      (st.state.deposits.filter (·.token == t)).length ≤ 1 →
      ∀ ds, st'.config.depositCalls st'.state = .ok ds →
        ∃ tk amount vault, st'.config.depositToken t = .ok tk ∧
          parseUnits a tk.decimals = .ok amount ∧ st'.config.vaultIdFor? t = some vault ∧
          ds.filter (·.label == s!"deposit {t}") =
            [⟨st'.config.orderbook, s!"deposit {t}", callData (selector depositSignature)
              [.address tk.address, .uint vault, .uint amount, .array []]⟩]) :=
  ⟨fun _ _ _ h => ⟨Store.getField_after_setField h,
      fun once _ hsec binding => Store.resolve_after_setField h once hsec binding⟩,
    fun _ _ _ h once _ made => Store.depositCalls_after_setDeposit h once made⟩

/-- The token `t`, of no decimals, at the zero address. -/
def unitToken : TokenInfo := ⟨"t", Address.zero, 0, none, none⟩

/-- A deployment offering the field `b`, a literal binding of its expression, and deposits of
`unitToken` into the order's output vault `1`. -/
def oneFieldOneToken : Config where
  deployment := "d"
  name := ""
  description := ""
  guiName := ""
  guiDescription := ""
  fields := [⟨"b", "", "", none, []⟩]
  deposits := [⟨"t", none, []⟩]
  fieldIndex := ⟨[("b", 0)]⟩
  depositIndex := ⟨[("t", 0)]⟩
  tokens := [unitToken]
  network := ⟨"", "", 0⟩
  orderbook := Address.zero
  deployer := Address.zero
  inputs := []
  outputs := [⟨unitToken, 1⟩]
  scenarioBindings := []
  expression := ⟨[⟨"b", .literal "0"⟩]⟩
  fingerprint := default
  fieldIndex_indexes := NameIndex.indexes_single "b"
  depositIndex_indexes := NameIndex.indexes_single "t"

theorem oneFieldOneToken_depositToken : oneFieldOneToken.depositToken "t" = .ok unitToken := by
  decide

theorem oneFieldOneToken_depositFor (address : Address) {a : String} {n : Nat}
    (whole : parseUnits a 0 = .ok n) :
    ∃ call, oneFieldOneToken.depositFor ⟨"t", address, a⟩ = .ok call :=
  ⟨_, Config.depositFor_eq_ok.mpr ⟨unitToken, n, 1,
    oneFieldOneToken_depositToken, whole,
    show oneFieldOneToken.vaultIdFor? "t" = some 1 by decide, rfl⟩⟩

/-- On a session holding `b` and `t` once, setting `b` to `5` reaches composition, and setting
the deposit of `t` to `3` compiles to one call for `t`. -/
theorem single_entry_update_reaches_compilation :
    let st : Store := ⟨oneFieldOneToken,
      { fields := [⟨"b", "1"⟩]
        deposits := [⟨"t", Address.zero, "1"⟩] }⟩
    ∃ st₁ st₂ ds, st.setField "b" "5" = .ok st₁ ∧
      st₁.config.expression.resolve (st₁.config.bindingsFor st₁.state) "b" = .ok (some "5") ∧
      st.setDeposit "t" "3" = .ok st₂ ∧ st₂.config.depositCalls st₂.state = .ok ds ∧
      (ds.filter (·.label == "deposit t")).length = 1 := by
  intro st
  have field : st.setField "b" "5" = .ok { st with state := st.state.putField "b" "5" } :=
    Store.setField_of_mem (by decide)
  have deposit :
      st.setDeposit "t" "3" = .ok { st with state := st.state.putDeposit "t" Address.zero "3" } :=
    Store.setDeposit_of_ok (show st.config.depositToken "t" = .ok unitToken from
      oneFieldOneToken_depositToken)
  obtain ⟨ds, made⟩ :
      ∃ ds, oneFieldOneToken.depositCalls (st.state.putDeposit "t" Address.zero "3") = .ok ds := by
    have updated : st.state.putDeposit "t" Address.zero "3" =
        { fields := [⟨"b", "1"⟩], deposits := [⟨"t", Address.zero, "3"⟩] } := by decide
    obtain ⟨call, compiled⟩ :=
      oneFieldOneToken_depositFor Address.zero (a := "3") (n := 3) (by decide)
    refine ⟨[call], (Config.depositCalls_eq_ok _ _).mpr ⟨by decide, ?_⟩⟩
    rw [updated]
    exact List.mapM_eq_ok_iff.mpr (.cons compiled .nil)
  have reach := Store.accepted_update_reaches_compilation st
  obtain ⟨tk, amount, vault, -, -, -, calls⟩ := reach.2 "t" "3" _ deposit (by decide) ds made
  have label : toString "deposit " ++ toString "t" = "deposit t" := by decide
  rw [label] at calls
  exact ⟨_, _, ds, field,
    (reach.1 "b" "5" _ field).2 (by decide) ⟨"b", .literal "0"⟩ (by decide) rfl,
    deposit, made, by rw [calls]; rfl⟩

/-- A restored session holding `b` and `t` twice. Setting `b` to `5` is accepted and read back,
but composition reads the later entry, `2`; setting the deposit of `t` to `3` is accepted, and
the deposits compile to two calls for `t`. -/
theorem duplicate_entry_hides_accepted_update :
    let st : Store := ⟨oneFieldOneToken,
      { fields := [⟨"b", "1"⟩, ⟨"b", "2"⟩]
        deposits := [⟨"t", Address.zero, "1"⟩, ⟨"t", Address.zero, "2"⟩] }⟩
    ∃ st₁ st₂ ds, st.setField "b" "5" = .ok st₁ ∧ st₁.getField "b" = .ok (some "5") ∧
      st₁.config.expression.resolve (st₁.config.bindingsFor st₁.state) "b" = .ok (some "2") ∧
      st.setDeposit "t" "3" = .ok st₂ ∧ st₂.config.depositCalls st₂.state = .ok ds ∧
      (ds.filter (·.label == "deposit t")).length = 2 := by
  intro st
  have field : st.setField "b" "5" = .ok { st with state := st.state.putField "b" "5" } :=
    Store.setField_of_mem (by decide)
  have deposit :
      st.setDeposit "t" "3" = .ok { st with state := st.state.putDeposit "t" Address.zero "3" } :=
    Store.setDeposit_of_ok (show st.config.depositToken "t" = .ok unitToken from
      oneFieldOneToken_depositToken)
  obtain ⟨ds, made⟩ :
      ∃ ds, oneFieldOneToken.depositCalls (st.state.putDeposit "t" Address.zero "3") = .ok ds := by
    have updated : st.state.putDeposit "t" Address.zero "3" =
        { fields := [⟨"b", "1"⟩, ⟨"b", "2"⟩]
          deposits := [⟨"t", Address.zero, "3"⟩, ⟨"t", Address.zero, "2"⟩] } := by decide
    obtain ⟨first, compiled⟩ :=
      oneFieldOneToken_depositFor Address.zero (a := "3") (n := 3) (by decide)
    obtain ⟨second, compiled'⟩ :=
      oneFieldOneToken_depositFor Address.zero (a := "2") (n := 2) (by decide)
    refine ⟨[first, second], (Config.depositCalls_eq_ok _ _).mpr ⟨by decide, ?_⟩⟩
    rw [updated]
    exact List.mapM_eq_ok_iff.mpr (.cons compiled (.cons compiled' .nil))
  have pairs := Config.forall₂_filter_depositFor ((Config.depositCalls_eq_ok _ _).mp made).2 "t"
  have label : toString "deposit " ++ toString "t" = "deposit t" := by decide
  rw [label] at pairs
  have twice :
      ((st.state.putDeposit "t" Address.zero "3").deposits.filter (·.token == "t")).length = 2 := by
    decide
  exact ⟨_, _, ds, field, Store.getField_after_setField field, by decide, deposit, made,
    pairs.length_eq ▸ twice⟩

end StrategyDeploy.Session
