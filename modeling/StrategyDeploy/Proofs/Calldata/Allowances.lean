import StrategyDeploy.Proofs.Calldata.Reads
import StrategyDeploy.Proofs.Calldata.AcceptedUpdates

/-! Allowance reads. -/
namespace StrategyDeploy.Calldata

open StrategyDeploy.Reader StrategyDeploy.Evm StrategyDeploy.Deployment

/-- What reading one token's allowance gives, once the read is made. -/
def allowanceRead (r : Reader) (spender owner token : Address) : Except CalldataError Allowance :=
  allowanceOf token (r.answer (allowanceCall spender owner token))

theorem allowanceOf_eq_error_iff {token : Address} {answer : Except RpcError (List UInt8)}
    {e : CalldataError} :
    allowanceOf token answer = .error e ↔
      (∃ source, answer = .error source ∧ e = .allowanceQueryFailed token source) ∨
        ∃ data, answer = .ok data ∧ decodeUintReturn data = none ∧
          e = .allowanceQueryFailed token (.decode (.abi data)) := by
  cases answer with
  | error source => simp [allowanceOf, eq_comm]
  | ok data =>
    cases hd : decodeUintReturn data <;> simp [allowanceOf, hd, eq_comm]

variable {α β : Type}

section Batches

variable {r : Reader} {g : α → Compile β} {f : α → Except CalldataError β} {call : α → Call}

theorem Compile.run_mapM_of_forall_ok
    (hg : ∀ x log, (g x).run.run log = (f x, log ++ delivered r [call x]))
    {xs : List α} {ys : List β} (h : List.Forall₂ (fun x y => f x = .ok y) xs ys) (log : List Call) :
    (xs.mapM g).run.run log = (.ok ys, log ++ delivered r (xs.map call)) := by
  induction h generalizing log with
  | nil => simp [delivered]; rfl
  | @cons x y xs ys hx _ ih =>
    rw [List.mapM_cons, Compile.run_bind, hg, hx]
    dsimp only
    rw [Compile.run_bind, ih]
    by_cases d : r.delivers <;> simp [delivered, d] <;> rfl

theorem Compile.run_mapM_of_first_error
    (hg : ∀ x log, (g x).run.run log = (f x, log ++ delivered r [call x]))
    {pre post : List α} {x : α} {e : CalldataError} (before : ∀ y ∈ pre, ∃ b, f y = .ok b)
    (failed : f x = .error e) (log : List Call) :
    ((pre ++ x :: post).mapM g).run.run log = (.error e, log ++ delivered r ((pre ++ [x]).map call)) := by
  induction pre generalizing log with
  | nil =>
    rw [List.nil_append, List.mapM_cons, Compile.run_bind, hg, failed]
    rfl
  | cons y pre ih =>
    obtain ⟨b, hy⟩ := before y List.mem_cons_self
    rw [List.cons_append, List.mapM_cons, Compile.run_bind, hg, hy]
    dsimp only
    rw [Compile.run_bind, ih (fun z hz => before z (List.mem_cons_of_mem y hz))]
    by_cases d : r.delivers <;> simp [delivered, d]

theorem Compile.run_mapM_result
    (hg : ∀ x log, (g x).run.run log = (f x, log ++ delivered r [call x]))
    (xs : List α) (log : List Call) : ((xs.mapM g).run.run log).1 = xs.mapM f := by
  cases h : xs.mapM f with
  | ok ys => rw [Compile.run_mapM_of_forall_ok hg (List.mapM_eq_ok_iff.mp h)]
  | error e =>
    obtain ⟨pre, x, post, rfl, before, failed⟩ := List.mapM_eq_error_iff.mp h
    rw [Compile.run_mapM_of_first_error hg before failed]

theorem Compile.run_mapM_eq_ok_iff
    (hg : ∀ x log, (g x).run.run log = (f x, log ++ delivered r [call x]))
    {xs : List α} {ys : List β} {log log' : List Call} :
    (xs.mapM g).run.run log = (.ok ys, log') ↔
      List.Forall₂ (fun x y => f x = .ok y) xs ys ∧ log' = log ++ delivered r (xs.map call) := by
  constructor
  · intro h
    have result := Compile.run_mapM_result hg xs log
    rw [h] at result
    have each := List.mapM_eq_ok_iff.mp result.symm
    rw [Compile.run_mapM_of_forall_ok hg each] at h
    exact ⟨each, (Prod.mk.inj h).2.symm⟩
  · rintro ⟨each, rfl⟩
    exact Compile.run_mapM_of_forall_ok hg each log

theorem Compile.run_mapM_error
    (hg : ∀ x log, (g x).run.run log = (f x, log ++ delivered r [call x]))
    {xs : List α} {e : CalldataError} {log log' : List Call}
    (h : (xs.mapM g).run.run log = (.error e, log')) : ∃ x ∈ xs, f x = .error e := by
  have result := Compile.run_mapM_result hg xs log
  rw [h] at result
  exact List.exists_mem_of_mapM_eq_error result.symm

end Batches

section Join

variable {arrival : Call → Nat} {results : List (Call × Except CalldataError α)}

theorem joinArrived_eq_ok_iff {vs : List α} :
    joinArrived arrival results = .ok vs ↔ List.Forall₂ (fun x v => x.2 = .ok v) results vs := by
  unfold joinArrived
  rw [← List.mapM_eq_ok_iff]
  split
  · rw [Except.bind_eq_ok]
    constructor
    · rintro ⟨_, _, joined⟩
      exact joined
    · intro joined
      have arrived : ∀ x ∈ results.mergeSort (fun a b => arrival a.1 ≤ arrival b.1),
          ∃ v, x.2 = .ok v :=
        fun x hx => List.ok_of_mapM_eq_ok joined x (List.mem_mergeSort.mp hx)
      obtain ⟨_, sorted⟩ := List.exists_mapM_eq_ok arrived
      exact ⟨_, sorted, joined⟩
  · exact Iff.rfl

theorem joinArrived_error {e : CalldataError} (h : joinArrived arrival results = .error e) :
    ∃ x ∈ results, x.2 = .error e := by
  unfold joinArrived at h
  split at h
  · cases sorted : (results.mergeSort fun a b => arrival a.1 ≤ arrival b.1).mapM (·.2) with
    | error e' =>
      rw [Except.bind_of_error sorted] at h
      cases h
      obtain ⟨x, hx, failed⟩ := List.exists_mem_of_mapM_eq_error sorted
      exact ⟨x, List.mem_mergeSort.mp hx, failed⟩
    | ok _ =>
      rw [Except.bind_of_ok sorted] at h
      exact List.exists_mem_of_mapM_eq_error h
  · exact List.exists_mem_of_mapM_eq_error h

theorem joinArrived_of_large (large : pollLimit < results.length) :
    joinArrived arrival results = results.mapM (·.2) := by
  unfold joinArrived
  rw [if_neg (Nat.not_le.mpr large)]

end Join

section Reads

variable {r : Reader} {spender owner : Address} {tokens : List Address} {log : List Call}

theorem readAllowance_run (r : Reader) (spender owner token : Address) (log : List Call) :
    (readAllowance r spender owner token).run.run log =
      (allowanceRead r spender owner token, log ++ delivered r [allowanceCall spender owner token]) := by
  unfold readAllowance
  rw [Compile.run_call_bind, Compile.run_lift]
  rfl

theorem callTogether_run (r : Reader) (calls : List Call) (log : List Call) :
    (r.callTogether calls).run log = (calls.map r.answer, log ++ delivered r calls) := by
  unfold Reader.callTogether delivered
  cases r.delivers
  · simp
    rfl
  · rfl

theorem readAllowances_of_now (now : r.atOnce = true) :
    readAllowances r spender owner tokens = tokens.mapM (readAllowance r spender owner) := by
  unfold readAllowances
  rw [if_pos now]

theorem readAllowances_run_of_later (later : r.atOnce = false) :
    (readAllowances r spender owner tokens).run.run log =
      (joinArrived r.arrival (tokens.map fun t => (allowanceCall spender owner t,
        allowanceRead r spender owner t)),
        log ++ delivered r (tokens.map (allowanceCall spender owner))) := by
  unfold readAllowances
  rw [later, if_neg Bool.false_ne_true, Compile.run_liftM_bind, callTogether_run, Compile.run_lift]
  simp [allowanceRead, List.zipWith_map_right, List.zipWith_self, List.zip_map']

theorem readAllowances_run_ok_iff {as : List Allowance} {log' : List Call} :
    (readAllowances r spender owner tokens).run.run log = (.ok as, log') ↔
      List.Forall₂ (fun t a => allowanceRead r spender owner t = .ok a) tokens as ∧
        log' = log ++ delivered r (tokens.map (allowanceCall spender owner)) := by
  cases timing : r.atOnce with
  | true =>
    rw [readAllowances_of_now timing]
    exact Compile.run_mapM_eq_ok_iff (readAllowance_run r spender owner)
  | false =>
    rw [readAllowances_run_of_later timing, Prod.mk.injEq, joinArrived_eq_ok_iff,
      List.forall₂_map_left_iff, eq_comm (b := log')]

theorem readAllowances_run_error {e : CalldataError} {log' : List Call}
    (h : (readAllowances r spender owner tokens).run.run log = (.error e, log')) :
    ∃ t ∈ tokens, allowanceRead r spender owner t = .error e := by
  cases timing : r.atOnce with
  | true =>
    rw [readAllowances_of_now timing] at h
    exact Compile.run_mapM_error (readAllowance_run r spender owner) h
  | false =>
    rw [readAllowances_run_of_later timing, Prod.mk.injEq] at h
    obtain ⟨x, hx, failed⟩ := joinArrived_error h.1
    obtain ⟨t, ht, rfl⟩ := List.mem_map.mp hx
    exact ⟨t, ht, failed⟩

theorem readAllowances_run_of_first_error (now : r.atOnce = true) {pre post : List Address}
    {t : Address} {e : CalldataError} (before : ∀ t' ∈ pre, ∃ a, allowanceRead r spender owner t' = .ok a)
    (failed : allowanceRead r spender owner t = .error e) :
    (readAllowances r spender owner (pre ++ t :: post)).run.run log =
      (.error e, log ++ delivered r ((pre ++ [t]).map (allowanceCall spender owner))) := by
  rw [readAllowances_of_now now]
  exact Compile.run_mapM_of_first_error (readAllowance_run r spender owner) before failed log

end Reads

end StrategyDeploy.Calldata

namespace StrategyDeploy.Deployment

open StrategyDeploy.Reader StrategyDeploy.Evm StrategyDeploy.Calldata StrategyDeploy.Session

variable {c : Config}

theorem Config.depositToken_error {t : String} {e : BindingError} (h : c.depositToken t = .error e) :
    e = .unknownDepositToken t := by
  unfold Config.depositToken Config.depositSpec at h
  split at h
  · simp only [Except.ok_bind] at h
    split at h
    · cases h
    · cases h
      rfl
  · cases h
    rfl

theorem Config.depositAddresses_of_forall₂ {ds : List Deposit} {tks : List TokenInfo}
    (found : List.Forall₂ (fun d tk => c.depositToken d.token = .ok tk) ds tks) :
    ds.mapM (fun d => (c.tokenOf d).map (·.address)) = .ok (tks.map (·.address)) := by
  rw [List.mapM_eq_ok_iff, List.forall₂_map_right_iff]
  refine found.imp fun d tk h => ?_
  simp [Config.tokenOf, h, Except.mapError, Except.map]

theorem Config.depositAddresses_of_first_unknown {pre post : List Deposit} {d : Deposit}
    (before : ∀ d' ∈ pre, ∃ tk, c.depositToken d'.token = .ok tk)
    (unknown : ∀ tk, c.depositToken d.token ≠ .ok tk) :
    (pre ++ d :: post).mapM (fun d => (c.tokenOf d).map (·.address)) =
      .error (.binding (.unknownDepositToken d.token)) := by
  obtain ⟨e, missing⟩ := Except.exists_error_of_ne_ok unknown
  refine List.mapM_eq_error_iff.mpr ⟨pre, d, post, rfl, fun d' hd' => ?_, ?_⟩
  · obtain ⟨tk, h⟩ := before d' hd'
    exact ⟨tk.address, by simp [Config.tokenOf, h, Except.mapError, Except.map]⟩
  · rw [← Config.depositToken_error missing]
    simp [Config.tokenOf, missing, Except.mapError, Except.map]

theorem Config.readDepositAllowances_run (c : Config) (r : Reader) (s : State) (owner : Address)
    (log : List Call) :
    (c.readDepositAllowances r s owner).run.run log =
      match s.deposits.mapM fun d => (c.tokenOf d).map (·.address) with
      | .ok tokens => (readAllowances r c.orderbook owner tokens).run.run log
      | .error e => (.error e, log) := by
  unfold Config.readDepositAllowances
  rw [Compile.run_bind, Compile.run_lift]
  cases s.deposits.mapM fun d => (c.tokenOf d).map (·.address) <;> rfl

/-- The deposits' allowances are read one per deposit, from its token's contract, once every
deposit's token is found; the reads are joined in store order, and with answers there at once they
stop at the first one that fails. -/
theorem Config.deposit_allowances_join_in_store_order (c : Config) (r : Reader) (s : State)
    (owner : Address) (log : List Call) :
    (∀ pre d post, s.deposits = pre ++ d :: post →
      (∀ d' ∈ pre, ∃ tk, c.depositToken d'.token = .ok tk) → (∀ tk, c.depositToken d.token ≠ .ok tk) →
      (c.readDepositAllowances r s owner).run.run log =
        (.error (.binding (.unknownDepositToken d.token)), log)) ∧
    ∀ tks, List.Forall₂ (fun d tk => c.depositToken d.token = .ok tk) s.deposits tks →
      (∀ as log', (c.readDepositAllowances r s owner).run.run log = (.ok as, log') ↔
        List.Forall₂ (fun tk a => allowanceRead r c.orderbook owner tk.address = .ok a) tks as ∧
          log' = log ++ delivered r (tks.map fun tk => allowanceCall c.orderbook owner tk.address)) ∧
      (∀ e log', (c.readDepositAllowances r s owner).run.run log = (.error e, log') →
        ∃ tk ∈ tks, allowanceRead r c.orderbook owner tk.address = .error e ∧
          ∃ source, e = .allowanceQueryFailed tk.address source) ∧
      (r.atOnce = true → ∀ pre tk post e, tks = pre ++ tk :: post →
        (∀ tk' ∈ pre, ∃ a, allowanceRead r c.orderbook owner tk'.address = .ok a) →
        allowanceRead r c.orderbook owner tk.address = .error e →
        (c.readDepositAllowances r s owner).run.run log =
          (.error e, log ++ delivered r ((pre ++ [tk]).map fun tk =>
            allowanceCall c.orderbook owner tk.address))) ∧
      (r.atOnce = false → ((c.readDepositAllowances r s owner).run.run log).2 =
        log ++ delivered r (tks.map fun tk => allowanceCall c.orderbook owner tk.address)) := by
  refine ⟨fun pre d post split before unknown => ?_, fun tks found => ?_⟩
  · rw [Config.readDepositAllowances_run, split, Config.depositAddresses_of_first_unknown before unknown]
  rw [Config.readDepositAllowances_run, Config.depositAddresses_of_forall₂ found]
  dsimp only
  refine ⟨fun as log' => ?_, fun e log' h => ?_, fun now pre tk post e split before failed => ?_,
    fun later => ?_⟩
  · rw [readAllowances_run_ok_iff, List.forall₂_map_left_iff, List.map_map]
    rfl
  · obtain ⟨t, ht, failed⟩ := readAllowances_run_error h
    obtain ⟨tk, htk, rfl⟩ := List.mem_map.mp ht
    obtain ⟨source, -, named⟩ | ⟨_, -, -, named⟩ := allowanceOf_eq_error_iff.mp failed
    · exact ⟨tk, htk, failed, source, named⟩
    · exact ⟨tk, htk, failed, _, named⟩
  · have before' : ∀ t ∈ pre.map (·.address), ∃ a, allowanceRead r c.orderbook owner t = .ok a := by
      simpa using before
    rw [split, List.map_append, List.map_cons, readAllowances_run_of_first_error now before' failed]
    simp only [List.map_append, List.map_map, List.map_cons, List.map_nil]
    rfl
  · rw [readAllowances_run_of_later later]
    simp only [List.map_map]
    rfl

/-- A node that answers every call at once with the word `7`. -/
def sevenNode : Reader where
  answer _ := .ok (numberWord 7)
  delivers := true

/-- On `oneFieldOneToken`, the allowance for a deposit of `t` is read once, from the token's
contract; a deposit of a token the deployment does not offer fails before any read. -/
theorem unit_deposit_allowance_read :
    (oneFieldOneToken.readDepositAllowances sevenNode { deposits := [⟨"t", Address.zero, "3"⟩] }
        Address.zero).run.run [] =
      (.ok [⟨Address.zero, 7⟩], [allowanceCall oneFieldOneToken.orderbook Address.zero Address.zero]) ∧
    (oneFieldOneToken.readDepositAllowances sevenNode { deposits := [⟨"u", Address.zero, "3"⟩] }
        Address.zero).run.run [] = (.error (.binding (.unknownDepositToken "u")), []) := by
  have unknown : oneFieldOneToken.depositToken "u" = .error (.unknownDepositToken "u") := by decide
  have decoded : decodeUintReturn (numberWord 7) = some 7 := by decide
  have read : allowanceRead sevenNode oneFieldOneToken.orderbook Address.zero Address.zero =
      .ok ⟨Address.zero, 7⟩ := by
    simp only [allowanceRead, allowanceOf, sevenNode, decoded]
  refine ⟨?_, ?_⟩
  · have joined := (Config.deposit_allowances_join_in_store_order oneFieldOneToken sevenNode
      { deposits := [⟨"t", Address.zero, "3"⟩] } Address.zero []).2 [Session.unitToken]
      (.cons oneFieldOneToken_depositToken .nil)
    exact (joined.1 _ _).mpr ⟨.cons read .nil, by simp [delivered, sevenNode, Session.unitToken]⟩
  · exact (Config.deposit_allowances_join_in_store_order oneFieldOneToken sevenNode
      { deposits := [⟨"u", Address.zero, "3"⟩] } Address.zero []).1 [] _ [] rfl (by simp)
      fun tk found => by rw [unknown] at found; cases found

end StrategyDeploy.Deployment
