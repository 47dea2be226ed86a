import StrategyDeploy.Bytes.Base64
import StrategyDeploy.Text.Blank
import StrategyDeploy.Proofs.Bytes.Layout

/-! Base64 reads back what it writes. -/
namespace StrategyDeploy.Bytes

open StrategyDeploy.Text

theorem base64Char_table :
    ∀ v : Fin 64, base64Value? (base64Char v) = some v.val ∧ isBlank (base64Char v) = false := by
  decide

theorem base64Value?_base64Char {v : Nat} (h : v < 64) : base64Value? (base64Char v) = some v :=
  (base64Char_table ⟨v, h⟩).1

theorem isBlank_base64Char (v : Nat) : isBlank (base64Char v) = false := by
  by_cases h : v < 64
  · exact (base64Char_table ⟨v, h⟩).2
  · have last : base64Char v = '_' := by
      simp only [base64Char]
      rw [if_neg (by omega), if_neg (by omega), if_neg (by omega), if_neg (by omega)]
    rw [last]
    decide

theorem isBlank_of_mem_base64Chars {bs : List UInt8} {c : Char} (h : c ∈ base64Chars bs) :
    isBlank c = false := by
  fun_induction base64Chars bs with
  | case1 => cases h
  | case2 =>
      simp only [List.mem_cons, List.not_mem_nil, or_false] at h
      rcases h with h | h <;> simp only [h, isBlank_base64Char]
  | case3 =>
      simp only [List.mem_cons, List.not_mem_nil, or_false] at h
      rcases h with h | h | h <;> simp only [h, isBlank_base64Char]
  | case4 _ _ _ _ _ ih =>
      simp only [List.mem_cons] at h
      rcases h with h | h | h | h | later
      any_goals simp only [h, isBlank_base64Char]
      exact ih later

theorem trimChars_of_forall {cs : List Char} (h : ∀ c ∈ cs, isBlank c = false) :
    trimChars cs = cs := by
  have keep : ∀ ds : List Char, (∀ c ∈ ds, isBlank c = false) → ds.dropWhile isBlank = ds := by
    intro ds hds
    cases ds with
    | nil => rfl
    | cons d ds => exact List.dropWhile_cons_of_neg (by simp [hds d List.mem_cons_self])
  unfold trimChars
  rw [keep cs h, keep cs.reverse (fun c hc => h c (List.mem_reverse.mp hc)), List.reverse_reverse]

theorem trim_encodeBase64 (bytes : ByteArray) : trim (encodeBase64 bytes) = encodeBase64 bytes := by
  unfold trim encodeBase64
  rw [String.toList_ofList, trimChars_of_forall (fun c hc => isBlank_of_mem_base64Chars hc)]

theorem mapM_base64Value?_map {vs : List Nat} (h : ∀ v ∈ vs, v < 64) :
    (vs.map base64Char).mapM base64Value? = some vs := by
  induction vs with
  | nil => rfl
  | cons v vs ih =>
      obtain ⟨hv, rest⟩ := List.forall_mem_cons.mp h
      simp [List.mapM_cons, base64Value?_base64Char hv, ih rest]

theorem base64Bytes_base64Chars :
    ∀ bs : List UInt8, ((base64Chars bs).mapM base64Value?).bind base64Bytes = some bs
  | [] => rfl
  | [a] => by
      have ha := a.toNat_lt
      have chars : base64Chars [a] = [a.toNat * 16 / 64, a.toNat * 16 % 64].map base64Char := rfl
      rw [chars, mapM_base64Value?_map (by simp; omega), Option.bind_some]
      simp only [base64Bytes]
      rw [if_pos (by omega)]
      simp only [Option.some.injEq, List.cons.injEq, and_true]
      apply UInt8.toNat_inj.mp
      simp
      omega
  | [a, b] => by
      have ha := a.toNat_lt
      have hb := b.toNat_lt
      have chars : base64Chars [a, b] = [(a.toNat * 256 + b.toNat) * 4 / 4096,
          (a.toNat * 256 + b.toNat) * 4 / 64 % 64, (a.toNat * 256 + b.toNat) * 4 % 64].map
          base64Char := rfl
      rw [chars, mapM_base64Value?_map (by simp; omega), Option.bind_some]
      simp only [base64Bytes]
      rw [if_pos (by omega)]
      simp only [Option.some.injEq, List.cons.injEq, and_true]
      constructor <;> apply UInt8.toNat_inj.mp <;> simp <;> omega
  | a :: b :: c :: rest => by
      have ha := a.toNat_lt
      have hb := b.toNat_lt
      have hc := c.toNat_lt
      have chars : base64Chars (a :: b :: c :: rest) =
          [((a.toNat * 256 + b.toNat) * 256 + c.toNat) / 262144,
            ((a.toNat * 256 + b.toNat) * 256 + c.toNat) / 4096 % 64,
            ((a.toNat * 256 + b.toNat) * 256 + c.toNat) / 64 % 64,
            ((a.toNat * 256 + b.toNat) * 256 + c.toNat) % 64].map base64Char ++
          base64Chars rest := rfl
      obtain ⟨values, hvalues, hrest⟩ := Option.bind_eq_some_iff.mp (base64Bytes_base64Chars rest)
      rw [chars, List.mapM_append, mapM_base64Value?_map (by simp; omega), hvalues]
      simp only [bind, Option.bind, pure, List.cons_append, List.nil_append, base64Bytes, hrest,
        Option.map_some, Option.some.injEq, List.cons.injEq, and_true]
      refine ⟨?_, ?_, ?_⟩ <;> apply UInt8.toNat_inj.mp <;> simp <;> omega

theorem decodeBase64?_encodeBase64 (bytes : ByteArray) :
    decodeBase64? (encodeBase64 bytes) = some bytes := by
  obtain ⟨values, hvalues, hbytes⟩ :=
    Option.bind_eq_some_iff.mp (base64Bytes_base64Chars bytes.toList)
  unfold decodeBase64? encodeBase64
  rw [String.toList_ofList, hvalues]
  simp [hbytes]

end StrategyDeploy.Bytes
