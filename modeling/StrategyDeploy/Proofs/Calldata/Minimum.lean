import StrategyDeploy.Calldata.Minimum
import StrategyDeploy.Proofs.Amount.Decimal
import StrategyDeploy.Proofs.Except
import Mathlib.Data.String.Basic
import Mathlib.Control.Monad.Basic
import Mathlib.Tactic.NormNum

/-! Field minimums between plain decimals. -/
namespace StrategyDeploy.Calldata

open StrategyDeploy.Amount StrategyDeploy.Text StrategyDeploy.Deployment StrategyDeploy.Session

deriving instance DecidableEq for CalldataError

variable {id min value : String}

section Scaled

theorem utf8Len_of_all_isDigit {cs : List Char} (h : cs.all isDigit = true) :
    String.utf8Len cs = cs.length := by
  induction cs with
  | nil => rfl
  | cons c cs ih =>
    simp only [List.all_cons, Bool.and_eq_true] at h
    have one : c.utf8Size = 1 := by
      rw [Char.utf8Size_eq_one_iff, UInt32.le_iff_toNat_le]
      have := (isDigit_iff.mp h.1).2
      change c.toNat ≤ 127
      omega
    rw [String.utf8Len_cons, ih h.2, one, List.length_cons]

theorem fractionLength_of_form {raw : String} {w f : List Char}
    (h : DecimalForm (trim raw).toList w f) : fractionLength raw = f.length := by
  obtain ⟨rest, span, shape⟩ := h.span_point
  unfold fractionLength
  rw [span]
  rcases shape with ⟨rfl, rfl⟩ | rfl
  · rfl
  · simp only
    rw [String.utf8ByteSize_ofList, utf8Len_of_all_isDigit h.2.1]

theorem parseUnits_of_form_le {a : String} {w f : List Char} (h : DecimalForm (trim a).toList w f)
    {s : Nat} (hs : f.length ≤ s) :
    ∃ n : Nat, decimalWorth w f * 10 ^ s = n ∧
      parseUnits a s = if n < 2 ^ 256 then .ok n else .error (.overflow a s) := by
  rcases scaledWorth_cases h.2.1 (w := w) s with ⟨-, worth⟩ | ⟨long, -⟩
  · exact ⟨_, worth, parseUnits_of_whole h worth⟩
  · have := length_dropTrailingZeros_le f
    omega

theorem exactBelow_of_forms (id : String) {wv fv wm fm : List Char}
    (hv : DecimalForm (trim value).toList wv fv) (hm : DecimalForm (trim min).toList wm fm) :
    ∃ nv nm : Nat, decimalWorth wv fv * 10 ^ max fv.length fm.length = nv ∧
      decimalWorth wm fm * 10 ^ max fv.length fm.length = nm ∧
      exactBelow id min value =
        if 255 < max fv.length fm.length then .error (.notNumeric id value)
        else if 2 ^ 256 ≤ nv then .error (.notNumeric id value)
        else if 2 ^ 256 ≤ nm then .error (.notNumeric id min)
        else .ok (decide (nv < nm)) := by
  obtain ⟨nv, hnv, parsedValue⟩ := parseUnits_of_form_le hv (le_max_left fv.length fm.length)
  obtain ⟨nm, hnm, parsedMin⟩ := parseUnits_of_form_le hm (le_max_right fv.length fm.length)
  refine ⟨nv, nm, hnv, hnm, ?_⟩
  simp only [exactBelow, fractionLength_of_form hv, fractionLength_of_form hm, maxCompareScale]
  by_cases wide : 255 < max fv.length fm.length
  · rw [if_pos wide, if_pos wide]
    rfl
  rw [if_neg wide, if_neg wide]
  by_cases bigValue : 2 ^ 256 ≤ nv
  · rw [if_pos bigValue, parsedValue, if_neg (Nat.not_lt.mpr bigValue)]
    rfl
  rw [if_neg bigValue, parsedValue, if_pos (Nat.lt_of_not_le bigValue)]
  by_cases bigMin : 2 ^ 256 ≤ nm
  · rw [if_pos bigMin, parsedMin, if_neg (Nat.not_lt.mpr bigMin)]
    rfl
  · rw [if_neg bigMin, parsedMin, if_pos (Nat.lt_of_not_le bigMin)]
    rfl

end Scaled

section Check

theorem checkMinimum_of_isBelow {b : Bool} (h : isBelow id min value = .ok b) :
    checkMinimum id min value = if b then .error (.belowMinimum id min value) else .ok () := by
  unfold checkMinimum
  rw [h]
  cases b <;> rfl

theorem checkMinimum_of_isBelow_error {e : CalldataError} (h : isBelow id min value = .error e) :
    checkMinimum id min value = .error e := by
  unfold checkMinimum
  rw [h]
  rfl

theorem checkMinimum_exact {q p : ℚ} (h : isBelow id min value = .ok (decide (q < p))) :
    (checkMinimum id min value = .ok () ↔ p ≤ q) ∧
      (checkMinimum id min value = .error (.belowMinimum id min value) ↔ q < p) := by
  rw [checkMinimum_of_isBelow h]
  by_cases below : q < p
  · simp [below]
  · simp [below, not_lt.mp below]

theorem isBelow_of_parse {dv dm : Decimal} (hv : Decimal.parse? (trim value) = some dv)
    (hm : Decimal.parse? (trim min) = some dm) : isBelow id min value = .ok (dv.lt dm) := by
  simp [isBelow, hv, hm]

theorem isBelow_of_not_parse (id : String)
    (h : Decimal.parse? (trim value) = none ∨ Decimal.parse? (trim min) = none) :
    isBelow id min value = exactBelow id min value := by
  unfold isBelow
  rcases h with h | h
  · rw [h]
  · rw [h]
    cases Decimal.parse? (trim value) <;> rfl

theorem checkMinimums_single_field (c : Config) {spec : FieldSpec}
    (hspec : c.fieldSpec id = .ok spec) (hmin : spec.min = some min) :
    c.checkMinimums { fields := [⟨id, value⟩] } = checkMinimum id min value := by
  simp [Config.checkMinimums, Config.checkField, hspec, Except.mapError, hmin]

theorem checkMinimum_of_exact_reads {wv fv wm fm : List Char}
    (hv : DecimalForm (trim value).toList wv fv) (hm : DecimalForm (trim min).toList wm fm)
    (fitsV : fv.length ≤ 28) (smallV : digitsValue (wv ++ fv) < 2 ^ 96)
    (fitsM : fm.length ≤ 28) (smallM : digitsValue (wm ++ fm) < 2 ^ 96) :
    (checkMinimum id min value = .ok () ↔ decimalWorth wm fm ≤ decimalWorth wv fv) ∧
      (checkMinimum id min value = .error (.belowMinimum id min value) ↔
        decimalWorth wv fv < decimalWorth wm fm) := by
  have below : isBelow id min value = .ok _ :=
    isBelow_of_parse (Decimal.parse?_plain hv fitsV smallV) (Decimal.parse?_plain hm fitsM smallM)
  rw [show Decimal.lt _ _ = decide (decimalWorth wv fv < decimalWorth wm fm) by
    rw [Bool.eq_iff_iff, Decimal.lt_iff, Decimal.value_mk_of_form, Decimal.value_mk_of_form,
      decide_eq_true_iff]] at below
  exact checkMinimum_exact below

theorem checkMinimum_of_reads (readV : (Decimal.parse? (trim value)).isSome)
    (readM : (Decimal.parse? (trim min)).isSome) :
    checkMinimum id min value = .ok () ∨
      checkMinimum id min value = .error (.belowMinimum id min value) := by
  obtain ⟨dv, hdv⟩ := Option.isSome_iff_exists.mp readV
  obtain ⟨dm, hdm⟩ := Option.isSome_iff_exists.mp readM
  rw [checkMinimum_of_isBelow (isBelow_of_parse hdv hdm)]
  cases dv.lt dm <;> simp

theorem checkMinimum_of_scaled {q p : ℚ} {s nv nm : Nat} (hq : q * 10 ^ s = nv)
    (hp : p * 10 ^ s = nm) (slow : isBelow id min value = .ok (decide (nv < nm))) :
    (checkMinimum id min value = .ok () ↔ p ≤ q) ∧
      (checkMinimum id min value = .error (.belowMinimum id min value) ↔ q < p) := by
  have order : nv < nm ↔ q < p := by
    rw [← Nat.cast_lt (α := ℚ), ← hq, ← hp]
    exact mul_lt_mul_iff_of_pos_right (pow_pos (by norm_num) _)
  exact checkMinimum_exact (slow.trans (by simp [order]))

theorem checkMinimum_of_unscaled {s nv nm : Nat}
    (slow : isBelow id min value =
      if 255 < s then .error (.notNumeric id value)
      else if 2 ^ 256 ≤ nv then .error (.notNumeric id value)
      else if 2 ^ 256 ≤ nm then .error (.notNumeric id min)
      else .ok (decide (nv < nm)))
    (out : ¬(s ≤ 255 ∧ nv < 2 ^ 256 ∧ nm < 2 ^ 256)) :
    checkMinimum id min value =
      .error (.notNumeric id (if 255 < s ∨ 2 ^ 256 ≤ nv then value else min)) := by
  apply checkMinimum_of_isBelow_error
  rw [slow]
  by_cases wide : 255 < s
  · rw [if_pos wide, if_pos (Or.inl wide)]
  by_cases bigValue : 2 ^ 256 ≤ nv
  · rw [if_neg wide, if_pos bigValue, if_pos (Or.inr bigValue)]
  have bigMin : 2 ^ 256 ≤ nm := by omega
  rw [if_neg wide, if_neg bigValue, if_pos bigMin, if_neg (by omega)]

/-- How a field value and its minimum compare when both are plain decimals, worth `q` and `p`.
Read as 96-bit decimals without rounding (at most 28 fraction digits, and digits below `2 ^ 96`
as one integer), the check passes exactly when `p ≤ q` and fails below the minimum exactly when
`q < p`. Whenever both read as 96-bit decimals it does one or the other. When either does not,
both are scaled by `10 ^ s` for the longer fraction length `s`: the check is again exact while
`s ≤ 255` and both scaled worths are below `2 ^ 256`, and otherwise reports the value, or else
the minimum, as not a number. A session whose field has that minimum is checked the same way. -/
theorem checkMinimum_compares_plain_decimals {wv fv wm fm : List Char}
    (hv : DecimalForm (trim value).toList wv fv) (hm : DecimalForm (trim min).toList wm fm) :
    (fv.length ≤ 28 → digitsValue (wv ++ fv) < 2 ^ 96 →
      fm.length ≤ 28 → digitsValue (wm ++ fm) < 2 ^ 96 →
      (checkMinimum id min value = .ok () ↔ decimalWorth wm fm ≤ decimalWorth wv fv) ∧
      (checkMinimum id min value = .error (.belowMinimum id min value) ↔
        decimalWorth wv fv < decimalWorth wm fm)) ∧
    ((Decimal.parse? (trim value)).isSome → (Decimal.parse? (trim min)).isSome →
      checkMinimum id min value = .ok () ∨
        checkMinimum id min value = .error (.belowMinimum id min value)) ∧
    (Decimal.parse? (trim value) = none ∨ Decimal.parse? (trim min) = none →
      if max fv.length fm.length ≤ 255 ∧
          decimalWorth wv fv * 10 ^ max fv.length fm.length < 2 ^ 256 ∧
          decimalWorth wm fm * 10 ^ max fv.length fm.length < 2 ^ 256 then
        (checkMinimum id min value = .ok () ↔ decimalWorth wm fm ≤ decimalWorth wv fv) ∧
        (checkMinimum id min value = .error (.belowMinimum id min value) ↔
          decimalWorth wv fv < decimalWorth wm fm)
      else checkMinimum id min value = .error (.notNumeric id
        (if 255 < max fv.length fm.length ∨
          2 ^ 256 ≤ decimalWorth wv fv * 10 ^ max fv.length fm.length then value else min))) ∧
    (∀ (c : Config) (spec : FieldSpec), c.fieldSpec id = .ok spec → spec.min = some min →
      c.checkMinimums { fields := [⟨id, value⟩] } = checkMinimum id min value) := by
  refine ⟨checkMinimum_of_exact_reads hv hm, checkMinimum_of_reads, fun unread => ?_,
    fun c spec hspec hmin => checkMinimums_single_field c hspec hmin⟩
  obtain ⟨nv, nm, hnv, hnm, scaled⟩ := exactBelow_of_forms id hv hm
  have slow := (isBelow_of_not_parse id unread).trans scaled
  have castV : (2 : ℚ) ^ 256 ≤ nv ↔ 2 ^ 256 ≤ nv := by exact_mod_cast Iff.rfl
  rw [hnv, hnm]
  by_cases fits : max fv.length fm.length ≤ 255 ∧ nv < 2 ^ 256 ∧ nm < 2 ^ 256
  · obtain ⟨narrow, smallV, smallM⟩ := fits
    rw [if_pos ⟨narrow, by exact_mod_cast smallV, by exact_mod_cast smallM⟩]
    rw [if_neg (by omega), if_neg (by omega), if_neg (by omega)] at slow
    exact checkMinimum_of_scaled hnv hnm slow
  · rw [if_neg (fun inside => fits (by exact_mod_cast inside)), checkMinimum_of_unscaled slow fits]
    simp only [castV]

/-- `2.5` meets the minimum `1`: both read as 96-bit decimals without rounding. -/
theorem fractional_value_meets_whole_minimum :
    DecimalForm (trim "2.5").toList ['2'] ['5'] ∧ DecimalForm (trim "1").toList ['1'] [] ∧
      checkMinimum "x" "1" "2.5" = .ok () := by
  have hv : DecimalForm (trim "2.5").toList ['2'] ['5'] := by decide
  have hm : DecimalForm (trim "1").toList ['1'] [] := by decide
  have above : decimalWorth ['1'] [] ≤ decimalWorth ['2'] ['5'] := by
    have one : digitsValue ['1'] = 1 := by decide
    have two : digitsValue ['2'] = 2 := by decide
    have five : digitsValue ['5'] = 5 := by decide
    have empty : digitsValue [] = 0 := rfl
    simp only [decimalWorth, one, two, five, empty]
    norm_num
  exact ⟨hv, hm, ((checkMinimum_compares_plain_decimals hv hm).1 (by decide) (by decide) (by decide)
    (by decide)).1.mpr above⟩

/-- Past those bounds the check leaves the exact order. Twenty-nine nines after the point are
below the minimum `1`, yet they round to `1` as a 96-bit decimal and pass; `10 ^ 80` is above
it, yet it is no 96-bit decimal and scales past 256 bits, so it is not a number. -/
theorem checkMinimum_misjudges_plain_decimals :
    DecimalForm (trim "0.99999999999999999999999999999").toList ['0'] (List.replicate 29 '9') ∧
      DecimalForm (trim "1").toList ['1'] [] ∧
      decimalWorth ['0'] (List.replicate 29 '9') < decimalWorth ['1'] [] ∧
      checkMinimum "x" "1" "0.99999999999999999999999999999" = .ok () ∧
      DecimalForm (trim (String.ofList ('1' :: List.replicate 80 '0'))).toList
        ('1' :: List.replicate 80 '0') [] ∧
      checkMinimum "x" "1" (String.ofList ('1' :: List.replicate 80 '0')) =
        .error (.notNumeric "x" (String.ofList ('1' :: List.replicate 80 '0'))) := by
  have below : decimalWorth ['0'] (List.replicate 29 '9') < decimalWorth ['1'] [] := by
    have nines : digitsValue (List.replicate 29 '9') = 10 ^ 29 - 1 := by decide
    have zero : digitsValue ['0'] = 0 := by decide
    have one : digitsValue ['1'] = 1 := by decide
    have empty : digitsValue [] = 0 := rfl
    simp only [decimalWorth, nines, zero, one, empty, List.length_replicate]
    norm_num
  exact ⟨by decide, by decide, below, by decide +kernel, by decide, by decide +kernel⟩

end Check

end StrategyDeploy.Calldata
