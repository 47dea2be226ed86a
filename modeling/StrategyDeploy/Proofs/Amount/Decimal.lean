import StrategyDeploy.Amount.Decimal
import StrategyDeploy.Proofs.Amount.Units

/-! Decimals read from plain decimal text. -/
namespace StrategyDeploy.Amount

/-- The number a decimal stands for. -/
def Decimal.value (d : Decimal) : ℚ :=
  (if d.negative then -(d.mantissa : ℚ) else d.mantissa) / 10 ^ d.scale

theorem Decimal.scaledTo_cast (d : Decimal) (s : Nat) :
    ((d.scaledTo s : Int) : ℚ) =
      (if d.negative then -(d.mantissa : ℚ) else d.mantissa) * 10 ^ s := by
  have power : Int.pow 10 s = 10 ^ s := rfl
  simp only [Decimal.scaledTo, power]
  split <;> push_cast <;> ring

theorem Decimal.lt_iff (a b : Decimal) : a.lt b = true ↔ a.value < b.value := by
  have ha : (0 : ℚ) < 10 ^ a.scale := pow_pos (by norm_num) _
  have hb : (0 : ℚ) < 10 ^ b.scale := pow_pos (by norm_num) _
  rw [Decimal.lt, decide_eq_true_iff, Decimal.value, Decimal.value, div_lt_div_iff₀ ha hb,
    ← Decimal.scaledTo_cast, ← Decimal.scaledTo_cast, Int.cast_lt]

theorem Decimal.value_mk_of_form {w f : List Char} :
    (⟨false, digitsValue (w ++ f), f.length⟩ : Decimal).value = decimalWorth w f := by
  rw [Decimal.value, decimalWorth, digitsValue_append]
  push_cast
  field_simp

theorem digit?_of_isDigit {c : Char} (h : isDigit c = true) : digit? c = some (c.toNat - 48) := by
  simp only [isDigit] at h
  simp [digit?, h]

theorem digitsValue_cons (c : Char) (cs : List Char) :
    digitsValue (c :: cs) = (c.toNat - 48) * 10 ^ cs.length + digitsValue cs := by
  rw [show c :: cs = [c] ++ cs from rfl, digitsValue_append]
  simp [digitsValue]

theorem next_le_of_cons (m : Nat) (c : Char) (cs : List Char) :
    10 * m + (c.toNat - 48) ≤ m * 10 ^ (c :: cs).length + digitsValue (c :: cs) := by
  rw [digitsValue_cons, List.length_cons, pow_succ]
  have pos : 1 ≤ 10 ^ cs.length := Nat.one_le_pow _ _ (by decide)
  have whole : 10 * m ≤ m * (10 ^ cs.length * 10) := by
    rw [Nat.mul_comm m]
    exact Nat.mul_le_mul_right m (by omega)
  have last : c.toNat - 48 ≤ (c.toNat - 48) * 10 ^ cs.length := Nat.le_mul_of_pos_right _ pos
  omega

theorem mantissa_cons (m : Nat) (c : Char) (cs : List Char) :
    (10 * m + (c.toNat - 48)) * 10 ^ cs.length + digitsValue cs =
      m * 10 ^ (c :: cs).length + digitsValue (c :: cs) := by
  rw [digitsValue_cons, List.length_cons, pow_succ]
  ring

theorem next_lt_bound {m : Nat} {c : Char} {cs : List Char}
    (small : m * 10 ^ (c :: cs).length + digitsValue (c :: cs) < mantissaBound) :
    ¬ mantissaBound ≤ 10 * m + (c.toNat - 48) := by
  have := next_le_of_cons m c cs
  omega

theorem not_pending_of_cons {pending : Bool} {c : Char} {fs : List Char}
    (last : pending = true → c :: fs = []) : pending = false :=
  Bool.eq_false_iff.mpr fun h => List.cons_ne_nil c fs (last h)

section Reading

variable {negative : Bool}

theorem Decimal.readWide_fraction {pending : Bool} {mantissa scale : Nat} {fs : List Char}
    (digits : fs.all isDigit = true) (fits : scale + fs.length ≤ maxScale)
    (small : mantissa * 10 ^ fs.length + digitsValue fs < mantissaBound)
    (last : pending = true → fs = []) :
    Decimal.readWide pending true negative mantissa scale fs =
      some ⟨negative, mantissa * 10 ^ fs.length + digitsValue fs, scale + fs.length⟩ := by
  induction fs generalizing pending mantissa scale with
  | nil => simp [Decimal.readWide, Decimal.finish, digitsValue]
  | cons c fs ih =>
    have waiting : pending = false := not_pending_of_cons last
    simp only [List.all_cons, Bool.and_eq_true] at digits
    obtain ⟨hc, rest⟩ := digits
    have below : ¬ mantissaBound ≤ 10 * mantissa + (c.toNat - 48) := next_lt_bound small
    have step := @ih (decide (maxScale ≤ scale + 1)) (10 * mantissa + (c.toNat - 48)) (scale + 1)
      rest (by simp at fits; omega) (by rw [mantissa_cons]; exact small)
      (fun at28 => List.eq_nil_of_length_eq_zero (by simp at fits at28; omega))
    rw [Decimal.readWide, waiting, digit?_of_isDigit hc]
    simp only [Bool.false_eq_true, ↓reduceIte, below, Bool.true_and]
    rw [step, mantissa_cons]
    simp [Nat.add_assoc, Nat.add_comm 1]

theorem Decimal.readWide_whole {mantissa scale : Nat} {ws rest : List Char}
    (digits : ws.all isDigit = true)
    (small : mantissa * 10 ^ ws.length + digitsValue ws < mantissaBound) :
    Decimal.readWide false false negative mantissa scale (ws ++ rest) =
      Decimal.readWide false false negative (mantissa * 10 ^ ws.length + digitsValue ws) scale
        rest := by
  induction ws generalizing mantissa with
  | nil => simp [digitsValue]
  | cons c ws ih =>
    simp only [List.all_cons, Bool.and_eq_true] at digits
    obtain ⟨hc, more⟩ := digits
    have below : ¬ mantissaBound ≤ 10 * mantissa + (c.toNat - 48) := next_lt_bound small
    rw [List.cons_append, Decimal.readWide, digit?_of_isDigit hc]
    simp only [Bool.false_eq_true, ↓reduceIte, below, Bool.false_and]
    rw [ih more (by rw [mantissa_cons]; exact small), mantissa_cons]

theorem digit?_point : digit? '.' = none := by decide

theorem Decimal.readNarrow_fraction {long seen first pending : Bool} {mantissa scale : Nat}
    {fs : List Char} (digits : fs.all isDigit = true) (fits : scale + fs.length ≤ maxScale)
    (small : mantissa * 10 ^ fs.length + digitsValue fs < mantissaBound)
    (last : pending = true → fs = []) (read : seen = true ∨ fs ≠ []) :
    Decimal.readNarrow long true negative seen first pending mantissa scale fs =
      some ⟨negative, mantissa * 10 ^ fs.length + digitsValue fs, scale + fs.length⟩ := by
  induction fs generalizing seen first pending mantissa scale with
  | nil =>
    have hseen : seen = true := by simpa using read
    simp [Decimal.readNarrow, Decimal.finish, hseen, digitsValue]
  | cons c fs ih =>
    have waiting : pending = false := not_pending_of_cons last
    simp only [List.all_cons, Bool.and_eq_true] at digits
    obtain ⟨hc, rest⟩ := digits
    have fits' : scale + 1 + fs.length ≤ maxScale := by simp at fits; omega
    have small' :
        (10 * mantissa + (c.toNat - 48)) * 10 ^ fs.length + digitsValue fs < mantissaBound := by
      rw [mantissa_cons]
      exact small
    have same : mantissa * 10 ^ (c :: fs).length + digitsValue (c :: fs) =
        (10 * mantissa + (c.toNat - 48)) * 10 ^ fs.length + digitsValue fs :=
      (mantissa_cons _ _ _).symm
    have longer : scale + (c :: fs).length = scale + 1 + fs.length := by simp; omega
    rw [Decimal.readNarrow, waiting, digit?_of_isDigit hc, same, longer]
    simp only [Bool.false_eq_true, ↓reduceIte, Bool.true_and]
    split_ifs with at28 wide
    · exact ih rest fits' small' (fun _ => List.eq_nil_of_length_eq_zero (by
        simp only [decide_eq_true_eq, Bool.and_eq_true] at at28; omega)) (.inl rfl)
    · exact Decimal.readWide_fraction rest fits' small' (fun h => absurd h Bool.false_ne_true)
    · exact ih rest fits' small' (fun h => absurd h Bool.false_ne_true) (.inl rfl)

theorem Decimal.readWide_plain {mantissa : Nat} {ws fs rest : List Char}
    (shape : rest = [] ∧ fs = [] ∨ rest = '.' :: fs) (wdigits : ws.all isDigit = true)
    (fdigits : fs.all isDigit = true) (fits : fs.length ≤ maxScale)
    (small : mantissa * 10 ^ (ws ++ fs).length + digitsValue (ws ++ fs) < mantissaBound) :
    Decimal.readWide false false negative mantissa 0 (ws ++ rest) =
      some ⟨negative, mantissa * 10 ^ (ws ++ fs).length + digitsValue (ws ++ fs), fs.length⟩ := by
  obtain ⟨whole, hwhole⟩ : ∃ whole, mantissa * 10 ^ ws.length + digitsValue ws = whole := ⟨_, rfl⟩
  have total : mantissa * 10 ^ (ws ++ fs).length + digitsValue (ws ++ fs) =
      whole * 10 ^ fs.length + digitsValue fs := by
    rw [← hwhole, List.length_append, pow_add, digitsValue_append]
    ring
  have fitsWhole : whole < mantissaBound := by
    have : whole ≤ whole * 10 ^ fs.length :=
      Nat.le_mul_of_pos_right _ (Nat.one_le_pow _ _ (by decide))
    omega
  rw [Decimal.readWide_whole wdigits (hwhole ▸ fitsWhole), hwhole, total]
  rcases shape with ⟨rfl, rfl⟩ | rfl
  · simp [Decimal.readWide, Decimal.finish, digitsValue]
  · rw [Decimal.readWide, digit?_point]
    simp only [Bool.false_eq_true, ↓reduceIte, Bool.not_false, Bool.and_true, decide_true]
    rw [@Decimal.readWide_fraction negative false whole 0 fs fdigits (by omega) (total ▸ small)
      (by simp)]
    simp

theorem Decimal.readNarrow_plain {long seen first : Bool} {mantissa : Nat} {ws fs rest : List Char}
    (shape : rest = [] ∧ fs = [] ∨ rest = '.' :: fs) (wdigits : ws.all isDigit = true)
    (fdigits : fs.all isDigit = true) (fits : fs.length ≤ maxScale)
    (small : mantissa * 10 ^ (ws ++ fs).length + digitsValue (ws ++ fs) < mantissaBound)
    (read : seen = true ∨ ws ++ fs ≠ []) :
    Decimal.readNarrow long false negative seen first false mantissa 0 (ws ++ rest) =
      some ⟨negative, mantissa * 10 ^ (ws ++ fs).length + digitsValue (ws ++ fs), fs.length⟩ := by
  induction ws generalizing mantissa seen first with
  | nil =>
    rcases shape with ⟨rfl, rfl⟩ | rfl
    · have hseen : seen = true := by simpa using read
      simp [Decimal.readNarrow, Decimal.finish, hseen, digitsValue]
    · rw [List.nil_append, Decimal.readNarrow, digit?_point]
      simp only [Bool.false_eq_true, ↓reduceIte, Bool.not_false, Bool.and_true, decide_true]
      simpa using @Decimal.readNarrow_fraction negative long seen false false mantissa 0 fs fdigits
        (by omega) (by simpa using small) (by simp) (by simpa using read)
  | cons c ws ih =>
    simp only [List.all_cons, Bool.and_eq_true] at wdigits
    obtain ⟨hc, more⟩ := wdigits
    have small' : (10 * mantissa + (c.toNat - 48)) * 10 ^ (ws ++ fs).length +
        digitsValue (ws ++ fs) < mantissaBound := by
      rw [mantissa_cons]
      exact small
    have same : mantissa * 10 ^ (c :: ws ++ fs).length + digitsValue (c :: ws ++ fs) =
        (10 * mantissa + (c.toNat - 48)) * 10 ^ (ws ++ fs).length + digitsValue (ws ++ fs) :=
      (mantissa_cons _ _ _).symm
    rw [List.cons_append, Decimal.readNarrow, digit?_of_isDigit hc, same]
    simp only [Bool.false_eq_true, ↓reduceIte, Bool.false_and]
    split_ifs
    · exact Decimal.readWide_plain shape more fdigits fits small'
    · exact ih more small' (.inl rfl)

theorem Decimal.parse?_plain {t : String} {w f : List Char} (h : DecimalForm t.toList w f)
    (fits : f.length ≤ maxScale) (small : digitsValue (w ++ f) < mantissaBound) :
    Decimal.parse? t = some ⟨false, digitsValue (w ++ f), f.length⟩ := by
  have noExponent : ∀ c ∈ t.toList, (decide (c ≠ 'e') && decide (c ≠ 'E')) = true := by
    intro c hc
    rcases h.digit_or_point hc with digit | rfl
    · have range := isDigit_iff.mp digit
      have e : c ≠ 'e' := fun he => by rw [he] at range; exact absurd range (by decide)
      have E : c ≠ 'E' := fun he => by rw [he] at range; exact absurd range (by decide)
      simp [e, E]
    · decide
  have taken := @List.takeWhile_append_of_pos _ _ t.toList [] noExponent
  have dropped := @List.dropWhile_append_of_pos _ _ t.toList [] noExponent
  simp only [List.append_nil, List.takeWhile_nil, List.dropWhile_nil] at taken dropped
  obtain ⟨rest, ht, shape⟩ := h.eq_append
  unfold Decimal.parse? Decimal.parsePlain?
  rw [List.span_eq_takeWhile_dropWhile, taken, dropped]
  simp only
  rw [ht]
  simpa using @Decimal.readNarrow_plain false (roundingLength ≤ t.utf8ByteSize) false true 0 w f
    rest shape h.1 h.2.1 fits (by simpa using small)
    (.inr (by simpa [or_iff_not_imp_left] using h.2.2.1))

end Reading

end StrategyDeploy.Amount
