import StrategyDeploy.Proofs.Amount.Decimal
import StrategyDeploy.Proofs.Bytes.Base64
import Mathlib.Algebra.Order.Field.Basic
import Mathlib.Tactic.Linarith
import Mathlib.Tactic.Positivity

/-! Writing amounts. -/
namespace StrategyDeploy.Amount

open StrategyDeploy.Text StrategyDeploy.Bytes

/-- A whole part without leading zeros: `0` alone, or digits whose first is not zero. -/
def CanonicalWhole (w : List Char) : Prop :=
  w.all isDigit ∧ (w = ['0'] ∨ ∃ c rest, w = c :: rest ∧ c ≠ '0')

/-- A fraction without trailing zeros: digits whose last is not zero. -/
def CanonicalFraction (f : List Char) : Prop :=
  f.all isDigit ∧ ∃ init c, f = init ++ [c] ∧ c ≠ '0'

/-- The text of a whole part and a fraction, with a point only when there is a fraction. -/
def decimalText (w f : List Char) : List Char :=
  if f = [] then w else w ++ '.' :: f

/-- Canonical decimal text. -/
def Canonical (t : List Char) : Prop :=
  ∃ w f, CanonicalWhole w ∧ (f = [] ∨ CanonicalFraction f) ∧ t = decimalText w f

/-- Whole digits without their leading zeros, or `0` when nothing else is left. -/
def stripWhole (w : List Char) : List Char :=
  if w.dropWhile (· = '0') = [] then ['0'] else w.dropWhile (· = '0')

/-- The canonical form of plain decimal text: leading whole zeros and trailing fraction zeros
dropped, `0` for an empty whole part, and no point when no fraction is left. -/
def canonicalText (t : List Char) : List Char :=
  decimalText (stripWhole (splitPoint t).1) (dropTrailingZeros (splitPoint t).2)

section Whole

theorem isDigit_eq_isDigit (c : Char) : isDigit c = c.isDigit := by
  simp [isDigit, Char.isDigit, Char.le_def, UInt32.le_iff_toNat_le]

theorem all_isDigit_toDigits (n : Nat) : (Nat.toDigits 10 n).all isDigit = true :=
  List.all_eq_true.mpr fun c hc =>
    (isDigit_eq_isDigit c).trans (Nat.isDigit_of_mem_toDigits (by decide) (by decide) hc)

theorem digitsValue_toDigits (n : Nat) : digitsValue (Nat.toDigits 10 n) = n :=
  Nat.ofDigitChars_ten_toDigits

theorem digitChar_of_isDigit {c : Char} (hc : isDigit c = true) :
    Nat.digitChar (c.toNat - 48) = c := by
  have range := isDigit_iff.mp hc
  apply Char.toNat_inj.mp
  rw [Nat.toNat_digitChar_of_lt_ten (by omega)]
  omega

theorem toDigits_append {acc : Nat} (pos : 0 < acc) {cs : List Char}
    (digits : cs.all isDigit = true) :
    Nat.toDigits 10 acc ++ cs = Nat.toDigits 10 (acc * 10 ^ cs.length + digitsValue cs) := by
  induction cs generalizing acc with
  | nil => simp [digitsValue]
  | cons c cs ih =>
    rw [List.all_cons, Bool.and_eq_true] at digits
    have range := isDigit_iff.mp digits.1
    have next := Nat.toDigits_append_toDigits (b := 10) (by decide) pos
      (show c.toNat - 48 < 10 by omega)
    rw [Nat.toDigits_of_lt_base (show c.toNat - 48 < 10 by omega), digitChar_of_isDigit digits.1]
      at next
    calc Nat.toDigits 10 acc ++ c :: cs = (Nat.toDigits 10 acc ++ [c]) ++ cs := by simp
      _ = Nat.toDigits 10 (10 * acc + (c.toNat - 48)) ++ cs := by rw [next]
      _ = Nat.toDigits 10 ((10 * acc + (c.toNat - 48)) * 10 ^ cs.length + digitsValue cs) :=
          ih (by omega) digits.2
      _ = Nat.toDigits 10 (acc * 10 ^ (c :: cs).length + digitsValue (c :: cs)) := by
          rw [digitsValue_cons, List.length_cons, pow_succ]
          congr 1
          ring

theorem CanonicalWhole.toDigits_eq {w : List Char} (h : CanonicalWhole w) :
    Nat.toDigits 10 (digitsValue w) = w := by
  obtain ⟨digits, rfl | ⟨c, rest, rfl, nonzero⟩⟩ := h
  · rfl
  · rw [List.all_cons, Bool.and_eq_true] at digits
    have range := isDigit_iff.mp digits.1
    have pos : 0 < c.toNat - 48 := by
      have : c.toNat ≠ 48 := fun same => nonzero (Char.toNat_inj.mp same)
      omega
    have first := toDigits_append pos digits.2
    rw [Nat.toDigits_of_lt_base (by omega), digitChar_of_isDigit digits.1] at first
    rw [digitsValue_cons, ← first]
    rfl

theorem canonicalWhole_toDigits (n : Nat) : CanonicalWhole (Nat.toDigits 10 n) := by
  refine ⟨all_isDigit_toDigits n, ?_⟩
  -- the writing of `n ≥ 10` starts with the writing of `n / 10`, which is positive
  induction n using Nat.strong_induction_on with
  | _ n ih =>
    rcases Nat.lt_or_ge n 10 with small | large
    · rw [Nat.toDigits_of_lt_base small]
      rcases Nat.eq_zero_or_pos n with rfl | pos
      · exact .inl rfl
      · refine .inr ⟨_, [], rfl, fun zero => ?_⟩
        have value := congrArg Char.toNat zero
        rw [Nat.toNat_digitChar_of_lt_ten small] at value
        simp at value
        omega
    · rw [Nat.toDigits_of_base_le (by decide) large]
      rcases ih (n / 10) (by omega) with zero | ⟨c, rest, first, nonzero⟩
      · have value := congrArg digitsValue zero
        rw [digitsValue_toDigits] at value
        simp [digitsValue] at value
        omega
      · exact .inr ⟨c, rest ++ _, by rw [first]; rfl, nonzero⟩

theorem CanonicalWhole.eq_of_digitsValue_eq {w w' : List Char} (h : CanonicalWhole w)
    (h' : CanonicalWhole w') (same : digitsValue w = digitsValue w') : w = w' := by
  rw [← h.toDigits_eq, ← h'.toDigits_eq, same]

theorem digitsValue_stripWhole (w : List Char) : digitsValue (stripWhole w) = digitsValue w := by
  have split := List.takeWhile_append_dropWhile (p := fun c => decide (c = '0')) (l := w)
  have zeros : w.takeWhile (fun c => decide (c = '0')) =
      List.replicate (w.takeWhile (fun c => decide (c = '0'))).length '0' :=
    List.eq_replicate_iff.mpr ⟨rfl, fun c hc =>
      of_decide_eq_true (List.all_eq_true.mp List.all_takeWhile c hc)⟩
  have value : digitsValue w = digitsValue (w.dropWhile (fun c => decide (c = '0'))) := by
    conv_lhs => rw [← split, zeros]
    rw [digitsValue_append, digitsValue_replicate_zero, Nat.zero_mul, Nat.zero_add]
  unfold stripWhole
  split
  · next empty => rw [value, empty]; rfl
  · exact value.symm

theorem canonicalWhole_stripWhole {w : List Char} (digits : w.all isDigit = true) :
    CanonicalWhole (stripWhole w) := by
  unfold stripWhole
  split
  · exact ⟨rfl, .inl rfl⟩
  · next ne =>
    obtain ⟨c, rest, hcons⟩ := List.exists_cons_of_ne_nil ne
    have head := List.head_dropWhile_not (fun c => decide (c = '0')) ne
    simp only [hcons, List.head_cons, decide_eq_false_iff_not] at head
    refine ⟨List.all_eq_true.mpr fun x hx => ?_, .inr ⟨c, rest, hcons, head⟩⟩
    exact List.all_eq_true.mp digits x ((List.dropWhile_sublist _).subset hx)

end Whole

section Fraction

theorem digitsValue_lt {cs : List Char} (digits : cs.all isDigit = true) :
    digitsValue cs < 10 ^ cs.length := by
  induction cs with
  | nil => simp [digitsValue]
  | cons c cs ih =>
    rw [List.all_cons, Bool.and_eq_true] at digits
    have range := isDigit_iff.mp digits.1
    have rest := ih digits.2
    have head : (c.toNat - 48) * 10 ^ cs.length ≤ 9 * 10 ^ cs.length :=
      Nat.mul_le_mul_right _ (by omega)
    rw [digitsValue_cons, List.length_cons, pow_succ]
    omega

theorem digit_and_rest_eq {a b x y p : Nat} (hx : x < p) (hy : y < p)
    (same : a * p + x = b * p + y) : a = b ∧ x = y := by
  have pos : 0 < p := by omega
  have quotient := congrArg (· / p) same
  simp only [Nat.mul_comm _ p, Nat.mul_add_div pos, Nat.div_eq_of_lt hx, Nat.div_eq_of_lt hy,
    Nat.add_zero] at quotient
  subst quotient
  exact ⟨rfl, by omega⟩

theorem eq_of_digitsValue_eq {cs ds : List Char} (hc : cs.all isDigit = true)
    (hd : ds.all isDigit = true) (length : cs.length = ds.length)
    (value : digitsValue cs = digitsValue ds) : cs = ds := by
  induction cs generalizing ds with
  | nil => exact (List.eq_nil_of_length_eq_zero length.symm).symm
  | cons c cs ih =>
    cases ds with
    | nil => simp at length
    | cons d ds =>
      rw [List.all_cons, Bool.and_eq_true] at hc hd
      rw [List.length_cons, List.length_cons, Nat.add_right_cancel_iff] at length
      rw [digitsValue_cons, digitsValue_cons, length] at value
      have low := digitsValue_lt hc.2
      rw [length] at low
      obtain ⟨heads, rests⟩ := digit_and_rest_eq low (digitsValue_lt hd.2) value
      have hc' := isDigit_iff.mp hc.1
      have hd' := isDigit_iff.mp hd.1
      have same : c = d := Char.toNat_inj.mp (by omega)
      rw [same, ih hc.2 hd.2 length rests]

theorem CanonicalFraction.not_ten_dvd {f : List Char} (h : CanonicalFraction f) :
    ¬10 ∣ digitsValue f := by
  obtain ⟨digits, init, c, rfl, nonzero⟩ := h
  have hc : isDigit c = true := by
    simpa using (List.all_eq_true.mp digits) c (by simp)
  exact not_ten_dvd_digitsValue hc nonzero

theorem CanonicalFraction.length_le {f f' : List Char} (h' : CanonicalFraction f')
    (same : digitsValue f * 10 ^ f'.length = digitsValue f' * 10 ^ f.length) :
    f'.length ≤ f.length := by
  by_contra longer
  obtain ⟨e, he⟩ := Nat.exists_eq_add_of_lt (Nat.lt_of_not_le longer)
  have scaled : 10 ^ f.length * (digitsValue f * 10 ^ (e + 1)) =
      10 ^ f.length * digitsValue f' := by
    rw [he] at same
    calc _ = digitsValue f * 10 ^ (f.length + e + 1) := by ring
      _ = _ := same
      _ = _ := by ring
  have cancelled := Nat.eq_of_mul_eq_mul_left (show 0 < 10 ^ f.length by positivity) scaled
  exact h'.not_ten_dvd (cancelled ▸ Dvd.dvd.mul_left (dvd_pow_self 10 (Nat.succ_ne_zero e)) _)

theorem fraction_unique {f f' : List Char} (h : f = [] ∨ CanonicalFraction f)
    (h' : f' = [] ∨ CanonicalFraction f')
    (same : digitsValue f * 10 ^ f'.length = digitsValue f' * 10 ^ f.length) : f = f' := by
  have shorter : f'.length ≤ f.length := by
    rcases h' with rfl | h'
    · simp
    · exact h'.length_le same
  have longer : f.length ≤ f'.length := by
    rcases h with rfl | h
    · simp
    · exact h.length_le same.symm
  have length : f.length = f'.length := Nat.le_antisymm longer shorter
  rw [length] at same
  have digits : ∀ g : List Char, g = [] ∨ CanonicalFraction g → g.all isDigit = true := by
    rintro g (rfl | hg)
    · rfl
    · exact hg.1
  exact eq_of_digitsValue_eq (digits f h) (digits f' h') length
    (Nat.eq_of_mul_eq_mul_right (by positivity) same)

end Fraction

section Worth

variable {w f w' f' : List Char}

theorem le_decimalWorth : (digitsValue w : ℚ) ≤ decimalWorth w f := by
  unfold decimalWorth
  have : (0 : ℚ) ≤ digitsValue f / 10 ^ f.length := by positivity
  linarith

theorem decimalWorth_lt (digits : f.all isDigit = true) :
    decimalWorth w f < digitsValue w + 1 := by
  unfold decimalWorth
  have low : (digitsValue f : ℚ) < 10 ^ f.length := by exact_mod_cast digitsValue_lt digits
  have : (digitsValue f : ℚ) / 10 ^ f.length < 1 := (div_lt_one (by positivity)).mpr low
  linarith

theorem canonical_parts_unique (hw : CanonicalWhole w) (hw' : CanonicalWhole w')
    (hf : f = [] ∨ CanonicalFraction f) (hf' : f' = [] ∨ CanonicalFraction f')
    (same : decimalWorth w f = decimalWorth w' f') : w = w' ∧ f = f' := by
  have digits : ∀ g : List Char, g = [] ∨ CanonicalFraction g → g.all isDigit = true := by
    rintro g (rfl | hg)
    · rfl
    · exact hg.1
  have below : (digitsValue w : ℚ) < digitsValue w' + 1 :=
    lt_of_le_of_lt le_decimalWorth (same ▸ decimalWorth_lt (digits f' hf'))
  have below' : (digitsValue w' : ℚ) < digitsValue w + 1 :=
    lt_of_le_of_lt le_decimalWorth (same ▸ decimalWorth_lt (digits f hf))
  have whole : digitsValue w = digitsValue w' := by
    have : digitsValue w < digitsValue w' + 1 := by exact_mod_cast below
    have : digitsValue w' < digitsValue w + 1 := by exact_mod_cast below'
    omega
  refine ⟨hw.eq_of_digitsValue_eq hw' whole, fraction_unique hf hf' ?_⟩
  unfold decimalWorth at same
  rw [whole, add_right_inj, div_eq_div_iff (by positivity) (by positivity)] at same
  exact_mod_cast same

theorem decimalWorth_stripWhole : decimalWorth (stripWhole w) f = decimalWorth w f := by
  rw [decimalWorth, decimalWorth, digitsValue_stripWhole]

end Worth

section Text

theorem isBlank_of_digit_or_point {c : Char} (h : isDigit c = true ∨ c = '.') :
    isBlank c = false := by
  rcases h with digit | rfl
  · have range := isDigit_iff.mp digit
    simp only [isBlank]
    grind
  · decide

theorem trim_of_form {t w f : List Char} (h : DecimalForm t w f) :
    (trim (String.ofList t)).toList = t := by
  rw [trim, String.toList_ofList, String.toList_ofList]
  exact trimChars_of_forall fun c hc => isBlank_of_digit_or_point (h.digit_or_point hc)

theorem decimalForm_decimalText {w f : List Char} (hw : w.all isDigit = true) (ne : w ≠ [])
    (hf : f.all isDigit = true) : DecimalForm (decimalText w f) w f := by
  unfold decimalText
  split
  · next empty => exact ⟨hw, hf, .inl ne, .inl ⟨rfl, empty⟩⟩
  · exact ⟨hw, hf, .inl ne, .inr rfl⟩

theorem CanonicalWhole.ne_nil {w : List Char} (h : CanonicalWhole w) : w ≠ [] := by
  rcases h.2 with rfl | ⟨c, rest, rfl, -⟩ <;> simp

theorem canonical_dropTrailingZeros {f : List Char} (digits : f.all isDigit = true) :
    dropTrailingZeros f = [] ∨ CanonicalFraction (dropTrailingZeros f) := by
  by_cases empty : dropTrailingZeros f = []
  · exact .inl empty
  · exact .inr ⟨all_dropTrailingZeros digits, exists_dropTrailingZeros_eq empty⟩

theorem canonicalText_of_form {t w f : List Char} (h : DecimalForm t w f) :
    canonicalText t = decimalText (stripWhole w) (dropTrailingZeros f) := by
  rw [canonicalText, splitPoint_eq_of_form h]

end Text

section Format

theorem digitsValue_padDigits (width n : Nat) : digitsValue (padDigits width n) = n := by
  rw [padDigits, digitsValue_append, digitsValue_replicate_zero, Nat.zero_mul, Nat.zero_add,
    digitsValue_toDigits]

theorem all_isDigit_padDigits (width n : Nat) : (padDigits width n).all isDigit = true := by
  rw [padDigits, List.all_append, all_isDigit_toDigits, Bool.and_true]
  exact List.all_eq_true.mpr fun c hc => by rw [List.eq_of_mem_replicate hc]; rfl

theorem length_padDigits {width n : Nat} (pos : 0 < width) (h : n < 10 ^ width) :
    (padDigits width n).length = width := by
  have fits := (Nat.length_toDigits_le_iff (by decide) pos).mpr h
  simp only [padDigits, List.length_append, List.length_replicate]
  omega

theorem decimalWorth_padDigits (v d : Nat) :
    decimalWorth (Nat.toDigits 10 (v / 10 ^ d)) (padDigits d (v % 10 ^ d)) * 10 ^ d = v := by
  rw [decimalWorth, digitsValue_toDigits, digitsValue_padDigits]
  rcases Nat.eq_zero_or_pos d with rfl | pos
  · simp [Nat.mod_one]
  · rw [length_padDigits pos (Nat.mod_lt _ (by positivity))]
    have split := Nat.div_add_mod' v (10 ^ d)
    field_simp
    exact_mod_cast split

theorem formatUnits_of_le {d : Nat} (v : Nat) (hd : d ≤ 77) :
    formatUnits v d = .ok (String.ofList (decimalText (Nat.toDigits 10 (v / 10 ^ d))
      (dropTrailingZeros (padDigits d (v % 10 ^ d))))) := by
  have fits : ¬maxDecimals < d := by simp only [maxDecimals]; omega
  simp only [formatUnits, if_neg fits, Nat.pow_eq, decimalText, Nat.toString_eq_ofList_toDigits]
  split
  · next empty => rw [if_pos (List.isEmpty_iff.mp empty)]
  · next full =>
    rw [if_neg (fun empty => by simp [empty] at full), String.ofList_append, String.append_assoc]
    simp

theorem formatUnits_error_iff (v d : Nat) :
    (∃ text, formatUnits v d = .error (.invalidAmount text)) ↔ 77 < d := by
  by_cases large : 77 < d
  · simp [formatUnits, maxDecimals, large]
  · simp [formatUnits_of_le v (Nat.le_of_not_lt large), large]

theorem canonical_formatted (v d : Nat) :
    CanonicalWhole (Nat.toDigits 10 (v / 10 ^ d)) ∧
      (dropTrailingZeros (padDigits d (v % 10 ^ d)) = [] ∨
        CanonicalFraction (dropTrailingZeros (padDigits d (v % 10 ^ d)))) :=
  ⟨canonicalWhole_toDigits _, canonical_dropTrailingZeros (all_isDigit_padDigits _ _)⟩

theorem parseUnits_formatUnits {v d : Nat} (hv : v < 2 ^ 256) (hd : d ≤ 77) :
    ∃ s, formatUnits v d = .ok s ∧ Canonical s.toList ∧ parseUnits s d = .ok v := by
  set w := Nat.toDigits 10 (v / 10 ^ d)
  set f := dropTrailingZeros (padDigits d (v % 10 ^ d))
  obtain ⟨hw, hf⟩ := canonical_formatted v d
  have form := decimalForm_decimalText (all_isDigit_toDigits _) hw.ne_nil
    (all_dropTrailingZeros (all_isDigit_padDigits d (v % 10 ^ d)))
  have worth : decimalWorth w f * 10 ^ d = v := by
    rw [← decimalWorth_dropTrailingZeros]
    exact decimalWorth_padDigits v d
  refine ⟨_, formatUnits_of_le v hd, ⟨w, f, hw, hf, by rw [String.toList_ofList]⟩, ?_⟩
  rw [parseUnits_of_whole ((trim_of_form form).symm ▸ form) worth, if_pos hv]

theorem formatUnits_of_parseUnits {a : String} {d v : Nat} (hd : d ≤ 77)
    (h : parseUnits a d = .ok v) :
    formatUnits v d = .ok (String.ofList (canonicalText (trim a).toList)) := by
  obtain ⟨w, f, form, worth, -⟩ := ((parseUnits_iff_scaled_decimal a d).1 v).mp h
  obtain ⟨hw, hf⟩ := canonical_formatted v d
  have written : decimalWorth (Nat.toDigits 10 (v / 10 ^ d))
      (dropTrailingZeros (padDigits d (v % 10 ^ d))) * 10 ^ d = v := by
    rw [← decimalWorth_dropTrailingZeros]
    exact decimalWorth_padDigits v d
  have same : decimalWorth (Nat.toDigits 10 (v / 10 ^ d))
      (dropTrailingZeros (padDigits d (v % 10 ^ d))) =
      decimalWorth (stripWhole w) (dropTrailingZeros f) := by
    rw [decimalWorth_stripWhole, ← decimalWorth_dropTrailingZeros w f]
    exact mul_right_cancel₀ (show (10 : ℚ) ^ d ≠ 0 by positivity) (written.trans worth.symm)
  obtain ⟨wholes, fractions⟩ := canonical_parts_unique hw (canonicalWhole_stripWhole form.1)
    hf (canonical_dropTrailingZeros form.2.1) same
  rw [formatUnits_of_le v hd, canonicalText_of_form form, wholes, fractions]

/-- Writing units inverts reading them. For `d ≤ 77` every number of units below `2 ^ 256` is
written as canonical text that reads back at `d` decimals as the same number; the units that
any text reads as are written as the text's canonical form; and writing fails, as an invalid
amount, exactly when there are more than 77 decimals. -/
theorem formatUnits_inverts_parseUnits :
    (∀ v d : Nat, v < 2 ^ 256 → d ≤ 77 →
      ∃ s, formatUnits v d = .ok s ∧ Canonical s.toList ∧ parseUnits s d = .ok v) ∧
    (∀ (a : String) (d v : Nat), d ≤ 77 → parseUnits a d = .ok v →
      formatUnits v d = .ok (String.ofList (canonicalText (trim a).toList))) ∧
    (∀ v d : Nat, (∃ text, formatUnits v d = .error (.invalidAmount text)) ↔ 77 < d) :=
  ⟨fun _ _ hv hd => parseUnits_formatUnits hv hd, fun _ _ _ hd h => formatUnits_of_parseUnits hd h,
    formatUnits_error_iff⟩

/-- At six decimals: `1500000` units are written as text that reads back, `" 01.50 "` reads as
`1500000` units and is written back as `1.5`, and no unit of 78 decimals can be written. -/
theorem one_and_a_half_units_round_trip :
    (1500000 < 2 ^ 256 ∧ 6 ≤ 77 ∧
      ∃ s, formatUnits 1500000 6 = .ok s ∧ Canonical s.toList ∧ parseUnits s 6 = .ok 1500000) ∧
    (parseUnits " 01.50 " 6 = .ok 1500000 ∧
      formatUnits 1500000 6 = .ok (String.ofList (canonicalText (trim " 01.50 ").toList)) ∧
      String.ofList (canonicalText (trim " 01.50 ").toList) = "1.5") ∧
    ∃ text, formatUnits 1 78 = .error (.invalidAmount text) := by
  have read : parseUnits " 01.50 " 6 = .ok 1500000 := by decide
  exact ⟨⟨by decide, by decide, formatUnits_inverts_parseUnits.1 _ _ (by decide) (by decide)⟩,
    ⟨read, formatUnits_inverts_parseUnits.2.1 _ _ _ (by decide) read, by decide⟩,
    (formatUnits_inverts_parseUnits.2.2 1 78).mpr (by decide)⟩

end Format

end StrategyDeploy.Amount
