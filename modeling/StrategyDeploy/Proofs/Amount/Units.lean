import StrategyDeploy.Amount.Units
import Mathlib.Tactic.FieldSimp
import Mathlib.Tactic.Ring
import Mathlib.Data.Rat.Cast.Order

/-! Reading amounts. -/
namespace StrategyDeploy.Amount

open StrategyDeploy.Text StrategyDeploy.Evm

/-- Trimmed text of the shape `W` (then `F` is empty) or `W.F`, with digit strings `W` and `F`
not both empty. -/
def DecimalForm (t w f : List Char) : Prop :=
  w.all isDigit ∧ f.all isDigit ∧ (w ≠ [] ∨ f ≠ []) ∧ (t = w ∧ f = [] ∨ t = w ++ '.' :: f)

instance (t w f : List Char) : Decidable (DecimalForm t w f) :=
  inferInstanceAs (Decidable (_ ∧ _ ∧ _ ∧ _))

/-- The worth of `W.F`: `W + F / 10 ^ |F|`. -/
def decimalWorth (w f : List Char) : ℚ := digitsValue w + digitsValue f / 10 ^ f.length

section Digits

theorem isDigit_iff {c : Char} : isDigit c = true ↔ 48 ≤ c.toNat ∧ c.toNat ≤ 57 := by
  simp only [isDigit, Bool.and_eq_true, decide_eq_true_eq, Char.le_def, UInt32.le_iff_toNat_le]
  rfl

theorem foldl_digits (acc : Nat) (cs : List Char) :
    cs.foldl (fun acc c => 10 * acc + (c.toNat - '0'.toNat)) acc =
      acc * 10 ^ cs.length + digitsValue cs := by
  induction cs generalizing acc with
  | nil => simp [digitsValue]
  | cons c cs ih =>
    have head :
        digitsValue (c :: cs) = (c.toNat - '0'.toNat) * 10 ^ cs.length + digitsValue cs := by
      rw [digitsValue, List.foldl_cons, ih]
      simp
    rw [List.foldl_cons, ih, head, List.length_cons, pow_succ]
    ring

theorem digitsValue_append (xs ys : List Char) :
    digitsValue (xs ++ ys) = digitsValue xs * 10 ^ ys.length + digitsValue ys := by
  rw [digitsValue, List.foldl_append, foldl_digits]
  rfl

theorem digitsValue_append_singleton (xs : List Char) (c : Char) :
    digitsValue (xs ++ [c]) = digitsValue xs * 10 + (c.toNat - 48) := by
  rw [digitsValue_append]
  simp [digitsValue]

theorem digitsValue_replicate_zero (k : Nat) : digitsValue (List.replicate k '0') = 0 := by
  induction k with
  | zero => rfl
  | succ k ih => rw [List.replicate_succ', digitsValue_append_singleton, ih]; rfl

theorem digitsValue_dropWhile_zero (cs : List Char) :
    digitsValue (cs.dropWhile (· = '0')) = digitsValue cs := by
  induction cs with
  | nil => rfl
  | cons c cs ih =>
    rw [List.dropWhile_cons]
    split
    · next zero =>
      rw [ih, ← List.singleton_append, digitsValue_append, of_decide_eq_true zero]
      simp [digitsValue]
    · rfl

theorem digitsValue_padded (w s : List Char) {d : Nat} (fits : s.length ≤ d) :
    digitsValue (w ++ s ++ List.replicate (d - s.length) '0') =
      digitsValue w * 10 ^ d + digitsValue s * 10 ^ (d - s.length) := by
  obtain ⟨e, rfl⟩ := Nat.exists_eq_add_of_le fits
  rw [digitsValue_append, digitsValue_append, digitsValue_replicate_zero, List.length_replicate,
    Nat.add_sub_cancel_left, pow_add]
  ring

theorem not_ten_dvd_digitsValue {cs : List Char} {c : Char} (hc : isDigit c = true)
    (nonzero : c ≠ '0') : ¬ 10 ∣ digitsValue (cs ++ [c]) := by
  rw [digitsValue_append_singleton]
  have low : 48 ≠ c.toNat := fun h => nonzero (Char.toNat_inj.mp h.symm)
  have range := isDigit_iff.mp hc
  omega

end Digits

section TrailingZeros

theorem eq_dropTrailingZeros_append (f : List Char) :
    f = dropTrailingZeros f ++ List.replicate (f.length - (dropTrailingZeros f).length) '0' := by
  have whole := (List.takeWhile_append_dropWhile (p := fun c => decide (c = '0'))
    (l := f.reverse)).symm
  have zeros : f.reverse.takeWhile (fun c => decide (c = '0')) =
      List.replicate (f.reverse.takeWhile (fun c => decide (c = '0'))).length '0' :=
    List.eq_replicate_iff.mpr ⟨rfl, fun c hc =>
      of_decide_eq_true (List.all_eq_true.mp List.all_takeWhile c hc)⟩
  have split : f = dropTrailingZeros f ++
      List.replicate (f.reverse.takeWhile (fun c => decide (c = '0'))).length '0' := by
    conv_lhs => rw [← List.reverse_reverse f, whole, zeros]
    simp [dropTrailingZeros]
  have count : f.length - (dropTrailingZeros f).length =
      (f.reverse.takeWhile (fun c => decide (c = '0'))).length := by
    have lengths := congrArg List.length split
    rw [List.length_append, List.length_replicate] at lengths
    omega
  rw [count]
  exact split

theorem digitsValue_eq_dropTrailingZeros (f : List Char) :
    digitsValue f = digitsValue (dropTrailingZeros f) *
      10 ^ (f.length - (dropTrailingZeros f).length) := by
  conv_lhs => rw [eq_dropTrailingZeros_append f]
  rw [digitsValue_append, digitsValue_replicate_zero, List.length_replicate, Nat.add_zero]

theorem length_dropTrailingZeros_le (f : List Char) : (dropTrailingZeros f).length ≤ f.length := by
  conv_rhs => rw [eq_dropTrailingZeros_append f]
  simp

theorem exists_dropTrailingZeros_eq {f : List Char} (ne : dropTrailingZeros f ≠ []) :
    ∃ init c, dropTrailingZeros f = init ++ [c] ∧ c ≠ '0' := by
  have rest_ne : f.reverse.dropWhile (fun c => decide (c = '0')) ≠ [] := by
    simpa [dropTrailingZeros] using ne
  obtain ⟨c, tail, hcons⟩ := List.exists_cons_of_ne_nil rest_ne
  have head := List.head_dropWhile_not (fun c => decide (c = '0')) rest_ne
  simp only [hcons, List.head_cons, decide_eq_false_iff_not] at head
  exact ⟨tail.reverse, c, by simp [dropTrailingZeros, hcons], head⟩

theorem all_dropTrailingZeros {f : List Char} (h : f.all isDigit = true) :
    (dropTrailingZeros f).all isDigit = true := by
  rw [eq_dropTrailingZeros_append f, List.all_append, Bool.and_eq_true] at h
  exact h.1

end TrailingZeros

section Worth

theorem decimalWorth_dropTrailingZeros (w f : List Char) :
    decimalWorth w f = decimalWorth w (dropTrailingZeros f) := by
  set s := dropTrailingZeros f with hs
  obtain ⟨k, hk⟩ : ∃ k, f.length = s.length + k :=
    ⟨f.length - s.length, by have := hs ▸ length_dropTrailingZeros_le f; omega⟩
  have fvalue : digitsValue f = digitsValue s * 10 ^ k := by
    rw [digitsValue_eq_dropTrailingZeros f, ← hs, hk, Nat.add_sub_cancel_left]
  rw [decimalWorth, decimalWorth, fvalue, hk, pow_add]
  push_cast
  field_simp

theorem scaledWorth_not_whole {w f : List Char} (digits : f.all isDigit = true) {d : Nat}
    (long : d < (dropTrailingZeros f).length) (n : Nat) : decimalWorth w f * 10 ^ d ≠ n := by
  intro hn
  set s := dropTrailingZeros f with hs
  obtain ⟨e, he⟩ := Nat.exists_eq_add_of_lt long
  rw [decimalWorth_dropTrailingZeros, ← hs] at hn
  have cleared : digitsValue w * 10 ^ (d + e + 1) + digitsValue s = n * 10 ^ (e + 1) := by
    have cast : ((digitsValue w * 10 ^ (d + e + 1) + digitsValue s : Nat) : ℚ) =
        n * 10 ^ (e + 1) :=
      calc ((digitsValue w * 10 ^ (d + e + 1) + digitsValue s : Nat) : ℚ)
          = decimalWorth w s * 10 ^ d * 10 ^ (e + 1) := by
            rw [decimalWorth, he]
            push_cast
            field_simp
            ring
        _ = n * 10 ^ (e + 1) := by rw [hn]
    exact_mod_cast cast
  have dvd : 10 ∣ digitsValue s :=
    (Nat.dvd_add_right (Dvd.dvd.mul_left (dvd_pow_self 10 (Nat.succ_ne_zero _)) _)).mp
      (cleared ▸ Dvd.dvd.mul_left (dvd_pow_self 10 (Nat.succ_ne_zero e)) _)
  have ne : s ≠ [] := by
    intro empty
    rw [empty] at he
    simp at he
  obtain ⟨init, c, hsplit, nonzero⟩ := exists_dropTrailingZeros_eq (hs ▸ ne)
  have hc : isDigit c = true := by
    have := all_dropTrailingZeros digits
    rw [hsplit] at this
    simpa using (List.all_eq_true.mp this) c (by simp)
  rw [← hs] at hsplit
  exact not_ten_dvd_digitsValue hc nonzero (hsplit ▸ dvd)

theorem scaledWorth_cases {w f : List Char} (digits : f.all isDigit = true) (d : Nat) :
    ((dropTrailingZeros f).length ≤ d ∧ decimalWorth w f * 10 ^ d =
        ((digitsValue w * 10 ^ d + digitsValue (dropTrailingZeros f) *
          10 ^ (d - (dropTrailingZeros f).length) : Nat) : ℚ)) ∨
      (d < (dropTrailingZeros f).length ∧ ∀ n : Nat, decimalWorth w f * 10 ^ d ≠ n) := by
  by_cases fits : (dropTrailingZeros f).length ≤ d
  · left
    refine ⟨fits, ?_⟩
    obtain ⟨e, rfl⟩ := Nat.exists_eq_add_of_le fits
    rw [decimalWorth_dropTrailingZeros, decimalWorth, Nat.add_sub_cancel_left, pow_add]
    push_cast
    field_simp
    ring
  · exact .inr ⟨by omega, scaledWorth_not_whole digits (by omega)⟩

end Worth

section Shape

variable {t w f : List Char}

theorem ne_point_of_isDigit {c : Char} (h : isDigit c = true) : c ≠ '.' := by
  intro point
  rw [point] at h
  exact absurd h (by decide)

theorem DecimalForm.eq_append (h : DecimalForm t w f) :
    ∃ rest, t = w ++ rest ∧ (rest = [] ∧ f = [] ∨ rest = '.' :: f) := by
  rcases h.2.2.2 with ⟨rfl, rfl⟩ | rfl
  · exact ⟨[], by simp, .inl ⟨rfl, rfl⟩⟩
  · exact ⟨'.' :: f, rfl, .inr rfl⟩

theorem DecimalForm.digit_or_point (h : DecimalForm t w f) {c : Char} (hc : c ∈ t) :
    isDigit c = true ∨ c = '.' := by
  obtain ⟨rest, rfl, shape⟩ := h.eq_append
  rcases List.mem_append.mp hc with hc | hc
  · exact .inl (List.all_eq_true.mp h.1 c hc)
  · rcases shape with ⟨rfl, -⟩ | rfl
    · simp at hc
    · rcases List.mem_cons.mp hc with rfl | hc
      · exact .inr rfl
      · exact .inl (List.all_eq_true.mp h.2.1 c hc)

theorem DecimalForm.span_point (h : DecimalForm t w f) :
    ∃ rest, t.span (· ≠ '.') = (w, rest) ∧ (rest = [] ∧ f = [] ∨ rest = '.' :: f) := by
  obtain ⟨rest, rfl, shape⟩ := h.eq_append
  have before : ∀ c ∈ w, decide (c ≠ '.') = true := fun c hc =>
    decide_eq_true (ne_point_of_isDigit (List.all_eq_true.mp h.1 c hc))
  refine ⟨rest, ?_, shape⟩
  rw [List.span_eq_takeWhile_dropWhile, List.takeWhile_append_of_pos before,
    List.dropWhile_append_of_pos before]
  rcases shape with ⟨rfl, -⟩ | rfl <;> simp

theorem splitPoint_eq_of_form (h : DecimalForm t w f) : splitPoint t = (w, f) := by
  obtain ⟨rest, span, shape⟩ := h.span_point
  unfold splitPoint
  rw [span]
  rcases shape with ⟨rfl, rfl⟩ | rfl <;> rfl

theorem isPlainDecimal_of_form (h : DecimalForm t w f) : IsPlainDecimal w f = true := by
  obtain ⟨whole, fraction, nonempty, -⟩ := h
  simp only [IsPlainDecimal, whole, fraction, Bool.and_true, Bool.not_eq_true',
    Bool.and_eq_false_iff, List.isEmpty_eq_false_iff]
  exact nonempty

theorem form_splitPoint (h : IsPlainDecimal (splitPoint t).1 (splitPoint t).2 = true) :
    DecimalForm t (splitPoint t).1 (splitPoint t).2 := by
  simp only [IsPlainDecimal, Bool.and_eq_true, Bool.not_eq_true', Bool.and_eq_false_iff,
    List.isEmpty_eq_false_iff] at h
  obtain ⟨⟨nonempty, whole⟩, fraction⟩ := h
  refine ⟨whole, fraction, nonempty, ?_⟩
  have joined := (List.takeWhile_append_dropWhile (p := fun c => !decide (c = '.')) (l := t)).symm
  cases rest : t.dropWhile (fun c => !decide (c = '.')) with
  | nil =>
    have split : splitPoint t = (t.takeWhile (fun c => !decide (c = '.')), []) := by
      simp [splitPoint, List.span_eq_takeWhile_dropWhile, rest]
    rw [rest, List.append_nil] at joined
    rw [split]
    exact .inl ⟨joined, rfl⟩
  | cons c tail =>
    have point : c = '.' := by
      have head := List.head_dropWhile_not (fun c => !decide (c = '.')) (l := t) (by simp [rest])
      simpa [rest] using head
    have split : splitPoint t = (t.takeWhile (fun c => !decide (c = '.')), tail) := by
      simp [splitPoint, List.span_eq_takeWhile_dropWhile, rest]
    rw [rest, point] at joined
    rw [split]
    exact .inr joined

theorem DecimalForm.unique (h : DecimalForm t w f) {w' f' : List Char} (h' : DecimalForm t w' f') :
    w' = w ∧ f' = f := by
  have same := (splitPoint_eq_of_form h').symm.trans (splitPoint_eq_of_form h)
  simpa using same

theorem DecimalForm.exists_iff (h : DecimalForm t w f) {P : List Char → List Char → Prop} :
    (∃ w' f', DecimalForm t w' f' ∧ P w' f') ↔ P w f := by
  constructor
  · rintro ⟨w', f', h', hp⟩
    obtain ⟨rfl, rfl⟩ := h.unique h'
    exact hp
  · exact fun hp => ⟨w, f, h, hp⟩

end Shape

section Parse

variable {a : String} {d : Nat}

theorem parseUnits_eq_scaled (amount : String) (decimals : Nat) :
    parseUnits amount decimals =
      let (whole, fraction) := splitPoint (trim amount).toList
      if !IsPlainDecimal whole fraction then .error (.invalidAmount amount)
      else
        let significant := dropTrailingZeros fraction
        if decimals < significant.length then .error (.precisionLoss amount decimals)
        else
          let value := digitsValue whole * 10 ^ decimals +
            digitsValue significant * 10 ^ (decimals - significant.length)
          if value < 2 ^ 256 then .ok value else .error (.overflow amount decimals) := by
  rcases hsplit : splitPoint (trim amount).toList with ⟨whole, fraction⟩
  simp only [parseUnits, hsplit]
  split
  · rfl
  · split
    · rfl
    · next long =>
      have value := digitsValue_padded whole (dropTrailingZeros fraction) (Nat.le_of_not_lt long)
      rw [← digitsValue_dropWhile_zero] at value
      split
      · next empty =>
        rw [List.isEmpty_iff.mp empty] at value
        rw [← value]
        rfl
      · rw [value, wordBound, Nat.pow_eq]

theorem parseUnits_of_not_form (h : ∀ w f, ¬DecimalForm (trim a).toList w f) :
    parseUnits a d = .error (.invalidAmount a) := by
  have plain :
      IsPlainDecimal (splitPoint (trim a).toList).1 (splitPoint (trim a).toList).2 = false :=
    Bool.eq_false_iff.mpr fun p => h _ _ (form_splitPoint p)
  rcases hsplit : splitPoint (trim a).toList with ⟨whole, fraction⟩
  simp only [hsplit] at plain
  simp [parseUnits_eq_scaled, hsplit, plain]

theorem parseUnits_of_not_whole {w f : List Char} (h : DecimalForm (trim a).toList w f)
    (frac : ∀ n : Nat, decimalWorth w f * 10 ^ d ≠ n) :
    parseUnits a d = .error (.precisionLoss a d) := by
  have long : d < (dropTrailingZeros f).length := by
    rcases scaledWorth_cases h.2.1 (w := w) d with ⟨-, whole⟩ | ⟨long, -⟩
    · exact absurd whole (frac _)
    · exact long
  simp [parseUnits_eq_scaled, splitPoint_eq_of_form h, isPlainDecimal_of_form h, long]

theorem parseUnits_of_whole {w f : List Char} (h : DecimalForm (trim a).toList w f) {n : Nat}
    (whole : decimalWorth w f * 10 ^ d = n) :
    parseUnits a d = if n < 2 ^ 256 then .ok n else .error (.overflow a d) := by
  rcases scaledWorth_cases h.2.1 (w := w) d with ⟨fits, worth⟩ | ⟨-, frac⟩
  · have value : digitsValue w * 10 ^ d + digitsValue (dropTrailingZeros f) *
        10 ^ (d - (dropTrailingZeros f).length) = n := by
      exact_mod_cast worth.symm.trans whole
    simp [parseUnits_eq_scaled, splitPoint_eq_of_form h, isPlainDecimal_of_form h,
      Nat.not_lt.mpr fits, value]
  · exact absurd whole (frac n)

theorem parseUnits_cases (a : String) (d : Nat) :
    ((∀ w f, ¬DecimalForm (trim a).toList w f) ∧ parseUnits a d = .error (.invalidAmount a)) ∨
    (∃ w f, ∃ n : Nat, DecimalForm (trim a).toList w f ∧ decimalWorth w f * 10 ^ d = n ∧
      ((n < 2 ^ 256 ∧ parseUnits a d = .ok n) ∨
        (2 ^ 256 ≤ n ∧ parseUnits a d = .error (.overflow a d)))) ∨
    (∃ w f, DecimalForm (trim a).toList w f ∧ (∀ n : Nat, decimalWorth w f * 10 ^ d ≠ n) ∧
      parseUnits a d = .error (.precisionLoss a d)) := by
  by_cases shaped : ∃ w f, DecimalForm (trim a).toList w f
  · obtain ⟨w, f, h⟩ := shaped
    by_cases whole : ∃ n : Nat, decimalWorth w f * 10 ^ d = n
    · obtain ⟨n, hn⟩ := whole
      right; left
      refine ⟨w, f, n, h, hn, ?_⟩
      by_cases fits : n < 2 ^ 256
      · exact .inl ⟨fits, by rw [parseUnits_of_whole h hn, if_pos fits]⟩
      · exact .inr ⟨Nat.le_of_not_lt fits, by rw [parseUnits_of_whole h hn, if_neg fits]⟩
    · right; right
      have frac : ∀ n : Nat, decimalWorth w f * 10 ^ d ≠ n := fun n hn => whole ⟨n, hn⟩
      exact ⟨w, f, h, frac, parseUnits_of_not_whole h frac⟩
  · have none : ∀ w f, ¬DecimalForm (trim a).toList w f := fun w f h => shaped ⟨w, f, h⟩
    exact .inl ⟨none, parseUnits_of_not_form none⟩

theorem parseUnits_lt_of_ok {v : Nat} (h : parseUnits a d = .ok v) : v < 2 ^ 256 := by
  rcases parseUnits_cases a d with ⟨-, failed⟩ | ⟨w, f, n, -, -, ⟨fits, read⟩ | ⟨-, failed⟩⟩ |
      ⟨-, -, -, -, failed⟩
  · rw [failed] at h
    cases h
  · rw [read] at h
    cases h
    exact fits
  · rw [failed] at h
    cases h
  · rw [failed] at h
    cases h

/-- Reading an amount is exact decimal scaling. `parseUnits a d` returns `v` exactly when the
trimmed text is `W` or `W.F` whose worth times `10 ^ d` is the whole number `v`, below
`2 ^ 256`. Otherwise it reports, in this order of precedence, text of another shape, a scaled
worth that is not whole, and a whole one too large for 256 bits. -/
theorem parseUnits_iff_scaled_decimal (a : String) (d : Nat) :
    (∀ v : Nat, parseUnits a d = .ok v ↔
      ∃ w f, DecimalForm (trim a).toList w f ∧ decimalWorth w f * 10 ^ d = v ∧ v < 2 ^ 256) ∧
    (parseUnits a d = .error (.invalidAmount a) ↔ ∀ w f, ¬DecimalForm (trim a).toList w f) ∧
    (parseUnits a d = .error (.precisionLoss a d) ↔
      ∃ w f, DecimalForm (trim a).toList w f ∧ ∀ n : Nat, decimalWorth w f * 10 ^ d ≠ n) ∧
    (parseUnits a d = .error (.overflow a d) ↔
      ∃ w f, DecimalForm (trim a).toList w f ∧
        ∃ n : Nat, decimalWorth w f * 10 ^ d = n ∧ 2 ^ 256 ≤ n) := by
  rcases parseUnits_cases a d with ⟨none, parsed⟩ | ⟨w, f, n, h, hn, outcome⟩ |
    ⟨w, f, h, frac, parsed⟩
  · simp [parsed, none]
  · have shaped : ¬∀ w f, ¬DecimalForm (trim a).toList w f := fun none => none w f h
    rcases outcome with ⟨fits, parsed⟩ | ⟨big, parsed⟩
    · simpa [parsed, h.exists_iff, hn, shaped] using fits
    · simpa [parsed, h.exists_iff, hn, shaped] using big
  · have shaped : ¬∀ w f, ¬DecimalForm (trim a).toList w f := fun none => none w f h
    simp [parsed, h.exists_iff, shaped, frac]

end Parse

end StrategyDeploy.Amount
