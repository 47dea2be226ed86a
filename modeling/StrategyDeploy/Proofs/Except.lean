import StrategyDeploy.Deployment.Basic
import Mathlib.Data.List.Forall2

/-! How computations that may fail run: binds, `mapM` and `forM` over lists. -/
namespace StrategyDeploy

variable {ε α β : Type}

theorem Except.bind_eq_ok {x : Except ε α} {f : α → Except ε β} {b : β} :
    x >>= f = .ok b ↔ ∃ a, x = .ok a ∧ f a = .ok b := by
  cases x <;> simp [bind, Except.bind]

@[simp] theorem Except.ok_bind (a : α) (f : α → Except ε β) : (Except.ok a : Except ε α) >>= f = f a :=
  rfl

theorem Except.bind_of_ok {x : Except ε α} {a : α} (h : x = .ok a) (f : α → Except ε β) :
    x >>= f = f a := by
  subst h
  rfl

theorem Except.bind_of_error {x : Except ε α} {e : ε} (h : x = .error e) (f : α → Except ε β) :
    x >>= f = .error e := by
  subst h
  rfl

theorem Except.map_eq_ok {x : Except ε α} {f : α → β} {b : β} :
    f <$> x = .ok b ↔ ∃ a, x = .ok a ∧ f a = b := by
  cases x <;> simp [Functor.map, Except.map]

theorem Except.map_eq_error {x : Except ε α} {f : α → β} {e : ε} :
    f <$> x = .error e ↔ x = .error e := by
  cases x <;> simp [Functor.map, Except.map]

theorem Except.exists_error_of_ne_ok {x : Except ε α} (h : ∀ a, x ≠ .ok a) : ∃ e, x = .error e := by
  cases x with
  | error e => exact ⟨e, rfl⟩
  | ok a => exact absurd rfl (h a)

theorem List.forM_eq_ok {f : α → Except ε PUnit} {xs : List α} :
    xs.forM f = .ok () ↔ ∀ x ∈ xs, f x = .ok () := by
  induction xs with
  | nil => simp [pure, Except.pure]
  | cons x xs ih =>
      show f x >>= (fun _ => xs.forM f) = .ok () ↔ _
      rw [Except.bind_eq_ok]
      constructor
      · rintro ⟨⟨⟩, hx, rest⟩
        exact List.forall_mem_cons.mpr ⟨hx, ih.mp rest⟩
      · intro all
        obtain ⟨hx, rest⟩ := List.forall_mem_cons.mp all
        exact ⟨(), hx, ih.mpr rest⟩

theorem List.forM_cons_of_ok {f : α → Except ε PUnit} {x : α} {xs : List α} (h : f x = .ok ()) :
    (x :: xs).forM f = xs.forM f := by
  show f x >>= (fun _ => xs.forM f) = _
  rw [Except.bind_of_ok h]

theorem List.mapM_eq_ok_iff {f : α → Except ε β} {xs : List α} {ys : List β} :
    xs.mapM f = .ok ys ↔ List.Forall₂ (fun x y => f x = .ok y) xs ys := by
  induction xs generalizing ys with
  | nil =>
      cases ys with
      | nil => simp [pure, Except.pure]
      | cons y ys => simp [pure, Except.pure]
  | cons x xs ih =>
      rw [List.mapM_cons, Except.bind_eq_ok]
      constructor
      · rintro ⟨y, hx, h⟩
        obtain ⟨ys', rest, h⟩ := Except.bind_eq_ok.mp h
        cases h
        exact List.Forall₂.cons hx (ih.mp rest)
      · intro h
        cases h with
        | cons hx rest => exact ⟨_, hx, Except.bind_eq_ok.mpr ⟨_, ih.mpr rest, rfl⟩⟩

theorem List.exists_mapM_eq_ok {f : α → Except ε β} {xs : List α}
    (h : ∀ x ∈ xs, ∃ y, f x = .ok y) : ∃ ys, xs.mapM f = .ok ys := by
  induction xs with
  | nil => exact ⟨[], rfl⟩
  | cons x xs ih =>
      obtain ⟨⟨y, hx⟩, rest⟩ := List.forall_mem_cons.mp h
      obtain ⟨ys, hys⟩ := ih rest
      exact ⟨y :: ys, List.mapM_eq_ok_iff.mpr (.cons hx (List.mapM_eq_ok_iff.mp hys))⟩

theorem List.ok_of_mapM_eq_ok {f : α → Except ε β} {xs : List α} {ys : List β}
    (h : xs.mapM f = .ok ys) : ∀ x ∈ xs, ∃ y, f x = .ok y := by
  have items := List.mapM_eq_ok_iff.mp h
  clear h
  induction items with
  | nil => simp
  | cons hx _ ih => exact List.forall_mem_cons.mpr ⟨⟨_, hx⟩, ih⟩

theorem List.exists_first_cons_iff {P Q : α → Prop} {x : α} {xs : List α} :
    (∃ pre y post, x :: xs = pre ++ y :: post ∧ (∀ z ∈ pre, P z) ∧ Q y) ↔
      Q x ∨ P x ∧ ∃ pre y post, xs = pre ++ y :: post ∧ (∀ z ∈ pre, P z) ∧ Q y := by
  constructor
  · rintro ⟨pre, y, post, split, before, found⟩
    cases pre with
    | nil =>
      obtain ⟨rfl, rfl⟩ := List.cons_eq_cons.mp split
      exact .inl found
    | cons z pre =>
      obtain ⟨rfl, rfl⟩ := List.cons_eq_cons.mp split
      exact .inr ⟨before x List.mem_cons_self, pre, y, post, rfl,
        fun u hu => before u (List.mem_cons_of_mem _ hu), found⟩
  · rintro (found | ⟨head, pre, y, post, rfl, before, found⟩)
    · exact ⟨[], x, xs, rfl, by simp, found⟩
    · exact ⟨x :: pre, y, post, rfl, List.forall_mem_cons.mpr ⟨head, before⟩, found⟩

theorem Except.bind_cons_eq_error_iff {x : Except ε α} {y : Except ε (List α)} {err : ε} :
    (x >>= fun a => y >>= fun as => pure (a :: as)) = .error err ↔
      x = .error err ∨ (∃ a, x = .ok a) ∧ y = .error err := by
  cases x <;> cases y <;> simp [bind, Except.bind, pure, Except.pure]

theorem List.mapM_eq_error_iff {f : α → Except ε β} {xs : List α} {err : ε} :
    xs.mapM f = .error err ↔
      ∃ pre x post, xs = pre ++ x :: post ∧ (∀ y ∈ pre, ∃ b, f y = .ok b) ∧ f x = .error err := by
  induction xs with
  | nil => simp [pure, Except.pure]
  | cons x xs ih => rw [List.mapM_cons, Except.bind_cons_eq_error_iff, ih, List.exists_first_cons_iff]

theorem Except.bind_eq_error_iff {x : Except ε α} {f : α → Except ε β} {err : ε} :
    x >>= f = .error err ↔ x = .error err ∨ ∃ a, x = .ok a ∧ f a = .error err := by
  cases x <;> simp [bind, Except.bind]

theorem List.forM_eq_error_iff {f : α → Except ε PUnit} {xs : List α} {err : ε} :
    xs.forM f = .error err ↔
      ∃ pre x post, xs = pre ++ x :: post ∧ (∀ y ∈ pre, f y = .ok ()) ∧ f x = .error err := by
  induction xs with
  | nil => simp [pure, Except.pure]
  | cons x xs ih =>
      have unit : ∀ R : Prop, (∃ a, f x = .ok a ∧ R) ↔ f x = .ok () ∧ R :=
        fun R => ⟨fun ⟨⟨⟩, h⟩ => h, fun h => ⟨(), h⟩⟩
      show f x >>= (fun _ => xs.forM f) = .error err ↔ _
      rw [Except.bind_eq_error_iff, ih, List.exists_first_cons_iff, unit]

theorem List.forM_eq_error_of_find? {f : α → Except ε PUnit} {P : α → Bool} {xs : List α} {x : α}
    {err : ε} (first : xs.find? P = some x) (pass : ∀ y ∈ xs, P y = false → f y = .ok ())
    (fail : f x = .error err) : xs.forM f = .error err := by
  obtain ⟨-, pre, post, rfl, before⟩ := List.find?_eq_some_iff_append.mp first
  refine List.forM_eq_error_iff.mpr ⟨pre, x, post, rfl, fun y hy => ?_, fail⟩
  exact pass y (List.mem_append_left _ hy) (by simpa using before y hy)

theorem List.exists_mem_of_mapM_eq_error {f : α → Except ε β} {xs : List α} {err : ε}
    (h : xs.mapM f = .error err) : ∃ x ∈ xs, f x = .error err := by
  obtain ⟨pre, x, post, rfl, -, hx⟩ := List.mapM_eq_error_iff.mp h
  exact ⟨x, List.mem_append_right pre List.mem_cons_self, hx⟩

end StrategyDeploy
