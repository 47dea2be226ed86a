import StrategyDeploy.Session.Store
import Mathlib.Data.List.Nodup

/-! Insertion-ordered maps, and the session entries kept with `upsertFirst`. -/
namespace StrategyDeploy.Session

/-- Keyed entries in which no key occurs twice. -/
structure InsertionMap (α : Type) where
  entries : List (String × α)
  keys_nodup : (entries.map Prod.fst).Nodup

namespace InsertionMap

variable {α : Type}

/-- The keys, in the order they were first set. -/
def keys (m : InsertionMap α) : List String := m.entries.map Prod.fst

theorem nodup_keys (m : InsertionMap α) : m.keys.Nodup := m.keys_nodup

/-- The map with no entries. -/
def empty : InsertionMap α := ⟨[], List.nodup_nil⟩

/-- Entries after setting `k` to `v`: in place when `k` is there, appended when it is not. -/
def setEntries (es : List (String × α)) (k : String) (v : α) : List (String × α) :=
  if k ∈ es.map Prod.fst then es.map fun e => if e.1 = k then (k, v) else e
  else es ++ [(k, v)]

theorem keys_setEntries (es : List (String × α)) (k : String) (v : α) :
    (setEntries es k v).map Prod.fst =
      if k ∈ es.map Prod.fst then es.map Prod.fst else es.map Prod.fst ++ [k] := by
  unfold setEntries
  split
  · rw [List.map_map]
    congr 1
    funext e
    by_cases he : e.1 = k <;> simp [he]
  · simp

theorem nodup_keys_setEntries {es : List (String × α)} (h : (es.map Prod.fst).Nodup)
    (k : String) (v : α) : ((setEntries es k v).map Prod.fst).Nodup := by
  rw [keys_setEntries]
  split
  · exact h
  · next absent =>
      refine List.nodup_append.mpr ⟨h, List.nodup_singleton k, fun a ha b hb => ?_⟩
      rw [List.mem_singleton] at hb
      exact fun same => absent (hb ▸ same ▸ ha)

theorem setEntries_cons_of_ne {e : String × α} {k : String} (hne : e.1 ≠ k)
    (es : List (String × α)) (v : α) :
    setEntries (e :: es) k v = e :: setEntries es k v := by
  have hne' : k ≠ e.1 := Ne.symm hne
  unfold setEntries
  by_cases mem : k ∈ es.map Prod.fst <;> simp [mem, hne, hne']

theorem setEntries_cons_self {es : List (String × α)} {k : String} (absent : k ∉ es.map Prod.fst)
    (old v : α) : setEntries ((k, old) :: es) k v = (k, v) :: es := by
  have keep : ∀ e ∈ es, (if e.1 = k then (k, v) else e) = e := fun e he => by
    have : e.1 ≠ k := fun same => absent (List.mem_map.mpr ⟨e, he, same⟩)
    simp [this]
  simp [setEntries, List.map_congr_left keep]

/-- Sets `k` to `v`. -/
def set (m : InsertionMap α) (k : String) (v : α) : InsertionMap α :=
  ⟨setEntries m.entries k v, nodup_keys_setEntries m.keys_nodup k v⟩

/-- Drops `k`. -/
def erase (m : InsertionMap α) (k : String) : InsertionMap α :=
  ⟨m.entries.filter (·.1 ≠ k), by
    have h := m.keys_nodup.filter fun x => decide (x ≠ k)
    rwa [List.filter_map] at h⟩

/-- The value of `k`. -/
def get? (m : InsertionMap α) (k : String) : Option α := m.entries.lookup k

@[simp] theorem entries_empty : (empty : InsertionMap α).entries = [] := rfl

@[simp] theorem entries_set (m : InsertionMap α) (k : String) (v : α) :
    (m.set k v).entries = setEntries m.entries k v := rfl

@[simp] theorem entries_erase (m : InsertionMap α) (k : String) :
    (m.erase k).entries = m.entries.filter (·.1 ≠ k) := rfl

theorem keys_set (m : InsertionMap α) (k : String) (v : α) :
    (m.set k v).keys = if k ∈ m.keys then m.keys else m.keys ++ [k] :=
  keys_setEntries m.entries k v

theorem mem_keys_set {m : InsertionMap α} {k x : String} {v : α} (h : x ∈ (m.set k v).keys) :
    x ∈ m.keys ∨ x = k := by
  rw [keys_set] at h
  split at h
  · exact .inl h
  · simpa using h

theorem mem_keys_foldl_set {m : InsertionMap α} {ps : List (String × α)} {x : String}
    (h : x ∈ (ps.foldl (fun m p => m.set p.1 p.2) m).keys) : x ∈ m.keys ∨ x ∈ ps.map Prod.fst := by
  induction ps generalizing m with
  | nil => exact .inl h
  | cons p ps ih =>
      rcases ih h with old | later
      · rcases mem_keys_set old with before | rfl
        · exact .inl before
        · exact .inr List.mem_cons_self
      · exact .inr (List.mem_cons_of_mem _ later)

theorem mem_keys_erase {m : InsertionMap α} {k x : String} (h : x ∈ (m.erase k).keys) :
    x ∈ m.keys := by
  simp only [keys, entries_erase, List.mem_map, List.mem_filter] at h ⊢
  obtain ⟨e, ⟨he, -⟩, rfl⟩ := h
  exact ⟨e, he, rfl⟩

end InsertionMap

section Upsert

variable {α β : Type}

theorem mem_upsertFirst {hit : β → Bool} {update : β → β} {fresh y : β} {xs : List β}
    (h : y ∈ upsertFirst hit update fresh xs) :
    y ∈ xs ∨ (∃ x ∈ xs, hit x = true ∧ y = update x) ∨ y = fresh := by
  induction xs with
  | nil => simpa [upsertFirst] using h
  | cons x xs ih =>
      unfold upsertFirst at h
      split at h
      · next hx =>
          rcases List.mem_cons.mp h with rfl | later
          · exact .inr (.inl ⟨x, List.mem_cons_self, hx, rfl⟩)
          · exact .inl (List.mem_cons_of_mem x later)
      · rcases List.mem_cons.mp h with rfl | later
        · exact .inl List.mem_cons_self
        · rcases ih later with old | ⟨x', hx', hit', rfl⟩ | new
          · exact .inl (List.mem_cons_of_mem x old)
          · exact .inr (.inl ⟨x', List.mem_cons_of_mem x hx', hit', rfl⟩)
          · exact .inr (.inr new)

theorem map_upsertFirst (pr : β → String × α) {hit : β → Bool} {update : β → β} {fresh : β}
    {k : String} {v : α} (hhit : ∀ x, hit x = decide ((pr x).1 = k))
    (hupdate : ∀ x, (pr x).1 = k → pr (update x) = (k, v)) (hfresh : pr fresh = (k, v))
    {xs : List β} (hnodup : (xs.map fun x => (pr x).1).Nodup) :
    (upsertFirst hit update fresh xs).map pr = InsertionMap.setEntries (xs.map pr) k v := by
  induction xs with
  | nil => simp [upsertFirst, InsertionMap.setEntries, hfresh]
  | cons x xs ih =>
      have rest := ih (List.nodup_cons.mp hnodup).2
      by_cases hx : (pr x).1 = k
      · have absent : k ∉ (xs.map pr).map Prod.fst := by
          simpa [hx] using (List.nodup_cons.mp hnodup).1
        have here : pr x = (k, (pr x).2) := Prod.ext hx rfl
        simp only [upsertFirst, hhit, hx, decide_true, if_true, List.map_cons, hupdate x hx]
        rw [here, InsertionMap.setEntries_cons_self absent]
      · simp only [upsertFirst, hhit, hx, decide_false, Bool.false_eq_true, if_false,
          List.map_cons, rest]
        exact (InsertionMap.setEntries_cons_of_ne hx _ v).symm

end Upsert

end StrategyDeploy.Session
