import StrategyDeploy.Bytes.Hex
import Mathlib.Data.List.Infix
import Mathlib.Tactic.Ring

/-! Bytes at a position. -/
namespace StrategyDeploy.Bytes

theorem toList_loop (bs : ByteArray) (i : Nat) (r : List UInt8) :
    ByteArray.toList.loop bs i r = r.reverse ++ bs.data.toList.drop i := by
  fun_induction ByteArray.toList.loop bs i r with
  | case1 i r hi ih =>
      have hi' : i < bs.data.toList.length := by simpa using hi
      rw [ih, List.drop_eq_getElem_cons hi']
      simp only [List.reverse_cons, List.append_assoc, List.singleton_append, ByteArray.get!,
        Array.getElem_toList]
      rw [getElem!_pos bs.data i (by simpa using hi)]
  | case2 i r hi =>
      have past : bs.data.toList.length ≤ i := by simpa using hi
      simp [List.drop_eq_nil_of_le past]

@[simp] theorem toList_eq_data_toList (bs : ByteArray) : bs.toList = bs.data.toList := by
  simp [ByteArray.toList, toList_loop]

@[simp] theorem mk_data_toList (bs : ByteArray) : ByteArray.mk bs.data.toList.toArray = bs := rfl

theorem size_eq_length (bs : ByteArray) : bs.size = bs.data.toList.length := by simp

theorem get!_eq_getD (bs : ByteArray) (i : Nat) : bs.get! i = bs.data.toList.getD i 0 := by
  rw [List.getD_eq_getElem?_getD, List.getD_getElem?]
  split
  · next hi =>
      simp only [ByteArray.get!, Array.getElem_toList]
      exact getElem!_pos bs.data i (by simpa using hi)
  · next hi => exact getElem!_neg bs.data i (by simpa using hi)

theorem extract_data_toList (bs : ByteArray) (a b : Nat) :
    (bs.extract a b).data.toList = (bs.data.toList.drop a).take (b - a) := by
  simp [ByteArray.data_extract, Array.toList_extract, List.extract]

/-- The bytes `bs` are what `data` holds from `pos` on, and `pos` lies within `data`. -/
def StandsAt (data : ByteArray) (pos : Nat) (bs : List UInt8) : Prop :=
  pos ≤ data.size ∧ bs <+: data.data.toList.drop pos

section StandsAt

variable {data : ByteArray} {pos : Nat} {bs : List UInt8}

theorem StandsAt.le_size (h : StandsAt data pos bs) : pos + bs.length ≤ data.size := by
  have within := h.2.length_le
  simp only [List.length_drop, Array.length_toList] at within
  have : data.size = data.data.size := rfl
  have := h.1
  omega

theorem standsAt_append {a b : List UInt8} :
    StandsAt data pos (a ++ b) ↔ StandsAt data pos a ∧ StandsAt data (pos + a.length) b := by
  constructor
  · intro h
    have fits := h.le_size
    obtain ⟨start, rest, hrest⟩ := h
    simp only [List.length_append] at fits
    refine ⟨⟨start, b ++ rest, by simpa using hrest⟩, ⟨by omega, rest, ?_⟩⟩
    rw [← List.drop_drop, ← hrest, List.append_assoc, List.drop_left]
  · rintro ⟨⟨start, rest, ha⟩, ⟨-, rest', hb⟩⟩
    refine ⟨start, rest', ?_⟩
    have split := List.take_append_drop a.length (data.data.toList.drop pos)
    have front : (data.data.toList.drop pos).take a.length = a := by
      rw [← ha, List.take_left]
    rw [List.drop_drop, ← hb] at split
    rw [← split, front, List.append_assoc]

theorem StandsAt.left {a b : List UInt8} (h : StandsAt data pos (a ++ b)) : StandsAt data pos a :=
  (standsAt_append.mp h).1

theorem StandsAt.right {a b : List UInt8} (h : StandsAt data pos (a ++ b)) :
    StandsAt data (pos + a.length) b :=
  (standsAt_append.mp h).2

theorem StandsAt.get! (h : StandsAt data pos bs) {i : Nat} (hi : i < bs.length) :
    data.get! (pos + i) = bs[i] := by
  obtain ⟨-, rest, h⟩ := h
  have at_i : (data.data.toList.drop pos)[i]? = some bs[i] := by
    rw [← h, List.getElem?_append_left hi, List.getElem?_eq_getElem hi]
  rw [get!_eq_getD, List.getD_eq_getElem?_getD, ← List.getElem?_drop, at_i, Option.getD_some]

theorem StandsAt.getElem? (h : StandsAt data pos bs) {i : Nat} (hi : i < bs.length) :
    data[pos + i]? = some bs[i] := by
  have within : pos + i < data.size := by have := h.le_size; omega
  rw [getElem?_pos data (pos + i) within, ← h.get! hi, ByteArray.getElem_eq_getElem_data]
  simp only [ByteArray.get!]
  rw [getElem!_pos data.data (pos + i) within]

theorem StandsAt.extract (h : StandsAt data pos bs) :
    data.extract pos (pos + bs.length) = ⟨bs.toArray⟩ := by
  apply ByteArray.ext
  apply Array.toList_inj.mp
  obtain ⟨-, rest, h⟩ := h
  rw [extract_data_toList, ← h, Nat.add_sub_cancel_left, List.take_left]

theorem StandsAt.at {pos' : Nat} (h : StandsAt data pos bs) (same : pos = pos') :
    StandsAt data pos' bs :=
  same ▸ h

theorem standsAt_mk (bs : List UInt8) : StandsAt ⟨bs.toArray⟩ 0 bs :=
  ⟨Nat.zero_le _, [], by simp⟩

end StandsAt

section OfList

variable {data : List UInt8} {pos : Nat} {bs : List UInt8}

theorem size_mk_toArray (data : List UInt8) : (ByteArray.mk data.toArray).size = data.length := by
  simp [ByteArray.size]

theorem StandsAt.take_drop (h : StandsAt ⟨data.toArray⟩ pos bs) :
    (data.drop pos).take bs.length = bs := by
  obtain ⟨-, hpre⟩ := h
  exact (List.prefix_iff_eq_take.mp (by simpa using hpre)).symm

theorem StandsAt.lt_of_length_lt {bound : Nat} (hsize : data.length < bound)
    (h : StandsAt ⟨data.toArray⟩ pos bs) : pos + bs.length < bound := by
  have within := h.le_size
  rw [size_mk_toArray] at within
  omega

end OfList

theorem length_le_length_flatMap {α : Type} {f : α → List UInt8} {l : List α}
    (hne : ∀ a ∈ l, f a ≠ []) : l.length ≤ (l.flatMap f).length := by
  induction l with
  | nil => simp
  | cons a l ih =>
      obtain ⟨here, rest⟩ := List.forall_mem_cons.mp hne
      have first : 0 < (f a).length := List.length_pos_iff.mpr here
      have later := ih rest
      simp only [List.length_cons, List.flatMap_cons, List.length_append]
      omega

theorem length_beBytes (width n : Nat) : (beBytes width n).length = width := by
  simp [beBytes]

theorem beValue_foldl (bs : List UInt8) (acc : Nat) :
    bs.foldl (fun acc b => 256 * acc + b.toNat) acc = acc * 256 ^ bs.length + beValue bs := by
  induction bs generalizing acc with
  | nil => simp [beValue]
  | cons b bs ih =>
      simp only [beValue, List.foldl_cons, List.length_cons]
      rw [ih, ih (256 * 0 + b.toNat), Nat.pow_succ]
      ring

theorem beValue_cons (b : UInt8) (bs : List UInt8) :
    beValue (b :: bs) = b.toNat * 256 ^ bs.length + beValue bs := by
  simp only [beValue, List.foldl_cons]
  rw [beValue_foldl]
  simp [beValue]

theorem beValue_beBytes (width n : Nat) : beValue (beBytes width n) = n % 256 ^ width := by
  induction width with
  | zero => simp [beBytes, beValue, Nat.mod_one]
  | succ w ih =>
      have split : beBytes (w + 1) n = (n / 256 ^ w % 256).toUInt8 :: beBytes w n := by
        simp [beBytes, List.range_succ]
      rw [split, beValue_cons, length_beBytes, ih, Nat.mod_pow_succ]
      simp only [Nat.toUInt8_eq, UInt8.toNat_ofNat', Nat.mod_mod]
      ring

theorem beValue_lt (bs : List UInt8) : beValue bs < 256 ^ bs.length := by
  induction bs with
  | nil => simp [beValue]
  | cons b bs ih =>
      have top : b.toNat + 1 ≤ 256 := b.toNat_lt
      have room : (b.toNat + 1) * 256 ^ bs.length ≤ 256 * 256 ^ bs.length :=
        Nat.mul_le_mul_right _ top
      rw [beValue_cons, List.length_cons, Nat.pow_succ, Nat.mul_comm _ 256]
      rw [Nat.succ_mul] at room
      omega

theorem beValue_inj {xs ys : List UInt8} (hlen : xs.length = ys.length)
    (h : beValue xs = beValue ys) : xs = ys := by
  induction xs generalizing ys with
  | nil =>
      cases ys with
      | nil => rfl
      | cons y ys => simp at hlen
  | cons x xs ih =>
      cases ys with
      | nil => simp at hlen
      | cons y ys =>
          have same : xs.length = ys.length := by simpa using hlen
          have low_x := beValue_lt xs
          have low_y := beValue_lt ys
          rw [beValue_cons, beValue_cons, same] at h
          rw [same] at low_x
          have weight : 0 < 256 ^ ys.length := Nat.pow_pos (by decide)
          have top : x.toNat = y.toNat := by
            have quotient := congrArg (· / 256 ^ ys.length) h
            simp only [Nat.mul_comm _ (256 ^ ys.length), Nat.mul_add_div weight,
              Nat.div_eq_of_lt low_x, Nat.div_eq_of_lt low_y, Nat.add_zero] at quotient
            exact quotient
          have rest : beValue xs = beValue ys := by rw [top] at h; omega
          rw [UInt8.toNat_inj.mp top, ih same rest]

theorem beBytes_beValue (bs : List UInt8) : beBytes bs.length (beValue bs) = bs :=
  beValue_inj (length_beBytes _ _) (by rw [beValue_beBytes, Nat.mod_eq_of_lt (beValue_lt bs)])

end StrategyDeploy.Bytes
