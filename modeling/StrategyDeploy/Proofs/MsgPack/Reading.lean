import StrategyDeploy.MsgPack.Write
import StrategyDeploy.MsgPack.Read
import StrategyDeploy.Proofs.Bytes.Layout

/-! Reading what was written. -/
namespace StrategyDeploy.MsgPack

open StrategyDeploy.Bytes

theorem beBytes_one (n : Nat) : beBytes 1 n = [n.toUInt8] := by
  simp only [beBytes, List.range_one, List.reverse_singleton, List.map_singleton, Nat.pow_eq,
    pow_zero, Nat.div_one, List.cons.injEq, and_true]
  apply UInt8.toNat_inj.mp
  simp

theorem writeArray_two (a b : List UInt8) : writeArray [a, b] = arrayHeader 2 ++ (a ++ b) := by
  simp [writeArray]

theorem writeArray_three (a b c : List UInt8) :
    writeArray [a, b, c] = arrayHeader 3 ++ (a ++ (b ++ c)) := by
  simp [writeArray]

theorem writeArray_ne_nil (items : List (List UInt8)) : writeArray items ≠ [] := by
  unfold writeArray arrayHeader
  split_ifs <;> simp

section Reading

variable {data : ByteArray} {pos : Nat}

theorem field_of_standsAt {bs : List UInt8} (h : StandsAt data pos bs) :
    field data pos bs.length = some (beValue bs) := by
  have fits := h.le_size
  have bytes : (List.range bs.length).map (fun k => data.get! (pos + k)) = bs := by
    apply List.ext_getElem (by simp)
    intro i hi _
    simp only [List.getElem_map, List.getElem_range]
    exact h.get! (by simpa using hi)
  calc field data pos bs.length
      = some (((List.range bs.length).map fun k => data.get! (pos + k)).foldl
          (fun acc b => 256 * acc + b.toNat) 0) := by
        simp only [field, List.foldl_map]
        rw [if_neg (by omega)]
    _ = some (beValue bs) := by rw [bytes]; rfl

theorem fields_of_standsAt {m : UInt8} {w n : Nat} (h : StandsAt data pos (m :: beBytes w n)) :
    field data pos 1 = some m.toNat ∧ field data (pos + 1) w = some (n % 256 ^ w) := by
  have marker := field_of_standsAt (StandsAt.left (a := [m]) (b := beBytes w n) h)
  have len := field_of_standsAt (StandsAt.right (a := [m]) (b := beBytes w n) h)
  simp only [beValue, List.foldl_cons, List.foldl_nil, List.length_singleton] at marker
  rw [length_beBytes, beValue_beBytes] at len
  exact ⟨by simpa using marker, len⟩

theorem field_marker {m : UInt8} (h : StandsAt data pos [m]) : field data pos 1 = some m.toNat :=
  (fields_of_standsAt (w := 0) (n := 0) h).1

theorem readHead_strHeader {n : Nat} (hn : n < 2 ^ 32) (h : StandsAt data pos (strHeader n)) :
    readHead data pos = some (.str n, pos + (strHeader n).length) := by
  unfold strHeader at h ⊢
  split_ifs at h ⊢ with short small medium
  · have byte : (0xa0 + n).toUInt8.toNat = 0xa0 + n := by simp; omega
    have marker := field_marker h
    simp only [readHead, marker, byte, Option.bind_eq_bind, Option.bind_some]
    rw [if_neg (by omega), if_neg (by omega), if_neg (by omega), if_pos (by omega)]
    simp
  · rw [← beBytes_one] at h ⊢
    obtain ⟨marker, len⟩ := fields_of_standsAt h
    simp only [readHead, marker, len, Option.bind_eq_bind, Option.bind_some]
    simp [length_beBytes]
    omega
  · obtain ⟨marker, len⟩ := fields_of_standsAt h
    simp only [readHead, marker, len, Option.bind_eq_bind, Option.bind_some]
    simp [length_beBytes]
    omega
  · obtain ⟨marker, len⟩ := fields_of_standsAt h
    simp only [readHead, marker, len, Option.bind_eq_bind, Option.bind_some]
    simp [length_beBytes]
    omega

theorem readHead_binHeader {n : Nat} (hn : n < 2 ^ 32) (h : StandsAt data pos (binHeader n)) :
    readHead data pos = some (.bin n, pos + (binHeader n).length) := by
  unfold binHeader at h ⊢
  split_ifs at h ⊢ with small medium
  · rw [← beBytes_one] at h ⊢
    obtain ⟨marker, len⟩ := fields_of_standsAt h
    simp only [readHead, marker, len, Option.bind_eq_bind, Option.bind_some]
    simp [length_beBytes]
    omega
  · obtain ⟨marker, len⟩ := fields_of_standsAt h
    simp only [readHead, marker, len, Option.bind_eq_bind, Option.bind_some]
    simp [length_beBytes]
    omega
  · obtain ⟨marker, len⟩ := fields_of_standsAt h
    simp only [readHead, marker, len, Option.bind_eq_bind, Option.bind_some]
    simp [length_beBytes]
    omega

theorem readHead_arrayHeader {n : Nat} (hn : n < 2 ^ 32) (h : StandsAt data pos (arrayHeader n)) :
    readHead data pos = some (.array n, pos + (arrayHeader n).length) := by
  unfold arrayHeader at h ⊢
  split_ifs at h ⊢ with short medium
  · have byte : (0x90 + n).toUInt8.toNat = 0x90 + n := by simp; omega
    have marker := field_marker h
    simp only [readHead, marker, byte, Option.bind_eq_bind, Option.bind_some]
    rw [if_neg (by omega), if_neg (by omega), if_pos (by omega)]
    simp
  · obtain ⟨marker, len⟩ := fields_of_standsAt h
    simp only [readHead, marker, len, Option.bind_eq_bind, Option.bind_some]
    simp [length_beBytes]
    omega
  · obtain ⟨marker, len⟩ := fields_of_standsAt h
    simp only [readHead, marker, len, Option.bind_eq_bind, Option.bind_some]
    simp [length_beBytes]
    omega

theorem slice_of_standsAt {bs : List UInt8} (h : StandsAt data pos bs) :
    slice data pos bs.length = some ⟨bs.toArray⟩ := by
  have fits := h.le_size
  unfold slice
  rw [if_neg (by omega), h.extract]

theorem readText_writeStr {s : String} (hsize : data.size < 2 ^ 32)
    (h : StandsAt data pos (writeStr s)) : readText data pos = some (s, pos + (writeStr s).length) := by
  have fits := h.le_size
  have len : s.toUTF8.toList.length = s.utf8ByteSize := by simp [String.size_toByteArray]
  have hn : s.utf8ByteSize < 2 ^ 32 := by
    simp only [writeStr, List.length_append, len] at fits
    omega
  have body := slice_of_standsAt h.right
  rw [len] at body
  have text : String.fromUTF8? ⟨s.toUTF8.toList.toArray⟩ = some s := by
    simp [String.fromUTF8?, s.isValidUTF8]
    rfl
  simp only [readText, readHead_strHeader hn h.left, body, text, Option.bind_eq_bind,
    Option.bind_some, writeStr, List.length_append, len, Nat.add_assoc]

theorem readFixed_writeBin {n : Nat} (f : Fixed n) (hsize : data.size < 2 ^ 32)
    (h : StandsAt data pos (writeBin f.bytes)) :
    readFixed n data pos = some (f, pos + (writeBin f.bytes).length) := by
  have fits := h.le_size
  have hn : f.bytes.length < 2 ^ 32 := by
    simp only [writeBin, List.length_append] at fits
    omega
  have body := slice_of_standsAt h.right
  simp only [readFixed, readHead_binHeader hn h.left, body, Option.bind_eq_bind, Option.bind_some,
    toList_eq_data_toList, Fixed.ofBytes?_bytes, writeBin, List.length_append,
    Nat.add_assoc]

theorem readArrayOf_arrayHeader {n : Nat} (hn : n < 2 ^ 32) (h : StandsAt data pos (arrayHeader n)) :
    readArrayOf n data pos = some ((), pos + (arrayHeader n).length) := by
  simp [readArrayOf, readHead_arrayHeader hn h]

variable {α : Type} {item : Decode α} {enc : α → List UInt8}

theorem readItems_of_standsAt {xs : List α}
    (hitem : ∀ x ∈ xs, ∀ p, StandsAt data p (enc x) → item data p = some (x, p + (enc x).length)) :
    ∀ {pos : Nat} (acc : List α), StandsAt data pos (xs.map enc).flatten →
      readItems item data xs.length pos acc =
        some (acc.reverse ++ xs, pos + (xs.map enc).flatten.length) := by
  induction xs with
  | nil => intro pos acc _; simp [readItems]
  | cons x xs ih =>
      intro pos acc h
      obtain ⟨first, rest⟩ := List.forall_mem_cons.mp hitem
      simp only [List.map_cons, List.flatten_cons] at h
      simp only [List.length_cons, readItems, first pos h.left, Option.bind_eq_bind,
        Option.bind_some]
      rw [ih rest _ h.right]
      simp [Nat.add_assoc]

theorem readList_writeArray {xs : List α} (hsize : data.size < 2 ^ 32)
    (hne : ∀ x ∈ xs, enc x ≠ [])
    (hitem : ∀ x ∈ xs, ∀ p, StandsAt data p (enc x) → item data p = some (x, p + (enc x).length))
    (h : StandsAt data pos (writeArray (xs.map enc))) :
    readList item data pos = some (xs, pos + (writeArray (xs.map enc)).length) := by
  have fits := h.le_size
  have many : xs.length ≤ (xs.map enc).flatten.length := by
    simpa [List.flatMap_def] using length_le_length_flatMap hne
  have hn : xs.length < 2 ^ 32 := by
    simp only [writeArray, List.length_append, List.length_map] at fits
    omega
  have head := readHead_arrayHeader hn (List.length_map (f := enc) ▸ h.left)
  have items := readItems_of_standsAt hitem [] h.right
  rw [List.length_map] at items
  simp only [readList, head, Option.bind_eq_bind, Option.bind_some, items, writeArray,
    List.length_append, List.length_map, List.reverse_nil, List.nil_append, Nat.add_assoc]

end Reading

end StrategyDeploy.MsgPack
