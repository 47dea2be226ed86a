import StrategyDeploy.Evm.Abi
import StrategyDeploy.Proofs.Bytes.Layout

/-! Reading ABI encodings back. -/
namespace StrategyDeploy.Evm

open StrategyDeploy.Bytes

/-- The heads of a sequence whose next dynamic part starts `start` bytes in. -/
def headsFrom (start : Nat) : List (Bool × List UInt8) → List UInt8
  | [] => []
  | (dyn, enc) :: parts =>
    if dyn then numberWord start ++ headsFrom (start + enc.length) parts
    else enc ++ headsFrom start parts

/-- The tails of a sequence: the encodings of its dynamic parts, in order. -/
def tailsOf : List (Bool × List UInt8) → List UInt8
  | [] => []
  | (dyn, enc) :: parts => if dyn then enc ++ tailsOf parts else tailsOf parts

/-- The bytes that the heads of a sequence take. -/
def headSize (parts : List (Bool × List UInt8)) : Nat :=
  (parts.map fun part => if part.1 then 32 else part.2.length).sum

/-- The number in the word at `pos`, if the data holds the whole word. -/
def wordAt? (data : List UInt8) (pos : Nat) : Option Nat :=
  let word := (data.drop pos).take 32
  if word.length = 32 then some (beValue word) else none

/-- The byte string whose length word stands at `pos`. -/
def bytesAt? (data : List UInt8) (pos : Nat) : Option (List UInt8) := do
  let len ← wordAt? data pos
  let body := (data.drop (pos + 32)).take len
  if body.length = len then some body else none

/-- The address in the word at `pos`: a number that fits in twenty bytes. -/
def addressAt? (data : List UInt8) (pos : Nat) : Option Address := do
  let n ← wordAt? data pos
  if n < 2 ^ 160 then Fixed.ofBytes? (beBytes 20 n) else none

/-- The boolean in the word at `pos`: zero or one. -/
def boolAt? (data : List UInt8) (pos : Nat) : Option Bool := do
  let n ← wordAt? data pos
  if n = 0 then some false else if n = 1 then some true else none

/-- `count` dynamic items whose offsets stand in the words from `head` on, each offset counted
from `base`. -/
def itemsAt? {α : Type} (item : List UInt8 → Nat → Option α) (data : List UInt8) (base : Nat) :
    Nat → Nat → Option (List α)
  | 0, _ => some []
  | count + 1, head => do
    let offset ← wordAt? data head
    let x ← item data (base + offset)
    let rest ← itemsAt? item data base count (head + 32)
    return x :: rest

/-- The dynamic array of dynamic items whose length word stands at `pos`; its offset words must
lie within the data. -/
def arrayAt? {α : Type} (item : List UInt8 → Nat → Option α) (data : List UInt8) (pos : Nat) :
    Option (List α) := do
  let count ← wordAt? data pos
  if pos + 32 + 32 * count ≤ data.length then itemsAt? item data (pos + 32) count (pos + 32)
  else none

section Layout

@[simp] theorem length_numberWord (n : Nat) : (numberWord n).length = 32 := length_beBytes 32 n

theorem foldl_assemble (size : Nat) (parts : List (Bool × List UInt8)) (heads tails : List UInt8) :
    parts.foldl (fun acc part => if part.1 = true then
        (acc.1 ++ numberWord (size + acc.2.length), acc.2 ++ part.2) else (acc.1 ++ part.2, acc.2))
      (heads, tails) = (heads ++ headsFrom (size + tails.length) parts, tails ++ tailsOf parts) := by
  induction parts generalizing heads tails with
  | nil => simp [headsFrom, tailsOf]
  | cons part parts ih =>
      obtain ⟨dyn, enc⟩ := part
      cases dyn with
      | true =>
          rw [List.foldl_cons, if_pos rfl, ih]
          simp [headsFrom, tailsOf, Nat.add_assoc]
      | false =>
          rw [List.foldl_cons, if_neg Bool.false_ne_true, ih]
          simp [headsFrom, tailsOf]

theorem assemble_eq (parts : List (Bool × List UInt8)) :
    assemble parts = headsFrom (headSize parts) parts ++ tailsOf parts := by
  unfold assemble
  simp only []
  rw [foldl_assemble]
  simp [headSize, List.sum_eq_foldr]

theorem length_headsFrom (start : Nat) (parts : List (Bool × List UInt8)) :
    (headsFrom start parts).length = headSize parts := by
  induction parts generalizing start with
  | nil => simp [headsFrom, headSize]
  | cons part parts ih =>
      obtain ⟨dyn, enc⟩ := part
      have rest := ih
      simp only [headSize] at rest
      cases dyn <;> simp [headsFrom, headSize, rest]

theorem encodeAll_eq_map (vs : List AbiValue) :
    AbiValue.encodeAll vs = vs.map fun v => (v.isDynamic, v.encode) := by
  induction vs with
  | nil => simp [AbiValue.encodeAll]
  | cons v vs ih => simp [AbiValue.encodeAll, ih]

variable {α : Type} (f : α → List UInt8)

theorem headSize_dynamic (xs : List α) :
    headSize (xs.map fun x => (true, f x)) = 32 * xs.length := by
  induction xs with
  | nil => simp [headSize]
  | cons x xs ih =>
      simp only [headSize, List.map_map] at ih ⊢
      simp [ih, Nat.mul_succ, Nat.add_comm]

theorem tailsOf_dynamic (xs : List α) :
    tailsOf (xs.map fun x => (true, f x)) = (xs.map f).flatten := by
  induction xs with
  | nil => simp [tailsOf]
  | cons x xs ih => simp [tailsOf, ih]

theorem encode_array_dynamic {enc : α → AbiValue} (hdyn : ∀ x, (enc x).isDynamic = true)
    (xs : List α) :
    (AbiValue.array (xs.map enc)).encode =
      numberWord xs.length ++
        (headsFrom (32 * xs.length) (xs.map fun x => (true, (enc x).encode)) ++
          (xs.map fun x => (enc x).encode).flatten) := by
  have parts : AbiValue.encodeAll (xs.map enc) = xs.map fun x => (true, (enc x).encode) := by
    simp [encodeAll_eq_map, hdyn]
  rw [AbiValue.encode, parts, assemble_eq, headSize_dynamic, tailsOf_dynamic, List.length_map]

end Layout

section Reading

variable {data : List UInt8} {pos : Nat} {bs : List UInt8}

theorem wordAt?_of_standsAt {n : Nat} (hn : n < 2 ^ 256)
    (h : StandsAt ⟨data.toArray⟩ pos (numberWord n)) : wordAt? data pos = some n := by
  have word := h.take_drop
  rw [length_numberWord] at word
  have bound : (256 : Nat) ^ 32 = 2 ^ 256 := by norm_num
  simp only [wordAt?, word, length_numberWord, if_true]
  rw [numberWord, beValue_beBytes, bound, Nat.mod_eq_of_lt hn]

theorem bytesAt?_of_standsAt (hsize : data.length < 2 ^ 256)
    (h : StandsAt ⟨data.toArray⟩ pos (numberWord bs.length ++ bs)) : bytesAt? data pos = some bs := by
  have fits := h.lt_of_length_lt hsize
  rw [List.length_append, length_numberWord] at fits
  have len := wordAt?_of_standsAt (by omega) h.left
  have body := h.right.take_drop
  rw [length_numberWord] at body
  simp only [bytesAt?, len, Option.bind_eq_bind, Option.bind_some, body, if_true]

theorem addressAt?_of_standsAt {a : Address} (h : StandsAt ⟨data.toArray⟩ pos (numberWord a.toNat)) :
    addressAt? data pos = some a := by
  have fits : a.toNat < 2 ^ 160 := by
    have low := beValue_lt a.bytes
    rw [a.length_eq] at low
    have bound : (256 : Nat) ^ 20 = 2 ^ 160 := by norm_num
    rw [bound] at low
    exact low
  have word := wordAt?_of_standsAt (by omega) h
  have back : beBytes 20 a.toNat = a.bytes := by
    have := beBytes_beValue a.bytes
    rwa [a.length_eq] at this
  simp only [addressAt?, word, Option.bind_eq_bind, Option.bind_some, if_pos fits, back,
    Fixed.ofBytes?_bytes]

theorem boolAt?_of_standsAt {b : Bool}
    (h : StandsAt ⟨data.toArray⟩ pos (numberWord (if b then 1 else 0))) : boolAt? data pos = some b := by
  have word := wordAt?_of_standsAt (by cases b <;> decide) h
  cases b <;> simp [boolAt?, word]

variable {α : Type} {item : List UInt8 → Nat → Option α}

theorem itemsAt?_of_mem_standsAt {enc : α → List UInt8} {base : Nat}
    (hsize : data.length < 2 ^ 256) {xs : List α}
    (hitem : ∀ x ∈ xs, ∀ pos, StandsAt ⟨data.toArray⟩ pos (enc x) → item data pos = some x)
    {head start : Nat}
    (heads : StandsAt ⟨data.toArray⟩ head (headsFrom start (xs.map fun x => (true, enc x))))
    (tails : StandsAt ⟨data.toArray⟩ (base + start) (xs.map enc).flatten) :
    itemsAt? item data base xs.length head = some xs := by
  induction xs generalizing head start with
  | nil => rfl
  | cons x xs ih =>
      simp only [List.map_cons, headsFrom, if_true] at heads
      simp only [List.map_cons, List.flatten_cons] at tails
      have fits := tails.lt_of_length_lt hsize
      have offset := wordAt?_of_standsAt (by omega) heads.left
      have first := hitem x List.mem_cons_self _ tails.left
      have later := tails.right
      rw [Nat.add_assoc] at later
      have rest := ih (fun y hy => hitem y (List.mem_cons_of_mem _ hy))
        (by simpa using heads.right) later
      simp [itemsAt?, offset, first, rest]

theorem arrayAt?_of_mem_standsAt {enc : α → AbiValue} (hsize : data.length < 2 ^ 256)
    (hdyn : ∀ x, (enc x).isDynamic = true) {xs : List α}
    (hitem : ∀ x ∈ xs, ∀ pos, StandsAt ⟨data.toArray⟩ pos (enc x).encode → item data pos = some x)
    (h : StandsAt ⟨data.toArray⟩ pos (AbiValue.array (xs.map enc)).encode) :
    arrayAt? item data pos = some xs := by
  rw [encode_array_dynamic hdyn] at h
  have heads := h.right.left
  have tails := h.right.right
  rw [length_numberWord] at heads tails
  rw [length_headsFrom, headSize_dynamic] at tails
  have within := heads.le_size
  rw [size_mk_toArray, length_headsFrom, headSize_dynamic] at within
  have count := wordAt?_of_standsAt (by omega) h.left
  simp only [arrayAt?, count, Option.bind_eq_bind, Option.bind_some]
  rw [if_pos (by omega)]
  exact itemsAt?_of_mem_standsAt hsize hitem heads tails

theorem arrayAt?_of_standsAt {enc : α → AbiValue} (hsize : data.length < 2 ^ 256)
    (hdyn : ∀ x, (enc x).isDynamic = true)
    (hitem : ∀ x pos, StandsAt ⟨data.toArray⟩ pos (enc x).encode → item data pos = some x)
    {xs : List α} (h : StandsAt ⟨data.toArray⟩ pos (AbiValue.array (xs.map enc)).encode) :
    arrayAt? item data pos = some xs :=
  arrayAt?_of_mem_standsAt hsize hdyn (fun x _ => hitem x) h

end Reading

end StrategyDeploy.Evm
