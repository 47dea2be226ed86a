import StrategyDeploy.Meta.Document
import StrategyDeploy.Proofs.Bytes.Layout

/-! Reading a meta document back as CBOR (RFC 8949). -/
namespace StrategyDeploy.Meta

open StrategyDeploy.Bytes

/-- A CBOR data item. Major type 7 (simple values and floats) is kept by its argument. -/
inductive Cbor where
  | unsigned (n : Nat)
  | negative (n : Nat)
  | bytes (b : List UInt8)
  | text (s : String)
  | array (items : List Cbor)
  | map (entries : List (Cbor × Cbor))
  | tag (n : Nat) (item : Cbor)
  | simple (n : Nat)

/-- What a head says: the major type, the argument, and how many bytes after the initial byte
hold the argument. -/
structure Head where
  major : Nat
  argument : Nat
  width : Nat

def argumentWidth? (info : Nat) : Option Nat :=
  if info = 24 then some 1 else if info = 25 then some 2 else if info = 26 then some 4
  else if info = 27 then some 8 else none

def readHead? : List UInt8 → Option (Head × List UInt8)
  | [] => none
  | b :: rest =>
    if b.toNat % 32 < 24 then some (⟨b.toNat / 32, b.toNat % 32, 0⟩, rest)
    else match argumentWidth? (b.toNat % 32) with
      | some w =>
        if w ≤ rest.length then some (⟨b.toNat / 32, beValue (rest.take w), w⟩, rest.drop w)
        else none
      | none => none

/-- The fewest bytes after the initial byte that can hold `n`. -/
def shortestWidth (n : Nat) : Nat :=
  if n < 24 then 0 else if n < 2 ^ 8 then 1 else if n < 2 ^ 16 then 2 else if n < 2 ^ 32 then 4
  else 8

def readSeq {α : Type} (read : List UInt8 → Option (α × List UInt8)) :
    Nat → List UInt8 → Option (List α × List UInt8)
  | 0, bytes => some ([], bytes)
  | k + 1, bytes => do
    let (x, rest) ← read bytes
    let (xs, rest) ← readSeq read k rest
    return (x :: xs, rest)

def readPair {α : Type} (read : List UInt8 → Option (α × List UInt8)) (bytes : List UInt8) :
    Option ((α × α) × List UInt8) := do
  let (k, rest) ← read bytes
  let (v, rest) ← read rest
  return ((k, v), rest)

/-- Reads one data item of definite length, nested at most `depth` deep. -/
def readItem? (preferred : Bool) : Nat → List UInt8 → Option (Cbor × List UInt8)
  | 0, _ => none
  | depth + 1, bytes =>
    match readHead? bytes with
    | none => none
    | some (h, rest) =>
      if preferred && h.width != shortestWidth h.argument then none
      else match h.major with
      | 0 => some (.unsigned h.argument, rest)
      | 1 => some (.negative h.argument, rest)
      | 2 => if h.argument ≤ rest.length then
          some (.bytes (rest.take h.argument), rest.drop h.argument)
        else none
      | 3 => if h.argument ≤ rest.length then
          (String.fromUTF8? ⟨(rest.take h.argument).toArray⟩).map
            fun s => (.text s, rest.drop h.argument)
        else none
      | 4 => (readSeq (readItem? preferred depth) h.argument rest).map
          fun (xs, r) => (.array xs, r)
      | 5 => (readSeq (readPair (readItem? preferred depth)) h.argument rest).map
          fun (ps, r) => (.map ps, r)
      | 6 => (readItem? preferred depth rest).map fun (x, r) => (.tag h.argument x, r)
      -- a simple value below 32 has no two-byte form (§3.3)
      | _ => if h.width = 1 ∧ h.argument < 32 then none else some (.simple h.argument, rest)

/-- Reads one data item and what follows it. -/
def decode? (preferred : Bool) (bytes : List UInt8) : Option (Cbor × List UInt8) :=
  readItem? preferred bytes.length bytes

section Heads

theorem Major.code_lt (m : Major) : m.code < 8 := by
  cases m <;> decide

theorem initial_fields (m : Major) {k : Nat} (hk : k < 32) :
    ((m.code * 32 + k).toUInt8).toNat % 32 = k ∧ ((m.code * 32 + k).toUInt8).toNat / 32 = m.code := by
  have := m.code_lt
  simp only [Nat.toUInt8_eq, UInt8.toNat_ofNat']
  omega

theorem take_beBytes_append (w n : Nat) (rest : List UInt8) :
    (beBytes w n ++ rest).take w = beBytes w n :=
  List.take_left' (length_beBytes w n)

theorem drop_beBytes_append (w n : Nat) (rest : List UInt8) :
    (beBytes w n ++ rest).drop w = rest :=
  List.drop_left' (length_beBytes w n)

theorem readHead?_wide (m : Major) {k w n : Nat} (hk : 24 ≤ k ∧ k < 28)
    (hw : argumentWidth? k = some w) (hn : n < 256 ^ w) (rest : List UInt8) :
    readHead? ((m.code * 32 + k).toUInt8 :: (beBytes w n ++ rest)) =
      some (⟨m.code, n, w⟩, rest) := by
  obtain ⟨info, major⟩ := initial_fields m (k := k) (by omega)
  simp only [readHead?, info, major, hw, take_beBytes_append, drop_beBytes_append,
    beValue_beBytes, Nat.mod_eq_of_lt hn, List.length_append, length_beBytes]
  simp
  omega

theorem readHead?_head (m : Major) {n : Nat} (hn : n < 2 ^ 64) (rest : List UInt8) :
    readHead? (head m n ++ rest) = some (⟨m.code, n, shortestWidth n⟩, rest) := by
  unfold head shortestWidth
  simp only [Nat.pow_eq]
  split_ifs with h24 h8 h16 h32
  · obtain ⟨info, major⟩ := initial_fields m (k := n) (by omega)
    simp only [List.cons_append, List.nil_append, readHead?, info, major, if_pos h24]
  · exact readHead?_wide m (by decide) rfl (by simpa using h8) rest
  · exact readHead?_wide m (by decide) rfl (by simpa using h16) rest
  · exact readHead?_wide m (by decide) rfl (by simpa using h32) rest
  · exact readHead?_wide m (by decide) rfl (by simpa using hn) rest

theorem argumentWidth?_cases {k w : Nat} (h : argumentWidth? k = some w) :
    w = 1 ∨ w = 2 ∨ w = 4 ∨ w = 8 := by
  unfold argumentWidth? at h
  split_ifs at h <;> simp_all

theorem shortestWidth_le {w n : Nat} (hw : w = 1 ∨ w = 2 ∨ w = 4 ∨ w = 8) (hn : n < 256 ^ w) :
    shortestWidth n ≤ w := by
  unfold shortestWidth
  rcases hw with rfl | rfl | rfl | rfl <;> simp only [Nat.reducePow] at hn <;> split_ifs <;> omega

theorem readHead?_sizes {bs rest : List UInt8} {hd : Head} (h : readHead? bs = some (hd, rest)) :
    bs.length = hd.width + 1 + rest.length ∧ shortestWidth hd.argument ≤ hd.width := by
  cases bs with
  | nil => cases h
  | cons b bs =>
    simp only [readHead?] at h
    split_ifs at h with small
    · cases h
      simp only [shortestWidth, small, if_true, List.length_cons]
      omega
    · split at h
      · next w hw =>
        split_ifs at h with fits
        cases h
        have bound := beValue_lt (bs.take w)
        rw [List.length_take_of_le fits] at bound
        refine ⟨by simp; omega, shortestWidth_le (argumentWidth?_cases hw) bound⟩
      · cases h

theorem length_head (m : Major) {n : Nat} (hn : n < 2 ^ 64) :
    (head m n).length = shortestWidth n + 1 := by
  have sizes := (readHead?_sizes (readHead?_head m hn [])).1
  simpa using sizes

theorem head_shortest (m : Major) {n : Nat} (hn : n < 2 ^ 64) {bs rest : List UInt8} {hd : Head}
    (h : readHead? bs = some (hd, rest)) (same : hd.argument = n) :
    (head m n).length + rest.length ≤ bs.length := by
  obtain ⟨sizes, least⟩ := readHead?_sizes h
  rw [length_head m hn, sizes, ← same]
  omega

end Heads

section Items

theorem readSeq_succ_of {α : Type} {read : List UInt8 → Option (α × List UInt8)} {k : Nat}
    {bs rest : List UInt8} {x : α} (h : read bs = some (x, rest)) :
    readSeq read (k + 1) bs = (readSeq read k rest).map fun (xs, r) => (x :: xs, r) := by
  cases later : readSeq read k rest <;> simp [readSeq, h, later]

theorem readPair_of {α : Type} {read : List UInt8 → Option (α × List UInt8)}
    {bs mid rest : List UInt8} {a b : α} (ha : read bs = some (a, mid))
    (hb : read mid = some (b, rest)) : readPair read bs = some ((a, b), rest) := by
  simp [readPair, ha, hb]

theorem fromUTF8?_toUTF8 (s : String) : String.fromUTF8? s.toUTF8 = some s := by
  unfold String.fromUTF8?
  rw [String.toUTF8_eq_toByteArray, dif_pos s.isValidUTF8]
  rfl

variable (p : Bool) (d : Nat) (rest : List UInt8)

theorem readItem?_unsigned {n : Nat} (hn : n < 2 ^ 64) :
    readItem? p (d + 1) (head .unsigned n ++ rest) = some (.unsigned n, rest) := by
  simp [readItem?, readHead?_head _ hn, Major.code]

theorem readItem?_bytes {bs : List UInt8} (hn : bs.length < 2 ^ 64) :
    readItem? p (d + 1) (head .bytes bs.length ++ (bs ++ rest)) = some (.bytes bs, rest) := by
  simp [readItem?, readHead?_head _ hn, Major.code]

theorem readItem?_text {bs : List UInt8} {s : String} (hs : String.fromUTF8? ⟨bs.toArray⟩ = some s)
    (hn : bs.length < 2 ^ 64) :
    readItem? p (d + 1) (head .text bs.length ++ (bs ++ rest)) = some (.text s, rest) := by
  simp only [readItem?, readHead?_head _ hn]
  simp [Major.code, hs]

theorem readItem?_map {k : Nat} (hk : k < 2 ^ 64) :
    readItem? p (d + 1) (head .map k ++ rest) =
      (readSeq (readPair (readItem? p d)) k rest).map fun (ps, r) => (.map ps, r) := by
  simp [readItem?, readHead?_head _ hk, Major.code]

end Items

/-- The bytes of a meta document after its magic. -/
def sourceMetaBody (source : String) : List UInt8 :=
  head .map 3 ++ (head .unsigned 0 ++ (head .bytes source.toUTF8.toList.length ++
    (source.toUTF8.toList ++ (head .unsigned 1 ++ (head .unsigned sourceMagic ++
      (head .unsigned 2 ++ (head .text contentType.toUTF8.toList.length ++
        contentType.toUTF8.toList)))))))

theorem sourceMeta_eq (source : String) :
    sourceMeta source = beBytes 8 documentMagic ++ sourceMetaBody source := by
  simp only [sourceMeta, sourceMetaBody, List.append_assoc]

theorem readItem?_sourceMetaBody {source : String} (hs : source.toUTF8.toList.length < 2 ^ 64)
    (p : Bool) (d : Nat) :
    readItem? p (d + 2) (sourceMetaBody source) =
      some (.map [(.unsigned 0, .bytes source.toUTF8.toList), (.unsigned 1, .unsigned sourceMagic),
        (.unsigned 2, .text contentType)], []) := by
  have kindLength : contentType.toUTF8.toList.length = 24 := by decide +kernel
  have kind : String.fromUTF8? ⟨contentType.toUTF8.toList.toArray⟩ = some contentType := by
    rw [toList_eq_data_toList, mk_data_toList, fromUTF8?_toUTF8]
  have last : readItem? p (d + 1) (head .text contentType.toUTF8.toList.length ++
      contentType.toUTF8.toList) = some (.text contentType, []) := by
    simpa using readItem?_text p d [] kind (by omega)
  rw [sourceMetaBody, readItem?_map p (d + 1) _ (by decide),
    readSeq_succ_of (readPair_of (readItem?_unsigned p d _ (by decide)) (readItem?_bytes p d _ hs)),
    readSeq_succ_of (readPair_of (readItem?_unsigned p d _ (by decide))
      (readItem?_unsigned p d _ (by decide))),
    readSeq_succ_of (readPair_of (readItem?_unsigned p d _ (by decide)) last)]
  rfl

theorem two_le_length_sourceMetaBody (source : String) : 2 ≤ (sourceMetaBody source).length := by
  have map := length_head Major.map (n := 3) (by decide)
  have key := length_head Major.unsigned (n := 0) (by decide)
  simp only [sourceMetaBody, List.length_append, map, key]
  omega

theorem sourceMeta_is_magic_then_one_preferred_map :
    (∀ source : String, source.utf8ByteSize < 2 ^ 64 → ∃ body,
      sourceMeta source = beBytes 8 documentMagic ++ body ∧
      ∀ preferred, decode? preferred body =
        some (.map [(.unsigned 0, .bytes source.toUTF8.toList),
          (.unsigned 1, .unsigned sourceMagic), (.unsigned 2, .text contentType)], [])) ∧
    ∀ (m : Major) (n : Nat), n < 2 ^ 64 →
      (∀ rest, readHead? (head m n ++ rest) = some (⟨m.code, n, shortestWidth n⟩, rest)) ∧
      ∀ bs rest (hd : Head), readHead? bs = some (hd, rest) → hd.major = m.code →
        hd.argument = n → (head m n).length + rest.length ≤ bs.length := by
  refine ⟨?_, ?_⟩
  · intro source hs
    refine ⟨sourceMetaBody source, sourceMeta_eq source, fun preferred => ?_⟩
    have size : source.toUTF8.toList.length < 2 ^ 64 := by simpa [String.size_toByteArray] using hs
    obtain ⟨d, hd⟩ : ∃ d, (sourceMetaBody source).length = d + 2 :=
      ⟨_, (Nat.sub_add_cancel (two_le_length_sourceMetaBody source)).symm⟩
    rw [decode?, hd]
    exact readItem?_sourceMetaBody size preferred d
  · intro m n hn
    exact ⟨readHead?_head m hn, fun bs rest hd h _ same => head_shortest m hn h same⟩

/-- The source of an order with its two entrypoints, and a text head of five bytes. -/
theorem order_source_meta_reads_back :
    (∃ body, sourceMeta "/* 0. calculate-io */ \n_ _: 0 0;\n\n/* 1. handle-io */ \n:;" =
        beBytes 8 documentMagic ++ body ∧
      ∀ preferred, decode? preferred body =
        some (.map [(.unsigned 0,
            .bytes "/* 0. calculate-io */ \n_ _: 0 0;\n\n/* 1. handle-io */ \n:;".toUTF8.toList),
          (.unsigned 1, .unsigned sourceMagic), (.unsigned 2, .text contentType)], [])) ∧
    ∀ rest, readHead? (head .text 70000 ++ rest) = some (⟨3, 70000, 4⟩, rest) :=
  ⟨sourceMeta_is_magic_then_one_preferred_map.1 _ (by decide +kernel),
    (sourceMeta_is_magic_then_one_preferred_map.2 .text 70000 (by decide)).1⟩

end StrategyDeploy.Meta
