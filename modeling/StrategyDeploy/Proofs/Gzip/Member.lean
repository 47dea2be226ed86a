import StrategyDeploy.Gzip.Member
import StrategyDeploy.Proofs.Bytes.Layout

/-! A gzip member reads back as the data it was written from, or as too large. -/
namespace StrategyDeploy.Gzip

open StrategyDeploy.Bytes StrategyDeploy.Deflate

/-- What a deflate codec promises of the streams it writes. -/
structure Codec.Inverts (z : Codec) : Prop where
  complete : ∀ {buf : ByteArray} {start cap : Nat} {data : ByteArray},
    StandsAt buf start (z.deflate data).data.toList → data.size ≤ cap →
      z.inflate buf start cap = some (.complete data (start + (z.deflate data).size))
  capped : ∀ {buf : ByteArray} {start cap : Nat} {data : ByteArray},
    StandsAt buf start (z.deflate data).data.toList → cap < data.size →
      ∃ out, z.inflate buf start cap = some (.capped out)

theorem length_le32 (n : Nat) : (le32 n).length = 4 := by
  simp [le32]

theorem readLe32_of_standsAt {data : ByteArray} {pos n : Nat} (h : StandsAt data pos (le32 n)) :
    readLe32 data pos = n % 2 ^ 32 := by
  have byte : ∀ k < 4, (data.get! (pos + k)).toNat = n / 256 ^ k % 256 := by
    intro k hk
    rw [h.get! (by simpa [length_le32] using hk)]
    simp [le32]
  have b0 : (data.get! (pos + 0)).toNat = n % 256 := by simpa using byte 0 (by omega)
  have b1 : (data.get! (pos + 1)).toNat = n / 256 % 256 := by simpa using byte 1 (by omega)
  have b2 : (data.get! (pos + 2)).toNat = n / 65536 % 256 := by simpa using byte 2 (by omega)
  have b3 : (data.get! (pos + 3)).toNat = n / 16777216 % 256 := by simpa using byte 3 (by omega)
  -- rewritten step by step: `simp` on this fold leaves a term the kernel cannot check
  have four : List.range 4 = [0, 1, 2, 3] := by simp [List.range_succ]
  rw [readLe32, four, List.foldl_cons, List.foldl_cons, List.foldl_cons, List.foldl_cons,
    List.foldl_nil, b0, b1, b2, b3]
  simp only [Nat.pow_eq]
  omega

theorem compressWith_data_toList (z : Codec) (data : ByteArray) :
    (compressWith z data).data.toList =
      header ++ (z.deflate data).data.toList ++ (le32 (crc32 data).toNat ++ le32 data.size) := by
  simp [compressWith, ByteArray.data_append]

section Member

variable {z : Codec} {data : ByteArray}

theorem standsAt_compressWith (z : Codec) (data : ByteArray) :
    StandsAt (compressWith z data) 0
      (header ++ (z.deflate data).data.toList ++ (le32 (crc32 data).toNat ++ le32 data.size)) :=
  ⟨Nat.zero_le _, [], by rw [compressWith_data_toList]; simp⟩

theorem bodyStart_compressWith : bodyStart (compressWith z data) = some 10 := by
  have head := (standsAt_compressWith z data).left.left
  have fits := head.le_size
  have byte : ∀ i (hi : i < header.length), (compressWith z data).get! i = header[i] := by
    intro i hi
    simpa using head.get! hi
  simp only [header, List.length_cons, List.length_nil] at fits
  simp [bodyStart, byte 0 (by decide), byte 1 (by decide), byte 2 (by decide),
    byte 3 (by decide), header, flagHeaderCrc, flagExtra, flagName, flagComment, reservedFlags,
    Nat.not_lt.mpr fits]

theorem limit_lt_cap (limit : Nat) : limit < (limit / windowSize + 1) * windowSize := by
  unfold windowSize
  omega

theorem decompressWith_compressWith (hz : z.Inverts) {limit : Nat} (hlimit : limit < 2 ^ 32) :
    decompressWith z (compressWith z data) limit =
      some (if data.size ≤ limit then .data data else .tooLarge) := by
  have whole := standsAt_compressWith z data
  have stream : StandsAt (compressWith z data) 10 (z.deflate data).data.toList := by
    simpa [header] using whole.left.right
  have trailer := whole.right
  have after : 0 + (header ++ (z.deflate data).data.toList).length = 10 + (z.deflate data).size := by
    simp only [List.length_append, header, List.length_cons, List.length_nil, size_eq_length]
    omega
  rw [after] at trailer
  have above := limit_lt_cap limit
  unfold decompressWith
  rw [bodyStart_compressWith, Option.bind_eq_bind, Option.bind_some]
  by_cases fits : data.size ≤ limit
  · have fitsTrailer := trailer.le_size
    rw [hz.complete stream (by omega), if_pos fits]
    simp only [List.length_append, length_le32] at fitsTrailer
    have crc := readLe32_of_standsAt trailer.left
    have size := readLe32_of_standsAt trailer.right
    rw [Nat.mod_eq_of_lt (crc32 data).toNat_lt] at crc
    rw [length_le32, Nat.mod_eq_of_lt (by omega)] at size
    simp [Nat.not_lt.mpr fits, Nat.not_lt.mpr fitsTrailer, crc, size]
  · rw [if_neg fits]
    by_cases within : data.size ≤ (limit / windowSize + 1) * windowSize
    · rw [hz.complete stream within, Option.bind_eq_bind, Option.bind_some]
      exact if_pos (Nat.lt_of_not_le fits)
    · obtain ⟨out, capped⟩ := hz.capped stream (Nat.lt_of_not_le within)
      rw [capped]
      rfl

end Member

section Stored

/-- Bytes stored instead of compressed: each byte as the pair `1, b`, then a `0`. -/
def storedBytes (bs : List UInt8) : List UInt8 := bs.flatMap (fun b => [1, b]) ++ [0]

/-- Reads stored pairs into `out` until the closing `0`, with `used` the position reached; it
stops once `out` holds `cap` bytes and another pair comes. -/
def readStored (cap : Nat) : List UInt8 → List UInt8 → Nat → Option Inflated
  | [], _, _ => none
  | m :: rest, out, used =>
    if m = 0 then some (.complete ⟨out.toArray⟩ (used + 1))
    else match rest with
      | [] => none
      | b :: rest =>
        if out.length = cap then some (.capped ⟨out.toArray⟩)
        else readStored cap rest (out ++ [b]) (used + 2)

theorem length_storedBytes (bs : List UInt8) : (storedBytes bs).length = 2 * bs.length + 1 := by
  induction bs with
  | nil => rfl
  | cons b bs ih =>
      simp only [storedBytes, List.flatMap_cons, List.length_append, List.length_cons,
        List.length_nil] at ih ⊢
      omega

/-- A codec that stores its data. -/
def Codec.stored : Codec where
  deflate data := ⟨(storedBytes data.data.toList).toArray⟩
  inflate buf start cap := readStored cap (buf.data.toList.drop start) [] start

theorem readStored_complete (cap : Nat) (rest : List UInt8) :
    ∀ (bs out : List UInt8) (used : Nat), out.length + bs.length ≤ cap →
      readStored cap (bs.flatMap (fun b => [1, b]) ++ 0 :: rest) out used =
        some (.complete ⟨(out ++ bs).toArray⟩ (used + 2 * bs.length + 1))
  | [], out, used, _ => by cases rest <;> simp [readStored]
  | b :: bs, out, used, fits => by
      simp only [List.length_cons] at fits
      have room : out.length ≠ cap := by omega
      have later := readStored_complete cap rest bs (out ++ [b]) (used + 2)
        (by simp only [List.length_append, List.length_singleton]; omega)
      have used_after : used + 2 + 2 * bs.length + 1 = used + 2 * (bs.length + 1) + 1 := by omega
      simp only [List.flatMap_cons, List.cons_append, List.nil_append, readStored, if_false,
        room, later, List.append_assoc, List.length_cons]
      rw [if_neg (by decide), used_after]

theorem readStored_capped (cap : Nat) (rest : List UInt8) :
    ∀ (bs out : List UInt8) (used : Nat), out.length ≤ cap → cap < out.length + bs.length →
      ∃ o, readStored cap (bs.flatMap (fun b => [1, b]) ++ 0 :: rest) out used = some (.capped o)
  | [], out, _, within, beyond => by simp at beyond; omega
  | b :: bs, out, used, within, beyond => by
      simp only [List.flatMap_cons, List.cons_append, List.nil_append, readStored]
      rw [if_neg (by decide)]
      split
      · exact ⟨_, rfl⟩
      · next room =>
          simp only [List.length_cons] at beyond
          exact readStored_capped cap rest bs (out ++ [b]) (used + 2)
            (by simp only [List.length_append, List.length_singleton]; omega)
            (by simp only [List.length_append, List.length_singleton]; omega)

theorem Codec.stored_inverts : Codec.stored.Inverts := by
  have stream : ∀ {buf : ByteArray} {start : Nat} {data : ByteArray},
      StandsAt buf start (Codec.stored.deflate data).data.toList →
      ∃ rest, buf.data.toList.drop start = data.data.toList.flatMap (fun b => [1, b]) ++ 0 :: rest := by
    rintro buf start data ⟨-, rest, h⟩
    exact ⟨rest, by simpa [Codec.stored, storedBytes] using h.symm⟩
  constructor
  · intro buf start cap data h fits
    obtain ⟨rest, hrest⟩ := stream h
    show readStored cap (buf.data.toList.drop start) [] start =
      some (.complete data (start + (storedBytes data.data.toList).length))
    rw [hrest, readStored_complete cap rest _ [] start (by simpa using fits), length_storedBytes,
      List.nil_append, mk_data_toList, Nat.add_assoc]
  · intro buf start cap data h beyond
    obtain ⟨rest, hrest⟩ := stream h
    show ∃ out, readStored cap (buf.data.toList.drop start) [] start = some (.capped out)
    rw [hrest]
    exact readStored_capped cap rest _ [] start (Nat.zero_le _) (by simpa using beyond)

end Stored

end StrategyDeploy.Gzip
