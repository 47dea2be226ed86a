import StrategyDeploy.Session.Record
import StrategyDeploy.Proofs.MsgPack.Reading

/-! A record below `2 ^ 32` bytes reads back as the record that was written. -/
namespace StrategyDeploy.Session

open StrategyDeploy.Bytes StrategyDeploy.Evm StrategyDeploy.MsgPack

@[simp] theorem Record.state_ofState (fingerprint : Bytes32) (s : State) :
    (Record.ofState fingerprint s).state = s := by
  simp [Record.ofState, Record.state, Function.comp_def]

section Reading

variable {data : ByteArray} {pos : Nat}

theorem readFieldPair_of_standsAt {b v : String} (hsize : data.size < 2 ^ 32)
    (h : StandsAt data pos (writeArray [writeStr b, writeStr v])) :
    readFieldPair data pos = some ((b, v), pos + (writeArray [writeStr b, writeStr v]).length) := by
  rw [writeArray_two] at h ⊢
  have header := readArrayOf_arrayHeader (by omega) h.left
  have binding := readText_writeStr hsize h.right.left
  have value := readText_writeStr hsize h.right.right
  simp only [Nat.add_assoc] at binding value
  simp only [readFieldPair, header, binding, value, Option.bind_eq_bind, Option.bind_some,
    List.length_append]

theorem readDepositTriple_of_standsAt {t m : String} {a : Address} (hsize : data.size < 2 ^ 32)
    (h : StandsAt data pos (writeArray [writeStr t, writeBin a.bytes, writeStr m])) :
    readDepositTriple data pos =
      some ((t, a, m), pos + (writeArray [writeStr t, writeBin a.bytes, writeStr m]).length) := by
  rw [writeArray_three] at h ⊢
  have header := readArrayOf_arrayHeader (by omega) h.left
  have token := readText_writeStr hsize h.right.left
  have address := readFixed_writeBin a hsize h.right.right.left
  have amount := readText_writeStr hsize h.right.right.right
  simp only [Nat.add_assoc] at token address amount
  simp only [readDepositTriple, header, token, address, amount, Option.bind_eq_bind,
    Option.bind_some, List.length_append]

end Reading

theorem Record.decode?_encode (r : Record) (h : r.encode.length < 2 ^ 32) :
    Record.decode? ⟨r.encode.toArray⟩ = some r := by
  set data : ByteArray := ⟨r.encode.toArray⟩ with hdata
  have hsize : data.size < 2 ^ 32 := by
    show r.encode.toArray.size < 2 ^ 32
    simpa using h
  have whole : StandsAt data 0 r.encode := standsAt_mk r.encode
  rw [Record.encode, writeArray_three] at whole
  have header := readHead_arrayHeader (by omega) whole.left
  have fingerprint := readFixed_writeBin r.fingerprint hsize whole.right.left
  have fields := readList_writeArray hsize
    (by rintro ⟨b, v⟩ -; exact writeArray_ne_nil _)
    (by rintro ⟨b, v⟩ - p hp; exact readFieldPair_of_standsAt hsize hp)
    whole.right.right.left
  have deposits := readList_writeArray hsize
    (by rintro ⟨t, a, m⟩ -; exact writeArray_ne_nil _)
    (by rintro ⟨t, a, m⟩ - p hp; exact readDepositTriple_of_standsAt hsize hp)
    whole.right.right.right
  simp only [Record.decode?, header, fingerprint, fields, deposits, Option.bind_eq_bind,
    Option.bind_some]

end StrategyDeploy.Session
