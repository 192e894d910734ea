import Driveflow.Cpp

/-!
# Fixed-offset scalars

`wire.hpp`: unsigned integers written to and read from a span in big-endian order, one byte at a
time. The width of the C++ type is the width of the bit vector, `sizeof(UInt)` its eighth. A store
loop is a splice of the word's bytes, and a read loop is the word its stretch of the span spells,
so a layout is reasoned about as a concatenation and never byte by byte.
-/

namespace Driveflow.Protocol.Wire

open Library

/-- `write_big_endian`: the most significant byte at `offset`. -/
def writeBigEndian {w : Nat} (output : Bytes) (offset : Nat) (value : BitVec w) : Bytes :=
  (List.range (w / 8)).foldl
    (fun output index =>
      let shift := (w / 8 - index - 1) * 8
      output.set (offset + index) ((value >>> shift).setWidth 8))
    output

/-- `read_big_endian`: `none` when a byte is read outside the span. -/
def readBigEndian (w : Nat) (input : Bytes) (offset : Nat) : Option (BitVec w) :=
  (List.range (w / 8)).foldlM
    (fun value index => do
      let byte ← input[offset + index]?
      pure ((value <<< 8) ||| byte.setWidth w))
    0

theorem writeBigEndian_eq {w : Nat} {output : Bytes} {offset : Nat} (value : BitVec w)
    (room : offset + w / 8 ≤ output.length) :
    writeBigEndian output offset value = splice output offset (BigEndian.encode value) :=
  foldl_set_eq_splice (BigEndian.byteAt value) offset output (w / 8) room

/-- Filling a blank buffer from the left with one more scalar. -/
theorem writeBigEndian_blank {w : Nat} (offset rest : Nat) (pre : Bytes) (value : BitVec w)
    {total : Nat} (hoff : offset = pre.length) (htotal : total = w / 8 + rest) :
    writeBigEndian (pre ++ List.replicate total 0) offset value =
      pre ++ BigEndian.encode value ++ List.replicate rest 0 := by
  have room : offset + w / 8 ≤ (pre ++ List.replicate total (0 : Byte)).length := by
    simp only [List.length_append, List.length_replicate]
    omega
  rw [writeBigEndian_eq value room]
  exact splice_blank offset rest pre _ 0 hoff (by rw [BigEndian.length_encode, htotal])

/-- The word the stretch of the bytes at `offset` spells. -/
def fieldAt (w : Nat) (bytes : Bytes) (offset : Nat) : BitVec w :=
  BigEndian.decode w ((bytes.drop offset).take (w / 8))

/-- The read loop over any list of places inside the span collects the bytes there. -/
private theorem foldlM_read {w : Nat} (input : Bytes) (offset : Nat) (places : List Nat)
    (inside : ∀ index ∈ places, offset + index < input.length) (value : BitVec w) :
    places.foldlM
        (fun value index => do
          let byte ← input[offset + index]?
          pure ((value <<< 8) ||| byte.setWidth w))
        value =
      some ((places.map fun index => input.getD (offset + index) 0).foldl
        BigEndian.shiftIn value) := by
  induction places generalizing value with
  | nil => rfl
  | cons index places ih =>
    have here : offset + index < input.length := inside index List.mem_cons_self
    have byte : input[offset + index]? = some (input.getD (offset + index) 0) := by
      rw [List.getD_eq_getElem?_getD, List.getElem?_eq_getElem here, Option.getD_some]
    rw [List.foldlM_cons, byte]
    exact ih (fun i hi => inside i (List.mem_cons_of_mem _ hi)) _

/-- **A read inside the span** is the word its stretch spells. -/
theorem readBigEndian_eq {w : Nat} {input : Bytes} {offset : Nat}
    (inside : offset + w / 8 ≤ input.length) :
    readBigEndian w input offset = some (fieldAt w input offset) := by
  have stretch : ((List.range (w / 8)).map fun index => input.getD (offset + index) 0) =
      (input.drop offset).take (w / 8) := by
    apply List.ext_getElem
    · simp only [List.length_map, List.length_range, List.length_take, List.length_drop]
      omega
    · intro i hl hr
      simp only [List.length_map, List.length_range] at hl
      simp only [List.getElem_map, List.getElem_range, List.getElem_take, List.getElem_drop]
      rw [List.getD_eq_getElem?_getD, List.getElem?_eq_getElem (by omega), Option.getD_some]
  rw [readBigEndian, foldlM_read input offset (List.range (w / 8))
    (fun index hi => by have := List.mem_range.mp hi; omega) 0, stretch, fieldAt, BigEndian.decode]

/-- Reading a scalar at the head of a layout gives the scalar written there. -/
theorem readBigEndian_encode_append {w : Nat} (hw : 8 ∣ w) (value : BitVec w) (rest : Bytes) :
    readBigEndian w (BigEndian.encode value ++ rest) 0 = some value := by
  rw [readBigEndian_eq (by simp only [List.length_append, BigEndian.length_encode]; omega),
    fieldAt, List.drop_zero, List.take_left' (BigEndian.length_encode value),
    BigEndian.decode_encode hw]

/-- A read past the head of a layout is a read of the rest. -/
theorem readBigEndian_append_right {w : Nat} (head rest : Bytes) {offset k : Nat}
    (hoff : offset = head.length + k) :
    readBigEndian w (head ++ rest) offset = readBigEndian w rest k := by
  subst hoff
  simp only [readBigEndian, Nat.add_assoc, List.getElem?_append_right (Nat.le_add_right _ _),
    Nat.add_sub_cancel_left]

/-- A read past a scalar is a read of what follows it. -/
theorem readBigEndian_skip {w v offset : Nat} (k : Nat) {value : BitVec v} {rest : Bytes}
    {result : Option (BitVec w)} (hoff : offset = v / 8 + k)
    (h : readBigEndian w rest k = result) :
    readBigEndian w (BigEndian.encode value ++ rest) offset = result :=
  (readBigEndian_append_right _ _ (by rw [BigEndian.length_encode, hoff])).trans h

/-- A field's bytes, put back before what follows them. -/
theorem encode_fieldAt_append {w : Nat} (hw : 8 ∣ w) (bytes : Bytes) (offset : Nat)
    (inside : offset + w / 8 ≤ bytes.length) (rest : Bytes)
    (hrest : rest = bytes.drop (offset + w / 8)) :
    BigEndian.encode (fieldAt w bytes offset) ++ rest = bytes.drop offset := by
  have stretch : w = 8 * ((bytes.drop offset).take (w / 8)).length := by
    simp only [List.length_take, List.length_drop]
    omega
  rw [fieldAt, BigEndian.encode_decode stretch, hrest, slice_append_drop]

end Driveflow.Protocol.Wire
