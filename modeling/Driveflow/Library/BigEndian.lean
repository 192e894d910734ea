import Mathlib

/-!
# Big-endian words in byte strings

A word of `w` bits, `w` a multiple of eight, is written as its `w / 8` bytes, the most
significant first. `encode` and `decode` are mutually inverse on byte strings of that length,
which is the one fact a fixed-offset codec needs of its scalars.

The second half is the list surgery such a codec performs: `splice` overwrites a stretch of a
buffer, a loop of single-byte stores is a splice, and a buffer filled from the left is the
concatenation of its pieces.
-/

namespace Driveflow.Library

abbrev Byte := BitVec 8

abbrev Bytes := List Byte

namespace BigEndian

/-- Byte `index` of a word, counted from the most significant one. -/
def byteAt {w : Nat} (value : BitVec w) (index : Nat) : Byte :=
  (value >>> ((w / 8 - index - 1) * 8)).setWidth 8

/-- The bytes of a word, the most significant first. -/
def encode {w : Nat} (value : BitVec w) : Bytes := (List.range (w / 8)).map (byteAt value)

/-- One more byte shifted into a word from the right. -/
def shiftIn {w : Nat} (value : BitVec w) (byte : Byte) : BitVec w :=
  (value <<< 8) ||| byte.setWidth w

/-- The word a byte string spells, the most significant byte first. -/
def decode (w : Nat) (bytes : Bytes) : BitVec w := bytes.foldl shiftIn 0

@[simp] theorem length_encode {w : Nat} (value : BitVec w) : (encode value).length = w / 8 := by
  simp only [encode, List.length_map, List.length_range]

/-- A shifted-in byte takes the low eight bits and moves the others up. -/
theorem getLsbD_shiftIn {w : Nat} (value : BitVec w) (byte : Byte) (i : Nat) :
    (shiftIn value byte).getLsbD i =
      (decide (i < w) && if i < 8 then byte.getLsbD i else value.getLsbD (i - 8)) := by
  simp only [shiftIn, BitVec.getLsbD_or, BitVec.getLsbD_shiftLeft, BitVec.getLsbD_setWidth]
  by_cases hi : i < 8
  · simp [hi]
  · simp [hi, BitVec.getLsbD_of_ge byte i (by omega)]

/-- Bit `i` of the decoded word is bit `i % 8` of the byte `i / 8` places from the end. -/
theorem getLsbD_decode {w : Nat} (bytes : Bytes) (i : Nat) :
    (decode w bytes).getLsbD i =
      (decide (i < w) && (bytes.reverse.getD (i / 8) 0).getLsbD (i % 8)) := by
  induction bytes using List.reverseRecOn generalizing i with
  | nil => simp [decode]
  | append_singleton bytes byte ih =>
    have step : decode w (bytes ++ [byte]) = shiftIn (decode w bytes) byte := by
      simp only [decode, List.foldl_append, List.foldl_cons, List.foldl_nil]
    rw [step, getLsbD_shiftIn]
    by_cases hi : i < 8
    · simp [hi, Nat.div_eq_of_lt hi, Nat.mod_eq_of_lt hi]
    · have hdiv : i / 8 = (i - 8) / 8 + 1 := by omega
      have hmod : i % 8 = (i - 8) % 8 := by omega
      rw [if_neg hi, ih, hdiv, hmod, List.reverse_append]
      by_cases hw : i < w
      · simp [hw, show i - 8 < w by omega]
      · simp [hw]

/-- Bit `i` of a byte of a word, by the byte's distance from the end. -/
theorem getLsbD_byteAt {w : Nat} (value : BitVec w) {index i : Nat} (hi : i < 8) :
    (byteAt value index).getLsbD i = value.getLsbD ((w / 8 - index - 1) * 8 + i) := by
  simp [byteAt, hi]

/-- **Decoding inverts encoding.** -/
theorem decode_encode {w : Nat} (hw : 8 ∣ w) (value : BitVec w) :
    decode w (encode value) = value := by
  apply BitVec.eq_of_getLsbD_eq
  intro i hi
  obtain ⟨n, rfl⟩ := hw
  have hidx : i / 8 < n := by omega
  rw [getLsbD_decode]
  simp only [hi, decide_true, Bool.true_and]
  have hbyte : (encode value).reverse.getD (i / 8) 0 = byteAt value (n - 1 - i / 8) := by
    simp [encode, List.getD_eq_getElem?_getD, hidx]
  rw [hbyte, getLsbD_byteAt value (Nat.mod_lt i (by decide))]
  congr 1
  omega

/-- **Encoding inverts decoding** of a byte string of the word's own size. -/
theorem encode_decode {w : Nat} {bytes : Bytes} (hw : w = 8 * bytes.length) :
    encode (decode w bytes) = bytes := by
  subst hw
  apply List.ext_getElem
  · simp
  · intro index hl hr
    simp only [encode, List.getElem_map, List.getElem_range]
    apply BitVec.eq_of_getLsbD_eq
    intro i hi
    rw [getLsbD_byteAt _ hi, getLsbD_decode]
    have hdiv : ((8 * bytes.length / 8 - index - 1) * 8 + i) / 8 = bytes.length - 1 - index := by
      omega
    have hmod : ((8 * bytes.length / 8 - index - 1) * 8 + i) % 8 = i := by omega
    have hlt : (8 * bytes.length / 8 - index - 1) * 8 + i < 8 * bytes.length := by omega
    have hbyte : bytes.reverse.getD (bytes.length - 1 - index) 0 = bytes[index] := by
      rw [List.getD_eq_getElem?_getD, List.getElem?_reverse (by omega),
        show bytes.length - 1 - (bytes.length - 1 - index) = index by omega,
        List.getElem?_eq_getElem hr, Option.getD_some]
    rw [hdiv, hmod, hbyte]
    simp only [hlt, decide_true, Bool.true_and]

/-- A difference in the word so far moves up with it. -/
theorem shiftIn_xor_left {w : Nat} (value diff : BitVec w) (byte : Byte) :
    shiftIn (value ^^^ diff) byte = shiftIn value byte ^^^ (diff <<< 8) := by
  apply BitVec.eq_of_getLsbD_eq
  intro i hi
  simp only [getLsbD_shiftIn, BitVec.getLsbD_xor, BitVec.getLsbD_shiftLeft]
  by_cases h : i < 8
  · simp [h]
  · simp [h, hi]

/-- A difference in the byte shifted in is a difference of the low eight bits. -/
theorem shiftIn_xor_right {w : Nat} (value : BitVec w) (byte diff : Byte) :
    shiftIn value (byte ^^^ diff) = shiftIn value byte ^^^ diff.setWidth w := by
  apply BitVec.eq_of_getLsbD_eq
  intro i hi
  simp only [getLsbD_shiftIn, BitVec.getLsbD_xor, BitVec.getLsbD_setWidth]
  by_cases h : i < 8
  · simp [h, hi]
  · simp [h, BitVec.getLsbD_of_ge diff i (by omega)]

/-- Changing one byte changes the word by the difference, moved to that byte's place. -/
theorem decode_change {w : Nat} (before after : Bytes) (byte diff : Byte) :
    decode w (before ++ (byte ^^^ diff) :: after) =
      decode w (before ++ byte :: after) ^^^ (diff.setWidth w <<< (8 * after.length)) := by
  have carried (value diff : BitVec w) :
      after.foldl shiftIn (value ^^^ diff) =
        after.foldl shiftIn value ^^^ (diff <<< (8 * after.length)) := by
    induction after generalizing value diff with
    | nil => simp
    | cons byte after ih =>
      rw [List.foldl_cons, List.foldl_cons, shiftIn_xor_left, ih, ← BitVec.shiftLeft_add,
        List.length_cons, Nat.mul_succ, Nat.add_comm]
  rw [decode, decode, List.foldl_append, List.foldl_append, List.foldl_cons, List.foldl_cons,
    shiftIn_xor_right, carried]

end BigEndian

/-! ## Buffers -/

variable {α : Type}

/-- Overwrite the stretch of a buffer that starts at `offset` with `piece`. -/
def splice (buffer : List α) (offset : Nat) (piece : List α) : List α :=
  buffer.take offset ++ piece ++ buffer.drop (offset + piece.length)

/-- A splice that replaces the middle of three known parts. -/
theorem splice_middle (pre old post piece : List α) {offset : Nat}
    (hoff : offset = pre.length) (hlen : old.length = piece.length) :
    splice (pre ++ old ++ post) offset piece = pre ++ piece ++ post := by
  subst hoff
  have hsplit : pre.length + piece.length = (pre ++ old).length := by
    rw [List.length_append, hlen]
  rw [splice, hsplit, List.drop_left, List.append_assoc pre old, List.take_left]

/-- Filling a blank buffer from the left: the blank shrinks by the piece written. -/
theorem splice_blank (offset rest : Nat) (pre piece : List α) (blank : α) {total : Nat}
    (hoff : offset = pre.length) (htotal : total = piece.length + rest) :
    splice (pre ++ List.replicate total blank) offset piece =
      pre ++ piece ++ List.replicate rest blank := by
  subst htotal
  rw [← List.replicate_append_replicate, ← List.append_assoc]
  exact splice_middle pre _ _ piece hoff List.length_replicate

/-- A loop of single stores at consecutive places is one splice. -/
theorem foldl_set_eq_splice (f : Nat → α) (offset : Nat) (buffer : List α) (n : Nat)
    (hroom : offset + n ≤ buffer.length) :
    (List.range n).foldl (fun out index => out.set (offset + index) (f index)) buffer =
      splice buffer offset ((List.range n).map f) := by
  induction n with
  | zero => simp [splice]
  | succ n ih =>
    rw [List.range_succ, List.foldl_append, ih (by omega), List.map_append]
    simp only [List.foldl_cons, List.foldl_nil, List.map_cons, List.map_nil]
    have htake : (buffer.take offset ++ (List.range n).map f).length = offset + n := by
      simp only [List.length_append, List.length_take, List.length_map, List.length_range]
      omega
    have hdrop : buffer.drop (offset + n) = buffer[offset + n] :: buffer.drop (offset + n + 1) :=
      List.drop_eq_getElem_cons (by omega)
    simp only [splice, List.length_map, List.length_range, List.length_append, List.length_cons,
      List.length_nil]
    rw [hdrop, List.set_append_right _ _ (by omega), htake, Nat.sub_self, List.set_cons_zero]
    simp only [List.append_assoc, List.singleton_append, Nat.add_assoc]

/-- The stretch of `n` places at `offset`, put back before what follows it. -/
theorem slice_append_drop (l : List α) (offset n : Nat) :
    (l.drop offset).take n ++ l.drop (offset + n) = l.drop offset := by
  rw [← List.drop_drop, List.take_append_drop]

end Driveflow.Library
