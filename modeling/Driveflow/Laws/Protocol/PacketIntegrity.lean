import Driveflow.Library.ShiftRegister
import Driveflow.Laws.Protocol.PacketLayout

/-!
# What the checksum detects

The bitwise loop of `updateCrc` is a shift register over the polynomial `0xedb88320`, whose period
from the top bit is `2 ^ 32 - 1`. A received packet is accepted only when its syndrome, the
computed checksum against the stored one, is zero. Flipping one bit of a packet changes the
syndrome by the top bit clocked a number of times that belongs to that bit alone and is below the
packet's size in bits; a burst of four bytes changes the state by a word that never dies. Neither
needs the length, the type or any other field to be intact: a packet that is refused before its
checksum is looked at is refused all the same.
-/

namespace Driveflow.Protocol

open Library ShiftRegister

/-! ## The loop is a shift register -/

/-- The branch-free mask is all ones when a one falls out of the register. -/
theorem updateCrcBit_eq (state : BitVec 32) : updateCrcBit state = step kCrcPolynomial state := by
  have mask : 0#32 - (state &&& 1#32) = if state.getLsbD 0 then BitVec.allOnes 32 else 0#32 := by
    rw [BitVec.and_one_eq_setWidth_ofBool_getLsbD]
    cases state.getLsbD 0 <;> rfl
  rw [updateCrcBit, mask, step]
  cases state.getLsbD 0 with
  | false => simp only [Bool.false_eq_true, ↓reduceIte, BitVec.and_zero, BitVec.xor_zero]
  | true => simp only [↓reduceIte, BitVec.and_allOnes]

/-- The source's loop feeds the register of its polynomial. -/
theorem updateCrc_eq (state : BitVec 32) (bytes : Bytes) :
    updateCrc state bytes = feed kCrcPolynomial state bytes := by
  have bits (state : BitVec 32) :
      (List.range 8).foldl (fun state _ => updateCrcBit state) state =
        (step kCrcPolynomial)^[8] state := by
    simp only [updateCrcBit_eq]
    rfl
  simp only [updateCrc, bits]
  rfl

/-- The two-part checksum is the checksum of the two parts together. -/
theorem packetCrc_eq (headerWithoutCrc payload : Bytes) :
    packetCrc headerWithoutCrc payload = crc32 (headerWithoutCrc ++ payload) := by
  simp only [packetCrc, crc32, updateCrc_eq, feed_append]

/-- The polynomial has the top bit the register needs to lose nothing. -/
theorem kCrcPolynomial_top : kCrcPolynomial.getLsbD (32 - 1) = true := by decide

/-- The prime factors of the register's period. -/
private theorem prime_dvd_period {p : Nat} (hp : p.Prime) (h : p ∣ 2 ^ 32 - 1) :
    p ∈ [3, 5, 17, 257, 65537] := by
  have factors : 2 ^ 32 - 1 = 3 * 5 * 17 * 257 * 65537 := by norm_num
  rw [factors] at h
  simp only [List.mem_cons, List.not_mem_nil, or_false]
  have divides {q : Nat} (hq : q.Prime) (hpq : p ∣ q) : p = q :=
    (Nat.prime_dvd_prime_iff_eq hp hq).mp hpq
  rcases hp.dvd_mul.mp h with h | h
  · rcases hp.dvd_mul.mp h with h | h
    · rcases hp.dvd_mul.mp h with h | h
      · rcases hp.dvd_mul.mp h with h | h
        · exact .inl (divides (by norm_num) h)
        · exact .inr (.inl (divides (by norm_num) h))
      · exact .inr (.inr (.inl (divides (by norm_num) h)))
    · exact .inr (.inr (.inr (.inl (divides (by norm_num) h))))
  · exact .inr (.inr (.inr (.inr (divides (by norm_num) h))))

/-- **The polynomial is primitive**: the register runs through every non-zero state. -/
theorem minimalPeriod_crc :
    Function.minimalPeriod (step kCrcPolynomial) (unit 32) = 2 ^ 32 - 1 := by
  have computed : power kCrcPolynomial 32 (2 ^ 32 - 1) = unit 32 ∧
      ∀ p ∈ [3, 5, 17, 257, 65537], power kCrcPolynomial 32 ((2 ^ 32 - 1) / p) ≠ unit 32 := by
    decide +kernel
  apply minimalPeriod_unit
  · rw [← power_eq_iterate (by decide) kCrcPolynomial 32 _ (by decide)]
    exact computed.1
  · intro p hp hdvd
    have hlt : (2 ^ 32 - 1) / p < 2 ^ 32 :=
      Nat.lt_of_le_of_lt (Nat.div_le_self _ _) (by decide)
    rw [← power_eq_iterate (by decide) kCrcPolynomial 32 _ hlt]
    exact computed.2 p (prime_dvd_period hp hdvd)

/-! ## The syndrome -/

/-- The bytes of the checksum field. -/
def crcField (bytes : Bytes) : Bytes := (bytes.drop kCrcOffset).take 4

/-- The checksum computed from a packet's bytes against the one they carry. -/
def syndrome (bytes : Bytes) : BitVec 32 :=
  crc32 (crcCovered bytes) ^^^ BigEndian.decode 32 (crcField bytes)

/-- The checksum of a laid-out packet covers its header, less the field, and its payload. -/
theorem crcCovered_layout (header : PacketHeader) (payload : Bytes) :
    crcCovered (layout header payload) = headerBytes header ++ payload := by
  rw [crcCovered, take_layout, drop_layout]

/-- The checksum field of a laid-out packet is the one of its header. -/
theorem crcField_layout (header : PacketHeader) (payload : Bytes) :
    crcField (layout header payload) = BigEndian.encode header.crc32 := by
  rw [crcField, layout, List.drop_left' (by rw [length_headerBytes, kCrcOffset]),
    List.take_left' (BigEndian.length_encode header.crc32)]

/-- The syndrome of a laid-out packet compares the checksum computed with the one carried. -/
theorem syndrome_layout (header : PacketHeader) (payload : Bytes) :
    syndrome (layout header payload) =
      packetCrc (headerBytes header) payload ^^^ header.crc32 := by
  rw [syndrome, crcCovered_layout, crcField_layout, BigEndian.decode_encode (by decide),
    packetCrc_eq]

/-- **A packet with a non-zero syndrome is refused**, whichever check comes to it first. -/
theorem rejects_of_syndrome_ne {bytes : Bytes} (h : syndrome bytes ≠ 0#32) : Rejects bytes := by
  rcases decodePacket_cases bytes with ⟨packet, haccepted⟩ | hrejected
  · obtain ⟨_, _, hheader, rfl⟩ :=
      decodesTo_iff.mp (decodesTo_iff_decodePacket.mpr haccepted)
    have hcrc : packetCrc (headerBytes packet.header) packet.payload = packet.header.crc32 := by
      rw [hheader]
      rfl
    rw [syndrome_layout, hcrc, BitVec.xor_self] at h
    exact absurd rfl h
  · exact hrejected

/-- What the encoder writes has syndrome zero. -/
theorem syndrome_of_encodePacket {messageType : MessageType} {payload bytes : Bytes}
    {sequenceNumber sourceTimestampNs : BitVec 64}
    (h : encodePacket messageType sequenceNumber sourceTimestampNs payload = .ok bytes) :
    syndrome bytes = 0#32 := by
  obtain ⟨_, _, _, rfl⟩ := decodesTo_iff.mp (decodesTo_of_encodePacket h)
  rw [syndrome_layout]
  exact BitVec.xor_self

/-- An encoded packet is its 32-byte header and its payload. -/
theorem length_of_encodePacket {messageType : MessageType} {payload bytes : Bytes}
    {sequenceNumber sourceTimestampNs : BitVec 64}
    (h : encodePacket messageType sequenceNumber sourceTimestampNs payload = .ok bytes) :
    bytes.length = 32 + payload.length ∧ payload.length ≤ kMaxPayloadSize := by
  obtain ⟨_, hmax, _, rfl⟩ := decodesTo_iff.mp (decodesTo_of_encodePacket h)
  exact ⟨length_layout _ _, hmax⟩

/-! ## One flipped bit -/

/-- Bit `j` of byte `i` flipped. -/
def flipBit (bytes : Bytes) (i j : Nat) : Bytes := bytes.modify i (· ^^^ BitVec.twoPow 8 j)

@[simp] theorem length_flipBit (bytes : Bytes) (i j : Nat) :
    (flipBit bytes i j).length = bytes.length := List.length_modify _ _ _

/-- How often the top bit is clocked on the way from bit `j` of byte `i` of an `n`-byte packet to
the syndrome: the bits of the checksum field come first, then the covered bytes from the last. -/
def place (n i j : Nat) : Nat :=
  if i < 28 then 8 * (n - 4 - i) + 31 - j
  else if i < 32 then 8 * (i - 28) + 7 - j
  else 8 * (n - i) + 31 - j

/-- The top bit is clocked fewer times than the packet has bits. -/
theorem place_lt {n i j : Nat} (hn : 32 ≤ n) (hi : i < n) : place n i j < 8 * n := by
  unfold place
  split
  · omega
  · split <;> omega

/-- No two bits of a packet share a place. -/
theorem place_injective {n i j i' j' : Nat} (hn : 32 ≤ n) (hi : i < n) (hj : j < 8)
    (hi' : i' < n) (hj' : j' < 8) (h : place n i j = place n i' j') : i = i' ∧ j = j' := by
  unfold place at h
  split at h
  · split at h
    · omega
    · split at h <;> omega
  · split at h
    · split at h
      · omega
      · split at h <;> omega
    · split at h
      · omega
      · split at h <;> omega

/-- A flipped bit of a covered byte, clocked to the end. -/
private theorem iterate_twoPow (after j : Nat) (hj : j < 8) :
    (step kCrcPolynomial)^[8 * (after + 1)] ((BitVec.twoPow 8 j).setWidth 32) =
      (step kCrcPolynomial)^[8 * (after + 1) + 31 - j] (unit 32) := by
  have widened : (BitVec.twoPow 8 j).setWidth 32 = BitVec.twoPow 32 j := by
    apply BitVec.eq_of_getLsbD_eq
    intro i hi
    rw [BitVec.getLsbD_setWidth, BitVec.getLsbD_twoPow, BitVec.getLsbD_twoPow]
    simp [hi, hj, show j < 32 by omega]
  rw [widened, ← iterate_unit kCrcPolynomial (show j < 32 by omega), ← Function.iterate_add_apply]
  congr 1
  omega

/-- A flipped bit of the checksum field. -/
private theorem shiftLeft_twoPow (after j : Nat) (hafter : after < 4) (hj : j < 8) :
    (BitVec.twoPow 8 j).setWidth 32 <<< (8 * after) =
      (step kCrcPolynomial)^[8 * (3 - after) + 7 - j] (unit 32) := by
  have moved : (BitVec.twoPow 8 j).setWidth 32 <<< (8 * after) =
      BitVec.twoPow 32 (8 * after + j) := by
    apply BitVec.eq_of_getLsbD_eq
    intro i hi
    rw [BitVec.getLsbD_shiftLeft, BitVec.getLsbD_setWidth, BitVec.getLsbD_twoPow,
      BitVec.getLsbD_twoPow]
    by_cases h : i < 8 * after
    · simp [h, show 8 * after + j ≠ i by omega]
    · have hiff : j = i - 8 * after ↔ 8 * after + j = i := by omega
      simp [h, hi, hj, hiff, show i - 8 * after < 32 by omega, show 8 * after + j < 32 by omega]
  rw [moved, ← iterate_unit kCrcPolynomial (show 8 * after + j < 32 by omega)]
  congr 1
  omega

section Byte

variable {before after : Bytes}

/-! A byte of a packet lies before the checksum field, in it or behind it. -/

private theorem crcCovered_front (h : before.length < 28) (byte : Byte) :
    crcCovered (before ++ byte :: after) =
      before ++ byte :: (after.take (27 - before.length) ++ after.drop (31 - before.length)) := by
  have htake : (byte :: after).take (28 - before.length) =
      byte :: after.take (27 - before.length) := by
    rw [show 28 - before.length = (27 - before.length) + 1 by omega, List.take_succ_cons]
  have hdrop : (byte :: after).drop (32 - before.length) = after.drop (31 - before.length) := by
    rw [show 32 - before.length = (31 - before.length) + 1 by omega, List.drop_succ_cons]
  rw [crcCovered, kCrcOffset, kPacketHeaderSize, List.take_append, List.drop_append, htake, hdrop,
    List.take_of_length_le (by omega), List.drop_of_length_le (by omega)]
  simp only [List.nil_append, List.append_assoc, List.cons_append]

private theorem crcField_front (h : before.length < 28) (byte : Byte) :
    crcField (before ++ byte :: after) = (after.drop (27 - before.length)).take 4 := by
  rw [crcField, kCrcOffset, List.drop_append, List.drop_of_length_le (by omega),
    show 28 - before.length = (27 - before.length) + 1 by omega, List.drop_succ_cons,
    List.nil_append]

private theorem crcCovered_inside (h : 28 ≤ before.length) (h' : before.length < 32)
    (byte : Byte) : crcCovered (before ++ byte :: after) =
      before.take 28 ++ after.drop (31 - before.length) := by
  rw [crcCovered, kCrcOffset, kPacketHeaderSize, List.take_append, List.drop_append,
    List.drop_of_length_le (by omega), show 32 - before.length = (31 - before.length) + 1 by omega,
    List.drop_succ_cons, show 28 - before.length = 0 by omega, List.take_zero, List.append_nil,
    List.nil_append]

private theorem crcField_inside (h : 28 ≤ before.length) (h' : before.length < 32)
    (byte : Byte) : crcField (before ++ byte :: after) =
      before.drop 28 ++ byte :: after.take (31 - before.length) := by
  have hlength : (before.drop 28).length = before.length - 28 := List.length_drop
  rw [crcField, kCrcOffset, List.drop_append, show 28 - before.length = 0 by omega,
    List.drop_zero, List.take_append, hlength, List.take_of_length_le (by omega),
    show 4 - (before.length - 28) = (31 - before.length) + 1 by omega, List.take_succ_cons]

private theorem crcCovered_behind (h : 32 ≤ before.length) (byte : Byte) :
    crcCovered (before ++ byte :: after) =
      (before.take 28 ++ before.drop 32) ++ byte :: after := by
  rw [crcCovered, kCrcOffset, kPacketHeaderSize, List.take_append, List.drop_append,
    show 28 - before.length = 0 by omega, show 32 - before.length = 0 by omega, List.take_zero,
    List.drop_zero, List.append_nil, List.append_assoc]

private theorem crcField_behind (h : 32 ≤ before.length) (byte : Byte) :
    crcField (before ++ byte :: after) = (before.drop 28).take 4 := by
  have hlength : (before.drop 28).length = before.length - 28 := List.length_drop
  rw [crcField, kCrcOffset, List.drop_append, show 28 - before.length = 0 by omega,
    List.drop_zero, List.take_append, hlength, show 4 - (before.length - 28) = 0 by omega,
    List.take_zero, List.append_nil]

/-- A flipped bit of a covered byte changes the computed checksum only. -/
private theorem syndrome_covered {head tail rest : Bytes} {j : Nat} (hj : j < 8) (byte : Byte)
    (covered : ∀ byte, crcCovered (before ++ byte :: after) = head ++ byte :: tail)
    (field : ∀ byte, crcField (before ++ byte :: after) = rest) :
    syndrome (before ++ (byte ^^^ BitVec.twoPow 8 j) :: after) =
      syndrome (before ++ byte :: after) ^^^
        (step kCrcPolynomial)^[8 * (tail.length + 1) + 31 - j] (unit 32) := by
  simp only [syndrome, crc32, covered, field, updateCrc_eq, feed_change, iterate_twoPow _ j hj]
  ac_rfl

end Byte

/-- **A flipped bit moves the syndrome by the top bit clocked to its place.** -/
theorem syndrome_flipBit {bytes : Bytes} {i j : Nat} (hsize : 32 ≤ bytes.length)
    (hi : i < bytes.length) (hj : j < 8) :
    syndrome (flipBit bytes i j) =
      syndrome bytes ^^^ (step kCrcPolynomial)^[place bytes.length i j] (unit 32) := by
  obtain ⟨before, byte, after, rfl, hbefore, hflip⟩ :=
    List.exists_of_modify (· ^^^ BitVec.twoPow 8 j) hi
  subst hbefore
  have hlength : (before ++ byte :: after).length = before.length + after.length + 1 := by
    simp only [List.length_append, List.length_cons]
    omega
  rw [hlength] at hsize
  rw [flipBit, hflip, hlength]
  unfold place
  split
  next h28 =>
    rw [syndrome_covered hj byte (crcCovered_front h28) (crcField_front h28)]
    congr 2
    simp only [List.length_append, List.length_take, List.length_drop]
    omega
  next h28 =>
    have h28 := Nat.le_of_not_lt h28
    split
    next h32 =>
      -- a byte of the checksum field changes the stored checksum only
      have hafter : (after.take (31 - before.length)).length = 31 - before.length := by
        rw [List.length_take]
        omega
      simp only [syndrome, crcCovered_inside h28 h32, crcField_inside h28 h32,
        BigEndian.decode_change, hafter, shiftLeft_twoPow (31 - before.length) j (by omega) hj,
        show 3 - (31 - before.length) = before.length - 28 by omega]
      ac_rfl
    next h32 =>
      have h32 := Nat.le_of_not_lt h32
      rw [syndrome_covered hj byte (crcCovered_behind h32) (crcField_behind h32)]
      congr 2
      omega

/-- One flipped bit is never clocked away. -/
theorem syndrome_flipBit_ne {bytes : Bytes} {i j : Nat} (hsize : 32 ≤ bytes.length)
    (hi : i < bytes.length) (hj : j < 8) (sound : syndrome bytes = 0#32) :
    syndrome (flipBit bytes i j) ≠ 0#32 := by
  rw [syndrome_flipBit hsize hi hj, sound, BitVec.zero_xor]
  intro hzero
  have hunit := iterate_injective kCrcPolynomial_top (place bytes.length i j)
    (hzero.trans (iterate_zero kCrcPolynomial _).symm)
  exact absurd hunit (by decide)

/-- **At most two bit errors never pass**: flipping one bit of an encoded packet, or two different
ones, anywhere in it, leaves a packet the decoder refuses. -/
theorem bitFlips_rejected {messageType : MessageType} {payload bytes : Bytes}
    {sequenceNumber sourceTimestampNs : BitVec 64}
    (encoded : encodePacket messageType sequenceNumber sourceTimestampNs payload = .ok bytes)
    {i j : Nat} (hi : i < bytes.length) (hj : j < 8) :
    Rejects (flipBit bytes i j) ∧
      ∀ i' j', i' < bytes.length → j' < 8 → (i', j') ≠ (i, j) →
        Rejects (flipBit (flipBit bytes i j) i' j') := by
  obtain ⟨hlength, hmax⟩ := length_of_encodePacket encoded
  have hsize : 32 ≤ bytes.length := by omega
  -- the longest packet has fewer bits than the register has states
  have inPeriod {i j : Nat} (hi : i < bytes.length) :
      place bytes.length i j < Function.minimalPeriod (step kCrcPolynomial) (unit 32) := by
    have hplace : place bytes.length i j < 8 * bytes.length := place_lt hsize hi
    rw [kMaxPayloadSize] at hmax
    rw [minimalPeriod_crc]
    omega
  have one := syndrome_flipBit hsize hi hj
  rw [syndrome_of_encodePacket encoded, BitVec.zero_xor] at one
  constructor
  · exact rejects_of_syndrome_ne
      (syndrome_flipBit_ne hsize hi hj (syndrome_of_encodePacket encoded))
  · intro i' j' hi' hj' hne
    apply rejects_of_syndrome_ne
    rw [syndrome_flipBit (by rwa [length_flipBit]) (by rwa [length_flipBit]) hj', one,
      length_flipBit, ne_eq, BitVec.xor_eq_zero_iff]
    apply iterate_unit_ne _ (inPeriod hi) (inPeriod hi')
    intro hplace
    obtain ⟨rfl, rfl⟩ := place_injective hsize hi hj hi' hj' hplace
    exact hne rfl

/-- A flipped bit of the header, alone and together with one of the checksum field, is rejected. -/
theorem bitFlips_rejected_imu :
    ∃ bytes, encodePacket .kImu 7 9 [1, 2, 3] = .ok bytes ∧
      Rejects (flipBit bytes 6 0) ∧ Rejects (flipBit (flipBit bytes 6 0) 30 7) := by
  have encoded : encodePacket .kImu 7 9 [1, 2, 3] = .ok _ :=
    encodePacket_eq 7 9 (by decide) (by decide)
  have inside {i : Nat} (hi : i < 35) :
      i < (layout (sealedHeader .kImu 7 9 [1, 2, 3]) [1, 2, 3]).length := by
    rw [length_layout]
    exact hi
  have flips := bitFlips_rejected encoded (inside (show 6 < 35 by decide)) (show 0 < 8 by decide)
  exact ⟨_, encoded, flips.1, flips.2 30 7 (inside (by decide)) (by decide) (by decide)⟩

/-! ## Bursts -/

/-- Where byte `k` of a packet stands in the covered sequence. The checksum's own bytes stand
nowhere in it. -/
def coveredIndex (k : Nat) : Option Nat :=
  if k < 28 then some k else if k < 32 then none else some (k - 4)

/-- The two byte strings differ at byte `k`. -/
def DiffersAt (received bytes : Bytes) (k : Nat) : Prop := received[k]? ≠ bytes[k]?

/-- All but the four bytes of the field are covered. -/
theorem length_crcCovered {bytes : Bytes} (h : 32 ≤ bytes.length) :
    (crcCovered bytes).length = bytes.length - 4 := by
  simp only [crcCovered, kCrcOffset, kPacketHeaderSize, List.length_append, List.length_take,
    List.length_drop]
  omega

/-- The covered bytes are those before the field and those four places behind it. -/
theorem getElem?_crcCovered {bytes : Bytes} (h : 32 ≤ bytes.length) (m : Nat) :
    (crcCovered bytes)[m]? = if m < 28 then bytes[m]? else bytes[m + 4]? := by
  have hlen : (bytes.take 28).length = 28 := by
    rw [List.length_take]
    omega
  rw [crcCovered, kCrcOffset, kPacketHeaderSize]
  split
  next hm => rw [List.getElem?_append_left (by omega), List.getElem?_take, if_pos hm]
  next hm =>
    rw [List.getElem?_append_right (by omega), hlen, List.getElem?_drop]
    congr 1
    omega

/-- A packet is its covered sequence with its checksum field put back. -/
theorem eq_of_crcCovered_of_crcField {received bytes : Bytes} (hr : 32 ≤ received.length)
    (hb : 32 ≤ bytes.length) (hcovered : crcCovered received = crcCovered bytes)
    (hfield : crcField received = crcField bytes) : received = bytes := by
  obtain ⟨header, payload, rfl⟩ := exists_layout hr
  obtain ⟨header', payload', rfl⟩ := exists_layout hb
  rw [crcCovered_layout, crcCovered_layout] at hcovered
  rw [crcField_layout, crcField_layout] at hfield
  obtain ⟨hhead, hpayload⟩ := List.append_inj hcovered
    (by rw [length_headerBytes, length_headerBytes])
  rw [layout, layout, hhead, hpayload, hfield]

/-- Two lists that agree outside four consecutive places share what stands around them. -/
private theorem split_burst {first second : Bytes} (hlen : first.length = second.length)
    (start : Nat) (agree : ∀ m, m < start ∨ start + 4 ≤ m → first[m]? = second[m]?) :
    ∃ before after mid mid', first = before ++ mid ++ after ∧ second = before ++ mid' ++ after ∧
      mid.length = mid'.length ∧ mid.length ≤ 4 := by
  have parts (l : Bytes) :
      l = l.take start ++ (l.drop start).take 4 ++ l.drop (start + 4) := by
    rw [List.append_assoc, slice_append_drop, List.take_append_drop]
  have hbefore : first.take start = second.take start := by
    apply List.ext_getElem?
    intro m
    rw [List.getElem?_take, List.getElem?_take]
    split
    next hm => exact agree m (.inl hm)
    · rfl
  have hafter : first.drop (start + 4) = second.drop (start + 4) := by
    apply List.ext_getElem?
    intro m
    rw [List.getElem?_drop, List.getElem?_drop]
    exact agree _ (.inr (by omega))
  refine ⟨first.take start, first.drop (start + 4), (first.drop start).take 4,
    (second.drop start).take 4, parts first, ?_, ?_, ?_⟩
  · rw [hbefore, hafter]
    exact parts second
  · simp only [List.length_take, List.length_drop, hlen]
  · exact List.length_take_le _ _

/-- A burst of four bytes changes the checksum. -/
theorem crc32_burst_ne {first second : Bytes} (hlen : first.length = second.length)
    (hne : first ≠ second) (start : Nat)
    (agree : ∀ m, m < start ∨ start + 4 ≤ m → first[m]? = second[m]?) :
    crc32 first ≠ crc32 second := by
  obtain ⟨before, after, mid, mid', rfl, rfl, hmid, hfour⟩ := split_burst hlen start agree
  have hmidne : mid ≠ mid' := fun h => hne (by rw [h])
  simp only [crc32, updateCrc_eq, ne_eq, BitVec.xor_left_inj]
  exact feed_burst_ne kCrcPolynomial_top _ before after hmid (by omega) hmidne

/-- **A burst error moves the syndrome.** -/
theorem syndrome_burst_ne {received bytes : Bytes} (hsize : 32 ≤ bytes.length)
    (hlen : received.length = bytes.length) (hne : received ≠ bytes)
    (burst : (∃ start, ∀ k, DiffersAt received bytes k →
        ∃ m, coveredIndex k = some m ∧ start ≤ m ∧ m < start + 4) ∨
      ∀ k, DiffersAt received bytes k → 28 ≤ k ∧ k < 32) :
    syndrome received ≠ syndrome bytes := by
  have hsize' : 32 ≤ received.length := by omega
  rcases burst with ⟨start, burst⟩ | burst
  · have hfield : crcField received = crcField bytes := by
      apply List.ext_getElem?
      intro m
      simp only [crcField, kCrcOffset, List.getElem?_take, List.getElem?_drop]
      split
      next hm =>
        by_contra hdiffers
        obtain ⟨_, hindex, _⟩ := burst (28 + m) hdiffers
        simp [coveredIndex, show ¬ 28 + m < 28 by omega, show 28 + m < 32 by omega] at hindex
      · rfl
    have hcovered : crcCovered received ≠ crcCovered bytes := fun h =>
      hne (eq_of_crcCovered_of_crcField hsize' hsize h hfield)
    have agree (m : Nat) (hm : m < start ∨ start + 4 ≤ m) :
        (crcCovered received)[m]? = (crcCovered bytes)[m]? := by
      rw [getElem?_crcCovered hsize', getElem?_crcCovered hsize]
      by_contra hdiffers
      by_cases h28 : m < 28
      · rw [if_pos h28, if_pos h28] at hdiffers
        obtain ⟨_, hindex, _⟩ := burst m hdiffers
        simp only [coveredIndex, h28, ↓reduceIte, Option.some.injEq] at hindex
        omega
      · rw [if_neg h28, if_neg h28] at hdiffers
        obtain ⟨_, hindex, _⟩ := burst (m + 4) hdiffers
        simp only [coveredIndex, show ¬ m + 4 < 28 by omega, show ¬ m + 4 < 32 by omega,
          ↓reduceIte, Option.some.injEq] at hindex
        omega
    have hcrc := crc32_burst_ne
      (by rw [length_crcCovered hsize', length_crcCovered hsize, hlen]) hcovered start agree
    rw [syndrome, syndrome, hfield, ne_eq, BitVec.xor_left_inj]
    exact hcrc
  · have hcovered : crcCovered received = crcCovered bytes := by
      apply List.ext_getElem?
      intro m
      rw [getElem?_crcCovered hsize', getElem?_crcCovered hsize]
      by_contra hdiffers
      by_cases h28 : m < 28
      · rw [if_pos h28, if_pos h28] at hdiffers
        have := burst m hdiffers
        omega
      · rw [if_neg h28, if_neg h28] at hdiffers
        have := burst (m + 4) hdiffers
        omega
    have hfield : crcField received ≠ crcField bytes := fun h =>
      hne (eq_of_crcCovered_of_crcField hsize' hsize hcovered h)
    rw [syndrome, syndrome, hcovered, ne_eq, BitVec.xor_right_inj]
    intro hdecode
    have four (l : Bytes) (hl : 32 ≤ l.length) : 32 = 8 * (crcField l).length := by
      simp only [crcField, kCrcOffset, List.length_take, List.length_drop]
      omega
    have hencode := congrArg BigEndian.encode hdecode
    rw [BigEndian.encode_decode (four received hsize'),
      BigEndian.encode_decode (four bytes hsize)] at hencode
    exact hfield hencode

/-- Scalars read from stretches that agree are equal. -/
theorem readBigEndian_congr {w : Nat} {received bytes : Bytes} {offset : Nat}
    (hr : offset + w / 8 ≤ received.length) (hb : offset + w / 8 ≤ bytes.length)
    (agree : ∀ k, offset ≤ k → k < offset + w / 8 → received[k]? = bytes[k]?) :
    Wire.readBigEndian w received offset = Wire.readBigEndian w bytes offset := by
  have stretch : (received.drop offset).take (w / 8) = (bytes.drop offset).take (w / 8) := by
    apply List.ext_getElem?
    intro m
    simp only [List.getElem?_take, List.getElem?_drop]
    split
    next hm => exact agree _ (by omega) (by omega)
    · rfl
  rw [Wire.readBigEndian_eq hr, Wire.readBigEndian_eq hb, Wire.fieldAt, Wire.fieldAt, stretch]

/-- A packet whose magic, version, type and length fields are those of an encoded one, and whose
syndrome is not zero, is refused for its checksum. -/
theorem decodePacket_crcMismatch {received bytes : Bytes} {packet : Packet}
    (accepted : DecodesTo bytes packet) (hlen : received.length = bytes.length)
    (intact : ∀ k, k < 8 ∨ 24 ≤ k ∧ k < 28 → received[k]? = bytes[k]?)
    (hne : syndrome received ≠ 0#32) :
    decodePacket received = some (decodeFailure .kCrcMismatch) := by
  obtain ⟨known, fits, hheader, rfl⟩ := decodesTo_iff.mp accepted
  rw [length_layout] at hlen
  have hsize : kPacketHeaderSize ≤ received.length := by
    rw [hlen, kPacketHeaderSize]
    omega
  obtain ⟨header, payload, rfl⟩ := exists_layout hsize
  rw [length_layout] at hlen
  obtain ⟨hmagic, hversion, htype, _, _, hlength, _⟩ := read_layout header payload
  obtain ⟨hmagic', hversion', htype', _, _, hlength', _⟩ :=
    read_layout packet.header packet.payload
  have same {w offset : Nat} {value value' : BitVec w} (hin : offset + w / 8 ≤ 32)
      (hread : Wire.readBigEndian w (layout header payload) offset = some value)
      (hread' : Wire.readBigEndian w (layout packet.header packet.payload) offset = some value')
      (agree : ∀ k, offset ≤ k → k < offset + w / 8 →
        (layout header payload)[k]? = (layout packet.header packet.payload)[k]?) :
      value = value' := by
    rw [readBigEndian_congr (by rw [length_layout]; omega) (by rw [length_layout]; omega) agree,
      hread'] at hread
    exact (Option.some.inj hread).symm
  have eqMagic := same (by decide) hmagic hmagic' (fun k _ hk => intact k (.inl (by
    rw [kMagicOffset] at hk; omega)))
  have eqVersion := same (by decide) hversion hversion' (fun k _ hk => intact k (.inl (by
    rw [kVersionOffset] at hk; omega)))
  have eqType := same (by decide) htype htype' (fun k _ hk => intact k (.inl (by
    rw [kMessageTypeOffset] at hk; omega)))
  have eqLength := same (by decide) hlength hlength' (fun k hk hk' => intact k (.inr (by
    rw [kPayloadLengthOffset] at hk hk'; omega)))
  have hfull : packet.header.payloadLength.toNat = packet.payload.length := by
    rw [hheader]
    exact Nat.mod_eq_of_lt (by rw [kMaxPayloadSize] at fits; omega)
  have hcrc : packetCrc (headerBytes header) payload ≠ header.crc32 := by
    rw [syndrome_layout, ne_eq, BitVec.xor_eq_zero_iff] at hne
    exact hne
  have magic : packet.header.magic = kPacketMagic := by rw [hheader]; rfl
  have version : packet.header.version = kProtocolVersion := by rw [hheader]; rfl
  have hpayload : payload.length = packet.payload.length := by omega
  rw [decodePacket_layout, checkFields, eqMagic, eqVersion, eqType, eqLength, hfull, hpayload,
    magic, version, known]
  simp only [ne_eq, not_true_eq_false, Bool.not_true, Bool.false_eq_true, ↓reduceIte,
    Nat.not_lt.mpr fits, Nat.lt_irrefl, hcrc, not_false_eq_true]

/-- **Burst errors are always refused**: when the bytes in which a packet differs from an encoded
one of its length lie within four consecutive covered bytes, or within the checksum field, the
decoder refuses it, and for its checksum when the fields checked before are intact. -/
theorem burst_rejected {messageType : MessageType} {payload bytes received : Bytes}
    {sequenceNumber sourceTimestampNs : BitVec 64}
    (encoded : encodePacket messageType sequenceNumber sourceTimestampNs payload = .ok bytes)
    (hlen : received.length = bytes.length) (hne : received ≠ bytes)
    (burst : (∃ start, ∀ k, DiffersAt received bytes k →
        ∃ m, coveredIndex k = some m ∧ start ≤ m ∧ m < start + 4) ∨
      ∀ k, DiffersAt received bytes k → 28 ≤ k ∧ k < 32) :
    Rejects received ∧
      ((∀ k, DiffersAt received bytes k → ¬ (k < 8 ∨ 24 ≤ k ∧ k < 28)) →
        decodePacket received = some (decodeFailure .kCrcMismatch)) := by
  have hsize : 32 ≤ bytes.length := by
    have := (length_of_encodePacket encoded).1
    omega
  have hmoved := syndrome_burst_ne hsize hlen hne burst
  rw [syndrome_of_encodePacket encoded] at hmoved
  refine ⟨rejects_of_syndrome_ne hmoved, fun intact => ?_⟩
  apply decodePacket_crcMismatch (decodesTo_of_encodePacket encoded) hlen ?_ hmoved
  intro k hk
  by_contra hdiffers
  exact intact k hdiffers hk

/-- A flipped bit of the payload is reported as a checksum mismatch. -/
theorem burst_rejected_imu :
    ∃ bytes, encodePacket .kImu 7 9 [1, 2, 3] = .ok bytes ∧
      decodePacket (flipBit bytes 33 2) = some (decodeFailure .kCrcMismatch) := by
  have encoded : encodePacket .kImu 7 9 [1, 2, 3] = .ok _ :=
    encodePacket_eq 7 9 (by decide) (by decide)
  have only {k : Nat} (hk : DiffersAt (flipBit (layout (sealedHeader .kImu 7 9 [1, 2, 3])
      [1, 2, 3]) 33 2) (layout (sealedHeader .kImu 7 9 [1, 2, 3]) [1, 2, 3]) k) : k = 33 := by
    by_contra hne
    exact hk (List.getElem?_modify_ne _ _ (Ne.symm hne))
  refine ⟨_, encoded, (burst_rejected encoded (length_flipBit _ _ _) ?_
    (.inl ⟨29, fun k hk => ⟨29, ?_, by decide, by decide⟩⟩)).2 fun k hk => ?_⟩
  · intro h
    have := congrArg (fun bytes => bytes[33]?) h
    exact absurd this (by decide)
  · rw [only hk]
    rfl
  · rw [only hk]
    decide

end Driveflow.Protocol
