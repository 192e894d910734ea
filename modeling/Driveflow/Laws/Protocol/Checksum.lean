import Driveflow.Laws.Protocol.PacketIntegrity
import Driveflow.Library.PolynomialRegister

/-!
# The checksum is CRC-32/ISO-HDLC

The definition by polynomials over the field of two elements, and that the bitwise loop computes it:
the message with each byte reflected, shifted up by 32 places, the all-ones start above it, the
remainder by the generator, reflected and complemented.
-/

namespace Driveflow.Protocol

open Library ShiftRegister Polynomial

noncomputable def crcGenerator : (ZMod 2)[X] :=
  X ^ 32 + X ^ 26 + X ^ 23 + X ^ 22 + X ^ 16 + X ^ 12 + X ^ 11 + X ^ 10 + X ^ 8 + X ^ 7 + X ^ 5 +
    X ^ 4 + X ^ 2 + X + 1

/-- The polynomial of degree 31 whose coefficients are all one. -/
noncomputable def allOnes : (ZMod 2)[X] := ∑ i ∈ Finset.range 32, X ^ i

/-- CRC-32/ISO-HDLC. -/
noncomputable def isoHdlc (bytes : Bytes) : BitVec 32 :=
  let remainder :=
    (message bytes * X ^ 32 + X ^ (8 * bytes.length) * allOnes) %ₘ crcGenerator
  ~~~(toWord 32 remainder).reverse

/-- The word the loop feeds back is the generator, upside down and without its top. -/
theorem generator_kCrcPolynomial : generator kCrcPolynomial = crcGenerator := by
  have hreverse : kCrcPolynomial.reverse = 0x04c11db7#32 := by decide +kernel
  have hones : ofBits 0x04c11db7#32 = 1 + X + X ^ 2 + X ^ 4 + X ^ 5 + X ^ 7 + X ^ 8 + X ^ 10 +
      X ^ 11 + X ^ 12 + X ^ 16 + X ^ 22 + X ^ 23 + X ^ 26 := by
    simp [ofBits, Finset.sum_range_succ]
  rw [generator, reading, hreverse, hones, crcGenerator]
  ring

theorem reading_kCrcInitialState : reading kCrcInitialState = allOnes := by
  have hreverse : kCrcInitialState.reverse = BitVec.allOnes 32 := by decide +kernel
  rw [reading, hreverse, ofBits, allOnes]
  refine Finset.sum_congr rfl fun i hi => if_pos ?_
  rw [BitVec.getLsbD_allOnes]
  exact decide_eq_true (Finset.mem_range.mp hi)

/-- **The CRC loop computes CRC-32/ISO-HDLC**, also in two parts. -/
theorem crc32_eq_isoHdlc (bytes headerWithoutCrc payload : Bytes) :
    crc32 bytes = isoHdlc bytes ∧
      packetCrc headerWithoutCrc payload = crc32 (headerWithoutCrc ++ payload) := by
  refine ⟨?_, packetCrc_eq headerWithoutCrc payload⟩
  have hremainder := reading_feed kCrcPolynomial (by decide) kCrcInitialState bytes
  rw [reading_kCrcInitialState, generator_kCrcPolynomial, mul_comm (X ^ 32)] at hremainder
  rw [isoHdlc, ← hremainder, reading, toWord_ofBits, BitVec.reverse_reverse_eq, crc32, updateCrc_eq]
  exact BitVec.xor_allOnes

end Driveflow.Protocol
