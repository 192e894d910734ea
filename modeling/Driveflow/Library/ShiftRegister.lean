import Driveflow.Library.BigEndian

/-!
# Linear feedback shift registers

The register of a reflected cyclic redundancy check: one clock shifts a `w`-bit state right and
feeds the polynomial back when a one falls out. Everything an error-detection argument needs is
here, for any width and any polynomial whose top bit is set:

- a clock is linear in exclusive or and injective, so a difference between two states never dies;
- clocking a word that was shifted up undoes the shift, so consuming bytes that fit the register
  is clocking their little-endian word, and a burst of at most `w` bits always shows;
- a one in any place is the top bit clocked forward, so two single-bit differences cancel only
  when the register's period from the top bit divides their distance. `product` is the
  multiplication that makes long clock counts computable, and `minimalPeriod_unit` reads the
  period off finitely many of them.
-/

namespace Driveflow.Library.ShiftRegister

variable {w : Nat} (poly : BitVec w)

/-- One clock: shift right, and feed the polynomial back when a one falls out. -/
def step (state : BitVec w) : BitVec w :=
  if state.getLsbD 0 then (state >>> 1) ^^^ poly else state >>> 1

/-- The top bit: the state every single-bit state is clocked forward from. -/
def unit (w : Nat) : BitVec w := BitVec.twoPow w (w - 1)

/-! ## Linearity -/

/-- The zero state stays zero. -/
theorem step_zero : step poly 0 = 0 := by
  simp [step]

/-- Clocking once is linear in the state. -/
theorem step_xor (a b : BitVec w) : step poly (a ^^^ b) = step poly a ^^^ step poly b := by
  simp only [step, BitVec.getLsbD_xor, BitVec.ushiftRight_xor_distrib]
  cases a.getLsbD 0 <;> cases b.getLsbD 0
  · simp
  · simp [BitVec.xor_assoc]
  · simp only [Bool.xor_false, ↓reduceIte, Bool.false_eq_true]
    rw [BitVec.xor_assoc, BitVec.xor_comm (b >>> 1), ← BitVec.xor_assoc]
  · simp only [bne_self_eq_false, Bool.false_eq_true, ↓reduceIte]
    rw [BitVec.xor_assoc, BitVec.xor_comm poly, BitVec.xor_assoc, BitVec.xor_self, BitVec.xor_zero]

/-- The zero state stays zero however often it is clocked. -/
theorem iterate_zero (n : Nat) : (step poly)^[n] 0 = 0 :=
  Function.iterate_fixed (step_zero poly) n

/-- Clocking any number of times is linear in the state. -/
theorem iterate_xor (n : Nat) (a b : BitVec w) :
    (step poly)^[n] (a ^^^ b) = (step poly)^[n] a ^^^ (step poly)^[n] b := by
  induction n generalizing a b with
  | zero => rfl
  | succ n ih => simp only [Function.iterate_succ_apply, step_xor, ih]

/-! ## Injectivity -/

variable {poly}

/-- Only the zero state is clocked to zero: the fed-back top bit betrays a lost one. -/
theorem eq_zero_of_step_eq_zero (top : poly.getLsbD (w - 1) = true) {state : BitVec w}
    (h : step poly state = 0) : state = 0 := by
  have low : state.getLsbD 0 = false := by
    by_contra hlow
    have hlow : state.getLsbD 0 = true := by simpa using hlow
    have htop := congrArg (fun s => s.getLsbD (w - 1)) h
    have hpos : 0 < w := by
      by_contra hw
      rw [BitVec.getLsbD_of_ge state 0 (by omega)] at hlow
      exact Bool.false_ne_true hlow
    have hout : 1 + (w - 1) = w := by omega
    simp [step, hlow, top, BitVec.getLsbD_ushiftRight, hout] at htop
  have high : state >>> 1 = 0 := by
    simpa only [step, low, Bool.false_eq_true, ↓reduceIte] using h
  apply BitVec.eq_of_getLsbD_eq
  intro i _
  cases i with
  | zero => simpa using low
  | succ i =>
    have := congrArg (fun s => s.getLsbD i) high
    simpa [BitVec.getLsbD_ushiftRight, Nat.add_comm] using this

/-- With the top bit of the polynomial set, clocking loses nothing of the state. -/
theorem step_injective (top : poly.getLsbD (w - 1) = true) : Function.Injective (step poly) := by
  intro a b h
  have hxor : step poly (a ^^^ b) = 0 := by
    rw [step_xor, h, BitVec.xor_self]
    rfl
  exact BitVec.xor_eq_zero_iff.mp (eq_zero_of_step_eq_zero top hxor)

/-- With the top bit of the polynomial set, clocking any number of times loses nothing. -/
theorem iterate_injective (top : poly.getLsbD (w - 1) = true) (n : Nat) :
    Function.Injective (step poly)^[n] :=
  (step_injective top).iterate n

/-! ## Clocking undoes a shift -/

/-- Clocking `k` times a word that was moved up `k` places without loss moves it back. -/
theorem iterate_shiftLeft (poly : BitVec w) (k : Nat) (word : BitVec w)
    (room : ∀ i, w ≤ i + k → word.getLsbD i = false) :
    (step poly)^[k] (word <<< k) = word := by
  induction k with
  | zero => simp
  | succ k ih =>
    have clocked : step poly (word <<< (k + 1)) = word <<< k := by
      have low : (word <<< (k + 1)).getLsbD 0 = false := by simp
      simp only [step, low, Bool.false_eq_true, ↓reduceIte]
      apply BitVec.eq_of_getLsbD_eq
      intro i hi
      simp only [BitVec.getLsbD_ushiftRight, BitVec.getLsbD_shiftLeft]
      by_cases hout : 1 + i < w
      · by_cases hk : i < k
        · simp [hi, hout, hk, show 1 + i < k + 1 by omega]
        · simp [hi, hout, hk, show ¬ 1 + i < k + 1 by omega, show 1 + i - (k + 1) = i - k by omega]
      · by_cases hk : i < k
        · simp [hout, hk]
        · simp [hout, hk, room (i - k) (by omega)]
    rw [Function.iterate_succ_apply, clocked]
    exact ih (fun i hi => room i (by omega))

/-- A one in place `i` is the top bit clocked `w - 1 - i` times. -/
theorem iterate_unit (poly : BitVec w) {i : Nat} (hi : i < w) :
    (step poly)^[w - 1 - i] (unit w) = BitVec.twoPow w i := by
  have hshift : unit w = BitVec.twoPow w i <<< (w - 1 - i) := by
    rw [unit, BitVec.twoPow_eq, BitVec.twoPow_eq, ← BitVec.shiftLeft_add]
    congr 1
    omega
  rw [hshift]
  apply iterate_shiftLeft
  intro j hj
  rw [BitVec.getLsbD_twoPow]
  have : j ≠ i := by omega
  simp [this.symm]

/-! ## Consuming bytes -/

/-- Eight clocks after a byte entered at the low end. -/
def feedByte (poly state : BitVec w) (byte : Byte) : BitVec w :=
  (step poly)^[8] (state ^^^ byte.setWidth w)

/-- The state after a byte string. -/
def feed (poly state : BitVec w) (bytes : Bytes) : BitVec w := bytes.foldl (feedByte poly) state

@[simp] theorem feed_nil (poly state : BitVec w) : feed poly state [] = state := rfl

@[simp] theorem feed_cons (poly state : BitVec w) (byte : Byte) (bytes : Bytes) :
    feed poly state (byte :: bytes) = feed poly (feedByte poly state byte) bytes := rfl

/-- Feeding two byte strings after each other feeds their concatenation. -/
theorem feed_append (poly state : BitVec w) (first second : Bytes) :
    feed poly state (first ++ second) = feed poly (feed poly state first) second :=
  List.foldl_append

/-- A difference between two states is clocked eight times for every byte both consume. -/
theorem feed_xor (poly state diff : BitVec w) (bytes : Bytes) :
    feed poly (state ^^^ diff) bytes =
      feed poly state bytes ^^^ (step poly)^[8 * bytes.length] diff := by
  induction bytes generalizing state diff with
  | nil => rfl
  | cons byte bytes ih =>
    have entered : feedByte poly (state ^^^ diff) byte =
        feedByte poly state byte ^^^ (step poly)^[8] diff := by
      rw [feedByte, feedByte, ← iterate_xor, BitVec.xor_assoc, BitVec.xor_comm diff,
        ← BitVec.xor_assoc]
    rw [feed_cons, feed_cons, entered, ih, ← Function.iterate_add_apply, List.length_cons,
      Nat.mul_succ]

/-- Changing one byte changes the final state by the difference, clocked to the end. -/
theorem feed_change (poly state : BitVec w) (before after : Bytes) (byte diff : Byte) :
    feed poly state (before ++ (byte ^^^ diff) :: after) =
      feed poly state (before ++ byte :: after) ^^^
        (step poly)^[8 * (after.length + 1)] (diff.setWidth w) := by
  have entered : feedByte poly (feed poly state before) (byte ^^^ diff) =
      feedByte poly (feed poly state before) byte ^^^ (step poly)^[8] (diff.setWidth w) := by
    rw [feedByte, feedByte, ← iterate_xor, BitVec.setWidth_xor, BitVec.xor_assoc]
  rw [feed_append, feed_append, feed_cons, feed_cons, entered, feed_xor,
    ← Function.iterate_add_apply, Nat.mul_succ]

/-- With the top bit of the polynomial set, feeding the same bytes keeps different states apart. -/
theorem feed_injective (top : poly.getLsbD (w - 1) = true) (bytes : Bytes) :
    Function.Injective (feed poly · bytes) := by
  intro a b h
  have hzero : (step poly)^[8 * bytes.length] (a ^^^ b) = (step poly)^[8 * bytes.length] 0 := by
    have hfeed := feed_xor poly a (a ^^^ b) bytes
    have heq : feed poly a bytes = feed poly b bytes := h
    rw [← BitVec.xor_assoc, BitVec.xor_self, BitVec.zero_xor, ← heq] at hfeed
    rw [iterate_zero]
    exact (BitVec.xor_right_inj (feed poly a bytes)).mp (hfeed.symm.trans BitVec.xor_zero.symm)
  exact BitVec.xor_eq_zero_iff.mp (iterate_injective top _ hzero)

/-! ## Bursts -/

/-- The little-endian word of a byte string. -/
def word (w : Nat) : Bytes → BitVec w
  | [] => 0
  | byte :: bytes => byte.setWidth w ^^^ (word w bytes <<< 8)

/-- The word of a byte string has no bits beyond it. -/
theorem getLsbD_word_of_ge (bytes : Bytes) (i : Nat) (hi : 8 * bytes.length ≤ i) :
    (word w bytes).getLsbD i = false := by
  induction bytes generalizing i with
  | nil => simp [word]
  | cons byte bytes ih =>
    rw [List.length_cons] at hi
    simp only [word, BitVec.getLsbD_xor, BitVec.getLsbD_setWidth, BitVec.getLsbD_shiftLeft,
      BitVec.getLsbD_of_ge byte i (by omega), ih (i - 8) (by omega), Bool.and_false, Bool.xor_false]

/-- Consuming bytes that fit the register is clocking their word. -/
theorem feed_eq_iterate_word (poly state : BitVec w) (bytes : Bytes)
    (fits : 8 * bytes.length ≤ w) :
    feed poly state bytes = (step poly)^[8 * bytes.length] (state ^^^ word w bytes) := by
  induction bytes generalizing state with
  | nil => simp [word]
  | cons byte bytes ih =>
    rw [List.length_cons] at fits
    have moved : (step poly)^[8] (word w bytes <<< 8) = word w bytes :=
      iterate_shiftLeft poly 8 _ (fun i hi => getLsbD_word_of_ge bytes i (by omega))
    have entered : feedByte poly state byte ^^^ word w bytes =
        (step poly)^[8] (state ^^^ word w (byte :: bytes)) := by
      rw [word, ← BitVec.xor_assoc, iterate_xor poly 8 (state ^^^ _), moved, feedByte]
    rw [feed_cons, ih _ (by omega), entered, ← Function.iterate_add_apply, List.length_cons,
      Nat.mul_succ]

/-- A byte string that fits the register is read back from its word. -/
theorem word_injective {first second : Bytes} (hlen : first.length = second.length)
    (fits : 8 * first.length ≤ w) (h : word w first = word w second) : first = second := by
  induction first generalizing second with
  | nil => exact (List.length_eq_zero_iff.mp hlen.symm).symm
  | cons a first ih =>
    cases second with
    | nil => cases hlen
    | cons b second =>
      rw [List.length_cons] at fits
      simp only [List.length_cons, Nat.add_right_cancel_iff] at hlen
      have bit (i : Nat) := congrArg (fun s => s.getLsbD i) h
      simp only [word, BitVec.getLsbD_xor, BitVec.getLsbD_setWidth, BitVec.getLsbD_shiftLeft]
        at bit
      have head : a = b := by
        apply BitVec.eq_of_getLsbD_eq
        intro i hi
        simpa [hi, show i < w by omega] using bit i
      have tail : word w first = word w second := by
        apply BitVec.eq_of_getLsbD_eq
        intro i hi
        by_cases hin : i + 8 < w
        · have := bit (i + 8)
          rw [BitVec.getLsbD_of_ge a (i + 8) (by omega), BitVec.getLsbD_of_ge b (i + 8) (by omega)]
            at this
          simpa [hin] using this
        · rw [getLsbD_word_of_ge first i (by omega), getLsbD_word_of_ge second i (by omega)]
      rw [head, ih hlen (by omega) tail]

/-- **A burst that fits the register always shows**: two byte strings that differ only within a
stretch of at most `w` bits leave different states. -/
theorem feed_burst_ne (top : poly.getLsbD (w - 1) = true) (state : BitVec w)
    (before after : Bytes) {first second : Bytes} (hlen : first.length = second.length)
    (fits : 8 * first.length ≤ w) (hne : first ≠ second) :
    feed poly state (before ++ first ++ after) ≠ feed poly state (before ++ second ++ after) := by
  intro h
  simp only [feed_append] at h
  have hburst := feed_injective top after h
  rw [feed_eq_iterate_word _ _ first fits, feed_eq_iterate_word _ _ second (by omega), ← hlen]
    at hburst
  have hword := (BitVec.xor_right_inj _).mp (iterate_injective top _ hburst)
  exact hne (word_injective hlen fits hword)

/-! ## Long clock counts -/

/-- The states `state`, `step state`, .. added up at the ones of `coeff` below place `n`, the
highest place first. -/
def productFrom (poly coeff : BitVec w) : Nat → BitVec w → BitVec w → BitVec w
  | 0, _, acc => acc
  | n + 1, state, acc =>
    productFrom poly coeff n (step poly state) (if coeff.getLsbD n then acc ^^^ state else acc)

/-- The product of two states, read as polynomials with the top bit for one. -/
def product (poly coeff state : BitVec w) : BitVec w := productFrom poly coeff w state 0

/-- Clocking the sum clocks the state it starts from and what was added up so far. -/
theorem step_productFrom (poly coeff : BitVec w) (n : Nat) (state acc : BitVec w) :
    step poly (productFrom poly coeff n state acc) =
      productFrom poly coeff n (step poly state) (step poly acc) := by
  induction n generalizing state acc with
  | zero => rfl
  | succ n ih =>
    simp only [productFrom, ih]
    split <;> simp only [step_xor]

/-- Clocking moves into the second factor. -/
theorem iterate_product (poly coeff : BitVec w) (m : Nat) (state : BitVec w) :
    (step poly)^[m] (product poly coeff state) = product poly coeff ((step poly)^[m] state) := by
  induction m generalizing state with
  | zero => rfl
  | succ m ih =>
    have once : step poly (product poly coeff state) = product poly coeff (step poly state) := by
      rw [product, step_productFrom, step_zero, product]
    rw [Function.iterate_succ_apply, once, ih, Function.iterate_succ_apply]

/-- From a one in place `n` down, the sum collects exactly the low `n + 1` bits. -/
theorem getLsbD_productFrom_twoPow (poly coeff : BitVec w) (n : Nat) (hn : n < w)
    (acc : BitVec w) (i : Nat) :
    (productFrom poly coeff (n + 1) (BitVec.twoPow w n) acc).getLsbD i =
      (acc.getLsbD i ^^ (decide (i ≤ n) && coeff.getLsbD i)) := by
  have collected (m : Nat) (hm : m < w) (acc : BitVec w) :
      (if coeff.getLsbD m then acc ^^^ BitVec.twoPow w m else acc).getLsbD i =
        (acc.getLsbD i ^^ (decide (i = m) && coeff.getLsbD i)) := by
    by_cases him : i = m
    · subst him
      cases hc : coeff.getLsbD i <;> simp [hm]
    · have hmi : m ≠ i := Ne.symm him
      cases hc : coeff.getLsbD m <;> simp [BitVec.getLsbD_twoPow, him, hmi]
  induction n generalizing acc with
  | zero => simp only [productFrom, collected 0 hn, Nat.le_zero]
  | succ n ih =>
    have down : step poly (BitVec.twoPow w (n + 1)) = BitVec.twoPow w n := by
      have low : (BitVec.twoPow w (n + 1)).getLsbD 0 = false := by
        simp [BitVec.getLsbD_twoPow]
      simp only [step, low, Bool.false_eq_true, ↓reduceIte]
      apply BitVec.eq_of_getLsbD_eq
      intro j _
      have hiff : (n + 1 = 1 + j) ↔ n = j := by omega
      simp [BitVec.getLsbD_twoPow, BitVec.getLsbD_ushiftRight, hiff, hn, show n < w by omega]
    rw [productFrom, down, ih (by omega), collected (n + 1) hn]
    have hle : decide (i ≤ n + 1) = (decide (i = n + 1) ^^ decide (i ≤ n)) := by
      by_cases h : i ≤ n
      · simp [h, show i ≤ n + 1 by omega, show i ≠ n + 1 by omega]
      · by_cases h' : i = n + 1
        · simp [h']
        · simp [h, h', show ¬ i ≤ n + 1 by omega]
    rw [hle]
    cases decide (i = n + 1) <;> cases decide (i ≤ n) <;> cases coeff.getLsbD i <;> simp

/-- The top bit is the unit of the product. -/
theorem product_unit (hw : 0 < w) (poly state : BitVec w) :
    product poly state (unit w) = state := by
  obtain ⟨n, rfl⟩ : ∃ n, w = n + 1 := ⟨w - 1, by omega⟩
  apply BitVec.eq_of_getLsbD_eq
  intro i hi
  have := getLsbD_productFrom_twoPow poly state n (Nat.lt_succ_self n) 0 i
  simpa [product, unit, show i ≤ n by omega] using this

/-- Clocking any state is a product with the clocked top bit. -/
theorem iterate_eq_product (hw : 0 < w) (poly : BitVec w) (m : Nat) (state : BitVec w) :
    (step poly)^[m] state = product poly state ((step poly)^[m] (unit w)) := by
  rw [← iterate_product, product_unit hw]

/-- The top bit clocked `n` times, for `n` of at most `bits` binary places, by squaring. -/
def power (poly : BitVec w) : Nat → Nat → BitVec w
  | 0, _ => unit w
  | bits + 1, n =>
    let half := power poly bits (n / 2)
    if n % 2 = 1 then step poly (product poly half half) else product poly half half

/-- Squaring reaches the top bit clocked `n` times. -/
theorem power_eq_iterate (hw : 0 < w) (poly : BitVec w) (bits n : Nat) (hn : n < 2 ^ bits) :
    power poly bits n = (step poly)^[n] (unit w) := by
  induction bits generalizing n with
  | zero =>
    have : n = 0 := by omega
    subst this
    rfl
  | succ bits ih =>
    rw [Nat.pow_succ] at hn
    have squared : product poly (power poly bits (n / 2)) (power poly bits (n / 2)) =
        (step poly)^[n / 2 + n / 2] (unit w) := by
      rw [ih (n / 2) (by omega), ← iterate_eq_product hw, ← Function.iterate_add_apply]
    simp only [power, squared]
    split
    · rw [← Function.iterate_succ_apply' (step poly)]
      congr 2
      omega
    · congr 2
      omega

/-- **The period of the register**: if clocking the top bit `n` times returns it and clocking it
`n / p` times does not, for every prime `p` that divides `n`, its period is `n`. -/
theorem minimalPeriod_unit {n : Nat}
    (returns : (step poly)^[n] (unit w) = unit w)
    (earlier : ∀ p, p.Prime → p ∣ n → (step poly)^[n / p] (unit w) ≠ unit w) :
    Function.minimalPeriod (step poly) (unit w) = n := by
  have hdvd : Function.minimalPeriod (step poly) (unit w) ∣ n :=
    Function.IsPeriodicPt.minimalPeriod_dvd returns
  obtain ⟨k, hk⟩ := hdvd
  by_cases hone : k = 1
  · rw [hone, Nat.mul_one] at hk
    exact hk.symm
  · obtain ⟨p, hp, l, rfl⟩ := Nat.exists_prime_and_dvd hone
    have hfactor : n = p * (Function.minimalPeriod (step poly) (unit w) * l) := by
      rw [Nat.mul_left_comm]
      exact hk
    have hquot : n / p = Function.minimalPeriod (step poly) (unit w) * l :=
      Nat.div_eq_of_eq_mul_right hp.pos hfactor
    refine absurd ?_ (earlier p hp ⟨_, hfactor⟩)
    rw [hquot]
    exact (Function.isPeriodicPt_minimalPeriod (step poly) (unit w)).mul_const l

/-- **Below the period, clock counts are told apart.** -/
theorem iterate_unit_ne {a b : Nat} (hne : a ≠ b)
    (ha : a < Function.minimalPeriod (step poly) (unit w))
    (hb : b < Function.minimalPeriod (step poly) (unit w)) :
    (step poly)^[a] (unit w) ≠ (step poly)^[b] (unit w) := by
  intro h
  exact hne (Function.iterate_injOn_Iio_minimalPeriod ha hb h)

end Driveflow.Library.ShiftRegister
