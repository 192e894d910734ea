import Driveflow.Library.BigEndian

/-!
# What the sources take from the language

Exceptions, reads from a span, and numbers read from a text. A C++ span is indexed without a check,
so a read here is an `Option`: `none` is the access outside the span, the one outcome a decoder of
untrusted bytes must never reach. Every other outcome of such a function, a refusal included, is a
`some`.
-/

namespace Driveflow

open Library

/-- The standard exceptions the sources throw, with the texts they carry. -/
inductive Exception where
  | invalidArgument (what : String)
  | lengthError (what : String)
  | runtimeError (what : String)
  | systemError (operation : String)
  deriving DecidableEq, Repr

/-- What comes of two calls in a row, when neither throws. -/
theorem bind_eq_ok {ε α β : Type} {first : Except ε α} {next : α → Except ε β} {result : β} :
    (first >>= next) = .ok result ↔ ∃ value, first = .ok value ∧ next value = .ok result := by
  cases first with
  | error exception => exact ⟨nofun, nofun⟩
  | ok value => exact ⟨fun h => ⟨value, rfl, h⟩, fun ⟨_, h, hnext⟩ => Except.ok.inj h ▸ hnext⟩

/-- `span.first(count)`. -/
def first (bytes : Bytes) (count : Nat) : Option Bytes :=
  if count ≤ bytes.length then some (bytes.take count) else none

/-- `span.subspan(offset)`. -/
def subspan (bytes : Bytes) (offset : Nat) : Option Bytes :=
  if offset ≤ bytes.length then some (bytes.drop offset) else none

/-- `first` of no more bytes than there are takes them. -/
theorem first_eq {bytes : Bytes} {count : Nat} (h : count ≤ bytes.length) :
    first bytes count = some (bytes.take count) := if_pos h

/-- `subspan` at an offset inside the bytes drops what stands before it. -/
theorem subspan_eq {bytes : Bytes} {offset : Nat} (h : offset ≤ bytes.length) :
    subspan bytes offset = some (bytes.drop offset) := if_pos h

/-! ## Texts -/

/-- `string_view::rfind` of a character. -/
def rfind (text : List Char) (character : Char) : Option Nat :=
  (text.reverse.idxOf? character).map fun index => text.length - 1 - index

/-- The number that decimal digits stand for. -/
def decimal (digits : List Char) : Nat :=
  digits.foldl (fun value digit => 10 * value + (digit.toNat - '0'.toNat)) 0

/-- `std::from_chars` into an unsigned integer of some width: the number, and the text behind its
digits. There is no number if there are no digits, or if it does not fit. -/
def fromChars (width : Nat) (text : List Char) : Option (BitVec width × List Char) :=
  let digits := text.takeWhile Char.isDigit
  if digits = [] ∨ decimal digits ≥ 2 ^ width then none
  else some (BitVec.ofNat width (decimal digits), text.dropWhile Char.isDigit)

/-- The text is nothing but the digits of the number. -/
structure IsDecimal (text : List Char) (number : Nat) : Prop where
  nonempty : text ≠ []
  digits : ∀ character ∈ text, character.isDigit = true
  value : decimal text = number

/-- **What `from_chars` reads to the end of a text is the number written there.** -/
theorem isDecimal_of_fromChars {width : Nat} {text : List Char} {number : BitVec width}
    (h : fromChars width text = some (number, [])) : IsDecimal text number.toNat := by
  unfold fromChars at h
  dsimp only at h
  split at h
  · exact nomatch h
  next hfits =>
    obtain ⟨hnumber, hrest⟩ := Prod.mk.inj (Option.some.inj h)
    have hdigits := List.dropWhile_eq_nil_iff.mp hrest
    have hwhole : text.takeWhile Char.isDigit = text := List.takeWhile_eq_self_iff.mpr hdigits
    rw [hwhole] at hfits hnumber
    obtain ⟨hnonempty, hlt⟩ := not_or.mp hfits
    refine ⟨hnonempty, hdigits, ?_⟩
    rw [← hnumber, BitVec.toNat_ofNat, Nat.mod_eq_of_lt (Nat.lt_of_not_le hlt)]

/-- The text is split by the character found at the index `rfind` returns. -/
theorem exists_of_rfind {text : List Char} {character : Char} {index : Nat}
    (h : rfind text character = some index) :
    text = text.take index ++ character :: text.drop (index + 1) := by
  obtain ⟨back, hback, rfl⟩ := Option.map_eq_some_iff.mp h
  obtain ⟨hlt, hat, _⟩ := List.idxOf?_eq_some_iff.mp hback
  rw [List.length_reverse] at hlt
  rw [List.getElem_reverse] at hat
  have hdrop := List.drop_eq_getElem_cons (l := text) (i := text.length - 1 - back) (by omega)
  rw [hat] at hdrop
  rw [← hdrop, List.take_append_drop]

end Driveflow
