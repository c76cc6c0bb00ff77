import Gyeeta.Filter.Boolstuff
import Gyeeta.Filter.Number
import Mathlib.Data.FinEnum

/-!
# Numbers in the text of a criterion

`string_to_number` reads a signed integer with `strtol` and base 0, so that a leading zero
makes the number octal, and refuses both ends of the 8, 16 and 32-bit ranges.  `strtod` is a
parameter.
-/

namespace Gyeeta.Filter

open List

def comma : UInt8 := 44
def plus : UInt8 := 43
def minus : UInt8 := 45
def zeroDigit : UInt8 := 48

/-- The characters between two elements of an `in` list. -/
def isSeparator (char : UInt8) : Bool :=
  char = space || char = tab || char = comma

/-! ## `strtol` with base 0 -/

def isSpace (char : UInt8) : Bool :=
  char = 32 || (9 ≤ char && char ≤ 13)

/-- The value of a digit in any base up to 16. -/
def digitValue (char : UInt8) : Option Nat :=
  if 48 ≤ char ∧ char ≤ 57 then some (char.toNat - 48)
  else if 65 ≤ char ∧ char ≤ 70 then some (char.toNat - 55)
  else if 97 ≤ char ∧ char ≤ 102 then some (char.toNat - 87)
  else none

def isDigitOf (base : Nat) (char : UInt8) : Bool :=
  (digitValue char).any (· < base)

def readDigits (base : Nat) (digits : Text) : Nat :=
  digits.foldl (fun number char => number * base + (digitValue char).getD 0) 0

/-- A sign, if there is one: whether it is a minus, and the text behind it. -/
def takeSign : Text → Bool × Text
  | [] => (false, [])
  | char :: rest =>
    if char = minus then (true, rest)
    else if char = plus then (false, rest)
    else (false, char :: rest)

/-- Base 0: `0x` before a hexadecimal digit is base 16, a zero base 8, all else base 10. -/
def takeBase : Text → Nat × Text
  | char :: mark :: digit :: rest =>
    if char = zeroDigit then
      if (mark = 120 ∨ mark = 88) ∧ isDigitOf 16 digit then (16, digit :: rest)
      else (8, char :: mark :: digit :: rest)
    else (10, char :: mark :: digit :: rest)
  | char :: rest => (if char = zeroDigit then 8 else 10, char :: rest)
  | [] => (10, [])

/-- What `strtol` read, `ERANGE` for numbers outside of 64 bits, and the text it left. -/
structure Strtol where
  value : Int
  erange : Bool
  rest : Text
  deriving DecidableEq, Repr

def Strtol.ofInt (value : Int) (rest : Text) : Strtol where
  value := max (-2 ^ 63) (min (2 ^ 63 - 1) value)
  erange := decide (value < -2 ^ 63 ∨ 2 ^ 63 - 1 < value)
  rest := rest

/-- `strtol` with base 0; `none` when the text holds no number. -/
def strtol (text : Text) : Option Strtol :=
  let signed := takeSign (text.dropWhile isSpace)
  let based := takeBase signed.2
  let digits := based.2.takeWhile (isDigitOf based.1)
  if digits = [] then none
  else
    let magnitude := readDigits based.1 digits
    some (.ofInt (if signed.1 then -(magnitude : Int) else magnitude) (based.2.drop digits.length))

/-! ## `string_to_number` and the numbers of a criterion -/

/-- The largest and the smallest number of a type are refused, except for 64 bits. -/
def IntType.refuses (type : IntType) (value : Int) : Bool :=
  decide (type ≠ .int64 ∧ (2 ^ (type.width - 1) - 1 ≤ value ∨ value ≤ -2 ^ (type.width - 1)))

/-- `string_to_number` for the signed integers: the number and the text behind it. -/
def stringToInt (type : IntType) (text : Text) : Option (BitVec type.width × Text) :=
  match strtol text with
  | none => none
  | some read =>
    if read.erange || type.refuses read.value then none
    else some (BitVec.ofInt type.width read.value, read.rest)

/-- The library functions on `double`. -/
structure Libc where
  doubles : Doubles
  /-- `string_to_number` for `double`: what `strtod` read and the text behind it, unless it read
  nothing or reported a range error. -/
  strtod : Text → Option (BitVec 64 × Text)

/-- A number ends at the end of the text or at a separator. -/
def isTerminated (rest : Text) : Bool :=
  rest.head?.all fun char => char = 0 || isSeparator char

/-- The constructor of `NUMBER_CRITERION` from a text and a type. -/
def NumberCriterion.ofText (libc : Libc) (type : NumType) (text : Text) : NumberCriterion :=
  match type with
  | .int type =>
    match stringToInt type text with
    | some (value, rest) => { NumberCriterion.ofInt type value with isValid := isTerminated rest }
    | none => { type := .int type }
  | .double =>
    match libc.strtod text with
    | some (value, rest) => { NumberCriterion.ofDouble value with isValid := isTerminated rest }
    | none => { type := .double }
  | .nan => {}

/-! ## Decimal literals -/

/-- A decimal integer: an optional sign, `true` for a minus, and digits. -/
structure Literal where
  sign : Option Bool
  digits : Text
  digits_ne_nil : digits ≠ []
  all_digits : ∀ char ∈ digits, isDigit char = true

namespace Literal

def signText : Option Bool → Text
  | none => []
  | some false => [plus]
  | some true => [minus]

def text (literal : Literal) : Text :=
  signText literal.sign ++ literal.digits

def withSign (literal : Literal) (magnitude : Nat) : Int :=
  if literal.sign = some true then -(magnitude : Int) else magnitude

def value (literal : Literal) : Int :=
  literal.withSign (readDigits 10 literal.digits)

end Literal

lemma digit_facts : ∀ char : UInt8, isDigit char = true →
    isSpace char = false ∧ char ≠ minus ∧ char ≠ plus ∧ isDigitOf 10 char = true ∧
      isSeparator char = false ∧ char ≠ 0 ∧ char ≠ 120 ∧ char ≠ 88 := by
  decide +kernel

lemma takeWhile_append_stop {accept : UInt8 → Bool} {front rest : Text}
    (all : ∀ char ∈ front, accept char = true)
    (stop : ∀ char, rest.head? = some char → accept char = false) :
    (front ++ rest).takeWhile accept = front := by
  rw [takeWhile_append_of_pos all]
  cases rest with
  | nil => simp
  | cons char rest => simp [stop char rfl]

namespace Literal

variable (literal : Literal)

lemma exists_digits : ∃ first more, literal.digits = first :: more := by
  cases digits : literal.digits with
  | nil => exact absurd digits literal.digits_ne_nil
  | cons first more => exact ⟨first, more, rfl⟩

lemma takeSign_text (rest : Text) : takeSign (literal.text ++ rest) =
      (decide (literal.sign = some true), literal.digits ++ rest) := by
  obtain ⟨first, more, digits⟩ := literal.exists_digits
  have facts := digit_facts first (literal.all_digits first (by simp [digits]))
  rw [text]
  cases sign : literal.sign with
  | none => simp [signText, digits, takeSign, facts]
  | some negative =>
    cases negative with
    | false => simp [signText, takeSign, plus, minus]
    | true => simp [signText, takeSign]

end Literal

end Gyeeta.Filter
