import Gyeeta.Lib.Binary64
import Gyeeta.Lib.Words

/-!
# Numbers of criteria

`NUMBER_CRITERION` keeps a number of any type in one union of eight bytes, of which an
integer of `w` bits takes the low ones.  `apply_math_oper` combines two of them in 64 bits and
stores the result back in the left one.  The arithmetic of `double` is a parameter.
-/

namespace Gyeeta.Filter

open Words

/-- The signed integers of `NUMBER_TYPES_E`. -/
inductive IntType where
  | int8 | int16 | int32 | int64
  deriving DecidableEq, Repr

def IntType.width : IntType → Nat
  | .int8 => 8
  | .int16 => 16
  | .int32 => 32
  | .int64 => 64

variable (type : IntType)

lemma IntType.width_le : type.width ≤ 64 := by
  cases type <;> decide

/-- `NUMBER_TYPES_E`. -/
inductive NumType where
  | int (type : IntType) | double | nan
  deriving DecidableEq, Repr

/-- The operators of `math_operators`. -/
inductive MathOper where
  | add | sub | mul | div | mod | and | or
  deriving DecidableEq, Repr

/-- The `double` of the machine, kept as its 64 bits. -/
structure Doubles where
  add : BitVec 64 → BitVec 64 → BitVec 64
  sub : BitVec 64 → BitVec 64 → BitVec 64
  mul : BitVec 64 → BitVec 64 → BitVec 64
  div : BitVec 64 → BitVec 64 → BitVec 64
  /-- `a == b` -/
  eq : BitVec 64 → BitVec 64 → Bool
  /-- `a < b` -/
  lt : BitVec 64 → BitVec 64 → Bool
  /-- `gy_is_dbl_equal` -/
  isDblEqual : BitVec 64 → BitVec 64 → Bool
  /-- `std::numeric_limits<double>::epsilon()` -/
  epsilon : BitVec 64
  /-- `std::trunc(d) == d` -/
  isIntegral : BitVec 64 → Bool
  /-- The conversion of an integer. -/
  ofInt : Int → BitVec 64
  /-- The conversion to an integer of a given width. -/
  toInt : (width : Nat) → BitVec 64 → BitVec width

/-- The `double`s without a part behind the point, in the binary64 format.  Two of them are taken
as equal if they differ in the last bit only. -/
def Doubles.integral : Doubles where
  add left right := Binary64.encode (Binary64.truncate left + Binary64.truncate right)
  sub left right := Binary64.encode (Binary64.truncate left - Binary64.truncate right)
  mul left right := Binary64.encode (Binary64.truncate left * Binary64.truncate right)
  div left right := Binary64.encode ((Binary64.truncate left).tdiv (Binary64.truncate right))
  eq left right := Binary64.truncate left = Binary64.truncate right
  lt left right := Binary64.truncate left < Binary64.truncate right
  isDblEqual left right := left.toNat / 2 = right.toNat / 2
  epsilon := 0
  isIntegral := Binary64.isIntegral
  ofInt := Binary64.encode
  toInt width bits := BitVec.ofInt width (Binary64.truncate bits)

/-- `NUMBER_CRITERION`: the bytes of its union, its type and whether it is valid. -/
structure NumberCriterion where
  bits : BitVec 64 := 0
  type : NumType := .nan
  isValid : Bool := false
  deriving DecidableEq, Repr

namespace NumberCriterion

/-- The member of the union with `width` bits. -/
def get (num : NumberCriterion) (width : Nat) : BitVec width :=
  num.bits.setWidth width

/-- Assigns the member of the union with `width` bits; the other bytes stay. -/
def set {width : Nat} (num : NumberCriterion) (value : BitVec width) : NumberCriterion :=
  { num with bits := store num.bits value }

/-- The constructors from an integer: the union is 0 before the member is assigned. -/
def ofInt (type : IntType) (value : BitVec type.width) : NumberCriterion :=
  ({ type := .int type, isValid := true } : NumberCriterion).set value

/-- The constructor from a `double`. -/
def ofDouble (value : BitVec 64) : NumberCriterion where
  bits := value
  type := .double
  isValid := true

variable (value : BitVec type.width)

@[simp] lemma ofInt_type : (ofInt type value).type = .int type := rfl

@[simp] lemma ofInt_isValid : (ofInt type value).isValid = true := rfl

lemma get_set {width : Nat} (num : NumberCriterion) (value : BitVec width) (le : width ≤ 64) :
    (num.set value).get width = value :=
  setWidth_store le num.bits value

lemma get_ofInt : (ofInt type value).get type.width = value :=
  get_set _ value type.width_le

end NumberCriterion

/-! ## `apply_math_oper` -/

/-- An operator on `int64_t`, where the machine wraps around. -/
def MathOper.apply64 (oper : MathOper) (left right : BitVec 64) : BitVec 64 :=
  match oper with
  | .add => left + right
  | .sub => left - right
  | .mul => left * right
  | .div => left.sdiv right
  | .mod => left.srem right
  | .and => left &&& right
  | .or => left ||| right

def MathOper.divides : MathOper → Bool
  | .div | .mod => true
  | _ => false

/-- The right operand: `i2` or `d2`. -/
inductive Operand where
  | int (i2 : BitVec 64)
  | double (d2 : BitVec 64)

section

variable (doubles : Doubles)

/-- The right operand in 64 bits, where a zero divisor becomes 1. -/
def NumberCriterion.operand (num2 : NumberCriterion) (oper : MathOper) : Operand :=
  match num2.type with
  | .double =>
    .double (if doubles.eq num2.bits (doubles.ofInt 0) ∧ oper.divides then doubles.ofInt 1
      else num2.bits)
  | .int type => .int (nonzero ((num2.get type.width).signExtend 64))
  | .nan => .int (nonzero num2.bits)
where
  nonzero (i2 : BitVec 64) : BitVec 64 :=
    if i2 = 0 ∧ oper.divides then 1 else i2

/-- `+ - * /` of two `double`s; the other operators have none. -/
def MathOper.applyDouble (oper : MathOper) (left right : BitVec 64) : Option (BitVec 64) :=
  match oper with
  | .add => some (doubles.add left right)
  | .sub => some (doubles.sub left right)
  | .mul => some (doubles.mul left right)
  | .div => some (doubles.div left right)
  | .mod | .and | .or => none

/-- `intW oper= i2` or `intW oper= d2` for the member of the union with `width` bits. -/
def NumberCriterion.applyInt (num : NumberCriterion) (width : Nat) (oper : MathOper) :
    Operand → NumberCriterion
  | .int i2 => num.set ((oper.apply64 ((num.get width).signExtend 64) i2).setWidth width)
  | .double d2 =>
    match oper.applyDouble doubles (doubles.ofInt (num.get width).toInt) d2 with
    | some result => num.set (doubles.toInt width result)
    | none =>
      num.set ((oper.apply64 ((num.get width).signExtend 64) (doubles.toInt 64 d2)).setWidth width)

/-- The case `NUM_INT32`: its `*` by an integer multiplies the member `int8`. -/
def NumberCriterion.applyInt32 (num : NumberCriterion) (oper : MathOper) (operand : Operand) :
    NumberCriterion :=
  match oper, operand with
  | .mul, .int i2 => num.applyInt doubles 8 .mul (.int i2)
  | oper, operand => num.applyInt doubles 32 oper operand

/-- The case `NUM_DOUBLE`. -/
def NumberCriterion.applyToDouble (num : NumberCriterion) (oper : MathOper) (operand : Operand) :
    NumberCriterion × Bool :=
  let right := match operand with
    | .int i2 => doubles.ofInt i2.toInt
    | .double d2 => d2
  match oper.applyDouble doubles num.bits right with
  | some result => ({ num with bits := result }, true)
  | none => (num, false)

/-- `apply_math_oper`: the left number afterwards and what is returned. -/
def NumberCriterion.applyMathOper (num : NumberCriterion) (oper : MathOper)
    (num2 : NumberCriterion) : NumberCriterion × Bool :=
  let operand := num2.operand doubles oper
  match num.type with
  | .int .int8 => (num.applyInt doubles 8 oper operand, true)
  | .int .int16 => (num.applyInt doubles 16 oper operand, true)
  | .int .int32 => (num.applyInt32 doubles oper operand, true)
  | .int .int64 | .nan => (num.applyInt doubles 64 oper operand, true)
  | .double => num.applyToDouble doubles oper operand

end

/-! ## The mathematical result -/

/-- What an operator means on integers, with a zero divisor replaced by 1. -/
def MathOper.result (oper : MathOper) (left right : Int) : Int :=
  match oper with
  | .add => left + right
  | .sub => left - right
  | .mul => left * right
  | .div => left.tdiv (if right = 0 then 1 else right)
  | .mod => left.tmod (if right = 0 then 1 else right)
  | .and => left.land right
  | .or => left.lor right

lemma MathOper.apply64_eq_ofInt (oper : MathOper) (left right : Int)
    (leftRange : (BitVec.ofInt 64 left).toInt = left)
    (rightRange : (BitVec.ofInt 64 right).toInt = right) (divisor : oper.divides → right ≠ 0) :
    oper.apply64 (BitVec.ofInt 64 left) (BitVec.ofInt 64 right) =
      BitVec.ofInt 64 (oper.result left right) := by
  cases oper with
  | add => exact (BitVec.ofInt_add left right).symm
  | sub =>
    change BitVec.ofInt 64 left - BitVec.ofInt 64 right = BitVec.ofInt 64 (left - right)
    rw [Int.sub_eq_add_neg, BitVec.ofInt_add, BitVec.ofInt_neg, BitVec.sub_eq_add_neg]
  | mul => exact (BitVec.ofInt_mul left right).symm
  | div =>
    rw [apply64, sdiv_eq_ofInt, leftRange, rightRange, result, if_neg (divisor rfl)]
  | mod =>
    rw [apply64, srem_eq_ofInt, leftRange, rightRange, result, if_neg (divisor rfl)]
  | and => exact (ofInt_land 64 left right).symm
  | or => exact (ofInt_lor 64 left right).symm

lemma MathOper.result_nonzero (oper : MathOper) (left right : Int) :
    oper.result left (if right = 0 ∧ oper.divides then 1 else right) = oper.result left right := by
  cases oper <;> by_cases zero : right = 0 <;> simp [result, divides, zero]

lemma toInt_ofInt_toInt {width : Nat} (le : width ≤ 64) (value : BitVec width) :
    (BitVec.ofInt 64 value.toInt).toInt = value.toInt :=
  BitVec.toInt_signExtend_of_le le

lemma NumberCriterion.operand_int (doubles : Doubles) (num2 : NumberCriterion) (oper : MathOper)
    {type : IntType} (isInt : num2.type = .int type) :
    num2.operand doubles oper = .int (BitVec.ofInt 64
      (if (num2.get type.width).toInt = 0 ∧ oper.divides then 1
        else (num2.get type.width).toInt)) := by
  have zero : (num2.get type.width).signExtend 64 = 0 ↔ (num2.get type.width).toInt = 0 := by
    rw [← BitVec.toInt_inj, BitVec.toInt_signExtend_of_le type.width_le]
    simp
  rw [operand, isInt]
  simp only [operand.nonzero, zero]
  split
  · rfl
  · rfl

lemma NumberCriterion.get_applyInt (doubles : Doubles) (num num2 : NumberCriterion)
    (oper : MathOper) {width : Nat} (le : width ≤ 64) {type : IntType}
    (isInt : num2.type = .int type) :
    (num.applyInt doubles width oper (num2.operand doubles oper)).get width =
      BitVec.ofInt width (oper.result (num.get width).toInt (num2.get type.width).toInt) := by
  rw [operand_int doubles num2 oper isInt, applyInt, get_set _ _ le]
  generalize rightEq : (num2.get type.width).toInt = right
  have rightRange : (BitVec.ofInt 64 right).toInt = right := by
    rw [← rightEq]
    exact toInt_ofInt_toInt type.width_le _
  have range : (BitVec.ofInt 64 (if right = 0 ∧ oper.divides then 1 else right)).toInt =
      if right = 0 ∧ oper.divides then 1 else right := by
    split
    · rfl
    · exact rightRange
  have divisor : oper.divides → (if right = 0 ∧ oper.divides then 1 else right) ≠ 0 := by
    intro divides
    by_cases zero : right = 0 <;> simp [zero, divides]
  rw [BitVec.signExtend, oper.apply64_eq_ofInt _ _ (toInt_ofInt_toInt le _) range divisor,
    oper.result_nonzero, setWidth_ofInt le]

/-- `apply_math_oper` returned true, kept the type of the left number and left in it the exact
result wrapped to its width. -/
def Computes (doubles : Doubles) (type type2 : IntType) (oper : MathOper)
    (num num2 : NumberCriterion) : Prop :=
  (num.applyMathOper doubles oper num2).2 = true ∧
    (num.applyMathOper doubles oper num2).1.type = num.type ∧
    (num.applyMathOper doubles oper num2).1.get type.width =
      BitVec.ofInt type.width
        (oper.result (num.get type.width).toInt (num2.get type2.width).toInt)

/-- The operand values the machine does not define: the smallest 64-bit number divided by -1. -/
def Overflows (type type2 : IntType) (oper : MathOper) (num num2 : NumberCriterion) : Prop :=
  oper.divides ∧ (num.get type.width).toInt = -2 ^ 63 ∧ (num2.get type2.width).toInt = -1

lemma NumberCriterion.applyInt_type (doubles : Doubles) (num : NumberCriterion) (width : Nat)
    (oper : MathOper) (operand : Operand) :
    (num.applyInt doubles width oper operand).type = num.type := by
  cases operand with
  | int i2 => rfl
  | double d2 =>
    rw [applyInt]
    split <;> rfl

lemma NumberCriterion.applyMathOper_int (doubles : Doubles) {type : IntType} {oper : MathOper}
    {num : NumberCriterion} (num2 : NumberCriterion) (isType : num.type = .int type)
    (other : ¬(type = .int32 ∧ oper = .mul)) : num.applyMathOper doubles oper num2 =
      (num.applyInt doubles type.width oper (num2.operand doubles oper), true) := by
  rw [applyMathOper, isType]
  cases type with
  | int8 | int16 | int64 => rfl
  | int32 =>
    cases oper with
    | mul => exact absurd ⟨rfl, rfl⟩ other
    | _ => rfl

lemma computes_of_not_int32_mul (doubles : Doubles) {type type2 : IntType} {oper : MathOper}
    {num num2 : NumberCriterion} (isType : num.type = .int type) (isType2 : num2.type = .int type2)
    (other : ¬(type = .int32 ∧ oper = .mul)) : Computes doubles type type2 oper num num2 := by
  rw [Computes, NumberCriterion.applyMathOper_int doubles num2 isType other]
  refine ⟨rfl, NumberCriterion.applyInt_type doubles num _ oper _, ?_⟩
  exact NumberCriterion.get_applyInt doubles num num2 oper type.width_le isType2

/-- For each pair of types and each operator: `apply_math_oper` is exact up to wrapping on all
values it is defined on, unless 32-bit numbers are multiplied. -/
theorem applyMathOper_exact_iff (doubles : Doubles) (type type2 : IntType) (oper : MathOper) :
    (∀ num num2 : NumberCriterion, num.type = .int type → num2.type = .int type2 →
      ¬Overflows type type2 oper num num2 → Computes doubles type type2 oper num num2) ↔
      ¬(type = .int32 ∧ oper = .mul) := by
  constructor
  · rintro exact ⟨rfl, rfl⟩
    -- 256 has an empty low byte, so doubling that byte changes nothing.
    have double := exact (.ofInt .int32 256) (.ofInt type2 2) rfl rfl (by simp [Overflows,
      MathOper.divides])
    have value : BitVec.ofInt 32 256 = BitVec.ofInt 32 512 := by
      cases type2 <;> exact double.2.2
    exact absurd value (by decide)
  · intro other num num2 isType isType2 _
    exact computes_of_not_int32_mul doubles isType isType2 other

/-- 300 times 2 leaves 344: only the low byte, 44, was doubled. -/
theorem applyMathOper_int32_mul :
    ¬Computes .integral .int32 .int32 .mul (.ofInt .int32 300) (.ofInt .int32 2) ∧
      ((NumberCriterion.ofInt .int32 300).applyMathOper .integral .mul (.ofInt .int32 2)).1.get 32 =
        344 := by
  constructor
  · intro exact
    exact absurd exact.2.2 (by decide)
  · decide

end Gyeeta.Filter
