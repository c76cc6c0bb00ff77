import Gyeeta.Filter.Literals
import Gyeeta.Lib.Traverse
import Mathlib.Data.Set.List

/-!
# Criteria on number fields

`CRITERION_ONE` for number fields: the constant of a relational operator, which is read as a
`double` and kept as a 64-bit integer when it has no part behind the point, the list of `in` and
`notin`, read with the type of the field, and the match of a field's value.
-/

namespace Gyeeta.Filter

open List

/-- `COMPARATORS_E` -/
inductive Comparator where
  | eq | neq | lt | le | gt | ge | bit2 | bit3
  | substr | notSubstr | like | notLike | inList | notInList
  deriving DecidableEq, Repr

/-- `comparator_map`: the comparators that are valid for numbers. -/
def Comparator.validNumber : Comparator → Bool
  | .substr | .notSubstr | .like | .notLike => false
  | _ => true

/-- `comparator_map`: the comparators that are valid for an expression. -/
def Comparator.validExpr : Comparator → Bool
  | .eq | .neq | .lt | .le | .gt | .ge => true
  | _ => false

def Comparator.isIn (comp : Comparator) : Bool :=
  comp = .inList || comp = .notInList

/-- The requests the constructor refuses, with the text its message quotes. -/
inductive CritError where
  | badComparator (comp : Comparator)
  | notNumber (value : Text)
  | unknownField (value : Text)
  | extraCharacters (rest : Text)
  | maxElements
  deriving DecidableEq, Repr

def maxCompInElems : Nat := 64

/-! ## Lists -/

/-- `NUMBER_CRITERION::valid_start_string`: an optional sign and a digit. -/
def validStartString : Text → Bool
  | [] => false
  | char :: rest =>
    if char = minus ∨ char = plus then rest.head?.any isDigit else isDigit char

/-- The loop of `parse_num_in_clause`: where each element starts.  The fuel is the room left in
`tarray`. -/
def numElements : Nat → Text → Except CritError (List Text)
  | 0, _ => .ok []
  | room + 1, text =>
    let start := text.dropWhile isSeparator
    if validStartString start then
      let rest := start.tail.dropWhile fun char => !isSeparator char
      if rest = [] then .ok [start]
      else (numElements room rest).map (start :: ·)
    else if start = [] then .ok []
    else .error (.notNumber start)

section

variable (libc : Libc)

/-- `NUMBER_CRITERION(str, type)` with the check behind it. -/
def readElement (type : NumType) (text : Text) : Except CritError NumberCriterion :=
  let num := NumberCriterion.ofText libc type text
  if num.isValid then .ok num else .error (.notNumber text)

def parseNumInClause (type : NumType) (text : Text) : Except CritError (List NumberCriterion) := do
  let starts ← numElements (maxCompInElems + 1) text
  if starts.length = maxCompInElems + 1 then .error .maxElements
  else starts.mapM (readElement libc type)

end

/-! ## The criterion -/

/-- The members of `CRITERION_ONE` that a number field uses. -/
structure CriterionOne (F : Type) where
  pfield1 : F
  comp : Comparator
  /-- The operator with `pfield2_` or `field2_const_`. -/
  mathOper : Option (MathOper × (F ⊕ BitVec 64)) := none
  forceDouble : Bool := false
  numval : Option NumberCriterion := none
  isTimeFunc : Bool := false
  pexprVal : Option F := none
  pnumarray : Option (List NumberCriterion) := none

section

variable {F : Type} (libc : Libc)

/-- The end of the constructor: only blanks, or a closing brace, may follow the value. -/
def finishCriterion (rest : Text) (crit : CriterionOne F) : Except CritError (CriterionOne F) :=
  match rest.dropWhile isSpaceTab with
  | [] => .ok crit
  | char :: more =>
    if char = closeBrace ∨ char = closeParen then .ok crit
    else .error (.extraCharacters (char :: more))

/-- The value of a number field in the constructor of `CRITERION_ONE`.  `getExprField` finds a
field by its name and says whether it is numeric. -/
def numCriterion (getExprField : Text → Option (F × Bool)) (pfield1 : F) (numtype : NumType)
    (comp : Comparator) (valstr : Text) : Except CritError (CriterionOne F) :=
  if !comp.validNumber then .error (.badComparator comp)
  else if !validStartString valstr then
    if !comp.validExpr then .error (.notNumber valstr)
    else
      let name := valstr.takeWhile fun char => !isSeparator char
      match getExprField name with
      | none => .error (.unknownField name)
      | some (pexp, isNumber) =>
        if !isNumber then .error (.notNumber name)
        else
          finishCriterion (valstr.drop name.length)
            { pfield1 := pfield1, comp := comp, pexprVal := some pexp }
  else if comp.isIn then
    (parseNumInClause libc numtype valstr).map fun elems =>
      { pfield1 := pfield1, comp := comp, pnumarray := some elems }
  else
    match libc.strtod valstr with
    | none => .error (.notNumber valstr)
    | some (d, rest) =>
      finishCriterion rest <|
        if libc.doubles.isIntegral d then
          { pfield1 := pfield1, comp := comp
            numval := some (.ofInt .int64 (libc.doubles.toInt 64 d)) }
        else
          { pfield1 := pfield1, comp := comp
            numval := some (.ofDouble d), forceDouble := decide (numtype ≠ .double) }

/-! ## Matching -/

/-- `match_num_criterian` for integers of `width` bits. -/
def matchNum (comp : Comparator) (pnumarray : Option (List NumberCriterion)) {width : Nat}
    (input crit : BitVec width) : Bool :=
  match comp with
  | .eq => input = crit
  | .neq => input ≠ crit
  | .lt => input.slt crit
  | .le => input.sle crit
  | .gt => crit.slt input
  | .ge => crit.sle input
  | .bit2 => input.signExtend 32 &&& 3 = 3
  | .bit3 => input.signExtend 32 &&& 7 = 7
  | .inList =>
    match pnumarray with
    | some elems => elems.any fun elem => input = elem.get width
    | none => false
  | .notInList =>
    match pnumarray with
    | some elems => !elems.any fun elem => input = elem.get width
    | none => false
  | _ => false

/-- `match_dbl_criterian` -/
def matchDbl (comp : Comparator) (pnumarray : Option (List NumberCriterion))
    (input crit : BitVec 64) : Bool :=
  let doubles := libc.doubles
  match comp with
  | .eq => doubles.isDblEqual input crit
  | .neq => !doubles.isDblEqual input crit
  | .lt => doubles.lt input crit && doubles.lt doubles.epsilon (doubles.sub crit input)
  | .le => doubles.isDblEqual input crit || doubles.lt input crit
  | .gt => doubles.lt crit input && doubles.lt doubles.epsilon (doubles.sub input crit)
  | .ge => doubles.isDblEqual input crit || doubles.lt crit input
  | .bit2 => doubles.toInt 32 input &&& 3 = 3
  | .bit3 => doubles.toInt 32 input &&& 7 = 7
  | .inList =>
    match pnumarray with
    | some elems => elems.any fun elem => doubles.isDblEqual input elem.bits
    | none => false
  | .notInList =>
    match pnumarray with
    | some elems => !elems.any fun elem => doubles.isDblEqual input elem.bits
    | none => false
  | _ => false

namespace CriterionOne

variable (crit : CriterionOne F) (getNumField : F → NumberCriterion)

/-- The left side: the field, converted and combined with the second operand. -/
def left (n1 : NumberCriterion) : Option NumberCriterion :=
  let n1 := if crit.forceDouble then .ofDouble (libc.doubles.ofInt (n1.get 64).toInt) else n1
  match crit.mathOper with
  | none => some n1
  | some (oper, second) =>
    let ni2 := match second with
      | .inl pfield2 => getNumField pfield2
      | .inr field2Const => .ofDouble field2Const
    if !ni2.isValid then none
    else
      let applied := n1.applyMathOper libc.doubles oper ni2
      if applied.2 then some applied.1 else none

/-- The right side, and the type both are compared with. -/
def right (tcurr : BitVec 64) (type : NumType) : Option (NumberCriterion × NumType) :=
  match crit.numval, crit.pexprVal, crit.pnumarray with
  | some numval, _, _ =>
    let n2 := if !crit.isTimeFunc ∨ tcurr = 0 then numval else .ofInt .int64 tcurr
    some (n2, if crit.forceDouble then .double else n2.type)
  | none, some pexpr, _ =>
    let n2 := getNumField pexpr
    if n2.isValid then some (n2, type) else none
  | none, none, some _ => some ({}, type)
  | none, none, none => none

/-- `match_criterian` for a number field. -/
def matchCriterian (tcurr : BitVec 64) : Bool :=
  let n1 := getNumField crit.pfield1
  if !n1.isValid then false
  else
    match crit.left libc getNumField n1,
      crit.right getNumField tcurr (if crit.forceDouble then .double else n1.type) with
    | some n1, some (n2, type) =>
      match type with
      | .int type => matchNum crit.comp crit.pnumarray (n1.get type.width) (n2.get type.width)
      | .double => matchDbl libc crit.comp crit.pnumarray n1.bits n2.bits
      | .nan => false
    | _, _ => false

end CriterionOne

end

/-! ## What is assumed of `strtod` -/

/-- Of a decimal integer a `double` without a part behind the point is read, and the integer
itself below `2 ^ 53` in magnitude. -/
structure Libc.ReadsIntegers (libc : Libc) : Prop where
  integral : ∀ (literal : Literal) d rest, libc.strtod literal.text = some (d, rest) →
    libc.doubles.isIntegral d = true
  exact : ∀ literal : Literal, literal.value.natAbs < 2 ^ 53 → ∃ d,
    libc.strtod literal.text = some (d, []) ∧
      libc.doubles.toInt 64 d = BitVec.ofInt 64 literal.value

/-- Reads decimal integers below `2 ^ 53`; all others are out of range. -/
def Libc.integral : Libc where
  doubles := .integral
  strtod text :=
    let signed := takeSign text
    let digits := signed.2.takeWhile isDigit
    let magnitude := readDigits 10 digits
    if digits = [] ∨ 2 ^ 53 ≤ magnitude then none
    else
      some (Doubles.integral.ofInt (if signed.1 then -(magnitude : Int) else magnitude),
        signed.2.drop digits.length)

lemma Libc.integral_strtod (literal : Literal) : Libc.integral.strtod literal.text =
    if 2 ^ 53 ≤ literal.value.natAbs then none
    else some (Binary64.encode literal.value, []) := by
  have digits : literal.digits.takeWhile isDigit = literal.digits :=
    takeWhile_eq_self_iff.mpr literal.all_digits
  have size : literal.value.natAbs = readDigits 10 literal.digits := by
    rw [Literal.value, Literal.withSign]
    split
    · omega
    · omega
  have signed := literal.takeSign_text []
  rw [append_nil, append_nil] at signed
  simp only [Libc.integral, signed, digits, literal.digits_ne_nil, false_or, drop_length, size,
    decide_eq_true_eq]
  rfl

lemma Libc.integral_readsIntegers : Libc.integral.ReadsIntegers where
  integral literal d rest read := by
    rw [integral_strtod] at read
    split at read
    · cases read
    next small =>
      cases read
      exact (Binary64.truncate_encode (Nat.not_le.mp small)).2
  exact literal small := by
    refine ⟨_, (integral_strtod literal).trans (if_neg (Nat.not_le.mpr small)), ?_⟩
    exact congrArg (BitVec.ofInt 64) (Binary64.truncate_encode small).1

/-! ## A field's value against an integer -/

/-- What a relational operator means. -/
def Comparator.holds (comp : Comparator) (left right : Int) : Prop :=
  match comp with
  | .eq => left = right
  | .neq => left ≠ right
  | .lt => left < right
  | .le => left ≤ right
  | .gt => right < left
  | .ge => right ≤ left
  | _ => False

variable {comp : Comparator}

/-- The relational operators compare the numbers that the bits denote. -/
lemma matchNum_iff (relational : comp.validExpr = true)
    (pnumarray : Option (List NumberCriterion)) {width : Nat} (input crit : BitVec width) :
    matchNum comp pnumarray input crit = true ↔ comp.holds input.toInt crit.toInt := by
  cases comp with
  | eq => simp [matchNum, Comparator.holds, BitVec.toInt_inj]
  | neq => simp [matchNum, Comparator.holds, BitVec.toInt_inj]
  | lt => simp [matchNum, Comparator.holds, BitVec.slt]
  | le => simp [matchNum, Comparator.holds, BitVec.sle]
  | gt => simp [matchNum, Comparator.holds, BitVec.slt]
  | ge => simp [matchNum, Comparator.holds, BitVec.sle]
  | _ => cases relational

section

variable {F : Type} {libc : Libc} {getExprField : Text → Option (F × Bool)} {pfield1 : F}

lemma Literal.validStartString_text (literal : Literal) (rest : Text) :
    validStartString (literal.text ++ rest) = true := by
  obtain ⟨first, more, digits⟩ := literal.exists_digits
  have isDigit := literal.all_digits first (by simp [digits])
  have facts := digit_facts first isDigit
  rw [Literal.text]
  cases sign : literal.sign with
  | none => simp [Literal.signText, digits, validStartString, facts, isDigit]
  | some negative =>
    cases negative with
    | false => simp [Literal.signText, digits, validStartString, isDigit]
    | true => simp [Literal.signText, digits, validStartString, isDigit]

lemma numCriterion_literal (reads : libc.ReadsIntegers) (relational : comp.validExpr = true)
    (numtype : NumType) (literal : Literal) (small : literal.value.natAbs < 2 ^ 53) :
    numCriterion libc getExprField pfield1 numtype comp literal.text =
      .ok { pfield1 := pfield1, comp := comp
            numval := some (.ofInt .int64 (BitVec.ofInt 64 literal.value)) } := by
  obtain ⟨d, read, number⟩ := reads.exact literal small
  have whole := reads.integral literal d [] read
  have starts := literal.validStartString_text []
  rw [append_nil] at starts
  have valid : comp.validNumber = true ∧ comp.isIn = false := by
    cases comp with
    | eq | neq | lt | le | gt | ge => decide
    | _ => cases relational
  simp [numCriterion, valid, starts, read, whole, number, finishCriterion]

lemma matchCriterian_numval {value : NumberCriterion} (valid : value.isValid = true)
    (constant tcurr : BitVec 64) :
    (CriterionOne.matchCriterian libc
      { pfield1 := pfield1, comp := comp, numval := some (.ofInt .int64 constant) }
      (fun _ => value) tcurr) = matchNum comp none (value.get 64) constant := by
  have stored := NumberCriterion.get_ofInt .int64 constant
  simp only [CriterionOne.matchCriterian, CriterionOne.left, CriterionOne.right, valid,
    Bool.not_true, Bool.not_false, Bool.false_eq_true, if_false, true_or, if_true]
  exact congrArg (matchNum comp none _) stored

end

lemma get64_ofInt (type : IntType) (value : BitVec type.width) :
    (NumberCriterion.ofInt type value).get 64 = value.setWidth 64 := by
  apply BitVec.eq_of_getLsbD_eq
  intro index inside
  simp only [NumberCriterion.ofInt, NumberCriterion.set, NumberCriterion.get,
    BitVec.getLsbD_setWidth, Words.getLsbD_store _ _ index inside, inside, decide_true,
    Bool.true_and]
  split
  · rfl
  next high =>
    simp [BitVec.getLsbD_of_ge value index (by omega)]

lemma toInt_get64 (type : IntType) (value : BitVec type.width) :
    ((NumberCriterion.ofInt type value).get 64).toInt =
      if type = .int64 then value.toInt else value.toNat := by
  rw [get64_ofInt]
  split
  next wide =>
    subst wide
    exact congrArg BitVec.toInt (BitVec.setWidth_eq value)
  next narrow =>
  have bound : value.toNat < 2 ^ 32 := by
    refine Nat.lt_of_lt_of_le value.isLt (Nat.pow_le_pow_right (by decide) ?_)
    cases type with
    | int64 => exact absurd rfl narrow
    | _ => decide
  rw [BitVec.toInt_setWidth, Int.bmod_eq_of_le (by omega) (by omega)]

variable {type : IntType}

/-- A negative value of a narrow field is read with the bits above it 0. -/
lemma toInt_get64_cases (value : BitVec type.width) :
    ((NumberCriterion.ofInt type value).get 64).toInt =
      if type = .int64 ∨ 0 ≤ value.toInt then value.toInt else value.toInt + 2 ^ type.width := by
  rw [toInt_get64]
  by_cases wide : type = .int64
  · rw [if_pos wide, if_pos (.inl wide)]
  have bound := value.isLt
  have cast : ((2 ^ type.width : Nat) : Int) = 2 ^ type.width := by push_cast; rfl
  rw [if_neg wide, BitVec.toInt_eq_toNat_cond]
  split
  · rw [if_pos (.inr (Int.natCast_nonneg _))]
  · rw [if_neg (not_or.mpr ⟨wide, by omega⟩)]
    omega

/-! ## Lists of the field's own type -/

variable {libc : Libc} {text : Text}

lemma readElement_int {num : NumberCriterion}
    (accepted : readElement libc (.int type) text = .ok num) :
    ∃ value, num = NumberCriterion.ofInt type value := by
  simp only [readElement, NumberCriterion.ofText] at accepted
  cases read : stringToInt type text with
  | none => simp [read] at accepted
  | some found =>
    obtain ⟨value, rest⟩ := found
    simp only [read] at accepted
    split at accepted
    next ends =>
      rw [← Except.ok.inj accepted]
      exact ⟨value, by rw [ends]; rfl⟩
    · cases accepted

lemma parseNumInClause_int
    {elems : List NumberCriterion} (accepted : parseNumInClause libc (.int type) text = .ok elems) :
    ∃ values : List (BitVec type.width), elems = values.map (NumberCriterion.ofInt type) := by
  obtain ⟨starts, -, more⟩ := bind_eq_ok.mp accepted
  split at more
  · cases more
  have related := mapM_eq_ok.mp more
  have each : ∀ num ∈ elems, ∃ value, NumberCriterion.ofInt type value = num := by
    intro num mem
    obtain ⟨start, -, read⟩ := exists_of_forall₂ related mem
    obtain ⟨value, rfl⟩ := readElement_int read
    exact ⟨value, rfl⟩
  have inRange : elems ∈ Set.range (List.map (NumberCriterion.ofInt type)) :=
    (Set.range_list_map _).symm ▸ each
  obtain ⟨values, rfl⟩ := inRange
  exact ⟨values, rfl⟩

lemma matchCriterian_list {F : Type} {pfield1 : F} (isIn : comp.isIn = true)
    (type : IntType) (value : BitVec type.width) (values : List (BitVec type.width))
    (tcurr : BitVec 64) :
    CriterionOne.matchCriterian libc
      { pfield1 := pfield1, comp := comp
        pnumarray := some (values.map (NumberCriterion.ofInt type)) }
      (fun _ => .ofInt type value) tcurr = true ↔
        if comp = .inList then value ∈ values else value ∉ values := by
  simp only [CriterionOne.matchCriterian, CriterionOne.left, CriterionOne.right,
    NumberCriterion.ofInt_isValid, Bool.not_true, Bool.false_eq_true, if_false,
    NumberCriterion.ofInt_type, NumberCriterion.get_ofInt]
  cases comp with
  | inList => simp [matchNum, NumberCriterion.get_ofInt]
  | notInList =>
    simp only [matchNum, any_map, Function.comp_def, NumberCriterion.get_ofInt, reduceCtorEq,
      if_false, Bool.not_eq_true', any_eq_false, decide_eq_true_eq]
    exact ⟨fun all mem => all value mem rfl, fun absent x mem same =>
      absent (same ▸ mem)⟩
  | _ => cases isIn

section

variable {F : Type} (libc : Libc) (getExprField : Text → Option (F × Bool)) (pfield1 : F)
  (type : IntType) (value : BitVec type.width)

/-- Every accepted list of `in` or `notin` holds numbers of the field's range, and the value
matches exactly when it is, or is not, one of them. -/
def ListsExact : Prop :=
  ∀ (comp : Comparator) (text : Text) (crit : CriterionOne F) (tcurr : BitVec 64),
    comp.isIn = true → numCriterion libc getExprField pfield1 (.int type) comp text = .ok crit →
      ∃ values : List (BitVec type.width),
        crit.pnumarray = some (values.map (NumberCriterion.ofInt type)) ∧
          (crit.matchCriterian libc (fun _ => .ofInt type value) tcurr = true ↔
            if comp = .inList then value ∈ values else value ∉ values)

lemma listsExact : ListsExact libc getExprField pfield1 type value := by
  intro comp text crit tcurr isIn accepted
  have valid : comp.validNumber = true ∧ comp.validExpr = false := by
    cases comp with
    | inList | notInList => decide
    | _ => cases isIn
  simp only [numCriterion, valid, isIn] at accepted
  cases starts : validStartString text with
  | false => simp [starts] at accepted
  | true =>
    simp only [starts, Bool.not_true, Bool.false_eq_true, if_false, if_true] at accepted
    cases parsed : parseNumInClause libc (.int type) text with
    | error _ => simp [parsed, Except.map] at accepted
    | ok elems =>
      obtain ⟨values, rfl⟩ := parseNumInClause_int parsed
      rw [parsed] at accepted
      rw [← Except.ok.inj accepted]
      exact ⟨values, rfl, matchCriterian_list isIn type value values tcurr⟩

end

/-- A constant for which the comparison of `low` and of `high` with it differ. -/
def Comparator.Parts (comp : Comparator) (low high constant : Int) : Prop :=
  match comp with
  | .eq | .neq => constant = low ∨ constant = high
  | .lt | .ge => low < constant ∧ constant ≤ high
  | .le | .gt => low ≤ constant ∧ constant < high
  | _ => False

/-- An operator answers the same for two numbers unless the constant parts them. -/
lemma Comparator.parts_iff (relational : comp.validExpr = true) {low high : Int} (less : low < high)
    (constant : Int) : (comp.holds high constant ↔ comp.holds low constant) ↔
      ¬comp.Parts low high constant := by
  cases comp with
  | eq | neq | lt | le | gt | ge =>
    simp only [Comparator.holds, Comparator.Parts]
    omega
  | _ => cases relational

/-- The literal `0`. -/
def Literal.zero : Literal where
  sign := none
  digits := [zeroDigit]
  digits_ne_nil := by decide
  all_digits := by
    intro char member
    rw [mem_singleton.mp member]
    decide

end Gyeeta.Filter
