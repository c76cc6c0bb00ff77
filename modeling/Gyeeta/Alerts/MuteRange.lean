import Gyeeta.Filter.Boolstuff

/-!
# Ranges of dates and times in mutes

The parsers of `"12-31 to 01-02"` and `"00:30-16:30"`.  Their checks compare the first number of
a pair twice, so the second one, the day or the minute, may be any number of two digits.
-/

namespace Gyeeta.Alerts

open List

open Gyeeta.Filter (ascii isDigit isSpaceTab)

/-- `DATE_MMDD` and `TIME_HHMM`. -/
abbrev TwoNumbers := Nat × Nat

/-- The kinds of errors that the parsers write to `ebuf`. -/
inductive RangeError where
  | format
  | invalid
  | missingEnd
  | separateItems
  | hours12
  | rangeFormat
  | endBeforeStart
  deriving DecidableEq, Repr

/-- `is_space_tab_hypen`. -/
def isSpaceTabHyphen (char : UInt8) : Bool := isSpaceTab char || char = 45

/-- The number of two digits. -/
def twoDigits (tens ones : UInt8) : Nat := (tens.toNat - 48) * 10 + (ones.toNat - 48)

/-- `strchr`, which finds the zero byte too. -/
def isSep (sepstr : List UInt8) (char : UInt8) : Bool := char ∈ sepstr || char = 0

/-- A pair of numbers and the text behind it. -/
def getDatetime (sepstr text : List UInt8) : Option (TwoNumbers × List UInt8) :=
  match text.dropWhile isSpaceTab with
  | f11 :: f12 :: sep :: f21 :: f22 :: rest =>
    if isDigit f11 && isDigit f12 && isDigit f21 && isDigit f22 && isSep sepstr sep then
      some ((twoDigits f11 f12, twoDigits f21 f22), rest)
    else none
  | _ => none

/-- The check of a date. -/
def badDate (date : TwoNumbers) : Bool :=
  date.1 = 0 || date.1 > 12 || date.2 = 0 || date.1 > 31

/-- The check of a time. -/
def badTime (time : TwoNumbers) : Bool := time.1 ≥ 24 || time.1 ≥ 60

def isBefore (first second : TwoNumbers) : Bool :=
  first.1 < second.1 || (first.1 = second.1 && first.2 < second.2)

/-- The end of a range. -/
def getRangeEnd (sepstr : List UInt8) (bad : TwoNumbers → Bool) (start : TwoNumbers)
    (text : List UInt8) : Except RangeError (TwoNumbers × TwoNumbers) :=
  match getDatetime sepstr text with
  | none => .error .format
  | some (finish, _) =>
    if bad finish then .error .invalid
    else if isBefore finish start then .error .endBeforeStart
    else .ok (start, finish)

def getDateRange (text : List UInt8) : Except RangeError (TwoNumbers × TwoNumbers) :=
  match getDatetime (ascii "/-") text with
  | none => .error .format
  | some (start, rest) =>
    let rest := rest.dropWhile isSpaceTab
    if badDate start then .error .invalid
    else if rest = [] then .ok (start, start)
    else if rest.length < 7 then .error .missingEnd
    else if ascii "to" <+: rest then getRangeEnd (ascii "/-") badDate start (rest.drop 2)
    else if ascii "," <+: rest then .error .separateItems
    else .error .rangeFormat

def getTimeRange (text : List UInt8) : Except RangeError (TwoNumbers × TwoNumbers) :=
  match getDatetime (ascii ":") text with
  | none => .error .format
  | some (start, behind) =>
    let rest := behind.dropWhile isSpaceTabHyphen
    if badTime start then .error .invalid
    else if rest = [] then .ok (start, start)
    -- no `to` is needed right behind a hyphen
    else if ¬ascii "t" <+: rest ∧ (behind.takeWhile isSpaceTabHyphen).getLast? = some 45 then
      if rest.length < 4 then .error .missingEnd
      else getRangeEnd (ascii ":") badTime start rest
    else if rest.length < 7 then .error .missingEnd
    else if ascii "to" <+: rest then getRangeEnd (ascii ":") badTime start (rest.drop 2)
    else if ascii "am" <+: rest ∨ ascii "pm" <+: rest then .error .hours12
    else if ascii "," <+: rest then .error .separateItems
    else .error .rangeFormat

/-! ## What is accepted -/

/-- The numbers of two digits right behind the separators of a text. -/
def behindSeps (sepstr : List UInt8) : List UInt8 → List Nat
  | sep :: tens :: ones :: rest =>
    if isSep sepstr sep then twoDigits tens ones :: behindSeps sepstr (tens :: ones :: rest)
    else behindSeps sepstr (tens :: ones :: rest)
  | _ => []

/-- Both ends pass the check, the start is not after the end, and the second numbers are the
first ones behind separators. -/
structure IsChecked (sepstr : List UInt8) (bad : TwoNumbers → Bool) (text : List UInt8)
    (range : TwoNumbers × TwoNumbers) : Prop where
  start : bad range.1 = false
  finish : bad range.2 = false
  ordered : isBefore range.2 range.1 = false
  seconds : ∀ bound, (∀ number ∈ (behindSeps sepstr text).take 2, number ≤ bound) ↔
    range.1.2 ≤ bound ∧ range.2.2 ≤ bound

/-- None of the characters is a separator. -/
abbrev Apart (sepstr : List UInt8) (chars : UInt8 → Bool) : Prop :=
  ∀ sep ∈ 0 :: sepstr, chars sep = false

variable {sepstr : List UInt8} {bad : TwoNumbers → Bool} {start : TwoNumbers}
  {range : TwoNumbers × TwoNumbers} {text rest : List UInt8}

lemma behindSeps_cons {chars : UInt8 → Bool} (apart : Apart sepstr chars) {char : UInt8}
    (isChar : chars char = true) (rest : List UInt8) :
    behindSeps sepstr (char :: rest) = behindSeps sepstr rest := by
  have noSep : ¬isSep sepstr char = true := by
    intro isSeparator
    rw [isSep, Bool.or_eq_true, decide_eq_true_eq, decide_eq_true_eq, or_comm, ← mem_cons]
      at isSeparator
    rw [apart char isSeparator] at isChar
    contradiction
  match rest with
  | [] => rfl
  | [_] => rfl
  | _ :: _ :: _ => rw [behindSeps, if_neg noSep]

lemma behindSeps_dropWhile {chars : UInt8 → Bool} (apart : Apart sepstr chars)
    (text : List UInt8) :
    behindSeps sepstr (text.dropWhile chars) = behindSeps sepstr text := by
  induction text with
  | nil => rfl
  | cons char rest ih =>
    rw [dropWhile_cons]
    split
    next isSkipped => rw [ih, behindSeps_cons apart isSkipped]
    · rfl

section

variable (spaces : Apart sepstr isSpaceTab) (digits : Apart sepstr isDigit)
include spaces digits

/-- A pair of numbers in front. -/
lemma behindSeps_getDatetime (isPair : getDatetime sepstr text = some (start, rest)) :
    behindSeps sepstr text = start.2 :: behindSeps sepstr rest := by
  rw [← behindSeps_dropWhile spaces]
  rw [getDatetime] at isPair
  split at isPair
  next f11 f12 sep f21 f22 behind isText =>
    split at isPair
    next isRead =>
      simp only [Bool.and_eq_true] at isRead
      obtain ⟨⟨⟨⟨one, two⟩, three⟩, four⟩, isSeparator⟩ := isRead
      cases isPair
      rw [isText, behindSeps_cons digits one, behindSeps_cons digits two, behindSeps,
        if_pos isSeparator, behindSeps_cons digits three, behindSeps_cons digits four]
    · contradiction
  · contradiction

lemma isChecked_single (good : ¬bad start = true)
    (isPair : getDatetime sepstr text = some (start, rest)) (noMore : behindSeps sepstr rest = []) :
    IsChecked sepstr bad text (start, start) := by
  have good := Bool.eq_false_iff.mpr good
  refine ⟨good, good, by simp [isBefore], fun bound => ?_⟩
  rw [behindSeps_getDatetime spaces digits isPair, noMore]
  simp

lemma isChecked_getRangeEnd {behind : List UInt8} (good : ¬bad start = true)
    (isPair : getDatetime sepstr text = some (start, rest))
    (same : behindSeps sepstr rest = behindSeps sepstr behind)
    (accepted : getRangeEnd sepstr bad start behind = .ok range) :
    IsChecked sepstr bad text range := by
  rw [getRangeEnd] at accepted
  split at accepted
  · cases accepted
  next isEnd =>
  split at accepted
  · cases accepted
  next goodEnd =>
  split at accepted
  · cases accepted
  next ordered =>
  cases accepted
  refine ⟨Bool.eq_false_iff.mpr good, Bool.eq_false_iff.mpr goodEnd,
    Bool.eq_false_iff.mpr ordered, fun bound => ?_⟩
  rw [behindSeps_getDatetime spaces digits isPair, same, behindSeps_getDatetime spaces digits isEnd]
  simp

end

lemma behindSeps_to (apart : Apart sepstr fun char => char == 116 || char == 111)
    (isTo : ascii "to" <+: rest) : behindSeps sepstr (rest.drop 2) = behindSeps sepstr rest := by
  obtain ⟨behind, rfl⟩ := isTo
  exact ((behindSeps_cons apart rfl _).trans (behindSeps_cons apart rfl _)).symm

lemma isChecked_getDateRange (accepted : getDateRange text = .ok range) :
    IsChecked (ascii "/-") badDate text range := by
  have spaces : Apart (ascii "/-") isSpaceTab := by decide +kernel
  have digits : Apart (ascii "/-") isDigit := by decide +kernel
  rw [getDateRange] at accepted
  split at accepted
  · cases accepted
  next start rest isPair =>
  have skipped := behindSeps_dropWhile spaces rest
  split at accepted
  · cases accepted
  next good =>
  dsimp only at accepted
  split at accepted
  next noRest =>
    cases accepted
    rw [noRest] at skipped
    exact isChecked_single spaces digits good isPair skipped.symm
  split at accepted
  · cases accepted
  split at accepted
  next isTo =>
    refine isChecked_getRangeEnd spaces digits good isPair ?_ accepted
    rw [behindSeps_to (by decide +kernel) isTo, skipped]
  split at accepted <;> cases accepted

lemma isChecked_getTimeRange (accepted : getTimeRange text = .ok range) :
    IsChecked (ascii ":") badTime text range := by
  have spaces : Apart (ascii ":") isSpaceTab := by decide +kernel
  have digits : Apart (ascii ":") isDigit := by decide +kernel
  have hyphens : Apart (ascii ":") isSpaceTabHyphen := by decide +kernel
  rw [getTimeRange] at accepted
  split at accepted
  · cases accepted
  next start behind isPair =>
  have skipped := behindSeps_dropWhile hyphens behind
  split at accepted
  · cases accepted
  next good =>
  dsimp only at accepted
  split at accepted
  next noRest =>
    cases accepted
    rw [noRest] at skipped
    exact isChecked_single spaces digits good isPair skipped.symm
  split at accepted
  · split at accepted
    · cases accepted
    · exact isChecked_getRangeEnd spaces digits good isPair skipped.symm accepted
  split at accepted
  · cases accepted
  split at accepted
  next isTo =>
    refine isChecked_getRangeEnd spaces digits good isPair ?_ accepted
    rw [behindSeps_to (by decide +kernel) isTo, skipped]
  split at accepted
  · cases accepted
  split at accepted <;> cases accepted

def ValidDate (date : TwoNumbers) : Prop := 1 ≤ date.1 ∧ date.1 ≤ 12 ∧ 1 ≤ date.2 ∧ date.2 ≤ 31

def ValidTime (time : TwoNumbers) : Prop := time.1 ≤ 23 ∧ time.2 ≤ 59

/-- Both ends are valid, and the start is not after the end. -/
def ValidRange (Valid : TwoNumbers → Prop) (range : TwoNumbers × TwoNumbers) : Prop :=
  Valid range.1 ∧ Valid range.2 ∧ isBefore range.2 range.1 = false

lemma validDate_iff {date : TwoNumbers} (good : badDate date = false) :
    ValidDate date ↔ date.2 ≤ 31 := by
  simp [badDate] at good
  rw [ValidDate]
  omega

lemma validTime_iff {time : TwoNumbers} (good : badTime time = false) :
    ValidTime time ↔ time.2 ≤ 59 := by
  simp [badTime] at good
  rw [ValidTime]
  omega

/-- The ranges that a text is accepted as are valid exactly when the minutes in the text, the
numbers behind its first two separators, are at most 59, and the days at most 31. -/
theorem ranges_valid_iff (text : List UInt8) (range : TwoNumbers × TwoNumbers) :
    (getTimeRange text = .ok range →
        (ValidRange ValidTime range ↔
          ∀ minute ∈ (behindSeps (ascii ":") text).take 2, minute ≤ 59)) ∧
      (getDateRange text = .ok range →
        (ValidRange ValidDate range ↔
          ∀ day ∈ (behindSeps (ascii "/-") text).take 2, day ≤ 31)) := by
  constructor
  · intro accepted
    have checked := isChecked_getTimeRange accepted
    rw [ValidRange, validTime_iff checked.start, validTime_iff checked.finish, checked.ordered,
      eq_self, and_true, checked.seconds]
  · intro accepted
    have checked := isChecked_getDateRange accepted
    rw [ValidRange, validDate_iff checked.start, validDate_iff checked.finish, checked.ordered,
      eq_self, and_true, checked.seconds]

/-- A range of times with minutes below 60. -/
theorem half_past_range_valid :
    getTimeRange (ascii "00:30-16:45") = .ok ((0, 30), (16, 45)) ∧
      ValidRange ValidTime ((0, 30), (16, 45)) :=
  have accepted : getTimeRange (ascii "00:30-16:45") = .ok ((0, 30), (16, 45)) := by
    decide +kernel
  ⟨accepted, ((ranges_valid_iff _ _).1 accepted).mpr (by decide +kernel)⟩

/-- A minute and a day that are accepted. -/
theorem invalid_ranges_accepted :
    getTimeRange (ascii "00:75") = .ok ((0, 75), (0, 75)) ∧
      getDateRange (ascii "01/03 to 02-99") = .ok ((1, 3), (2, 99)) := by
  decide +kernel

end Gyeeta.Alerts
