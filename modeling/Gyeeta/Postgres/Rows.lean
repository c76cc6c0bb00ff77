import Gyeeta.Filter.Literals
import Gyeeta.Lib.Bytes
import Mathlib.Algebra.Order.BigOperators.Group.List
import Mathlib.Tactic.Ring

/-!
# Rows of a request

A `CommandComplete` message ends with the number of rows of the command.  Its handler finds
the number by a fixed distance from the start of the text and adds it to the row count of the
request.
-/

namespace Gyeeta.Postgres

open List

open Gyeeta.Filter (Text isSpace isDigit isDigitOf readDigits takeSign digitValue)

/-- `atoi`, for numbers in the range of `int`. -/
def atoi (text : Bytes) : Int :=
  let (negative, rest) := takeSign (text.dropWhile isSpace)
  let number := readDigits 10 (rest.takeWhile (isDigitOf 10))
  if negative then -number else number

/-- `SELECT`. -/
def selectText : Bytes := [83, 69, 76, 69, 67, 84]

/-- `FETCH`. -/
def fetchText : Bytes := [70, 69, 84, 67, 72]

/-- The number behind a command's name: the handler skips `sizeof` of the name, which counts
the zero at its end, and one more byte. -/
def rowsBehind (name token : Bytes) : Nat :=
  let skipped := name.length + 1 + 1
  if skipped < token.length then (atoi (token.drop skipped) % 2 ^ 32).toNat else 0

/-- `nrow`, for the two commands that have rows. -/
def commandRows (token : Bytes) : Nat :=
  if token.take selectText.length = selectText then rowsBehind selectText token
  else if token.take fetchText.length = fetchText then rowsBehind fetchText token
  else 0

/-- The case `MSG_B_CMD_COMPLETE` of `handle_resp_token` for a complete token: the row count
after it. -/
def handleCmdComplete (nrows : Nat) (token : Bytes) : Nat :=
  if token.length > 5 then
    if commandRows token > 0 then (nrows + commandRows token) % 2 ^ 32 else nrows
  else nrows

/-- The text of a `CommandComplete` message with a number of rows in decimal digits. -/
structure RowText where
  isFetch : Bool
  digits : Bytes
  some_digit : digits ≠ []
  all_digits : ∀ char ∈ digits, isDigit char = true

namespace RowText

/-- The name of the command. -/
def name (text : RowText) : Bytes := if text.isFetch then fetchText else selectText

/-- The token, which ends with a zero. -/
def token (text : RowText) : Bytes := text.name ++ 32 :: (text.digits ++ [0])

/-- The number of rows. -/
def rows (text : RowText) : Nat := readDigits 10 text.digits

end RowText

/-! ## Reading digits -/

lemma readDigits_cons (char : UInt8) (digits : Text) : readDigits 10 (char :: digits) =
      (digitValue char).getD 0 * 10 ^ digits.length + readDigits 10 digits := by
  have shifted : ∀ (digits : Text) (start : Nat),
      digits.foldl (fun number char => number * 10 + (digitValue char).getD 0) start =
        start * 10 ^ digits.length + readDigits 10 digits := by
    intro digits
    induction digits with
    | nil => intro start; simp [readDigits]
    | cons char digits ih =>
      intro start
      rw [readDigits, foldl_cons, foldl_cons, ih, ih, length_cons, Nat.pow_succ]
      ring
  rw [readDigits, foldl_cons, shifted]
  simp

lemma atoi_digits {digits : Bytes} (all : ∀ char ∈ digits, isDigit char = true) :
    atoi (digits ++ [0]) = readDigits 10 digits := by
  have signed : takeSign ((digits ++ [0]).dropWhile isSpace) = (false, digits ++ [0]) := by
    cases digits with
    | nil => rfl
    | cons char digits =>
      obtain ⟨notSpace, notMinus, notPlus, -⟩ := Filter.digit_facts char (all char mem_cons_self)
      rw [cons_append, dropWhile_cons_of_neg (by simp [notSpace]), takeSign,
        if_neg notMinus, if_neg notPlus]
  have read : (digits ++ [0]).takeWhile (isDigitOf 10) = digits := by
    apply Filter.takeWhile_append_stop
    · exact fun char mem => (Filter.digit_facts char (all char mem)).2.2.2.1
    · intro char isZero
      cases isZero
      rfl
  rw [atoi, signed]
  simp only [read]
  rfl

/-! ## The row count -/

lemma rowsBehind_token (name : Bytes) (char : UInt8) {digits : Bytes}
    (all : ∀ other ∈ digits, isDigit other = true) (small : readDigits 10 digits < 2 ^ 32) :
    rowsBehind name (name ++ 32 :: (char :: digits ++ [0])) = readDigits 10 digits := by
  have dropped : (name ++ 32 :: (char :: digits ++ [0])).drop (name.length + 1 + 1) =
      digits ++ [0] := by
    rw [Nat.add_assoc, ← drop_drop, drop_left]
    rfl
  rw [rowsBehind, dropped, atoi_digits all, if_pos (by simp; omega)]
  omega

/-- The rows that are counted for a text: the number behind its first digit. -/
def RowText.counted (text : RowText) : Nat := readDigits 10 text.digits.tail

lemma commandRows_token (text : RowText) :
    commandRows text.token = rowsBehind text.name text.token ∧ text.token.length > 5 := by
  rw [RowText.token, RowText.name]
  cases text.isFetch with
  | true =>
    rw [if_pos rfl, commandRows, if_neg (by simp [fetchText, selectText]), if_pos (take_left' rfl)]
    exact ⟨rfl, by simp [fetchText]⟩
  | false =>
    rw [if_neg (by decide), commandRows, if_pos (take_left' rfl)]
    exact ⟨rfl, by simp [selectText]⟩

lemma handleCmdComplete_token (text : RowText) {nrows : Nat}
    (small : nrows + text.counted < 2 ^ 32) :
    handleCmdComplete nrows text.token = nrows + text.counted := by
  have isRows : rowsBehind text.name text.token = text.counted := by
    have all := text.all_digits
    rw [RowText.counted] at small ⊢
    rw [RowText.token]
    cases isDigits : text.digits with
    | nil => exact absurd isDigits text.some_digit
    | cons char digits =>
      rw [isDigits] at all small
      rw [forall_mem_cons] at all
      exact rowsBehind_token text.name char all.2 (by rw [tail_cons] at small; omega)
  obtain ⟨found, long⟩ := commandRows_token text
  rw [handleCmdComplete, if_pos long, found, isRows]
  split
  · exact Nat.mod_eq_of_lt small
  · omega

/-- The row count of a request after its tokens. -/
def rowsAfter (tokens : List Bytes) (nrows : Nat) : Nat := tokens.foldl handleCmdComplete nrows

lemma RowText.rows_eq (text : RowText) : ∃ lost, text.rows = lost + text.counted ∧
    (lost = 0 ↔ text.digits.head? = some 48) := by
  obtain ⟨isFetch, digits, some_digit, all_digits⟩ := text
  cases digits with
  | nil => exact absurd rfl some_digit
  | cons char digits =>
    refine ⟨_, readDigits_cons char digits, ?_⟩
    have zero : ∀ char : UInt8, isDigit char = true →
        ((digitValue char).getD 0 = 0 ↔ char = 48) := by
      decide +kernel
    rw [Nat.mul_eq_zero, zero char (all_digits char mem_cons_self)]
    simp

lemma rowsAfter_texts (texts : List RowText) {nrows : Nat}
    (small : nrows + (texts.map RowText.rows).sum < 2 ^ 32) :
    rowsAfter (texts.map RowText.token) nrows = nrows + (texts.map RowText.counted).sum := by
  induction texts generalizing nrows with
  | nil => rfl
  | cons text texts ih =>
    obtain ⟨lost, rows, -⟩ := text.rows_eq
    rw [map_cons, sum_cons] at small
    rw [map_cons, map_cons, sum_cons, rowsAfter, foldl_cons,
      handleCmdComplete_token text (by omega), ← Nat.add_assoc]
    exact ih (by omega)

/-- The row count is the sum of the numbers of rows exactly when each number starts with the
digit zero. -/
theorem rows_counted_iff (texts : List RowText) (small : (texts.map RowText.rows).sum < 2 ^ 32) :
    rowsAfter (texts.map RowText.token) 0 = (texts.map RowText.rows).sum ↔
      ∀ text ∈ texts, text.digits.head? = some 48 := by
  rw [rowsAfter_texts texts (by omega), Nat.zero_add]
  clear small
  induction texts with
  | nil => simp
  | cons text texts ih =>
    obtain ⟨lost, rows, isLost⟩ := text.rows_eq
    have atMost : (texts.map RowText.counted).sum ≤ (texts.map RowText.rows).sum := by
      apply sum_le_sum
      intro other _
      obtain ⟨_, otherRows, -⟩ := other.rows_eq
      omega
    rw [map_cons, map_cons, sum_cons, sum_cons, forall_mem_cons, ← ih, ← isLost, rows]
    omega

/-- The digit that is lost of `SELECT 05` and of `FETCH 0` is a zero. -/
theorem leading_zero_lost :
    let texts : List RowText :=
      [⟨false, [48, 53], by simp, by decide +kernel⟩, ⟨true, [48], by simp, by decide +kernel⟩]
    (texts.map RowText.rows).sum < 2 ^ 32 ∧
      rowsAfter (texts.map RowText.token) 0 = (texts.map RowText.rows).sum :=
  ⟨by decide +kernel, (rows_counted_iff _ (by decide +kernel)).mpr (by decide +kernel)⟩

/-- `SELECT 5` counts no row, and `FETCH 123` counts 23. -/
theorem first_digit_lost :
    let select : RowText := ⟨false, [53], by simp, by decide +kernel⟩
    let fetch : RowText := ⟨true, [49, 50, 51], by simp, by decide +kernel⟩
    select.rows = 5 ∧ rowsAfter [select.token] 0 = 0 ∧ fetch.rows = 123 ∧
      rowsAfter [fetch.token] 0 = 23 := by
  decide +kernel

end Gyeeta.Postgres
