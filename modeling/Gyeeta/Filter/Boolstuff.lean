import Gyeeta.Lib.BoolExpr
import Mathlib.Data.List.Dedup
import Mathlib.Data.List.TakeWhile
import Mathlib.Tactic.Ring

/-!
# The boolean parser

`boolstuff` is a library outside of the repository, given by its functions and by what they are
assumed to do with texts of identifiers, `&`, `|`, parentheses and blanks: the parser accepts
exactly the well formed ones, and the disjunctive normal form is equivalent to the expression.
One such library, by distribution, is constructed.
-/

namespace Gyeeta.Filter

open List BoolExpr

/-- The bytes of a filter. -/
abbrev Text := List UInt8

/-! ## Characters -/

def space : UInt8 := 32
def tab : UInt8 := 9
def quote : UInt8 := 39
def ampersand : UInt8 := 38
def openParen : UInt8 := 40
def closeParen : UInt8 := 41
def openBrace : UInt8 := 123
def bar : UInt8 := 124
def closeBrace : UInt8 := 125

/-- The bytes of an ASCII text. -/
def ascii (text : String) : Text :=
  text.toList.map Char.toUInt8

def isSpaceTab (char : UInt8) : Bool :=
  char = space || char = tab

/-- `gy_tolower_ascii`. -/
def toLower (char : UInt8) : UInt8 :=
  if 65 ≤ char ∧ char ≤ 90 then char + 32 else char

def isDigit (char : UInt8) : Bool :=
  48 ≤ char && char ≤ 57

/-! ## Numbers -/

/-- A number as `strbuf << number` writes it. -/
def decimal (number : Nat) : Text :=
  (Nat.toDigits 10 number).map Char.toUInt8

/-- `string_to_number` for 32 bits and base 10, of a text without blanks and signs. -/
def stringToNumber (text : Text) : Option Nat :=
  let digits := text.takeWhile isDigit
  let number := Nat.ofDigitChars 10 (digits.map Char.ofUInt8) 0
  if digits = [] ∨ 2 ^ 32 - 1 ≤ number then none else some number

lemma digit_round_trip {char : Char} (digit : char.isDigit = true) :
    Char.ofUInt8 char.toUInt8 = char ∧ isDigit char.toUInt8 = true := by
  have bounds : 48 ≤ char.toNat ∧ char.toNat ≤ 57 := by
    simpa [Char.isDigit, UInt32.le_iff_toNat_le] using digit
  have small : char.toUInt8.toNat = char.toNat := by
    rw [Char.toUInt8, UInt32.toNat_toUInt8]
    exact Nat.mod_eq_of_lt (by have := bounds.2; change char.toNat < 256; omega)
  constructor
  · apply Char.ext
    apply UInt32.toNat_inj.mp
    exact small
  · simp [isDigit, UInt8.le_iff_toNat_le, small, bounds]

lemma isDigit_decimal {number : Nat} {char : UInt8} (mem : char ∈ decimal number) :
    isDigit char = true := by
  obtain ⟨digit, inDigits, rfl⟩ := mem_map.mp mem
  exact (digit_round_trip (Nat.isDigit_of_mem_toDigits (by decide) (by decide) inDigits)).2

lemma decimal_ne_nil (number : Nat) : decimal number ≠ [] := by
  intro empty
  have none : Nat.toDigits 10 number = [] := map_eq_nil_iff.mp empty
  have some := Nat.length_toDigits_pos (b := 10) (n := number)
  rw [none] at some
  cases some

lemma map_ofUInt8_decimal (number : Nat) :
    (decimal number).map Char.ofUInt8 = Nat.toDigits 10 number := by
  rw [decimal, map_map]
  refine (map_congr_left ?_).trans (map_id _)
  intro char mem
  exact (digit_round_trip (Nat.isDigit_of_mem_toDigits (by decide) (by decide) mem)).1

lemma stringToNumber_decimal {number : Nat} (small : number < 2 ^ 32 - 1) :
    stringToNumber (decimal number) = some number := by
  have digits : (decimal number).takeWhile isDigit = decimal number :=
    takeWhile_eq_self_iff.mpr fun _ => isDigit_decimal
  rw [stringToNumber, digits, map_ofUInt8_decimal,
    Nat.ofDigitChars_toDigits (by decide) (by decide), if_neg]
  rintro (empty | large)
  · exact decimal_ne_nil number empty
  · omega

/-! ## Texts of expressions -/

/-- The tokens of a character outside of identifiers. -/
def symbolTokens (char : UInt8) : Option (List (BoolToken Text)) :=
  if isSpaceTab char then some []
  else if char = ampersand then some [.and]
  else if char = bar then some [.or]
  else if char = openParen then some [.lparen]
  else if char = closeParen then some [.rparen]
  else none

/-- The token of an identifier that ends here. -/
def identTokens (ident : Text) : List (BoolToken Text) :=
  if ident = [] then [] else [.atom ident]

/-- The tokens of a text, after the beginning of an identifier. -/
def lexFrom : Text → (ident : Text) → Option (List (BoolToken Text))
  | [], ident => some (identTokens ident)
  | char :: rest, ident =>
    if isDigit char then lexFrom rest (ident ++ [char])
    else (symbolTokens char).bind fun tokens =>
        (lexFrom rest []).map fun more => identTokens ident ++ (tokens ++ more)

/-- The tokens of a text of digits, operators, parentheses and blanks. -/
def lex (text : Text) : Option (List (BoolToken Text)) :=
  lexFrom text []

lemma lexFrom_digits {digits : Text} (areDigits : ∀ char ∈ digits, isDigit char = true)
    (rest ident : Text) : lexFrom (digits ++ rest) ident = lexFrom rest (ident ++ digits) := by
  induction digits generalizing ident with
  | nil => rw [nil_append, append_nil]
  | cons char digits ih =>
    rw [forall_mem_cons] at areDigits
    rw [cons_append, lexFrom, if_pos areDigits.1, ih areDigits.2, append_assoc]
    rfl

lemma lex_cons {char : UInt8} (noDigit : isDigit char = false) (rest : Text) :
    lex (char :: rest) =
      (symbolTokens char).bind fun tokens => (lex rest).map fun more => tokens ++ more := by
  rw [lex, lexFrom, if_neg (by rw [noDigit]; nofun)]
  rfl

lemma lex_ident {digits rest : Text} (present : digits ≠ [])
    (areDigits : ∀ char ∈ digits, isDigit char = true)
    (ends : ∀ char ∈ rest.head?, isDigit char = false) :
    lex (digits ++ rest) = (lex rest).map fun more => .atom digits :: more := by
  rw [lex, lexFrom_digits areDigits, nil_append]
  cases rest with
  | nil =>
    rw [lexFrom, identTokens, if_neg present]
    rfl
  | cons char rest =>
    have noDigit := ends char rfl
    rw [lexFrom, if_neg (by rw [noDigit]; nofun), lex_cons noDigit, identTokens,
      if_neg present, Option.map_bind]
    congr 1
    funext tokens
    rw [Function.comp, Option.map_map]
    rfl

/-! ## The library -/

/-- The parser and the normal form of `boolstuff`, with what is assumed of them. -/
structure Boolstuff where
  /-- `BoolExpr<std::string>`. -/
  Tree : Type
  eval : Tree → (Text → Bool) → Bool
  /-- `BoolExprParser::parse`; an exception is `none`. -/
  parse : Text → Option Tree
  /-- The variables of the terms of `getDisjunctiveNormalForm`, in their order: the
  positive and the negated ones, as `getTreeVariables` returns them. -/
  terms : Tree → List (List Text × List Text)
  parse_isSome : ∀ {text tokens}, lex text = some tokens →
    ((parse text).isSome ↔ ∃ expr, Writes .expr tokens expr)
  parse_eval : ∀ {text tokens expr tree}, lex text = some tokens → Writes .expr tokens expr →
    parse text = some tree → ∀ assignment, eval tree assignment = expr.eval assignment
  terms_eval : ∀ tree assignment, eval tree assignment = (terms tree).any fun term =>
    term.1.all assignment && term.2.all fun name => !assignment name
  terms_atoms : ∀ {text tokens expr tree}, lex text = some tokens → Writes .expr tokens expr →
    parse text = some tree → ∀ term ∈ terms tree,
      (∀ name ∈ term.1, name ∈ expr.atoms) ∧ term.2 = []

/-! ## Distribution -/

section Distribution

/-- The terms of an expression: those of an `and` are the unions of terms of both sides. -/
def distribute : BoolExpr Text → List (List Text)
  | .atom name => [[name]]
  | .and left right =>
    (distribute left).flatMap fun first =>
      (distribute right).map fun second => first ++ second
  | .or left right => distribute left ++ distribute right

lemma eval_distribute (expr : BoolExpr Text) (assignment : Text → Bool) :
    expr.eval assignment = (distribute expr).any fun term => term.all assignment := by
  induction expr with
  | atom name => simp [eval, distribute]
  | and left right first second =>
    rw [eval, first, second, Bool.eq_iff_iff]
    simp only [distribute, Bool.and_eq_true, any_eq_true, mem_flatMap, mem_map]
    constructor
    · rintro ⟨⟨term, mem, holds⟩, other, otherMem, otherHolds⟩
      exact ⟨term ++ other, ⟨term, mem, other, otherMem, rfl⟩, by
        rw [all_append, holds, otherHolds]; rfl⟩
    · rintro ⟨_, ⟨term, mem, other, otherMem, rfl⟩, holds⟩
      rw [all_append, Bool.and_eq_true] at holds
      exact ⟨⟨term, mem, holds.1⟩, other, otherMem, holds.2⟩
  | or left right first second => rw [eval, first, second, distribute, any_append]

lemma atoms_distribute {expr : BoolExpr Text} {term : List Text}
    (mem : term ∈ distribute expr) : ∀ name ∈ term, name ∈ expr.atoms := by
  induction expr generalizing term with
  | atom name =>
    intro other inTerm
    rw [mem_singleton.mp mem] at inTerm
    exact inTerm
  | and left right first second =>
    intro name inTerm
    rw [distribute, mem_flatMap] at mem
    obtain ⟨leftTerm, inLeft, both⟩ := mem
    obtain ⟨rightTerm, inRight, rfl⟩ := mem_map.mp both
    rw [mem_append] at inTerm
    rw [atoms, mem_append]
    exact inTerm.imp (first inLeft name) (second inRight name)
  | or left right first second =>
    intro name inTerm
    rw [atoms, mem_append]
    exact (mem_append.mp mem).imp (fun inLeft => first inLeft name inTerm)
      fun inRight => second inRight name inTerm

/-- The library that parses by recursive descent and distributes. -/
def distributing : Boolstuff where
  Tree := BoolExpr Text
  eval expr assignment := expr.eval assignment
  parse text := (lex text).bind parseTokens
  terms expr := (distribute expr).map fun term => (term.dedup, [])
  parse_isSome := by
    intro text tokens lexed
    rw [lexed, Option.bind_some, Option.isSome_iff_exists]
    exact exists_congr fun expr => parseTokens_iff
  parse_eval := by
    intro text tokens expr tree lexed writes parsed assignment
    rw [lexed, Option.bind_some, parseTokens_iff] at parsed
    rw [parsed.unique writes]
  terms_eval := by
    intro tree assignment
    rw [eval_distribute, any_map]
    congr 1
    funext term
    rw [Bool.eq_iff_iff]
    simp [mem_dedup]
  terms_atoms := by
    intro text tokens expr tree lexed writes parsed term member
    rw [lexed, Option.bind_some, parseTokens_iff] at parsed
    cases parsed.unique writes
    obtain ⟨names, inTerms, rfl⟩ := mem_map.mp member
    exact ⟨fun name inTerm => atoms_distribute inTerms name (mem_dedup.mp inTerm), rfl⟩

end Distribution

end Gyeeta.Filter
