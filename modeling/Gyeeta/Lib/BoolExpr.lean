import Mathlib.Data.List.TakeDrop

/-!
# Boolean expressions

And/or expressions, their tokens with parentheses, and the grammar that relates the two:
`and` binds tighter than `or`.  The grammar is unambiguous, and a recursive descent parser
decides it.
-/

namespace Gyeeta

open List

variable {Atom : Type}

/-- And/or expressions. -/
inductive BoolExpr (Atom : Type) where
  | atom (name : Atom)
  | and (left right : BoolExpr Atom)
  | or (left right : BoolExpr Atom)
  deriving DecidableEq, Repr

namespace BoolExpr

/-- The value under an assignment. -/
def eval (assignment : Atom → Bool) : BoolExpr Atom → Bool
  | atom name => assignment name
  | and left right => left.eval assignment && right.eval assignment
  | or left right => left.eval assignment || right.eval assignment

/-- The atoms of an expression. -/
def atoms : BoolExpr Atom → List Atom
  | atom name => [name]
  | and left right | or left right => left.atoms ++ right.atoms

/-- Renames the atoms. -/
def map {Other : Type} (rename : Atom → Other) : BoolExpr Atom → BoolExpr Other
  | atom name => atom (rename name)
  | and left right => and (left.map rename) (right.map rename)
  | or left right => or (left.map rename) (right.map rename)

@[simp] lemma eval_map {Other : Type} (rename : Atom → Other) (assignment : Other → Bool)
    (expr : BoolExpr Atom) :
    (expr.map rename).eval assignment = expr.eval (fun name => assignment (rename name)) := by
  induction expr with
  | atom => rfl
  | and left right leftIH rightIH => simp only [map, eval, leftIH, rightIH]
  | or left right leftIH rightIH => simp only [map, eval, leftIH, rightIH]

@[simp] lemma atoms_map {Other : Type} (rename : Atom → Other) (expr : BoolExpr Atom) :
    (expr.map rename).atoms = expr.atoms.map rename := by
  induction expr with
  | atom => rfl
  | and left right leftIH rightIH => simp only [map, atoms, leftIH, rightIH, map_append]
  | or left right leftIH rightIH => simp only [map, atoms, leftIH, rightIH, map_append]

@[simp] lemma eval_const (expr : BoolExpr Atom) (value : Bool) :
    expr.eval (fun _ => value) = value := by
  induction expr with
  | atom => rfl
  | and left right leftIH rightIH => rw [eval, leftIH, rightIH, Bool.and_self]
  | or left right leftIH rightIH => rw [eval, leftIH, rightIH, Bool.or_self]

lemma eval_congr {first second : Atom → Bool} {expr : BoolExpr Atom}
    (same : ∀ name ∈ expr.atoms, first name = second name) :
    expr.eval first = expr.eval second := by
  induction expr with
  | atom name => exact same name mem_cons_self
  | and left right leftIH rightIH =>
    simp only [atoms, forall_mem_append] at same
    rw [eval, eval, leftIH same.1, rightIH same.2]
  | or left right leftIH rightIH =>
    simp only [atoms, forall_mem_append] at same
    rw [eval, eval, leftIH same.1, rightIH same.2]

end BoolExpr

/-- The tokens of a written expression. -/
inductive BoolToken (Atom : Type) where
  | atom (name : Atom)
  | and
  | or
  | lparen
  | rparen
  deriving DecidableEq, Repr

/-- Renames the atoms. -/
def BoolToken.map {Other : Type} (rename : Atom → Other) : BoolToken Atom → BoolToken Other
  | atom name => atom (rename name)
  | and => and
  | or => or
  | lparen => lparen
  | rparen => rparen

/-- The levels of the grammar. -/
inductive BoolLevel where
  | expr
  | term
  | factor
  deriving DecidableEq, Repr

/-- The tokens are a way to write the expression. -/
inductive Writes : BoolLevel → List (BoolToken Atom) → BoolExpr Atom → Prop where
  | atom (name : Atom) : Writes .factor [.atom name] (.atom name)
  | paren {tokens : List (BoolToken Atom)} {expr : BoolExpr Atom} :
      Writes .expr tokens expr → Writes .factor (.lparen :: (tokens ++ [.rparen])) expr
  | factor {tokens : List (BoolToken Atom)} {expr : BoolExpr Atom} :
      Writes .factor tokens expr → Writes .term tokens expr
  | and {left right : List (BoolToken Atom)} {leftExpr rightExpr : BoolExpr Atom} :
      Writes .factor left leftExpr → Writes .term right rightExpr →
      Writes .term (left ++ .and :: right) (.and leftExpr rightExpr)
  | term {tokens : List (BoolToken Atom)} {expr : BoolExpr Atom} :
      Writes .term tokens expr → Writes .expr tokens expr
  | or {left right : List (BoolToken Atom)} {leftExpr rightExpr : BoolExpr Atom} :
      Writes .term left leftExpr → Writes .expr right rightExpr →
      Writes .expr (left ++ .or :: right) (.or leftExpr rightExpr)

/-! ## Parsing -/

/-- Recursive descent with fuel: the expression at the front, and the tokens behind it. -/
def parseBool : Nat → BoolLevel → List (BoolToken Atom) →
    Option (BoolExpr Atom × List (BoolToken Atom))
  | 0, _, _ => none
  | _ + 1, .factor, .atom name :: behind => some (.atom name, behind)
  | fuel + 1, .factor, .lparen :: behind =>
    match parseBool fuel .expr behind with
    | some (expr, .rparen :: behind) => some (expr, behind)
    | _ => none
  | _ + 1, .factor, _ => none
  | fuel + 1, .term, tokens =>
    match parseBool fuel .factor tokens with
    | some (left, .and :: behind) =>
      (parseBool fuel .term behind).map fun (right, behind) => (.and left right, behind)
    | other => other
  | fuel + 1, .expr, tokens =>
    match parseBool fuel .term tokens with
    | some (left, .or :: behind) =>
      (parseBool fuel .expr behind).map fun (right, behind) => (.or left right, behind)
    | other => other

/-- The whole list of tokens as an expression. -/
def parseTokens (tokens : List (BoolToken Atom)) : Option (BoolExpr Atom) :=
  match parseBool (3 * tokens.length) .expr tokens with
  | some (expr, []) => some expr
  | _ => none

variable {tokens : List (BoolToken Atom)} {expr : BoolExpr Atom}

lemma parseBool_sound {fuel : Nat} {level : BoolLevel} {behind : List (BoolToken Atom)}
    (parsed : parseBool fuel level tokens = some (expr, behind)) :
    ∃ front, tokens = front ++ behind ∧ Writes level front expr := by
  induction fuel generalizing level tokens behind expr with
  | zero => cases parsed
  | succ fuel ih =>
    cases level with
    | factor =>
      cases tokens with
      | nil => cases parsed
      | cons token rest =>
        cases token with
        | atom name =>
          cases parsed
          exact ⟨[.atom name], rfl, .atom name⟩
        | lparen =>
          rw [parseBool] at parsed
          split at parsed
          next inner =>
            cases parsed
            obtain ⟨front, rfl, writes⟩ := ih inner
            exact ⟨.lparen :: (front ++ [.rparen]), by simp, .paren writes⟩
          · cases parsed
        | and | or | rparen => cases parsed
    | term =>
      rw [parseBool] at parsed
      split at parsed
      next first =>
        obtain ⟨⟨right, _⟩, second, same⟩ := Option.map_eq_some_iff.mp parsed
        cases same
        obtain ⟨front, rfl, writesFront⟩ := ih first
        obtain ⟨back, rfl, writesBack⟩ := ih second
        exact ⟨front ++ .and :: back, by simp, .and writesFront writesBack⟩
      · obtain ⟨front, split, writes⟩ := ih parsed
        exact ⟨front, split, .factor writes⟩
    | expr =>
      rw [parseBool] at parsed
      split at parsed
      next first =>
        obtain ⟨⟨right, _⟩, second, same⟩ := Option.map_eq_some_iff.mp parsed
        cases same
        obtain ⟨front, rfl, writesFront⟩ := ih first
        obtain ⟨back, rfl, writesBack⟩ := ih second
        exact ⟨front ++ .or :: back, by simp, .or writesFront writesBack⟩
      · obtain ⟨front, split, writes⟩ := ih parsed
        exact ⟨front, split, .term writes⟩

/-- The tokens do not continue an expression of the level. -/
def BoolLevel.Stops : BoolLevel → List (BoolToken Atom) → Prop
  | .factor, _ => True
  | .term, behind => ∀ rest, behind ≠ .and :: rest
  | .expr, behind => (∀ rest, behind ≠ .and :: rest) ∧ ∀ rest, behind ≠ .or :: rest

/-- The fuel that a level can do without. -/
def BoolLevel.spare : BoolLevel → Nat
  | .factor => 2
  | .term => 1
  | .expr => 0

lemma Writes.length_pos {level : BoolLevel}
    (writes : Writes level tokens expr) : 0 < tokens.length := by
  induction writes with
  | atom | paren => exact Nat.succ_pos _
  | factor _ inner => exact inner
  | term _ inner => exact inner
  | and | or =>
    rw [length_append, length_cons]
    omega

section Steps

variable {fuel : Nat} {tokens behind rest : List (BoolToken Atom)}
  {expr left right : BoolExpr Atom}

lemma parseBool_paren (inner : parseBool fuel .expr tokens = some (expr, .rparen :: behind)) :
    parseBool (fuel + 1) .factor (.lparen :: tokens) = some (expr, behind) := by
  rw [parseBool, inner]

lemma parseBool_factor (parsed : parseBool fuel .factor tokens = some (expr, behind))
    (stops : BoolLevel.term.Stops behind) :
    parseBool (fuel + 1) .term tokens = some (expr, behind) := by
  rw [parseBool, parsed]
  split
  next same =>
    cases same
    exact absurd rfl (stops _)
  · rfl

lemma parseBool_and (first : parseBool fuel .factor tokens = some (left, .and :: behind))
    (second : parseBool fuel .term behind = some (right, rest)) :
    parseBool (fuel + 1) .term tokens = some (.and left right, rest) := by
  rw [parseBool, first]
  dsimp only
  rw [second]
  rfl

lemma parseBool_term (parsed : parseBool fuel .term tokens = some (expr, behind))
    (stops : BoolLevel.expr.Stops behind) :
    parseBool (fuel + 1) .expr tokens = some (expr, behind) := by
  rw [parseBool, parsed]
  split
  next same =>
    cases same
    exact absurd rfl (stops.2 _)
  · rfl

lemma parseBool_or (first : parseBool fuel .term tokens = some (left, .or :: behind))
    (second : parseBool fuel .expr behind = some (right, rest)) :
    parseBool (fuel + 1) .expr tokens = some (.or left right, rest) := by
  rw [parseBool, first]
  dsimp only
  rw [second]
  rfl

end Steps

lemma parseBool_complete {level : BoolLevel} {front : List (BoolToken Atom)}
    (writes : Writes level front expr) (fuel : Nat)
    (enough : 3 * front.length ≤ fuel + level.spare) (behind : List (BoolToken Atom))
    (stops : level.Stops behind) :
    parseBool fuel level (front ++ behind) = some (expr, behind) := by
  induction writes generalizing fuel behind with
  | atom name =>
    simp only [length_singleton, BoolLevel.spare] at enough
    obtain ⟨less, rfl⟩ : ∃ less, fuel = less + 1 := Nat.exists_eq_succ_of_ne_zero (by omega)
    rfl
  | paren inner innerIH =>
    simp only [length_cons, length_append, length_nil, BoolLevel.spare] at enough innerIH
    obtain ⟨less, rfl⟩ : ∃ less, fuel = less + 1 := Nat.exists_eq_succ_of_ne_zero (by omega)
    have parsed := innerIH less (by omega) (.rparen :: behind) ⟨nofun, nofun⟩
    rw [cons_append, append_assoc, singleton_append]
    exact parseBool_paren parsed
  | factor inner innerIH =>
    have positive := inner.length_pos
    simp only [BoolLevel.spare] at enough innerIH
    obtain ⟨less, rfl⟩ : ∃ less, fuel = less + 1 := Nat.exists_eq_succ_of_ne_zero (by omega)
    exact parseBool_factor (innerIH less (by omega) behind trivial) stops
  | and first second firstIH secondIH =>
    have positive := first.length_pos
    simp only [length_append, length_cons, BoolLevel.spare] at enough firstIH secondIH
    obtain ⟨less, rfl⟩ : ∃ less, fuel = less + 1 := Nat.exists_eq_succ_of_ne_zero (by omega)
    rw [append_assoc, cons_append]
    exact parseBool_and (firstIH less (by omega) _ trivial) (secondIH less (by omega) behind stops)
  | term inner innerIH =>
    have positive := inner.length_pos
    simp only [BoolLevel.spare] at enough innerIH
    obtain ⟨less, rfl⟩ : ∃ less, fuel = less + 1 := Nat.exists_eq_succ_of_ne_zero (by omega)
    exact parseBool_term (innerIH less (by omega) behind stops.1) stops
  | or first second firstIH secondIH =>
    have positive := first.length_pos
    simp only [length_append, length_cons, BoolLevel.spare] at enough firstIH secondIH
    obtain ⟨less, rfl⟩ : ∃ less, fuel = less + 1 := Nat.exists_eq_succ_of_ne_zero (by omega)
    rw [append_assoc, cons_append]
    exact parseBool_or (firstIH less (by omega) _ nofun) (secondIH less (by omega) behind stops)

lemma parseTokens_iff :
    parseTokens tokens = some expr ↔ Writes .expr tokens expr := by
  constructor
  · intro parsed
    rw [parseTokens] at parsed
    split at parsed
    next whole =>
      cases parsed
      obtain ⟨front, rfl, writes⟩ := parseBool_sound whole
      rw [append_nil]
      exact writes
    · cases parsed
  · intro writes
    have parsed := parseBool_complete writes (3 * tokens.length) (Nat.le_refl _) []
      ⟨nofun, nofun⟩
    rw [append_nil] at parsed
    rw [parseTokens, parsed]

lemma Writes.unique {first second : BoolExpr Atom}
    (writesFirst : Writes .expr tokens first) (writesSecond : Writes .expr tokens second) :
    first = second := by
  have parsed := parseTokens_iff.mpr writesFirst
  rw [parseTokens_iff.mpr writesSecond] at parsed
  exact (Option.some.inj parsed).symm

/-! ## Renaming -/

lemma Writes.map {Other : Type} (rename : Atom → Other) {level : BoolLevel}
    (writes : Writes level tokens expr) :
    Writes level (tokens.map (BoolToken.map rename)) (expr.map rename) := by
  induction writes with
  | atom name => exact .atom (rename name)
  | paren _ inner =>
    rw [map_cons, map_append]
    exact .paren inner
  | factor _ inner => exact .factor inner
  | and _ _ first second =>
    rw [map_append, map_cons]
    exact .and first second
  | term _ inner => exact .term inner
  | or _ _ first second =>
    rw [map_append, map_cons]
    exact .or first second

lemma Writes.of_map {Other : Type} {rename : Atom → Other} {level : BoolLevel}
    {renamed : BoolExpr Other} (writes : Writes level (tokens.map (BoolToken.map rename)) renamed) :
    ∃ expr, Writes level tokens expr := by
  generalize image : tokens.map (BoolToken.map rename) = others at writes
  induction writes generalizing tokens with
  | atom name =>
    obtain ⟨token, rfl, isAtom⟩ := map_eq_singleton_iff.mp image
    cases token with
    | atom name => exact ⟨_, .atom name⟩
    | _ => cases isAtom
  | paren _ inner =>
    obtain ⟨first, rest, rfl, isFirst, isRest⟩ := map_eq_cons_iff.mp image
    obtain ⟨middle, last, rfl, isMiddle, isLast⟩ := map_eq_append_iff.mp isRest
    obtain ⟨token, rfl, isToken⟩ := map_eq_singleton_iff.mp isLast
    obtain ⟨expr, written⟩ := inner isMiddle
    cases first <;> cases isFirst
    cases token <;> cases isToken
    exact ⟨expr, .paren written⟩
  | factor _ inner =>
    obtain ⟨expr, written⟩ := inner image
    exact ⟨expr, .factor written⟩
  | term _ inner =>
    obtain ⟨expr, written⟩ := inner image
    exact ⟨expr, .term written⟩
  | and _ _ first second =>
    obtain ⟨left, behind, rfl, isLeft, isBehind⟩ := map_eq_append_iff.mp image
    obtain ⟨operator, right, rfl, isOperator, isRight⟩ := map_eq_cons_iff.mp isBehind
    obtain ⟨leftExpr, writesLeft⟩ := first isLeft
    obtain ⟨rightExpr, writesRight⟩ := second isRight
    cases operator <;> cases isOperator
    exact ⟨_, .and writesLeft writesRight⟩
  | or _ _ first second =>
    obtain ⟨left, behind, rfl, isLeft, isBehind⟩ := map_eq_append_iff.mp image
    obtain ⟨operator, right, rfl, isOperator, isRight⟩ := map_eq_cons_iff.mp isBehind
    obtain ⟨leftExpr, writesLeft⟩ := first isLeft
    obtain ⟨rightExpr, writesRight⟩ := second isRight
    cases operator <;> cases isOperator
    exact ⟨_, .or writesLeft writesRight⟩

/-! ## Shape of token lists -/

/-- Operands and operators alternate: an operand is expected first, or an operator. -/
def alternates : (operand : Bool) → List (BoolToken Atom) → Bool
  | true, .lparen :: rest => alternates true rest
  | true, .atom _ :: rest => alternates false rest
  | false, .rparen :: rest => alternates false rest
  | false, .and :: rest | false, .or :: rest => alternates true rest
  | false, [] => true
  | _, _ => false

section

variable {level : BoolLevel} (writes : Writes level tokens expr)
include writes

lemma Writes.alternates_append (rest : List (BoolToken Atom)) :
    alternates true (tokens ++ rest) = alternates false rest := by
  induction writes generalizing rest with
  | atom name => rfl
  | paren _ inner =>
    rw [cons_append, append_assoc, alternates, inner]
    rfl
  | factor _ inner => exact inner rest
  | term _ inner => exact inner rest
  | and _ _ first second =>
    rw [append_assoc, first, cons_append, alternates, second]
  | or _ _ first second =>
    rw [append_assoc, first, cons_append, alternates, second]

lemma Writes.alternates : alternates true tokens = true := by
  have whole := writes.alternates_append []
  rw [append_nil] at whole
  exact whole

end

/-- The nesting behind some tokens. -/
def nesting : List (BoolToken Atom) → Int
  | [] => 0
  | .lparen :: rest => nesting rest + 1
  | .rparen :: rest => nesting rest - 1
  | .atom _ :: rest | .and :: rest | .or :: rest => nesting rest

lemma nesting_append (first second : List (BoolToken Atom)) :
    nesting (first ++ second) = nesting first + nesting second := by
  induction first with
  | nil => rw [nil_append, nesting, Int.zero_add]
  | cons token rest ih =>
    cases token <;> simp only [cons_append, nesting, ih] <;> omega

lemma Writes.nesting {level : BoolLevel}
    (writes : Writes level tokens expr) : nesting tokens = 0 := by
  induction writes with
  | atom name => rfl
  | paren _ inner =>
    rw [Gyeeta.nesting, nesting_append, inner]
    rfl
  | factor _ inner => exact inner
  | term _ inner => exact inner
  | and _ _ first second => rw [nesting_append, first, Gyeeta.nesting, second, Int.zero_add]
  | or _ _ first second => rw [nesting_append, first, Gyeeta.nesting, second, Int.zero_add]

/-! ## Joined operands -/

/-- Operands with an operator between them. -/
def joinTokens (operator : BoolToken Atom) : List (List (BoolToken Atom)) → List (BoolToken Atom)
  | [] => []
  | [operand] => operand
  | operand :: next :: rest => operand ++ operator :: joinTokens operator (next :: rest)

inductive BoolOp where
  | or
  | and
  deriving DecidableEq, Repr

namespace BoolOp

def token : BoolOp → BoolToken Atom
  | or => .or
  | and => .and

def build : BoolOp → BoolExpr Atom → BoolExpr Atom → BoolExpr Atom
  | or => .or
  | and => .and

/-- The level of operands joined by the operator. -/
def level : BoolOp → BoolLevel
  | or => .expr
  | and => .term

def combine : BoolOp → Bool → Bool → Bool
  | or => (· || ·)
  | and => (· && ·)

/-- The value that changes nothing. -/
def neutral : BoolOp → Bool
  | or => false
  | and => true

/-- The value of joined operands. -/
def fold {Item : Type} (operator : BoolOp) (items : List Item) (value : Item → Bool) : Bool :=
  match operator with
  | or => items.any value
  | and => items.all value

section Fold

variable {Item : Type} (operator : BoolOp) (value : Item → Bool)

@[simp] lemma fold_nil : operator.fold [] value = operator.neutral := by
  cases operator <;> rfl

lemma fold_cons (item : Item) (items : List Item) : operator.fold (item :: items) value =
      operator.combine (value item) (operator.fold items value) := by
  cases operator <;> rfl

@[simp] lemma combine_neutral (first : Bool) :
    operator.combine first operator.neutral = first := by
  cases operator <;> cases first <;> rfl

variable {operator : BoolOp} {items : List Item} {value other : Item → Bool}

lemma fold_congr (same : ∀ item ∈ items, value item = other item) :
    operator.fold items value = operator.fold items other := by
  induction items with
  | nil => rw [fold_nil, fold_nil]
  | cons item rest ih =>
    rw [forall_mem_cons] at same
    rw [fold_cons, fold_cons, same.1, ih same.2]

end Fold

section

variable (operator : BoolOp)
include operator

variable {tokens : List (BoolToken Atom)} {expr : BoolExpr Atom}

lemma writes_single (writes : Writes .factor tokens expr) :
    Writes operator.level tokens expr := by
  cases operator with
  | or => exact .term (.factor writes)
  | and => exact .factor writes

lemma writes_cons {left right : List (BoolToken Atom)}
    {leftExpr rightExpr : BoolExpr Atom} (first : Writes .factor left leftExpr)
    (second : Writes operator.level right rightExpr) :
    Writes operator.level (left ++ operator.token :: right)
      (operator.build leftExpr rightExpr) := by
  cases operator with
  | or => exact .or (.factor first) second
  | and => exact .and first second

lemma writes_expr (writes : Writes operator.level tokens expr) :
    Writes .expr tokens expr := by
  cases operator with
  | or => exact writes
  | and => exact .term writes

@[simp] lemma atoms_build (left right : BoolExpr Atom) :
    (operator.build left right).atoms = left.atoms ++ right.atoms := by
  cases operator <;> rfl

lemma eval_build (left right : BoolExpr Atom) (assignment : Atom → Bool) :
    (operator.build left right).eval assignment =
      operator.combine (left.eval assignment) (right.eval assignment) := by
  cases operator <;> rfl

end

lemma joinTokens_cons {Item : Type} (operator : BoolToken Atom)
    (tokens : Item → List (BoolToken Atom)) (item : Item) {items : List Item} (more : items ≠ []) :
    joinTokens operator ((item :: items).map tokens) =
      tokens item ++ operator :: joinTokens operator (items.map tokens) := by
  cases items with
  | nil => exact absurd rfl more
  | cons next rest => rfl

lemma writes_join (operator : BoolOp) {Item : Type} {tokens : Item → List (BoolToken Atom)}
    {expr : Item → BoolExpr Atom} {items : List Item} (present : items ≠ [])
    (factors : ∀ item ∈ items, Writes .factor (tokens item) (expr item)) :
    ∃ joined, Writes operator.level (joinTokens operator.token (items.map tokens)) joined ∧
      (∀ name ∈ joined.atoms, ∃ item ∈ items, name ∈ (expr item).atoms) ∧
      ∀ assignment, joined.eval assignment =
        operator.fold items fun item => (expr item).eval assignment := by
  induction items with
  | nil => exact absurd rfl present
  | cons item rest ih =>
    rw [forall_mem_cons] at factors
    by_cases last : rest = []
    · subst last
      refine ⟨expr item, operator.writes_single factors.1, ?_, ?_⟩
      · intro name mem
        exact ⟨item, mem_cons_self, mem⟩
      · intro assignment
        rw [fold_cons, fold_nil, combine_neutral]
    obtain ⟨joined, writes, atoms, eval⟩ := ih last factors.2
    rw [joinTokens_cons _ _ _ last]
    refine ⟨operator.build (expr item) joined, operator.writes_cons factors.1 writes, ?_, ?_⟩
    · intro name mem
      rw [atoms_build, mem_append] at mem
      cases mem with
      | inl inFirst => exact ⟨item, mem_cons_self, inFirst⟩
      | inr inRest =>
        obtain ⟨other, otherMem, inOther⟩ := atoms name inRest
        exact ⟨other, mem_cons_of_mem _ otherMem, inOther⟩
    · intro assignment
      rw [eval_build, eval, fold_cons]

end BoolOp

end Gyeeta
