import Gyeeta.Filter.Phased

/-!
# Filters of database queries

The criteria of a subsystem, and of the hosts if asked for, become a condition of the database
query.  Criteria of other subsystems are left out, and a group without any criterion to write
becomes a constant.  The condition is always well formed; whether it keeps all rows that match
depends on the groups, as for evaluation in phases.
-/

namespace Gyeeta.Filter

open List BoolOp

/-! ## What is written -/

/-- What a written condition is made of. -/
inductive SqlAtom where
  | constant (value : Bool)
  | crit (tableAlias : String) (crit : Criterion)
  deriving DecidableEq, Repr

/-- The value of an atom of the condition in a row. -/
def SqlAtom.eval (truth : Criterion → Bool) : SqlAtom → Bool
  | constant value => value
  | crit _ criterion => truth criterion

/-- What is appended to the buffer at a time. -/
inductive SqlPiece where
  | openSet
  | closeSet
  | openGroup
  | closeGroup
  | oper (oper : GroupOper)
  | constant (value : Bool)
  | crit (tableAlias : String) (crit : Criterion)
  deriving DecidableEq, Repr

namespace SqlPiece

/-- The appended text, from what `CRITERION_ONE::set_db_filter` writes for a criterion. -/
def text (sql : String → Criterion → String) : SqlPiece → String
  | openSet => " ( "
  | closeSet => " ) "
  | openGroup => "("
  | closeGroup => ")"
  | oper .or => " or "
  | oper .and => " and "
  | constant true => "(true)"
  | constant false => "(false)"
  | crit tableAlias criterion => sql tableAlias criterion

end SqlPiece

/-- The tokens of the appended text. -/
def SqlPiece.tokens : SqlPiece → List (BoolToken SqlAtom)
  | openSet => [.lparen]
  | closeSet => [.rparen]
  | openGroup => [.lparen]
  | closeGroup => [.rparen]
  | oper groupOper => [groupOper.toBool.token]
  | constant value => [.lparen, .atom (.constant value), .rparen]
  | crit tableAlias criterion => [.atom (.crit tableAlias criterion)]

/-- The arguments of `get_db_filter_criteria`; all callers leave the fallback at `(true)`. -/
structure DbFilterArgs where
  subsys : Subsys
  tableAlias : String
  addMultihost : Bool
  hostAlias : String

namespace DbFilterArgs

variable (args : DbFilterArgs)

/-- `subarr`. -/
def subsystems : List Subsys :=
  if args.addMultihost ∧ args.subsys ≠ .host then [args.subsys, .host] else [args.subsys]

/-- The table alias a criterion is written with. -/
def aliasOf (crit : Criterion) : String :=
  if (args.addMultihost ∧ args.subsys ≠ .host) ∧ crit.subsys = .host then args.hostAlias
  else args.tableAlias

end DbFilterArgs

/-- The loop of `CRITERIA_ONE_GROUP::set_db_filter`, with the last value of `iseval`. -/
def setDbFilterLoop (args : DbFilterArgs) (groupOper : GroupOper) :
    List Criterion → (iseval : Bool) → List SqlPiece × Bool
  | [], iseval => ([], iseval)
  | crit :: rest, iseval =>
    if isSubsystemAllowed (some args.subsystems) crit.subsys then
      let (pieces, last) := setDbFilterLoop args groupOper rest true
      ((if iseval then [] else [.openGroup]) ++ .crit (args.aliasOf crit) crit ::
        ((if rest = [] then [] else [.oper groupOper]) ++ pieces), last)
    else
      let (pieces, last) := setDbFilterLoop args groupOper rest iseval
      ((if iseval ∧ rest = [] then [.constant groupOper.toBool.neutral] else []) ++ pieces, last)

def CriteriaGroup.setDbFilter (group : CriteriaGroup) (args : DbFilterArgs)
    (fallback : Bool) : List SqlPiece :=
  let (pieces, iseval) := setDbFilterLoop args group.oper group.crits false
  pieces ++ if iseval then [.closeGroup] else [.constant fallback]

/-- The loop over the groups of the second level. -/
def setDbFilterGroups (args : DbFilterArgs) (l1Oper : GroupOper) :
    List CriteriaGroup → List SqlPiece
  | [] => []
  | group :: rest =>
    group.setDbFilter args l1Oper.toBool.neutral ++
      ((if rest = [] then [] else [.oper l1Oper]) ++ setDbFilterGroups args l1Oper rest)

def CriteriaSet.getDbFilterCriteria (set : CriteriaSet) (args : DbFilterArgs) : List SqlPiece :=
  if set.totalCrit = 0 then [.constant true]
  else if args.subsys ∉ set.subsysArr then [.constant true]
  else
    .openSet ::
      ((if set.l1Grp.crits = [] then []
        else set.l1Grp.setDbFilter args set.l1Oper.toBool.neutral ++
            if set.l2Grps = [] then [] else [.oper set.l1Oper]) ++
      (setDbFilterGroups args set.l1Oper set.l2Grps ++ [.closeSet]))

/-- The tokens of a written condition. -/
def sqlTokens (pieces : List SqlPiece) : List (BoolToken SqlAtom) :=
  pieces.flatMap SqlPiece.tokens

/-! ## A group -/

section Group

variable (args : DbFilterArgs) (groupOper : GroupOper)

def CriteriaGroup.written (group : CriteriaGroup) (subsystems : List Subsys) : List Criterion :=
  group.crits.filter fun crit => crit.subsys ∈ subsystems

/-- The tokens of an operand: a constant is in parentheses. -/
def SqlAtom.tokens : SqlAtom → List (BoolToken SqlAtom)
  | constant value => [.lparen, .atom (.constant value), .rparen]
  | crit tableAlias criterion => [.atom (.crit tableAlias criterion)]

/-- The operands that a started group is made of: a last criterion that is left out is
written as the constant that changes nothing. -/
def dbOperands : List Criterion → List SqlAtom
  | [] => []
  | crit :: rest =>
    if crit.subsys ∈ args.subsystems then .crit (args.aliasOf crit) crit :: dbOperands rest
    else if rest = [] then [.constant groupOper.toBool.neutral]
    else dbOperands rest

variable {args : DbFilterArgs} {groupOper : GroupOper} {crits : List Criterion}

lemma SqlAtom.writes_tokens (sqlAtom : SqlAtom) :
    Writes .factor sqlAtom.tokens (.atom sqlAtom) := by
  cases sqlAtom with
  | constant value =>
    have inner : Writes .expr [.atom (constant value)] (.atom (constant value)) :=
      .term (.factor (.atom _))
    exact .paren inner
  | crit tableAlias criterion => exact .atom _

lemma dbOperands_ne_nil (args : DbFilterArgs) (groupOper : GroupOper) (present : crits ≠ []) :
    dbOperands args groupOper crits ≠ [] := by
  induction crits with
  | nil => exact absurd rfl present
  | cons crit rest ih =>
    rw [dbOperands]
    split
    · nofun
    · split
      · nofun
      next more =>
        exact ih more

lemma fold_dbOperands (truth : Criterion → Bool) :
    (groupOper.toBool.fold (dbOperands args groupOper crits) fun sqlAtom => sqlAtom.eval truth) =
      groupOper.toBool.fold (crits.filter fun crit => crit.subsys ∈ args.subsystems) truth := by
  induction crits with
  | nil => rfl
  | cons crit rest ih =>
    rw [dbOperands]
    by_cases allowed : crit.subsys ∈ args.subsystems
    · rw [if_pos allowed, filter_cons_of_pos (by simpa using allowed)]
      rw [fold_cons, fold_cons, ih]
      rfl
    rw [if_neg allowed, filter_cons_of_neg (by simpa using allowed)]
    split
    next last =>
      rw [last, fold_cons, fold_nil, combine_neutral]
      exact (fold_nil _ _).symm
    · exact ih

lemma isSubsystemAllowed_some (subsystems : List Subsys) (subsys : Subsys) :
    isSubsystemAllowed (some subsystems) subsys = decide (subsys ∈ subsystems) :=
  rfl

lemma setDbFilterLoop_started (args : DbFilterArgs) (groupOper : GroupOper)
    (present : crits ≠ []) : sqlTokens (setDbFilterLoop args groupOper crits true).1 =
        joinTokens groupOper.toBool.token ((dbOperands args groupOper crits).map SqlAtom.tokens) ∧
      (setDbFilterLoop args groupOper crits true).2 = true := by
  induction crits with
  | nil => exact absurd rfl present
  | cons crit rest ih =>
    rw [setDbFilterLoop, dbOperands, isSubsystemAllowed_some]
    by_cases allowed : crit.subsys ∈ args.subsystems
    · rw [if_pos (decide_eq_true allowed), if_pos allowed]
      by_cases last : rest = []
      · subst last
        exact ⟨rfl, rfl⟩
      · obtain ⟨tokens, started⟩ := ih last
        refine ⟨?_, started⟩
        rw [joinTokens_cons _ _ _ (dbOperands_ne_nil _ _ last), ← tokens, if_neg last]
        rfl
    · rw [if_neg (by simpa using allowed), if_neg allowed]
      by_cases last : rest = []
      · subst last
        exact ⟨rfl, rfl⟩
      · rw [if_neg last, if_neg fun both => last both.2]
        exact ih last

lemma setDbFilterLoop_fresh (args : DbFilterArgs) (groupOper : GroupOper)
    (crits : List Criterion) : ((∀ crit ∈ crits, crit.subsys ∉ args.subsystems) ∧
        setDbFilterLoop args groupOper crits false = ([], false)) ∨
      ∃ rest, rest ≠ [] ∧ (∀ crit ∈ rest, crit ∈ crits) ∧
        (crits.filter fun crit => crit.subsys ∈ args.subsystems) =
          (rest.filter fun crit => crit.subsys ∈ args.subsystems) ∧
        (∃ crit ∈ crits, crit.subsys ∈ args.subsystems) ∧
        setDbFilterLoop args groupOper crits false =
          (.openGroup :: (setDbFilterLoop args groupOper rest true).1,
            (setDbFilterLoop args groupOper rest true).2) := by
  induction crits with
  | nil => exact .inl ⟨nofun, rfl⟩
  | cons crit rest ih =>
    by_cases allowed : crit.subsys ∈ args.subsystems
    · refine .inr ⟨crit :: rest, nofun, fun _ => id, rfl, ⟨crit, mem_cons_self, allowed⟩, ?_⟩
      rw [setDbFilterLoop, setDbFilterLoop, isSubsystemAllowed_some,
        if_pos (decide_eq_true allowed), if_pos (decide_eq_true allowed)]
      rfl
    have skipped : setDbFilterLoop args groupOper (crit :: rest) false =
        setDbFilterLoop args groupOper rest false := by
      rw [setDbFilterLoop, isSubsystemAllowed_some, if_neg (by simpa using allowed)]
      rfl
    rw [skipped, filter_cons_of_neg (by simpa using allowed)]
    cases ih with
    | inl nothing => exact .inl ⟨forall_mem_cons.mpr ⟨allowed, nothing.1⟩, nothing.2⟩
    | inr started =>
      obtain ⟨suffix, present, subset, kept, ⟨other, mem, written⟩, same⟩ := started
      exact .inr ⟨suffix, present, fun other mem =>
        mem_cons_of_mem _ (subset other mem), kept,
        ⟨other, mem_cons_of_mem _ mem, written⟩, same⟩

lemma mem_dbOperands {sqlAtom : SqlAtom} (mem : sqlAtom ∈ dbOperands args groupOper crits) :
    (∃ value, sqlAtom = .constant value) ∨
      ∃ crit ∈ crits, sqlAtom = .crit (args.aliasOf crit) crit := by
  induction crits with
  | nil => cases mem
  | cons crit rest ih =>
    have later (mem : sqlAtom ∈ dbOperands args groupOper rest) :
        (∃ value, sqlAtom = .constant value) ∨
          ∃ other ∈ crit :: rest, sqlAtom = .crit (args.aliasOf other) other := by
      cases ih mem with
      | inl isConstant => exact .inl isConstant
      | inr isCrit =>
        obtain ⟨other, inRest, same⟩ := isCrit
        exact .inr ⟨other, mem_cons_of_mem _ inRest, same⟩
    rw [dbOperands] at mem
    split at mem
    · cases mem with
      | head => exact .inr ⟨crit, mem_cons_self, rfl⟩
      | tail _ inRest => exact later inRest
    · split at mem
      · exact .inl ⟨_, mem_singleton.mp mem⟩
      · exact later mem

namespace CriteriaGroup

/-- The value of what is written for a group. -/
def writtenValue (group : CriteriaGroup) (subsystems : List Subsys) (fallback : Bool)
    (truth : Criterion → Bool) : Bool :=
  if ∃ crit ∈ group.crits, crit.subsys ∈ subsystems then
    group.oper.toBool.fold (group.written subsystems) truth
  else fallback

lemma setDbFilter_writes (group : CriteriaGroup) (args : DbFilterArgs) (fallback : Bool) :
    ∃ expr, Writes .factor (sqlTokens (group.setDbFilter args fallback)) expr ∧
      (∀ sqlAtom ∈ expr.atoms, (∃ value, sqlAtom = .constant value) ∨
        ∃ crit ∈ group.crits, sqlAtom = .crit (args.aliasOf crit) crit) ∧
      ∀ truth, expr.eval (SqlAtom.eval truth) =
        group.writtenValue args.subsystems fallback truth := by
  cases setDbFilterLoop_fresh args group.oper group.crits with
  | inl nothing =>
    obtain ⟨none, pieces⟩ := nothing
    refine ⟨.atom (.constant fallback), ?_, ?_, ?_⟩
    · rw [setDbFilter, pieces]
      exact (SqlAtom.constant fallback).writes_tokens
    · intro sqlAtom mem
      exact .inl ⟨fallback, mem_singleton.mp mem⟩
    · intro truth
      rw [writtenValue, if_neg fun ⟨crit, mem, allowed⟩ => none crit mem allowed]
      rfl
  | inr started =>
    obtain ⟨rest, present, subset, kept, some, pieces⟩ := started
    obtain ⟨tokens, isStarted⟩ := setDbFilterLoop_started args group.oper present
    obtain ⟨expr, writes, atoms, eval⟩ := group.oper.toBool.writes_join
      (dbOperands_ne_nil args group.oper present) fun sqlAtom _ => sqlAtom.writes_tokens
    refine ⟨expr, ?_, ?_, ?_⟩
    · rw [setDbFilter, pieces, isStarted]
      have inner := group.oper.toBool.writes_expr writes
      rw [← tokens] at inner
      simpa [sqlTokens, SqlPiece.tokens] using Writes.paren inner
    · intro name mem
      obtain ⟨sqlAtom, inOperands, same⟩ := atoms name mem
      rw [mem_singleton.mp same]
      cases mem_dbOperands inOperands with
      | inl isConstant => exact .inl isConstant
      | inr isCrit =>
        obtain ⟨crit, inRest, isAtom⟩ := isCrit
        exact .inr ⟨crit, subset crit inRest, isAtom⟩
    · intro truth
      rw [eval, writtenValue, if_pos some, written, kept]
      exact fold_dbOperands truth

end CriteriaGroup

end Group

/-! ## A set -/

namespace CriteriaSet

variable {set : CriteriaSet} {args : DbFilterArgs}

/-- The written condition is one over the criteria of the set and constants, keeps every
row that matches, and keeps no others if all criteria are written. -/
def FiltersRows (set : CriteriaSet) (args : DbFilterArgs) (expr : BoolExpr SqlAtom) : Prop :=
  (∀ sqlAtom ∈ expr.atoms, (∃ value, sqlAtom = .constant value) ∨
      ∃ crit ∈ set.crits, sqlAtom = .crit (args.aliasOf crit) crit) ∧
    (∀ truth, set.matchCriteria truth none = .pass → expr.eval (SqlAtom.eval truth) = true) ∧
    ((∀ crit ∈ set.crits, crit.subsys ∈ args.subsystems) →
      (∃ crit ∈ set.crits, crit.subsys = args.subsys) →
      ∀ truth, expr.eval (SqlAtom.eval truth) = true ↔ set.matchCriteria truth none = .pass)

/-- The value of what is written for the groups. -/
def writtenValue (set : CriteriaSet) (subsystems : List Subsys) (truth : Criterion → Bool) : Bool :=
  set.l1Oper.toBool.fold set.groups fun group =>
    group.writtenValue subsystems set.l1Oper.toBool.neutral truth

lemma getDbFilterCriteria_eq (present : set.totalCrit ≠ 0)
    (occurs : args.subsys ∈ set.subsysArr) : set.getDbFilterCriteria args =
      .openSet :: (setDbFilterGroups args set.l1Oper set.groups ++ [.closeSet]) := by
  rw [getDbFilterCriteria, if_neg present, if_neg (not_not_intro occurs), groups]
  split
  · rfl
  · rw [setDbFilterGroups, append_assoc, append_assoc, append_assoc]

lemma sqlTokens_append (first second : List SqlPiece) :
    sqlTokens (first ++ second) = sqlTokens first ++ sqlTokens second :=
  flatMap_append

lemma sqlTokens_groups (args : DbFilterArgs) (l1Oper : GroupOper) (groups : List CriteriaGroup) :
    sqlTokens (setDbFilterGroups args l1Oper groups) =
      joinTokens l1Oper.toBool.token (groups.map fun group =>
        sqlTokens (group.setDbFilter args l1Oper.toBool.neutral)) := by
  induction groups with
  | nil => rfl
  | cons group rest ih =>
    rw [setDbFilterGroups, sqlTokens_append, sqlTokens_append, ih]
    by_cases last : rest = []
    · subst last
      exact append_nil _
    · rw [if_neg last, joinTokens_cons _ _ _ last]
      rfl

lemma totalCrit_ne_zero_of_subsys {subsys : Subsys} (occurs : subsys ∈ set.subsysArr) :
    set.totalCrit ≠ 0 := by
  obtain ⟨crit, mem, -⟩ := (set.mem_subsysArr subsys).mp occurs
  exact Nat.ne_of_gt (length_pos_of_mem mem)

lemma getDbFilterCriteria_writes (set : CriteriaSet) (args : DbFilterArgs) :
    ∃ expr, Writes .expr (sqlTokens (set.getDbFilterCriteria args)) expr ∧
      (∀ sqlAtom ∈ expr.atoms, (∃ value, sqlAtom = .constant value) ∨
        ∃ crit ∈ set.crits, sqlAtom = .crit (args.aliasOf crit) crit) ∧
      ∀ truth, expr.eval (SqlAtom.eval truth) =
        (args.subsys ∉ set.subsysArr || set.writtenValue args.subsystems truth) := by
  by_cases occurs : args.subsys ∈ set.subsysArr
  · have present : set.totalCrit ≠ 0 := totalCrit_ne_zero_of_subsys occurs
    choose expr writes atoms eval using fun group : CriteriaGroup =>
      group.setDbFilter_writes args set.l1Oper.toBool.neutral
    have some : set.groups ≠ [] := ne_nil_of_mem (set.groups_exists present).choose_spec
    obtain ⟨joined, writesJoined, atomsJoined, evalJoined⟩ :=
      set.l1Oper.toBool.writes_join some fun group _ => writes group
    refine ⟨joined, ?_, ?_, ?_⟩
    · rw [getDbFilterCriteria_eq present occurs]
      have inner := set.l1Oper.toBool.writes_expr writesJoined
      rw [← sqlTokens_groups] at inner
      simpa [sqlTokens, SqlPiece.tokens] using Writes.term (.factor (Writes.paren inner))
    · intro sqlAtom mem
      obtain ⟨group, inGroups, inGroup⟩ := atomsJoined sqlAtom mem
      cases atoms group sqlAtom inGroup with
      | inl isConstant => exact .inl isConstant
      | inr isCrit =>
        obtain ⟨crit, critMem, same⟩ := isCrit
        exact .inr ⟨crit, set.crits_mem_of_group inGroups crit critMem, same⟩
    · intro truth
      have each : (fun group => (expr group).eval (SqlAtom.eval truth)) = fun group =>
          group.writtenValue args.subsystems set.l1Oper.toBool.neutral truth := by
        funext group
        exact eval group truth
      rw [evalJoined, each, decide_eq_false (not_not_intro occurs), Bool.false_or]
      rfl
  · have constant : set.getDbFilterCriteria args = [.constant true] := by
      rw [getDbFilterCriteria, if_pos occurs, ite_self]
    refine ⟨.atom (.constant true), ?_, ?_, ?_⟩
    · rw [constant]
      exact .term (.factor (SqlAtom.constant true).writes_tokens)
    · intro sqlAtom mem
      exact .inl ⟨true, mem_singleton.mp mem⟩
    · intro truth
      rw [decide_eq_true occurs]
      rfl

end CriteriaSet

namespace CriteriaGroup

variable {group : CriteriaGroup} {subsystems : List Subsys} {fallback : Bool}
  {truth : Criterion → Bool}

lemma value_eq_fold (group : CriteriaGroup) (truth : Criterion → Bool) :
    group.value truth = group.oper.toBool.fold group.crits truth := by
  rw [value]
  cases group.oper <;> rfl

lemma writtenValue_of_all (some : group.crits ≠ [])
    (all : ∀ crit ∈ group.crits, crit.subsys ∈ subsystems) :
    group.writtenValue subsystems fallback truth = group.value truth := by
  obtain ⟨crit, mem⟩ := exists_mem_of_ne_nil _ some
  have written : group.written subsystems = group.crits :=
    List.filter_eq_self.mpr fun crit mem => decide_eq_true (all crit mem)
  rw [writtenValue, if_pos ⟨crit, mem, all crit mem⟩, written, value_eq_fold]

lemma writtenValue_of_and (isAnd : group.oper = .and) (holds : group.value truth = true)
    (constant : fallback = true ∨ group.DecidedBy subsystems) :
    group.writtenValue subsystems fallback truth = true := by
  rw [value, isAnd] at holds
  rw [writtenValue]
  split
  · rw [isAnd]
    refine all_eq_true.mpr ?_
    intro crit mem
    exact all_eq_true.mp holds crit (mem_of_mem_filter mem)
  next none =>
  cases constant with
  | inl isTrue => exact isTrue
  | inr decided =>
    rw [DecidedBy, isAnd] at decided
    exact absurd decided none

lemma writtenValue_of_decided (some : group.crits ≠ []) (decided : group.DecidedBy subsystems)
    (holds : group.value truth = true) : group.writtenValue subsystems fallback truth = true := by
  cases isOper : group.oper with
  | and => exact writtenValue_of_and isOper holds (.inr decided)
  | or =>
    rw [DecidedBy, isOper] at decided
    rw [writtenValue_of_all some decided, holds]

lemma writtenValue_of_others (group : CriteriaGroup) (subsystems : List Subsys) :
    group.writtenValue subsystems false (fun crit => decide (crit.subsys ∉ subsystems)) =
      false := by
  rw [writtenValue]
  split
  next some =>
    obtain ⟨crit, mem, allowed⟩ := some
    cases group.oper with
    | or =>
      refine any_eq_false.mpr ?_
      intro other inWritten
      have otherAllowed := (mem_filter.mp inWritten).2
      simpa using otherAllowed
    | and =>
      refine all_eq_false.mpr ⟨crit, ?_, by simpa using allowed⟩
      exact mem_filter.mpr ⟨mem, decide_eq_true allowed⟩
  · rfl

end CriteriaGroup

namespace CriteriaSet

variable {set : CriteriaSet} {subsystems : List Subsys} {truth : Criterion → Bool}

lemma value_eq_fold (set : CriteriaSet) (truth : Criterion → Bool) :
    set.value truth = set.l1Oper.toBool.fold set.groups fun group => group.value truth := by
  rw [value]
  cases set.l1Oper <;> rfl

lemma matchCriteria_pass_iff (present : set.totalCrit ≠ 0) :
    set.matchCriteria truth none = .pass ↔ set.value truth = true := by
  rw [matchCriteria_none present]
  cases set.value truth <;> simp

lemma writtenValue_of_all (all : ∀ crit ∈ set.crits, crit.subsys ∈ subsystems) :
    set.writtenValue subsystems truth = set.value truth := by
  rw [writtenValue, value_eq_fold]
  refine fold_congr ?_
  intro group mem
  exact CriteriaGroup.writtenValue_of_all (set.groups_ne_nil mem) fun crit inGroup =>
    all crit (set.crits_mem_of_group mem crit inGroup)

lemma writtenValue_of_and (isAnd : set.l1Oper = .and) (present : set.totalCrit ≠ 0)
    (holds : set.value truth = true) : set.writtenValue subsystems truth = true := by
  obtain ⟨single, groupAnd⟩ := set.groups_and isAnd present
  rw [value_eq_fold, isAnd, single, fold_cons, fold_nil, combine_neutral] at holds
  rw [writtenValue, isAnd, single, fold_cons, fold_nil, combine_neutral]
  exact CriteriaGroup.writtenValue_of_and groupAnd holds (.inl rfl)

lemma writtenValue_of_decided (isOr : set.l1Oper = .or)
    (decided : ∀ group ∈ set.groups, group.DecidedBy subsystems) (holds : set.value truth = true) :
    set.writtenValue subsystems truth = true := by
  rw [value, isOr] at holds
  obtain ⟨group, mem, groupHolds⟩ := any_eq_true.mp holds
  rw [writtenValue, isOr]
  exact any_eq_true.mpr ⟨group, mem, CriteriaGroup.writtenValue_of_decided
    (set.groups_ne_nil mem) (decided group mem) groupHolds⟩

lemma writtenValue_of_others (isOr : set.l1Oper = .or) {group : CriteriaGroup}
    (mem : group ∈ set.groups) (undecided : ¬group.DecidedBy subsystems) :
    set.value (fun crit => decide (crit.subsys ∉ subsystems)) = true ∧
      set.writtenValue subsystems (fun crit => decide (crit.subsys ∉ subsystems)) = false := by
  constructor
  · rw [value, isOr]
    exact any_eq_true.mpr ⟨group, mem,
      ((CriteriaGroup.result_of_others subsystems (set.groups_ne_nil mem)).2 undecided).2⟩
  rw [writtenValue, isOr]
  refine any_eq_false.mpr ?_
  intro other _
  rw [GroupOper.toBool, neutral, other.writtenValue_of_others]
  exact Bool.false_ne_true

end CriteriaSet

open CriteriaSet

/-- The condition of a database query is well formed, keeps all rows that match, and is
exact if all criteria are written, if and only if the set has `and` at its top, or no
criterion of the subsystem, or the written subsystems decide all its groups. -/
theorem db_filter_keeps_matches_iff (set : CriteriaSet) (args : DbFilterArgs) :
    (∃ expr, Writes .expr (sqlTokens (set.getDbFilterCriteria args)) expr ∧
        set.FiltersRows args expr) ↔ set.l1Oper = .and ∨ args.subsys ∉ set.subsysArr ∨
        ∀ group ∈ set.groups, group.DecidedBy args.subsystems := by
  obtain ⟨expr, writes, atoms, eval⟩ := set.getDbFilterCriteria_writes args
  constructor
  · rintro ⟨other, otherWrites, -, keeps, -⟩
    cases writes.unique otherWrites
    by_contra mixed
    push Not at mixed
    obtain ⟨notAnd, occurs, group, mem, undecided⟩ := mixed
    have isOr : set.l1Oper = .or := by
      cases oper : set.l1Oper with
      | or => rfl
      | and => exact absurd oper notAnd
    obtain ⟨holds, dropped⟩ := writtenValue_of_others isOr mem undecided
    have kept := keeps _ ((matchCriteria_pass_iff (totalCrit_ne_zero mem)).mpr holds)
    rw [eval, dropped, decide_eq_false (not_not_intro occurs)] at kept
    cases kept
  intro condition
  refine ⟨expr, writes, atoms, ?_, ?_⟩
  · intro truth passes
    rw [eval, Bool.or_eq_true, decide_eq_true_iff]
    by_cases occurs : args.subsys ∈ set.subsysArr
    · right
      have present := totalCrit_ne_zero_of_subsys occurs
      rw [matchCriteria_pass_iff present] at passes
      cases oper : set.l1Oper with
      | and => exact writtenValue_of_and oper present passes
      | or =>
        rcases condition with isAnd | absent | decided
        · rw [oper] at isAnd
          cases isAnd
        · exact absurd occurs absent
        · exact writtenValue_of_decided oper decided passes
    · exact .inl occurs
  · rintro all ⟨crit, mem, isSubsys⟩ truth
    have occurs : args.subsys ∈ set.subsysArr :=
      (set.mem_subsysArr _).mpr ⟨crit, mem, isSubsys⟩
    rw [eval, writtenValue_of_all all, decide_eq_false (not_not_intro occurs), Bool.false_or,
      matchCriteria_pass_iff (totalCrit_ne_zero_of_subsys occurs)]

/-- The query for services with the filter `{ h1 } or ({ h2 } and { s })` drops a service
that does not match `s`, on a host that matches `h1`. -/
theorem host_match_lost_in_service_query :
    let args : DbFilterArgs := ⟨.svcstate, "", false, "thost."⟩
    hostOrService.validateMultihost = true ∧
      (hostOrService.getDbFilterCriteria args).map (SqlPiece.text fun _ _ => "(s = 1)") =
        [" ( ", "(false)", " or ", "(", "(s = 1)", ")", " ) "] ∧
      hostOrService.matchCriteria (fun crit => crit.text = [104, 49]) none = .pass ∧
      ∃ expr, Writes .expr (sqlTokens (hostOrService.getDbFilterCriteria args)) expr ∧
        expr.eval (SqlAtom.eval fun crit => crit.text = [104, 49]) = false := by
  refine ⟨by decide +kernel, by decide +kernel, by decide +kernel,
    .or (.atom (.constant false)) (.atom (.crit "" ⟨[115], .svcstate⟩)), ?_, by decide +kernel⟩
  rw [← parseTokens_iff]
  decide +kernel

end Gyeeta.Filter
