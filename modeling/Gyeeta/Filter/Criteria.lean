import Gyeeta.Lib.BoolExpr
import Mathlib.Data.List.Basic
import Mathlib.Tactic.Ring

/-!
# Criteria sets

A filter is kept in disjunctive normal form: a first level group with the terms of one criterion
and second level groups with the others.  Evaluation caches the value of a criterion under its
hash, and can be restricted to some subsystems; a group whose criteria are left out is then
skipped.
-/

namespace Gyeeta.Filter

open List

/-- `SUBSYS_CLASS_E`. -/
inductive Subsys where
  | host | hoststate | cpumem | svcstate | svcinfo | extsvcstate | svcsumm | activeconn
  | extactiveconn | clientconn | extclientconn | svcprocmap | notifymsg | procstate
  | procinfo | extprocstate | topcpu | toppgcpu | toprss | topfork | hostinfo
  | clusterstate | svcmeshclust | svcipclust | alerts | alertdef | inhibits | silences
  | actions | madhavalist | tags | shyamastatus | madhavastatus | parthalist
  | cgroupstate | tracereq | exttracereq | traceconn | traceuniq | tracedef | tracestatus
  | tracehistory
  deriving DecidableEq, Repr

/-- `CRIT_RET_E`. -/
inductive CritRet where
  | pass
  | fail
  | skip
  deriving DecidableEq, Repr

/-- `GROUP_OPER_E`. -/
inductive GroupOper where
  | or
  | and
  deriving DecidableEq, Repr

/-- The operator as one of expressions. -/
def GroupOper.toBool : GroupOper → BoolOp
  | or => .or
  | and => .and

/-- `fnv1_hash`: 32 bits, with the bytes as signed characters. -/
def fnv1Hash (text : List UInt8) : UInt32 :=
  text.foldl (fun hash byte => (hash ^^^ byte.toInt8.toInt32.toUInt32) * 0x01000193) 0x811C9DC5

/-- `CRITERION_ONE`: its text and the subsystem of its field. -/
structure Criterion where
  text : List UInt8
  subsys : Subsys
  deriving DecidableEq, Repr

/-- `CRITERION_ONE::get_hash`. -/
def Criterion.hash (crit : Criterion) : UInt32 :=
  fnv1Hash crit.text

/-- `CRITERIA_ONE_GROUP`. -/
structure CriteriaGroup where
  oper : GroupOper
  crits : List Criterion
  deriving DecidableEq, Repr

/-- The fields of `CRITERIA_SET`. -/
structure GroupSet where
  l1Grp : CriteriaGroup
  l2Grps : List CriteriaGroup
  /-- The first `nsubsys_` elements of `psubsys_arr_`. -/
  subsysArr : List Subsys
  l1Oper : GroupOper
  deriving DecidableEq, Repr

namespace GroupSet

def crits (set : GroupSet) : List Criterion :=
  set.l1Grp.crits ++ set.l2Grps.flatMap CriteriaGroup.crits

def totalCrit (set : GroupSet) : Nat :=
  set.crits.length

end GroupSet

/-- `CRITERIA_SET`, as `populate_groups` builds it: an `and` set is a single group, the
groups of the second level are `and` groups, and a hash stands for one criterion. -/
structure CriteriaSet extends GroupSet where
  l1Grp_oper : l1Grp.crits ≠ [] → l1Grp.oper = l1Oper
  l2Grps_and : ∀ group ∈ l2Grps, group.oper = .and ∧ group.crits ≠ []
  and_single : l1Oper = .and → l2Grps = []
  mem_subsysArr : ∀ subsys, subsys ∈ subsysArr ↔ ∃ crit ∈ toGroupSet.crits, crit.subsys = subsys
  hash_inj : ∀ first ∈ toGroupSet.crits, ∀ second ∈ toGroupSet.crits,
    first.hash = second.hash → first = second

namespace CriteriaSet

/-- The groups that are evaluated, in their order. -/
def groups (set : CriteriaSet) : List CriteriaGroup :=
  if set.l1Grp.crits = [] then set.l2Grps else set.l1Grp :: set.l2Grps

end CriteriaSet

def isSubsystemAllowed (allowed : Option (List Subsys)) (subsys : Subsys) : Bool :=
  match allowed with
  | none => true
  | some subsystems => subsys ∈ subsystems

/-! ## Evaluation -/

/-- The cache of the values of criteria, by hash. -/
abbrev Cache := List (UInt32 × Bool)

def maxCmapEntries : Nat := 64

/-- The value of a criterion, from the cache if it is there. -/
def lookupMatch (truth : Criterion → Bool) (crit : Criterion) (cache : Cache) : Bool × Cache :=
  if crit.hash ≠ 0 ∧ cache.length < maxCmapEntries then
    match cache.lookup crit.hash with
    | some value => (value, cache)
    | none => (truth crit, (crit.hash, truth crit) :: cache)
  else if crit.hash ≠ 0 then
    match cache.lookup crit.hash with
    | some value => (value, cache)
    | none => (truth crit, cache)
  else (truth crit, cache)

/-- The loop of `match_criteria_group`. -/
def matchLoop (truth : Criterion → Bool) (allowed : Option (List Subsys)) (oper : GroupOper) :
    List Criterion → Cache → (neval nskip : Nat) → (iseval : Bool) → CritRet × Cache
  | [], cache, neval, nskip, iseval =>
    if iseval ∧ oper = .and then (.pass, cache)
    else if neval = 0 ∨ nskip ≠ 0 then (.skip, cache)
    else (.fail, cache)
  | crit :: rest, cache, neval, nskip, iseval =>
    if isSubsystemAllowed allowed crit.subsys then
      let (value, cache) := lookupMatch truth crit cache
      if value then
        if oper = .or then (.pass, cache)
        else matchLoop truth allowed oper rest cache (neval + 1) nskip true
      else if oper = .and then (.fail, cache)
      else matchLoop truth allowed oper rest cache (neval + 1) nskip iseval
    else matchLoop truth allowed oper rest cache neval (nskip + 1) iseval

def CriteriaGroup.matchCriteriaGroup (group : CriteriaGroup) (truth : Criterion → Bool)
    (allowed : Option (List Subsys)) (cache : Cache) : CritRet × Cache :=
  matchLoop truth allowed group.oper group.crits cache 0 0 false

/-- The loops of `match_criteria` over the groups. -/
def matchGroups (truth : Criterion → Bool) (allowed : Option (List Subsys)) (l1Oper : GroupOper) :
    List CriteriaGroup → Cache → (npass nfail nskip : Nat) → CritRet
  | [], _, npass, nfail, nskip =>
    if npass ≠ 0 ∧ nskip = 0 then .pass
    else if nskip ≠ 0 ∧ nfail = 0 then .skip
    else .fail
  | group :: rest, cache, npass, nfail, nskip =>
    let (cret, cache) := group.matchCriteriaGroup truth allowed cache
    match cret with
    | .pass =>
      if l1Oper = .or then .pass
      else matchGroups truth allowed l1Oper rest cache (npass + 1) nfail nskip
    | .skip => matchGroups truth allowed l1Oper rest cache npass nfail (nskip + 1)
    | .fail =>
      if l1Oper = .and then .fail
      else matchGroups truth allowed l1Oper rest cache npass (nfail + 1) nskip

def CriteriaSet.matchCriteria (set : CriteriaSet) (truth : Criterion → Bool)
    (allowed : Option (List Subsys)) : CritRet :=
  if set.totalCrit = 0 then .skip
  else if ∃ subsystems ∈ allowed, ∀ subsys ∈ subsystems, subsys ∉ set.subsysArr then .skip
  else matchGroups truth allowed set.l1Oper set.groups [] 0 0 0

/-! ## The cache -/

section Cache

variable (truth : Criterion → Bool) (crits : List Criterion)

/-- The cache has the right value for each of the criteria. -/
def Cache.Agrees (cache : Cache) : Prop :=
  ∀ crit ∈ crits, ∀ value, cache.lookup crit.hash = some value → value = truth crit

/-- A hash stands for one of the criteria. -/
def HashesApart : Prop :=
  ∀ first ∈ crits, ∀ second ∈ crits, first.hash = second.hash → first = second

variable {truth : Criterion → Bool} {crits : List Criterion} {crit : Criterion} {cache : Cache}

lemma Cache.Agrees.insert (agrees : Cache.Agrees truth crits cache)
    (apart : HashesApart crits) (mem : crit ∈ crits) :
    Cache.Agrees truth crits ((crit.hash, truth crit) :: cache) := by
  intro other otherMem value found
  rw [lookup_cons] at found
  by_cases same : other.hash = crit.hash
  · rw [beq_iff_eq.mpr same] at found
    rw [apart other otherMem crit mem same]
    exact (Option.some.inj found).symm
  · rw [beq_eq_false_iff_ne.mpr same] at found
    exact agrees other otherMem value found

lemma lookupMatch_spec (agrees : Cache.Agrees truth crits cache) (apart : HashesApart crits)
    (mem : crit ∈ crits) : (lookupMatch truth crit cache).1 = truth crit ∧
      Cache.Agrees truth crits (lookupMatch truth crit cache).2 := by
  rw [lookupMatch]
  split
  · split
    next value found =>
      exact ⟨agrees crit mem value found, agrees⟩
    · exact ⟨rfl, agrees.insert apart mem⟩
  split
  · split
    next value found =>
      exact ⟨agrees crit mem value found, agrees⟩
    · exact ⟨rfl, agrees⟩
  · exact ⟨rfl, agrees⟩

end Cache

/-! ## What evaluation returns -/

/-- The value of a group as a formula. -/
def CriteriaGroup.value (group : CriteriaGroup) (truth : Criterion → Bool) : Bool :=
  match group.oper with
  | .or => group.crits.any truth
  | .and => group.crits.all truth

variable {group : CriteriaGroup}

section Results

variable (truth : Criterion → Bool) (allowed : Option (List Subsys))

/-- The result of a group: an `or` group only fails if all its criteria are evaluated, an
`and` group passes if some of them are and none of these fails. -/
def CriteriaGroup.result (group : CriteriaGroup) : CritRet :=
  match group.oper with
  | .or =>
    if ∃ crit ∈ group.crits, isSubsystemAllowed allowed crit.subsys ∧ truth crit then .pass
    else if group.crits ≠ [] ∧ ∀ crit ∈ group.crits, isSubsystemAllowed allowed crit.subsys
    then .fail
    else .skip
  | .and =>
    if ∃ crit ∈ group.crits, isSubsystemAllowed allowed crit.subsys ∧ ¬truth crit then .fail
    else if ∃ crit ∈ group.crits, isSubsystemAllowed allowed crit.subsys then .pass
    else .skip

variable {truth : Criterion → Bool} {all crits : List Criterion} {cache : Cache}

variable {rest : List Criterion} {oper : GroupOper} {crit : Criterion} {iseval : Bool}
  {neval nskip : Nat}

lemma matchLoop_allowed {allowed : Option (List Subsys)}
    (isAllowed : isSubsystemAllowed allowed crit.subsys = true) :
    matchLoop truth allowed oper (crit :: rest) cache neval nskip iseval =
      if (lookupMatch truth crit cache).1 then
        if oper = .or then (.pass, (lookupMatch truth crit cache).2)
        else matchLoop truth allowed oper rest (lookupMatch truth crit cache).2 (neval + 1) nskip
          true else if oper = .and then (.fail, (lookupMatch truth crit cache).2)
      else matchLoop truth allowed oper rest (lookupMatch truth crit cache).2 (neval + 1) nskip
        iseval := by
  rw [matchLoop, if_pos isAllowed]

lemma matchLoop_skipped {allowed : Option (List Subsys)}
    (skipped : isSubsystemAllowed allowed crit.subsys = false) :
    matchLoop truth allowed oper (crit :: rest) cache neval nskip iseval =
      matchLoop truth allowed oper rest cache neval (nskip + 1) iseval := by
  rw [matchLoop, if_neg (by rw [skipped]; nofun)]

lemma matchLoop_or (allowed : Option (List Subsys)) (agrees : Cache.Agrees truth all cache)
    (apart : HashesApart all) (members : ∀ crit ∈ crits, crit ∈ all) (neval nskip : Nat) :
    (matchLoop truth allowed .or crits cache neval nskip false).1 =
        (if ∃ crit ∈ crits, isSubsystemAllowed allowed crit.subsys ∧ truth crit then .pass
        else if (neval ≠ 0 ∨ crits ≠ []) ∧ nskip = 0 ∧
          ∀ crit ∈ crits, isSubsystemAllowed allowed crit.subsys then .fail else .skip) ∧
      Cache.Agrees truth all (matchLoop truth allowed .or crits cache neval nskip false).2 := by
  induction crits generalizing cache neval nskip with
  | nil =>
    refine ⟨?_, ?_⟩
    · by_cases nothing : neval = 0 <;> by_cases none : nskip = 0 <;>
        simp [matchLoop, nothing, none]
    · rw [matchLoop]
      split
      · exact agrees
      · split <;> exact agrees
  | cons crit rest ih =>
    rw [forall_mem_cons] at members
    cases isAllowed : isSubsystemAllowed allowed crit.subsys with
    | false =>
      rw [matchLoop_skipped isAllowed]
      have others := ih agrees members.2 neval (nskip + 1)
      simp [isAllowed, others]
    | true =>
      obtain ⟨value, agrees⟩ := lookupMatch_spec agrees apart members.1
      rw [matchLoop_allowed isAllowed, value]
      cases holds : truth crit with
      | true => simp [isAllowed, holds, agrees]
      | false =>
        have others := ih agrees members.2 (neval + 1) nskip
        simp [isAllowed, holds, others]

lemma matchLoop_and (allowed : Option (List Subsys)) (agrees : Cache.Agrees truth all cache)
    (apart : HashesApart all)
    (members : ∀ crit ∈ crits, crit ∈ all) (neval nskip : Nat) (iseval : Bool)
    (fresh : iseval = false → neval = 0) :
    (matchLoop truth allowed .and crits cache neval nskip iseval).1 =
        (if ∃ crit ∈ crits, isSubsystemAllowed allowed crit.subsys ∧ ¬truth crit then .fail
        else if iseval ∨ ∃ crit ∈ crits, isSubsystemAllowed allowed crit.subsys then .pass
        else .skip) ∧ Cache.Agrees truth all
        (matchLoop truth allowed .and crits cache neval nskip iseval).2 := by
  induction crits generalizing cache neval nskip iseval with
  | nil =>
    cases iseval with
    | true => simp [matchLoop, agrees]
    | false => simp [matchLoop, fresh rfl, agrees]
  | cons crit rest ih =>
    rw [forall_mem_cons] at members
    cases isAllowed : isSubsystemAllowed allowed crit.subsys with
    | false =>
      rw [matchLoop_skipped isAllowed]
      have others := ih agrees members.2 neval (nskip + 1) iseval fresh
      simp [isAllowed, others]
    | true =>
      obtain ⟨value, agrees⟩ := lookupMatch_spec agrees apart members.1
      rw [matchLoop_allowed isAllowed, value]
      cases holds : truth crit with
      | false => simp [isAllowed, holds, agrees]
      | true =>
        have others := ih agrees members.2 (neval + 1) nskip true nofun
        simp [isAllowed, holds, others]

/-- The match of a group is its meaning, and the cache stays right. -/
lemma matchCriteriaGroup_spec (allowed : Option (List Subsys))
    (agrees : Cache.Agrees truth all cache) (apart : HashesApart all)
    (members : ∀ crit ∈ group.crits, crit ∈ all) :
    (group.matchCriteriaGroup truth allowed cache).1 = group.result truth allowed ∧
      Cache.Agrees truth all (group.matchCriteriaGroup truth allowed cache).2 := by
  rw [CriteriaGroup.matchCriteriaGroup, CriteriaGroup.result]
  cases group.oper with
  | or =>
    have loop := matchLoop_or allowed agrees apart members 0 0
    refine ⟨loop.1.trans ?_, loop.2⟩
    simp
  | and =>
    have loop := matchLoop_and allowed agrees apart members 0 0 false fun _ => rfl
    refine ⟨loop.1.trans ?_, loop.2⟩
    simp

lemma matchGroups_or (allowed : Option (List Subsys)) {groups : List CriteriaGroup}
    (agrees : Cache.Agrees truth all cache)
    (apart : HashesApart all) (members : ∀ group ∈ groups, ∀ crit ∈ group.crits, crit ∈ all)
    (nfail nskip : Nat) : matchGroups truth allowed .or groups cache 0 nfail nskip =
      if ∃ group ∈ groups, group.result truth allowed = .pass then .pass
      else if (nskip ≠ 0 ∨ ∃ group ∈ groups, group.result truth allowed = .skip) ∧ nfail = 0 ∧
        ∀ group ∈ groups, group.result truth allowed ≠ .fail then .skip else .fail := by
  induction groups generalizing cache nfail nskip with
  | nil => simp [matchGroups]
  | cons group rest ih =>
    rw [forall_mem_cons] at members
    obtain ⟨result, agrees⟩ := matchCriteriaGroup_spec allowed agrees apart members.1
    have others := fun nfail nskip => ih agrees members.2 nfail nskip
    rw [matchGroups]
    dsimp only
    rw [result]
    cases outcome : group.result truth allowed with
    | pass => simp [outcome]
    | skip => simp [outcome, others]
    | fail => simp [outcome, others]

lemma matchGroups_single (allowed : Option (List Subsys)) (apart : HashesApart group.crits) :
    matchGroups truth allowed .and [group] [] 0 0 0 = group.result truth allowed := by
  have agrees : Cache.Agrees truth group.crits [] := fun _ _ _ found => nomatch found
  obtain ⟨result, -⟩ := matchCriteriaGroup_spec allowed agrees apart fun _ mem => mem
  rw [matchGroups]
  dsimp only
  rw [result]
  cases group.result truth allowed <;> simp [matchGroups]

end Results

namespace CriteriaSet

variable (set : CriteriaSet)

lemma hashesApart : HashesApart set.crits :=
  set.hash_inj

lemma crits_mem_of_group (mem : group ∈ set.groups) :
    ∀ crit ∈ group.crits, crit ∈ set.crits := by
  intro crit inGroup
  rw [GroupSet.crits, mem_append, mem_flatMap]
  rw [groups] at mem
  split at mem
  · exact Or.inr ⟨group, mem, inGroup⟩
  · rcases mem_cons.mp mem with rfl | inL2
    · exact Or.inl inGroup
    · exact Or.inr ⟨group, inL2, inGroup⟩

lemma groups_ne_nil (mem : group ∈ set.groups) : group.crits ≠ [] := by
  rw [groups] at mem
  split at mem
  · exact (set.l2Grps_and group mem).2
  next l1 =>
  rcases mem_cons.mp mem with rfl | inL2
  · exact l1
  · exact (set.l2Grps_and group inL2).2

lemma groups_and (isAnd : set.l1Oper = .and) (some : set.totalCrit ≠ 0) :
    set.groups = [set.l1Grp] ∧ set.l1Grp.oper = .and := by
  have noL2 := set.and_single isAnd
  have l1 : set.l1Grp.crits ≠ [] := by
    intro empty
    refine some ?_
    rw [GroupSet.totalCrit, GroupSet.crits, noL2, empty]
    rfl
  rw [groups, if_neg l1, noL2, set.l1Grp_oper l1, isAnd]
  exact ⟨rfl, rfl⟩

lemma groups_exists (some : set.totalCrit ≠ 0) : ∃ group, group ∈ set.groups := by
  rw [groups]
  split
  next empty =>
    cases noL2 : set.l2Grps with
    | nil =>
      refine absurd ?_ some
      rw [GroupSet.totalCrit, GroupSet.crits, noL2, empty]
      rfl
    | cons group rest => exact ⟨group, mem_cons_self⟩
  · exact ⟨set.l1Grp, mem_cons_self⟩

/-- Evaluation starts if an allowed subsystem occurs in the set. -/
def Starts (allowed : Option (List Subsys)) : Prop :=
  ∀ subsystems ∈ allowed, ∃ subsys ∈ subsystems, subsys ∈ set.subsysArr

variable {set : CriteriaSet} {truth : Criterion → Bool} {allowed : Option (List Subsys)}

lemma matchCriteria_eq (some : set.totalCrit ≠ 0) (starts : set.Starts allowed) :
    set.matchCriteria truth allowed = matchGroups truth allowed set.l1Oper set.groups [] 0 0 0 := by
  rw [matchCriteria, if_neg some, if_neg]
  rintro ⟨subsystems, given, none⟩
  obtain ⟨subsys, mem, occurs⟩ := starts subsystems given
  exact none subsys mem occurs

lemma matchCriteria_and (isAnd : set.l1Oper = .and) (some : set.totalCrit ≠ 0)
    (starts : set.Starts allowed) :
    set.matchCriteria truth allowed = set.l1Grp.result truth allowed := by
  have single := (set.groups_and isAnd some).1
  have apart : HashesApart set.l1Grp.crits := fun first inFirst second inSecond =>
    set.hashesApart first (mem_append_left _ inFirst) second
      (mem_append_left _ inSecond)
  rw [matchCriteria_eq some starts, isAnd, single]
  exact matchGroups_single allowed apart

lemma matchCriteria_or (isOr : set.l1Oper = .or) (some : set.totalCrit ≠ 0)
    (starts : set.Starts allowed) : set.matchCriteria truth allowed =
      if ∃ group ∈ set.groups, group.result truth allowed = .pass then .pass
      else if (∃ group ∈ set.groups, group.result truth allowed = .skip) ∧
        ∀ group ∈ set.groups, group.result truth allowed ≠ .fail then .skip else .fail := by
  have agrees : Cache.Agrees truth set.crits [] := fun _ _ _ found => nomatch found
  have members : ∀ group ∈ set.groups, ∀ crit ∈ group.crits, crit ∈ set.crits :=
    fun _ mem => set.crits_mem_of_group mem
  rw [matchCriteria_eq some starts, isOr, matchGroups_or allowed agrees set.hashesApart members]
  simp

/-! ## Evaluation without restriction -/

/-- The value of the criteria set as a formula. -/
def value (set : CriteriaSet) (truth : Criterion → Bool) : Bool :=
  match set.l1Oper with
  | .or => set.groups.any fun group => group.value truth
  | .and => set.groups.all fun group => group.value truth

lemma starts_none : set.Starts none := nofun

lemma result_none (some : group.crits ≠ []) :
    group.result truth none = if group.value truth then .pass else .fail := by
  have present : ∃ crit, crit ∈ group.crits := exists_mem_of_ne_nil _ some
  rw [CriteriaGroup.result, CriteriaGroup.value]
  cases group.oper with
  | or => simp [isSubsystemAllowed, some]
  | and =>
    by_cases holds : ∀ crit ∈ group.crits, truth crit = true
    · have none : ¬∃ crit ∈ group.crits, truth crit = false := by
        rintro ⟨crit, mem, fails⟩
        rw [holds crit mem] at fails
        cases fails
      have all : group.crits.all truth = true := all_eq_true.mpr holds
      simp [isSubsystemAllowed, present, none, all]
    · have one : ∃ crit ∈ group.crits, truth crit = false := by simpa using holds
      simp [isSubsystemAllowed, one, holds]

lemma matchCriteria_none (some : set.totalCrit ≠ 0) :
    set.matchCriteria truth none = if set.value truth then .pass else .fail := by
  have results : ∀ group ∈ set.groups,
      group.result truth none = if group.value truth then .pass else .fail :=
    fun group mem => result_none (set.groups_ne_nil mem)
  cases oper : set.l1Oper with
  | and =>
    obtain ⟨single, -⟩ := set.groups_and oper some
    rw [matchCriteria_and oper some starts_none,
      results _ (by rw [single]; exact mem_singleton_self _), value, oper, single]
    simp
  | or =>
    have noSkip : ¬∃ group ∈ set.groups, group.result truth none = .skip := by
      rintro ⟨group, mem, skips⟩
      rw [results group mem] at skips
      split at skips <;> cases skips
    have passes : (∃ group ∈ set.groups, group.result truth none = .pass) ↔
        set.value truth = true := by
      rw [value, oper, any_eq_true]
      refine exists_congr fun group => and_congr_right fun mem => ?_
      rw [results group mem]
      split <;> simp_all
    rw [matchCriteria_or oper some starts_none]
    simp only [noSkip, false_and, if_false, passes]

end CriteriaSet

end Gyeeta.Filter
