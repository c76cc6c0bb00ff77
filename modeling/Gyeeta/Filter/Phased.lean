import Gyeeta.Filter.Criteria

/-!
# Evaluation in phases

A criteria set can be evaluated for the criteria of some subsystems first.  A set that
fails there should fail altogether.  This holds for sets with `and`; for sets with `or` it
depends on whether the allowed subsystems decide all groups or none.
-/

namespace Gyeeta.Filter

open List

/-- The loop of `has_subsystem` of a group and of a set, over the subsystems in their order;
`matchAll` asks that all of them are the given one. -/
def hasSubsystemLoop (subsys : Subsys) (matchAll : Bool) :
    List Subsys → (isFirst bret : Bool) → Bool
  | [], _, bret => bret
  | other :: rest, isFirst, bret =>
    if other = subsys then
      if !matchAll then true
      else if !bret && !isFirst then false
      else hasSubsystemLoop subsys matchAll rest false true
    else if bret && matchAll then false
    else hasSubsystemLoop subsys matchAll rest false bret

def CriteriaGroup.hasSubsystem (group : CriteriaGroup) (subsys : Subsys) (matchAll : Bool) : Bool :=
  hasSubsystemLoop subsys matchAll (group.crits.map Criterion.subsys) true false

def GroupSet.hasSubsystem (set : GroupSet) (subsys : Subsys) (matchAll : Bool) : Bool :=
  hasSubsystemLoop subsys matchAll set.subsysArr true false

/-- `validate_multihost_criteria`: with `or` between the groups, either no group or all
groups have host criteria, and a first level group has no others. -/
def GroupSet.validateMultihost (set : GroupSet) : Bool :=
  if set.totalCrit = 0 ∨ !set.hasSubsystem .host false then true
  else
    (set.l1Grp.crits = [] || set.l1Grp.hasSubsystem .host (set.l1Oper = .or) || set.l1Oper ≠ .or) &&
      set.l2Grps.all fun group => group.hasSubsystem .host false || set.l1Oper ≠ .or

namespace CriteriaGroup

variable {group : CriteriaGroup} {truth : Criterion → Bool} {subsystems : List Subsys}

/-- The criteria of the subsystems can make the group fail. -/
def DecidedBy (group : CriteriaGroup) (subsystems : List Subsys) : Prop :=
  match group.oper with
  | .or => ∀ crit ∈ group.crits, crit.subsys ∈ subsystems
  | .and => ∃ crit ∈ group.crits, crit.subsys ∈ subsystems

lemma result_of_decided (decided : group.DecidedBy subsystems)
    (holds : group.value truth = true) : group.result truth (.some subsystems) = .pass := by
  rw [DecidedBy] at decided
  rw [value] at holds
  rw [result]
  cases oper : group.oper with
  | or =>
    rw [oper] at decided holds
    obtain ⟨crit, mem, isTrue⟩ := any_eq_true.mp holds
    dsimp only
    rw [if_pos ⟨crit, mem, decide_eq_true (decided crit mem), isTrue⟩]
  | and =>
    rw [oper] at decided holds
    have all := all_eq_true.mp holds
    dsimp only
    rw [if_neg, if_pos]
    · obtain ⟨crit, mem, allowed⟩ := decided
      exact ⟨crit, mem, decide_eq_true allowed⟩
    · rintro ⟨crit, mem, -, fails⟩
      exact fails (all crit mem)

lemma result_of_not_decided (undecided : ¬group.DecidedBy subsystems) :
    group.result truth (.some subsystems) ≠ .fail := by
  rw [DecidedBy] at undecided
  rw [result]
  cases oper : group.oper with
  | or =>
    rw [oper] at undecided
    dsimp only
    split
    · decide
    · rw [if_neg]
      · decide
      · rintro ⟨-, all⟩
        exact undecided fun crit mem => of_decide_eq_true (all crit mem)
  | and =>
    rw [oper] at undecided
    dsimp only
    rw [if_neg]
    · split <;> decide
    · rintro ⟨crit, mem, allowed, -⟩
      exact undecided ⟨crit, mem, of_decide_eq_true allowed⟩

lemma result_of_others (subsystems : List Subsys) (some : group.crits ≠ []) :
    (group.DecidedBy subsystems →
        group.result (fun crit => decide (crit.subsys ∉ subsystems)) (.some subsystems) = .fail) ∧
      (¬group.DecidedBy subsystems →
        group.result (fun crit => decide (crit.subsys ∉ subsystems)) (.some subsystems) = .skip ∧
          group.value (fun crit => decide (crit.subsys ∉ subsystems)) = true) := by
  rw [DecidedBy, result, value]
  cases group.oper with
  | or => simp [isSubsystemAllowed, some]
  | and =>
    refine ⟨?_, fun undecided => ?_⟩
    · rintro ⟨crit, mem, allowed⟩
      dsimp only
      rw [if_pos ⟨crit, mem, decide_eq_true allowed, by simpa using allowed⟩]
    have none : ¬∃ crit ∈ group.crits,
        isSubsystemAllowed (.some subsystems) crit.subsys = true := by
      rintro ⟨crit, mem, allowed⟩
      exact undecided ⟨crit, mem, of_decide_eq_true allowed⟩
    dsimp only
    rw [if_neg (by rintro ⟨crit, mem, allowed, -⟩; exact none ⟨crit, mem, allowed⟩), if_neg none,
      all_eq_true]
    exact ⟨rfl, fun crit mem => decide_eq_true fun allowed =>
      undecided ⟨crit, mem, allowed⟩⟩

end CriteriaGroup

namespace CriteriaSet

variable {set : CriteriaSet} {truth : Criterion → Bool} {subsystems : List Subsys}

lemma starts_of_decided {group : CriteriaGroup} (mem : group ∈ set.groups)
    (decided : group.DecidedBy subsystems) : set.Starts (some subsystems) := by
  obtain ⟨crit, inGroup, allowed⟩ : ∃ crit ∈ group.crits, crit.subsys ∈ subsystems := by
    rw [CriteriaGroup.DecidedBy] at decided
    cases oper : group.oper with
    | or =>
      rw [oper] at decided
      obtain ⟨crit, inGroup⟩ := exists_mem_of_ne_nil _ (set.groups_ne_nil mem)
      exact ⟨crit, inGroup, decided crit inGroup⟩
    | and =>
      rw [oper] at decided
      exact decided
  rintro _ ⟨⟩
  exact ⟨crit.subsys, allowed,
    (set.mem_subsysArr _).mpr ⟨crit, set.crits_mem_of_group mem crit inGroup, rfl⟩⟩

lemma totalCrit_ne_zero {group : CriteriaGroup} (mem : group ∈ set.groups) :
    set.totalCrit ≠ 0 := by
  obtain ⟨crit, inGroup⟩ := exists_mem_of_ne_nil _ (set.groups_ne_nil mem)
  rw [GroupSet.totalCrit]
  exact Nat.ne_of_gt (length_pos_of_mem (set.crits_mem_of_group mem crit inGroup))

lemma starts_of_fail (fails : set.matchCriteria truth (some subsystems) = .fail) :
    set.totalCrit ≠ 0 ∧ set.Starts (some subsystems) := by
  rw [matchCriteria] at fails
  split at fails
  · cases fails
  next present =>
  split at fails
  · cases fails
  next occurs =>
    push Not at occurs
    exact ⟨present, occurs⟩

lemma sound_of_and (isAnd : set.l1Oper = .and)
    (fails : set.matchCriteria truth (some subsystems) = .fail) :
    set.matchCriteria truth none ≠ .pass := by
  obtain ⟨present, starts⟩ := starts_of_fail fails
  obtain ⟨single, groupAnd⟩ := set.groups_and isAnd present
  have l1 : set.l1Grp.crits ≠ [] := set.groups_ne_nil (by
    rw [single]
    exact mem_singleton_self _)
  rw [matchCriteria_and isAnd present starts] at fails
  rw [matchCriteria_and isAnd present starts_none, result_none l1]
  have notHolds : set.l1Grp.value truth ≠ true := by
    intro holds
    by_cases decided : set.l1Grp.DecidedBy subsystems
    · rw [CriteriaGroup.result_of_decided decided holds] at fails
      cases fails
    · exact CriteriaGroup.result_of_not_decided decided fails
  rw [if_neg notHolds]
  nofun

lemma sound_of_all_decided (isOr : set.l1Oper = .or)
    (decided : ∀ group ∈ set.groups, group.DecidedBy subsystems)
    (fails : set.matchCriteria truth (some subsystems) = .fail) :
    set.matchCriteria truth none ≠ .pass := by
  obtain ⟨present, starts⟩ := starts_of_fail fails
  intro passes
  rw [matchCriteria_none present] at passes
  have holds : set.value truth = true := by
    by_contra none
    rw [if_neg none] at passes
    cases passes
  rw [value, isOr] at holds
  obtain ⟨group, mem, groupHolds⟩ := any_eq_true.mp holds
  rw [matchCriteria_or isOr present starts, if_pos ⟨group, mem,
    CriteriaGroup.result_of_decided (decided group mem) groupHolds⟩] at fails
  cases fails

lemma sound_of_none_decided (isOr : set.l1Oper = .or)
    (undecided : ∀ group ∈ set.groups, ¬group.DecidedBy subsystems) :
    set.matchCriteria truth (some subsystems) ≠ .fail := by
  intro fails
  obtain ⟨present, starts⟩ := starts_of_fail fails
  have noFail : ∀ group ∈ set.groups, group.result truth (some subsystems) ≠ .fail :=
    fun group mem => CriteriaGroup.result_of_not_decided (undecided group mem)
  rw [matchCriteria_or isOr present starts] at fails
  split at fails
  · cases fails
  next noPass =>
  have skips : ∃ group ∈ set.groups, group.result truth (some subsystems) = .skip := by
    obtain ⟨group, mem⟩ := set.groups_exists present
    refine ⟨group, mem, ?_⟩
    cases result : group.result truth (some subsystems) with
    | pass => exact absurd ⟨group, mem, result⟩ noPass
    | fail => exact absurd result (noFail group mem)
    | skip => rfl
  rw [if_pos ⟨skips, noFail⟩] at fails
  cases fails

lemma unsound_of_mixed (isOr : set.l1Oper = .or) {decidedGroup otherGroup : CriteriaGroup}
    (decidedMem : decidedGroup ∈ set.groups) (decided : decidedGroup.DecidedBy subsystems)
    (otherMem : otherGroup ∈ set.groups) (undecided : ¬otherGroup.DecidedBy subsystems) :
    set.matchCriteria (fun crit => decide (crit.subsys ∉ subsystems)) (some subsystems) = .fail ∧
      set.matchCriteria (fun crit => decide (crit.subsys ∉ subsystems)) none = .pass := by
  have present := totalCrit_ne_zero decidedMem
  have starts := starts_of_decided decidedMem decided
  have outcomes := fun group (mem : group ∈ set.groups) =>
    CriteriaGroup.result_of_others subsystems (set.groups_ne_nil mem)
  refine ⟨?_, ?_⟩
  · rw [matchCriteria_or isOr present starts, if_neg, if_neg]
    · rintro ⟨-, noFail⟩
      exact noFail decidedGroup decidedMem ((outcomes _ decidedMem).1 decided)
    rintro ⟨group, mem, passes⟩
    by_cases isDecided : group.DecidedBy subsystems
    · rw [(outcomes group mem).1 isDecided] at passes
      cases passes
    · rw [((outcomes group mem).2 isDecided).1] at passes
      cases passes
  · rw [matchCriteria_none present, if_pos]
    rw [value, isOr, any_eq_true]
    exact ⟨otherGroup, otherMem, ((outcomes _ otherMem).2 undecided).2⟩

end CriteriaSet

open CriteriaSet

/-- Evaluation for the criteria of some subsystems never loses a match if and only if the
set has `and` at its top, or the subsystems decide all groups or none of them. -/
theorem phased_match_sound_iff (set : CriteriaSet) (subsystems : List Subsys) :
    (∀ truth : Criterion → Bool, set.matchCriteria truth (some subsystems) = .fail →
        set.matchCriteria truth none ≠ .pass) ↔
      set.l1Oper = .and ∨ (∀ group ∈ set.groups, group.DecidedBy subsystems) ∨
        ∀ group ∈ set.groups, ¬group.DecidedBy subsystems := by
  constructor
  · intro sound
    by_contra mixed
    push Not at mixed
    obtain ⟨notAnd, ⟨other, otherMem, undecided⟩, group, mem, decided⟩ := mixed
    have isOr : set.l1Oper = .or := by
      cases oper : set.l1Oper with
      | or => rfl
      | and => exact absurd oper notAnd
    obtain ⟨fails, passes⟩ := unsound_of_mixed isOr mem decided otherMem undecided
    exact sound _ fails passes
  · intro condition truth fails
    cases oper : set.l1Oper with
    | and => exact sound_of_and oper fails
    | or =>
      rcases condition with isAnd | decided | undecided
      · rw [oper] at isAnd
        cases isAnd
      · exact sound_of_all_decided oper decided fails
      · exact absurd fails (sound_of_none_decided oper undecided)

/-- The filter `{ h1 } or ({ h2 } and { s })` over host criteria and a service criterion. -/
def hostOrService : CriteriaSet where
  l1Grp := ⟨.or, [⟨[104, 49], .host⟩]⟩
  l2Grps := [⟨.and, [⟨[104, 50], .host⟩, ⟨[115], .svcstate⟩]⟩]
  subsysArr := [.host, .svcstate]
  l1Oper := .or
  l1Grp_oper := fun _ => rfl
  l2Grps_and := by decide
  and_single := nofun
  mem_subsysArr := by
    intro subsys
    cases subsys <;> decide
  hash_inj := by decide +kernel

/-- A service that does not match `s`, on a host that matches `h1`: the service phase fails
although the filter holds. -/
theorem host_match_lost_in_service_phase : hostOrService.validateMultihost = true ∧
      hostOrService.matchCriteria (fun crit => crit.text = [104, 49]) (some [.svcstate]) = .fail ∧
      hostOrService.matchCriteria (fun crit => crit.text = [104, 49]) none = .pass := by
  decide +kernel

end Gyeeta.Filter
