import Gyeeta.Filter.Accepted
import Gyeeta.Filter.Phased
import Gyeeta.Lib.Traverse

/-!
# Criteria sets of filters

A single term of a parsed filter is an `and` group at the first level; otherwise the terms of one
criterion make up an `or` group there, and each other term is a group of the second level.
Evaluation is that of the expression in which each criterion stands for the first one with its
hash.
-/

namespace Gyeeta.Filter

open List Criterion BoolExpr

/-! ## Groups of criteria -/

section Model

variable (critSubsys : Text → Option Subsys)

/-- The criteria of a group; `critSubsys` is what `CRITERION_ONE` makes of a text: the
subsystem of its field, or an exception. -/
def addCriteria (texts : List Text) : Except ParseError (List Criterion) :=
  texts.mapM fun text =>
    match critSubsys text with
    | some subsys => .ok ⟨text, subsys⟩
    | none => .error .badCriterion

/-- The loop of `populate_groups` over the groups. -/
def populateLoop (parse : BoolParse) : List Nat → List Criterion → List CriteriaGroup →
      Except ParseError (List Criterion × List CriteriaGroup)
  | [], l1, l2 => .ok (l1, l2)
  | group :: rest, l1, l2 =>
    (parse.getGroupCriteria group parse.max1crit).bind fun texts =>
      if texts.length > 1 ∧ parse.ncritgroups ≠ 1 then
        if l2.length < parse.nl2groups then (addCriteria critSubsys texts).bind fun crits =>
            populateLoop parse rest l1 (l2 ++ [⟨.and, crits⟩])
        else populateLoop parse rest l1 l2
      else
        -- A group takes no more than the number of criteria it was made for.
        (addCriteria critSubsys (texts.take (parse.nl1Crit - l1.length))).bind fun crits =>
          populateLoop parse rest (l1 ++ crits) l2

/-- The set of the populated groups. -/
def BoolParse.toSet (parse : BoolParse) (l1 : List Criterion) (l2 : List CriteriaGroup) :
    GroupSet :=
  let l1Oper := if parse.isL1And then .and else .or
  { l1Grp := ⟨if parse.nl1Crit = 0 then .or else l1Oper, l1⟩
    l2Grps := l2
    subsysArr := ((l1 ++ l2.flatMap CriteriaGroup.crits).map subsys).dedup
    l1Oper := l1Oper }

/-- The checks at the end of `populate_groups`. -/
def GroupSet.check (set : GroupSet) (subsys : Subsys) (isMultihost : Bool) :
    Except ParseError GroupSet :=
  if set.totalCrit = 0 then .error .noCriteria
  else if set.subsysArr.any fun other => other ≠ subsys && !(isMultihost && other = .host) then
    .error .badSubsystem
  else if set.subsysArr.length > 2 then .error .badSubsystem
  else if isMultihost && !set.validateMultihost then .error .multihost
  else .ok set

def populateGroups (parse : BoolParse) (subsys : Subsys) (isMultihost : Bool) :
    Except ParseError GroupSet :=
  if parse.ncritgroups > maxOneGroupCriteria then .error .tooManyGroups
  else if parse.max1crit > maxOneGroupCriteria then .error .tooManyInGroup
  else
    (populateLoop critSubsys parse (List.range parse.ncritgroups) [] []).bind fun groups =>
      (parse.toSet groups.1 groups.2).check subsys isMultihost

/-- The constructor of `CRITERIA_SET`. -/
def criteriaSet (lib : Boolstuff) (subsys : Subsys) (isMultihost : Bool) (text : Text) :
    Except ParseError GroupSet :=
  (boolParse lib text).bind fun parse =>
    if parse.totalCrit = 0 then .ok ⟨⟨.or, []⟩, [], [], .or⟩
    else populateGroups critSubsys parse subsys isMultihost

end Model

/-! ## Populated groups -/

section Populated

variable {critSubsys : Text → Option Subsys} {parse : BoolParse} {textss : List (List Text)}

/-- Of a number of groups, this one is at the second level. -/
def inL2 (ngroups : Nat) (texts : List Text) : Bool :=
  ngroups ≠ 1 && 1 < texts.length

/-- The groups of a parsed filter, as `populate_groups` asks for them. -/
structure Groups (textss : List (List Text)) (parse : BoolParse) : Prop where
  ncritgroups : parse.ncritgroups = textss.length
  getGroup : ∀ group texts, textss[group]? = some texts →
    parse.getGroupCriteria group parse.max1crit = .ok texts
  isL1And : parse.isL1And = decide (textss.length = 1)
  nl1Crit : parse.nl1Crit =
    (textss.filter fun texts => !inL2 textss.length texts).flatten.length
  nl2groups : parse.nl2groups = (textss.filter (inL2 textss.length)).length
  nonempty : ∀ texts ∈ textss, texts ≠ []
  apart : ∀ first ∈ textss.flatten, ∀ second ∈ textss.flatten,
    fnv1Hash first = fnv1Hash second → first = second

/-- The criteria of some texts. -/
structure CritsOf (critSubsys : Text → Option Subsys) (texts : List Text)
    (crits : List Criterion) : Prop where
  texts_eq : crits.map text = texts
  subsys_eq : ∀ crit ∈ crits, critSubsys crit.text = some crit.subsys

lemma CritsOf.append {first second : List Text} {firstCrits secondCrits : List Criterion}
    (left : CritsOf critSubsys first firstCrits) (right : CritsOf critSubsys second secondCrits) :
    CritsOf critSubsys (first ++ second) (firstCrits ++ secondCrits) where
  texts_eq := by rw [map_append, left.texts_eq, right.texts_eq]
  subsys_eq crit member :=
    (mem_append.mp member).elim (left.subsys_eq crit) (right.subsys_eq crit)

lemma addCriteria_ok {texts : List Text} {crits : List Criterion}
    (added : addCriteria critSubsys texts = .ok crits) : CritsOf critSubsys texts crits := by
  have each := mapM_eq_ok.mp added
  clear added
  induction each with
  | nil => exact ⟨rfl, nofun⟩
  | @cons text crit texts crits isCrit _ ih =>
    cases known : critSubsys text with
    | none =>
      rw [known] at isCrit
      cases isCrit
    | some subsys =>
      rw [known] at isCrit
      cases isCrit
      have one : CritsOf critSubsys [text] [⟨text, subsys⟩] := by
        refine ⟨rfl, ?_⟩
        intro crit member
        rw [mem_singleton.mp member]
        exact known
      exact one.append ih

/-- The groups that the loop adds to those it starts with. -/
structure Populated (critSubsys : Text → Option Subsys) (ngroups : Nat)
    (textss : List (List Text)) (l1 : List Criterion) (l2 : List CriteriaGroup) : Prop where
  l1Crits : CritsOf critSubsys (textss.filter fun texts => !inL2 ngroups texts).flatten l1
  l2Groups : List.Forall₂ (fun texts group => group.oper = .and ∧
    CritsOf critSubsys texts group.crits) (textss.filter (inL2 ngroups)) l2

variable {l2 : List CriteriaGroup} {l1 : List Criterion}

/-- The loop adds every group to its list, in order. -/
lemma populateLoop_spec {groups : List Nat}
    {result : List Criterion × List CriteriaGroup} (asked : List.Forall₂ (fun group texts =>
      parse.getGroupCriteria group parse.max1crit = .ok texts) groups textss)
    (roomL1 : l1.length + (textss.filter fun texts =>
      !inL2 parse.ncritgroups texts).flatten.length ≤ parse.nl1Crit)
    (roomL2 : l2.length + (textss.filter (inL2 parse.ncritgroups)).length ≤ parse.nl2groups)
    (populated : populateLoop critSubsys parse groups l1 l2 = .ok result) :
    ∃ moreL1 moreL2, result = (l1 ++ moreL1, l2 ++ moreL2) ∧
      Populated critSubsys parse.ncritgroups textss moreL1 moreL2 := by
  induction asked generalizing l1 l2 with
  | nil =>
    cases populated
    exact ⟨[], [], by rw [append_nil, append_nil], ⟨rfl, nofun⟩, .nil⟩
  | @cons group texts groups textss isTexts _ ih =>
    rw [populateLoop, isTexts] at populated
    change (if texts.length > 1 ∧ parse.ncritgroups ≠ 1 then _ else _) = _ at populated
    split at populated
    next second =>
      have isL2 : inL2 parse.ncritgroups texts = true := by
        rw [inL2, decide_eq_true second.2, decide_eq_true second.1]
        rfl
      rw [filter_cons_of_neg (by rw [isL2]; nofun)] at roomL1
      rw [filter_cons_of_pos isL2, length_cons] at roomL2
      rw [if_pos (by omega)] at populated
      obtain ⟨crits, added, others⟩ := bind_eq_ok.mp populated
      obtain ⟨moreL1, moreL2, same, done⟩ := ih roomL1
        (by rw [length_append, length_singleton]; omega) others
      refine ⟨moreL1, ⟨.and, crits⟩ :: moreL2, ?_, ?_, ?_⟩
      · rw [same, append_assoc]
        rfl
      · rw [filter_cons_of_neg (by rw [isL2]; nofun)]
        exact done.l1Crits
      · rw [filter_cons_of_pos isL2]
        exact .cons ⟨rfl, addCriteria_ok added⟩ done.l2Groups
    next first =>
    have isL1 : inL2 parse.ncritgroups texts = false := by
      rw [inL2]
      simp only [not_and] at first
      grind
    rw [filter_cons_of_pos (by simpa using isL1), flatten_cons, length_append] at roomL1
    rw [filter_cons_of_neg (by rw [isL1]; nofun)] at roomL2
    rw [take_of_length_le (by omega)] at populated
    obtain ⟨crits, added, others⟩ := bind_eq_ok.mp populated
    have isCrits := addCriteria_ok added
    have length : crits.length = texts.length := by
      rw [← isCrits.texts_eq, length_map]
    obtain ⟨moreL1, moreL2, same, done⟩ := ih (by rw [length_append]; omega) roomL2 others
    refine ⟨crits ++ moreL1, moreL2, ?_, ?_, ?_⟩
    · rw [same, append_assoc]
    · rw [filter_cons_of_pos (by simpa using isL1), flatten_cons]
      exact isCrits.append done.l1Crits
    · rw [filter_cons_of_neg (by rw [isL1]; nofun)]
      exact done.l2Groups

namespace Populated

variable {ngroups : Nat}

section

variable (done : Populated critSubsys ngroups textss l1 l2)
include done

lemma crit_text {crit : Criterion} (member : crit ∈ l1 ++ l2.flatMap CriteriaGroup.crits) :
    crit.text ∈ textss.flatten ∧ critSubsys crit.text = some crit.subsys := by
  have ofTexts {texts : List Text} {crits : List Criterion}
      (isCrits : CritsOf critSubsys texts crits)
      (subset : ∀ text ∈ texts, text ∈ textss.flatten) (inCrits : crit ∈ crits) :
      crit.text ∈ textss.flatten ∧ critSubsys crit.text = some crit.subsys := by
    refine ⟨subset _ ?_, isCrits.subsys_eq crit inCrits⟩
    rw [← isCrits.texts_eq]
    exact mem_map_of_mem inCrits
  cases mem_append.mp member with
  | inl inL1 =>
    refine ofTexts done.l1Crits ?_ inL1
    intro text inTexts
    obtain ⟨texts, inFilter, inText⟩ := mem_flatten.mp inTexts
    exact mem_flatten.mpr ⟨texts, mem_of_mem_filter inFilter, inText⟩
  | inr inL2 =>
    obtain ⟨group, inGroups, inGroup⟩ := mem_flatMap.mp inL2
    obtain ⟨texts, inFilter, -, isCrits⟩ := exists_of_forall₂ done.l2Groups inGroups
    refine ofTexts isCrits ?_ inGroup
    intro text inText
    exact mem_flatten.mpr ⟨texts, mem_of_mem_filter inFilter, inText⟩

lemma any_l2 (assignment : Text → Bool) :
    (l2.any fun group => group.value fun crit => assignment crit.text) =
      (textss.filter (Filter.inL2 ngroups)).any fun texts => texts.all assignment := by
  symm
  apply any_eq_of_forall₂
  refine done.l2Groups.imp ?_
  rintro texts group ⟨isAnd, isCrits⟩
  rw [CriteriaGroup.value, isAnd, ← isCrits.texts_eq, all_map]
  rfl

lemma any_l1 (several : ngroups ≠ 1)
    (nonempty : ∀ texts ∈ textss, texts ≠ []) (assignment : Text → Bool) :
    (l1.any fun crit => assignment crit.text) =
      (textss.filter fun texts => !Filter.inL2 ngroups texts).any fun texts =>
        texts.all assignment := by
  have texts_eq : (l1.any fun crit => assignment crit.text) =
      (l1.map text).any assignment := by
    rw [any_map]
    rfl
  rw [texts_eq, done.l1Crits.texts_eq, any_flatten]
  rw [Bool.eq_iff_iff, any_eq_true, any_eq_true]
  refine exists_congr fun texts => and_congr_right ?_
  intro member
  obtain ⟨inTextss, isL1⟩ := mem_filter.mp member
  have single : texts.length = 1 := by
    have some := length_pos_iff.mpr (nonempty texts inTextss)
    simp only [Filter.inL2, Bool.not_and, Bool.or_eq_true, Bool.not_eq_true',
      decide_eq_false_iff_not, not_not, ne_eq] at isL1
    omega
  obtain ⟨text, rfl⟩ := length_eq_one_iff.mp single
  simp

end

end Populated

variable {isMultihost : Bool} {subsys : Subsys}

lemma GroupSet.check_ok {set result : GroupSet}
    (checked : set.check subsys isMultihost = .ok result) : result = set ∧ set.totalCrit ≠ 0 := by
  rw [check] at checked
  split at checked
  · cases checked
  next present =>
  refine ⟨?_, present⟩
  split at checked
  · cases checked
  split at checked
  · cases checked
  · split at checked
    · cases checked
    · cases checked
      rfl

lemma populateGroups_ok {set : GroupSet} (groups : Groups textss parse)
    (populated : populateGroups critSubsys parse subsys isMultihost = .ok set) :
    ∃ l1 l2, set = parse.toSet l1 l2 ∧ set.totalCrit ≠ 0 ∧
      Populated critSubsys textss.length textss l1 l2 := by
  rw [populateGroups] at populated
  split at populated
  · cases populated
  split at populated
  · cases populated
  obtain ⟨⟨l1, l2⟩, isPopulated, checked⟩ := bind_eq_ok.mp populated
  obtain ⟨rfl, present⟩ := GroupSet.check_ok checked
  rw [groups.ncritgroups] at isPopulated
  obtain ⟨moreL1, moreL2, same, done⟩ := populateLoop_spec (forall₂_range groups.getGroup)
    (by rw [groups.nl1Crit, groups.ncritgroups, length_nil, Nat.zero_add])
    (by rw [groups.nl2groups, groups.ncritgroups, length_nil, Nat.zero_add])
    isPopulated
  cases same
  rw [groups.ncritgroups] at done
  exact ⟨_, _, rfl, present, done⟩

lemma Groups.l1Oper (groups : Groups textss parse) (l1 : List Criterion)
    (l2 : List CriteriaGroup) :
    (parse.toSet l1 l2).l1Oper = if textss.length = 1 then .and else .or := by
  rw [BoolParse.toSet, groups.isL1And]
  simp only [decide_eq_true_eq]

lemma Groups.l1Grp_oper
    (groups : Groups textss parse) (done : Populated critSubsys textss.length textss l1 l2)
    (present : l1 ≠ []) : (parse.toSet l1 l2).l1Grp.oper = (parse.toSet l1 l2).l1Oper := by
  have some : parse.nl1Crit ≠ 0 := by
    rw [groups.nl1Crit, ← done.l1Crits.texts_eq, length_map]
    exact Nat.ne_of_gt (length_pos_iff.mpr present)
  simp only [BoolParse.toSet, if_neg some]

/-- A populated set is well formed. -/
def Groups.toCriteriaSet {l1 : List Criterion} {l2 : List CriteriaGroup}
    (groups : Groups textss parse) (done : Populated critSubsys textss.length textss l1 l2) :
    CriteriaSet where
  toGroupSet := parse.toSet l1 l2
  l1Grp_oper := groups.l1Grp_oper done
  l2Grps_and := by
    intro group member
    obtain ⟨texts, inFilter, isAnd, isCrits⟩ := exists_of_forall₂ done.l2Groups member
    refine ⟨isAnd, ?_⟩
    intro none
    have long := (mem_filter.mp inFilter).2
    rw [← isCrits.texts_eq, none, inL2] at long
    simp at long
  and_single := by
    intro isAnd
    rw [groups.l1Oper] at isAnd
    have single : textss.length = 1 := by
      by_contra several
      rw [if_neg several] at isAnd
      cases isAnd
    have noL2 : textss.filter (inL2 textss.length) = [] := by
      rw [filter_eq_nil_iff]
      intro texts _
      rw [inL2, single]
      nofun
    have related := done.l2Groups
    rw [noL2] at related
    exact List.forall₂_nil_left_iff.mp related
  mem_subsysArr := by
    intro subsys
    change subsys ∈ (List.map _ _).dedup ↔ _
    rw [mem_dedup, mem_map]
    rfl
  hash_inj := by
    intro first inFirst second inSecond sameHash
    obtain ⟨firstText, firstSubsys⟩ := done.crit_text inFirst
    obtain ⟨secondText, secondSubsys⟩ := done.crit_text inSecond
    have sameText := groups.apart _ firstText _ secondText sameHash
    rw [sameText, secondSubsys] at firstSubsys
    cases first
    cases second
    cases sameText
    cases firstSubsys
    rfl

section

variable (groups : Groups textss parse)
  (done : Populated critSubsys textss.length textss l1 l2)
include groups done

lemma Groups.value_and (single : textss.length = 1) (assignment : Text → Bool) :
    (groups.toCriteriaSet done).value (fun crit => assignment crit.text) =
      textss.any fun texts => texts.all assignment := by
  have isAnd : (groups.toCriteriaSet done).l1Oper = .and := by
    rw [toCriteriaSet, groups.l1Oper, if_pos single]
  obtain ⟨texts, rfl⟩ := length_eq_one_iff.mp single
  have l1Texts : l1.map text = texts := by
    rw [done.l1Crits.texts_eq]
    simp [inL2]
  have present : (groups.toCriteriaSet done).totalCrit ≠ 0 := by
    have some := length_pos_iff.mpr (groups.nonempty texts mem_cons_self)
    rw [← l1Texts, length_map] at some
    change (l1 ++ _).length ≠ 0
    rw [length_append]
    omega
  obtain ⟨one, l1And⟩ := (groups.toCriteriaSet done).groups_and isAnd present
  rw [CriteriaSet.value, isAnd]
  dsimp only
  have allTexts : texts.all assignment = l1.all fun crit => assignment crit.text := by
    rw [← l1Texts, all_map]
    rfl
  rw [one, all_cons, all_nil, Bool.and_true, CriteriaGroup.value, l1And, any_cons,
    any_nil, Bool.or_false, allTexts]
  rfl

lemma Groups.value_or (several : textss.length ≠ 1) (assignment : Text → Bool) :
    (groups.toCriteriaSet done).value (fun crit => assignment crit.text) =
      textss.any fun texts => texts.all assignment := by
  have isOr : (groups.toCriteriaSet done).l1Oper = .or := by
    rw [toCriteriaSet, groups.l1Oper, if_neg several]
  have l1Or : (groups.toCriteriaSet done).l1Grp.oper = .or := by
    by_cases present : l1 = []
    · change (if parse.nl1Crit = 0 then _ else _) = _
      rw [if_pos]
      rw [groups.nl1Crit, ← done.l1Crits.texts_eq, present]
      rfl
    · exact (groups.l1Grp_oper done present).trans isOr
  have both : ((groups.toCriteriaSet done).groups.any fun group =>
      group.value fun crit => assignment crit.text) =
      ((l1.any fun crit => assignment crit.text) || l2.any fun group =>
        group.value fun crit => assignment crit.text) := by
    have l1Value : (groups.toCriteriaSet done).l1Grp.value (fun crit => assignment crit.text) =
        l1.any fun crit => assignment crit.text := by
      rw [CriteriaGroup.value, l1Or]
      rfl
    rw [CriteriaSet.groups]
    split
    next none =>
      have noL1 : (l1.any fun crit => assignment crit.text) = false := by
        rw [← l1Value, CriteriaGroup.value, l1Or, none]
        rfl
      rw [noL1, Bool.false_or]
      rfl
    · rw [any_cons, l1Value]
      rfl
  have split : (textss.any fun texts => texts.all assignment) =
      (((textss.filter fun texts => !inL2 textss.length texts).any fun texts =>
          texts.all assignment) ||
        (textss.filter (inL2 textss.length)).any fun texts => texts.all assignment) := by
    rw [Bool.eq_iff_iff]
    simp only [Bool.or_eq_true, any_eq_true, mem_filter]
    grind
  rw [CriteriaSet.value, isOr]
  dsimp only
  rw [both, split, done.any_l1 several groups.nonempty, done.any_l2]

lemma Groups.value_toCriteriaSet (assignment : Text → Bool) :
    (groups.toCriteriaSet done).value (fun crit => assignment crit.text) =
      textss.any fun texts => texts.all assignment := by
  by_cases single : textss.length = 1
  · exact groups.value_and done single assignment
  · exact groups.value_or done single assignment

end

end Populated

/-! ## Terms -/

section Terms

variable {lib : Boolstuff} {parse : BoolParse} {mapvec : List Text}

/-- The criteria with the given numbers. -/
def textsOf (mapvec : List Text) (ids : List Nat) : List Text :=
  ids.map fun id => mapvec.getD id []

/-- What the loop over the terms adds. -/
structure Added (ngroups : Nat) (parse result : BoolParse) (idss : List (List Nat)) : Prop where
  mapvec : result.mapvec = parse.mapvec
  ncritgroups : result.ncritgroups = parse.ncritgroups
  isL1And : result.isL1And = parse.isL1And
  idvec : result.idvec = parse.idvec ++ idss
  totalCrit : result.totalCrit = parse.totalCrit + (idss.map List.length).sum
  max1crit : parse.max1crit ≤ result.max1crit ∧ ∀ ids ∈ idss, ids.length ≤ result.max1crit
  nl2groups : result.nl2groups =
    parse.nl2groups + (idss.filter fun ids => 1 < ngroups && 1 < ids.length).length
  nl1Crit : result.nl1Crit = parse.nl1Crit +
    ((idss.filter fun ids => 1 < ngroups && !decide (1 < ids.length)).map List.length).sum

variable {terms : List (List Text × List Text)}

lemma addTerms_added {ngroups : Nat}
    {result : BoolParse} (added : addTerms ngroups terms parse = .ok result) :
    ∃ idss, List.Forall₂ (fun term ids => term.2 = [] ∧
        termIds parse.mapvec.length term.1 = .ok ids) terms idss ∧
      Added ngroups parse result idss := by
  induction terms generalizing parse with
  | nil =>
    cases added
    exact ⟨[], .nil, rfl, rfl, rfl, (append_nil _).symm, rfl, ⟨Nat.le_refl _, nofun⟩, rfl, rfl⟩
  | cons term terms ih =>
    obtain ⟨positives, negatives⟩ := term
    rw [addTerms] at added
    split at added
    · cases added
    split at added
    · cases added
    next noNegatives =>
    split at added
    · cases added
    obtain ⟨ids, isIds, others⟩ := bind_eq_ok.mp added
    have length : positives.length = ids.length :=
      (mapM_eq_ok.mp isIds).length_eq
    obtain ⟨idss, related, done⟩ := ih others
    refine ⟨ids :: idss, .cons ⟨not_not.mp noNegatives, isIds⟩ related, done.mapvec,
      done.ncritgroups, done.isL1And, ?_, ?_, ?_, ?_, ?_⟩
    · rw [done.idvec, append_assoc]
      rfl
    · rw [done.totalCrit, map_cons, sum_cons]
      dsimp only
      omega
    · have bounds := done.max1crit
      simp only [Nat.max_le] at bounds
      refine ⟨bounds.1.1, forall_mem_cons.mpr ⟨?_, bounds.2⟩⟩
      omega
    · rw [done.nl2groups, filter_cons]
      grind
    · rw [done.nl1Crit, filter_cons]
      grind

lemma length_textsOf (ids : List Nat) : (textsOf mapvec ids).length = ids.length :=
  length_map _

lemma parseTerms_added (parsed : parseTerms mapvec terms = .ok parse) :
    ∃ idss, List.Forall₂ (fun term ids => term.2 = [] ∧
        termIds mapvec.length term.1 = .ok ids) terms idss ∧
      parse.mapvec = mapvec ∧ parse.idvec = idss ∧ parse.ncritgroups = idss.length ∧
      parse.totalCrit = (idss.map List.length).sum ∧ parse.isL1And = decide (idss.length = 1) ∧
      parse.nl1Crit = ((idss.filter fun ids =>
        !inL2 idss.length (textsOf mapvec ids)).map List.length).sum ∧
      parse.nl2groups = (idss.filter fun ids => inL2 idss.length (textsOf mapvec ids)).length ∧
      ∀ ids ∈ idss, ids.length ≤ parse.max1crit := by
  rw [parseTerms] at parsed
  split at parsed
  · cases parsed
  cases isAdded : addTerms terms.length terms
      { BoolParse.empty with mapvec := mapvec, ncritgroups := terms.length } with
  | error error =>
    rw [isAdded] at parsed
    cases parsed
  | ok result =>
    rw [isAdded] at parsed
    cases parsed
    obtain ⟨idss, related, done⟩ := addTerms_added isAdded
    have length := related.length_eq
    refine ⟨idss, related, ?_⟩
    simp only [inL2, length_textsOf, ← length]
    split
    next single =>
      refine ⟨done.mapvec, done.idvec, done.ncritgroups, ?_, by simp [single], ?_, ?_,
        done.max1crit.2⟩
      · rw [done.totalCrit]
        exact Nat.zero_add _
      · dsimp only
        rw [done.totalCrit]
        simp [single, BoolParse.empty]
      · dsimp only
        rw [done.nl2groups]
        simp [single, BoolParse.empty]
    next several =>
    have many : idss = [] ∨ 1 < terms.length := by
      rcases Nat.lt_or_ge 1 terms.length with many | few
      · exact .inr many
      · exact .inl (length_eq_zero_iff.mp (by omega))
    refine ⟨done.mapvec, done.idvec, done.ncritgroups, ?_, ?_, ?_, ?_, done.max1crit.2⟩
    · rw [done.totalCrit]
      exact Nat.zero_add _
    · rw [done.isL1And, decide_eq_false several]
      rfl
    · rw [done.nl1Crit]
      rcases many with none | many
      · simp [none, BoolParse.empty]
      · simp [several, many, BoolParse.empty]
    · rw [done.nl2groups]
      rcases many with none | many
      · simp [none, BoolParse.empty]
      · simp [several, many, BoolParse.empty]

/-- No two criteria have the same hash. -/
def HashesDistinct (mapvec : List Text) : Prop :=
  ∀ first ∈ mapvec, ∀ second ∈ mapvec, fnv1Hash first = fnv1Hash second → first = second

instance (mapvec : List Text) : Decidable (HashesDistinct mapvec) :=
  inferInstanceAs (Decidable (∀ first ∈ mapvec, ∀ second ∈ mapvec,
    fnv1Hash first = fnv1Hash second → first = second))

lemma HashesDistinct.addCrit (distinct : HashesDistinct mapvec) (crit : Text) :
    HashesDistinct (addCrit mapvec crit) := by
  rw [Filter.addCrit]
  split
  · exact distinct
  next unknown =>
  have noHash : ∀ other ∈ mapvec, fnv1Hash other ≠ fnv1Hash crit := fun other member same =>
    unknown (findIdx_lt_length.mpr ⟨other, member, decide_eq_true same⟩)
  intro first inFirst second inSecond same
  rw [mem_append, mem_singleton] at inFirst inSecond
  rcases inFirst with inFirst | rfl
  · rcases inSecond with inSecond | rfl
    · exact distinct first inFirst second inSecond same
    · exact absurd same (noHash first inFirst)
  · rcases inSecond with inSecond | rfl
    · exact absurd same.symm (noHash second inSecond)
    · rfl

lemma HashesDistinct.distinctCrits (distinct : HashesDistinct mapvec) (crits : List Text) :
    HashesDistinct (distinctCrits mapvec crits) := by
  induction crits generalizing mapvec with
  | nil => exact distinct
  | cons crit crits ih => exact ih (distinct.addCrit crit)

lemma termIds_related {ncrits : Nat} {positives : List Text} {ids : List Nat}
    (isIds : termIds ncrits positives = .ok ids) :
    List.Forall₂ (fun name id => stringToNumber name = some id ∧ id < ncrits) positives ids := by
  refine (mapM_eq_ok.mp isIds).imp ?_
  intro name id isId
  split at isId
  next number isNumber =>
    split at isId
    next small =>
      cases isId
      exact ⟨isNumber, small⟩
    · cases isId
  · cases isId

lemma getGroupCriteria_ids {group maxelem : Nat} {ids : List Nat}
    (isGroup : parse.idvec[group]? = some ids) (some : ids ≠ []) (fits : ids.length ≤ maxelem) :
    parse.getGroupCriteria group maxelem = .ok (textsOf parse.mapvec ids) := by
  have positive := length_pos_iff.mpr some
  rw [BoolParse.getGroupCriteria, if_neg (by omega), isGroup]
  exact if_neg (Nat.not_lt.mpr fits)

lemma groups_of_terms
    (parsed : parseTerms mapvec terms = .ok parse) (distinct : HashesDistinct mapvec)
    (some : terms ≠ []) (nonempty : ∀ term ∈ terms, term.1 ≠ []) :
    ∃ textss, Groups textss parse ∧ parse.totalCrit ≠ 0 ∧ ∀ assignment : Text → Bool,
      (terms.any fun term => term.1.all (fun name =>
          assignment (mapvec.getD ((stringToNumber name).getD 0) [])) && term.2.all fun name =>
          !assignment (mapvec.getD ((stringToNumber name).getD 0) [])) =
      textss.any fun texts => texts.all assignment := by
  obtain ⟨idss, related, isMapvec, idvec, ncritgroups, totalCrit, isL1And, nl1Crit, nl2groups,
    max1crit⟩ := parseTerms_added parsed
  have idsOk : ∀ ids ∈ idss, ids ≠ [] ∧ ∀ id ∈ ids, id < mapvec.length := by
    intro ids member
    obtain ⟨term, inTerms, -, isIds⟩ := exists_of_forall₂ related member
    have each := termIds_related isIds
    constructor
    · rintro rfl
      exact nonempty term inTerms (List.forall₂_nil_right_iff.mp each)
    · intro id inIds
      obtain ⟨name, -, -, small⟩ := exists_of_forall₂ each inIds
      exact small
  have inMapvec : ∀ text ∈ (idss.map (textsOf mapvec)).flatten, text ∈ mapvec := by
    intro text member
    obtain ⟨texts, inTextss, inTexts⟩ := mem_flatten.mp member
    obtain ⟨ids, inIdss, rfl⟩ := mem_map.mp inTextss
    obtain ⟨id, inIds, rfl⟩ := mem_map.mp inTexts
    rw [getD_eq_getElem?_getD, List.getElem?_eq_getElem ((idsOk ids inIdss).2 id inIds)]
    exact getElem_mem _
  refine ⟨idss.map (textsOf mapvec), ?_, ?_, ?_⟩
  · refine ⟨?_, ?_, ?_, ?_, ?_, ?_, ?_⟩
    · rw [ncritgroups, length_map]
    · intro group texts isTexts
      rw [List.getElem?_map, Option.map_eq_some_iff] at isTexts
      obtain ⟨ids, isIds, rfl⟩ := isTexts
      have member := mem_of_getElem? isIds
      rw [← idvec] at isIds
      rw [← isMapvec]
      exact getGroupCriteria_ids isIds (idsOk ids member).1 (max1crit ids member)
    · rw [isL1And, length_map]
    · rw [nl1Crit, length_map, length_flatten, filter_map, map_map]
      congr 2
      funext ids
      exact (length_textsOf ids).symm
    · rw [nl2groups, length_map, filter_map, length_map]
      rfl
    · intro texts member
      obtain ⟨ids, inIdss, rfl⟩ := mem_map.mp member
      intro none
      exact (idsOk ids inIdss).1 (map_eq_nil_iff.mp none)
    · intro first inFirst second inSecond same
      exact distinct first (inMapvec first inFirst) second (inMapvec second inSecond) same
  · rw [totalCrit]
    cases related with
    | nil => exact absurd rfl some
    | @cons _ ids _ idss _ _ =>
      have positive := length_pos_iff.mpr (idsOk ids mem_cons_self).1
      rw [map_cons, sum_cons]
      omega
  · intro assignment
    rw [any_map]
    apply any_eq_of_forall₂
    refine related.imp ?_
    rintro term ids ⟨noNegatives, isIds⟩
    rw [noNegatives, all_nil, Bool.and_true, Function.comp, textsOf, all_map]
    apply all_eq_of_forall₂
    refine (termIds_related isIds).imp ?_
    rintro name id ⟨isNumber, -⟩
    rw [isNumber]
    rfl

end Terms

/-! ## Filters -/

section Filters

variable {lib : Boolstuff} {text : Text} {tokens : List (BoolToken Text)} {expr : BoolExpr Text}

/-- The first criterion of a filter with the hash of the given one. -/
def firstSame (crits : List Text) (crit : Text) : Text :=
  (crits.find? fun other => fnv1Hash other = fnv1Hash crit).getD crit

lemma find?_distinctCrits (mapvec crits : List Text) (hash : UInt32) :
    ((distinctCrits mapvec crits).find? fun other => fnv1Hash other = hash) =
      (mapvec ++ crits).find? fun other => fnv1Hash other = hash := by
  induction crits generalizing mapvec with
  | nil => rw [append_nil]; rfl
  | cons crit crits ih =>
    rw [distinctCrits, foldl_cons, ← distinctCrits, ih, addCrit]
    split
    next known =>
      obtain ⟨other, member, same⟩ := findIdx_lt_length.mp known
      rw [List.find?_append, List.find?_append, List.find?_cons]
      split
      next isHash =>
        have found : (mapvec.find? fun other => fnv1Hash other = hash).isSome := by
          rw [List.find?_isSome]
          refine ⟨other, member, ?_⟩
          simp only [decide_eq_true_eq] at same isHash ⊢
          rw [same, isHash]
        obtain ⟨first, isFirst⟩ := Option.isSome_iff_exists.mp found
        rw [isFirst]
        rfl
      · rfl
    · rw [append_assoc]
      rfl

variable {crits : List Text} {crit : Text}

section

variable (member : crit ∈ crits)
include member

lemma find?_firstSame :
    (crits.find? fun other => fnv1Hash other = fnv1Hash crit) = some (firstSame crits crit) := by
  have found : (crits.find? fun other => fnv1Hash other = fnv1Hash crit).isSome := by
    rw [List.find?_isSome]
    exact ⟨crit, member, decide_eq_true rfl⟩
  obtain ⟨first, isFirst⟩ := Option.isSome_iff_exists.mp found
  rw [firstSame, isFirst, Option.getD_some]

lemma fnv1Hash_firstSame : fnv1Hash (firstSame crits crit) = fnv1Hash crit := by
  have holds := List.find?_some (find?_firstSame member)
  exact of_decide_eq_true holds

lemma firstSame_mem : firstSame crits crit ∈ crits :=
  mem_of_find?_eq_some (find?_firstSame member)

lemma firstSame_firstSame : firstSame crits (firstSame crits crit) = firstSame crits crit := by
  rw [firstSame, fnv1Hash_firstSame member, find?_firstSame member, Option.getD_some]

lemma getD_critId : (distinctCrits [] crits).getD (critId (distinctCrits [] crits) crit) [] =
      firstSame crits crit := by
  rw [getD_eq_getElem?_getD, critId, ← List.find?_eq_getElem?_findIdx, find?_distinctCrits,
    nil_append, find?_firstSame member, Option.getD_some]

end

variable {replaced : Replaced} {tree : lib.Tree}

lemma doubled_eq_nil (writes : Writes .expr tokens expr)
    (lexed : lex replaced.strbuf = some (numberTokens replaced.mapvec (tokens ++ doubled text)))
    (isTree : lib.parse replaced.strbuf = some tree) : doubled text = [] := by
  obtain ⟨_, numbered⟩ := (lib.parse_isSome lexed).mp (Option.isSome_iff_exists.mpr ⟨tree, isTree⟩)
  obtain ⟨_, whole⟩ := numbered.of_map
  have balanced := whole.nesting
  rw [nesting_append, writes.nesting, doubled] at balanced
  rw [doubled]
  split at balanced
  · cases balanced
  next notDouble =>
    rw [if_neg notDouble]

lemma terms_nonempty
    (writes : Writes .expr tokens expr) (lexed : lex replaced.strbuf = some tokens)
    (isTree : lib.parse replaced.strbuf = some tree) :
    lib.terms tree ≠ [] ∧ ∀ term ∈ lib.terms tree, term.1 ≠ [] := by
  have eval := lib.parse_eval lexed writes isTree
  constructor
  · intro none
    have holds := eval fun _ => true
    rw [lib.terms_eval, none, eval_const] at holds
    cases holds
  intro term member empty
  have fails := eval fun _ => false
  rw [lib.terms_eval, eval_const, any_eq_false] at fails
  apply fails term member
  rw [empty, (lib.terms_atoms lexed writes isTree term member).2]
  rfl

lemma Spells.crit_ne_nil (spells : Spells tokens text)
    (member : crit ∈ critTexts tokens) : crit ≠ [] := by
  induction spells with
  | nil => cases member
  | blank _ _ ih => exact ih member
  | lparen _ ih => exact ih member
  | rparen _ ih => exact ih member
  | crit _ long _ ih =>
    cases member with
    | head =>
      apply ne_nil_of_length_pos
      omega
    | tail _ inRest => exact ih inRest
  | oper oper _ _ _ ih =>
    cases oper with
    | or => exact ih member
    | and => exact ih member

lemma mem_of_mem_distinctCrits {mapvec : List Text}
    (member : crit ∈ distinctCrits mapvec crits) : crit ∈ mapvec ++ crits := by
  induction crits generalizing mapvec with
  | nil => rwa [append_nil]
  | cons first crits ih =>
    have inBoth := ih member
    rw [addCrit] at inBoth
    split at inBoth
    · simp only [mem_append, mem_cons] at inBoth ⊢
      exact inBoth.imp_right .inr
    · rwa [append_assoc] at inBoth

lemma groups_single (some : crit ≠ []) : Groups [[crit]] (.single crit) where
  ncritgroups := rfl
  getGroup := by
    intro group texts isTexts
    cases group with
    | zero =>
      cases isTexts
      rw [BoolParse.getGroupCriteria]
      exact if_pos (And.intro rfl some)
    | succ group => cases isTexts
  isL1And := rfl
  nl1Crit := rfl
  nl2groups := rfl
  nonempty := by
    intro texts member
    rw [mem_singleton.mp member]
    nofun
  apart := by
    intro first inFirst second inSecond _
    rw [flatten_singleton, mem_singleton] at inFirst inSecond
    rw [inFirst, inSecond]

lemma boolParse_cases {parse : BoolParse} (parsed : boolParse lib text = .ok parse)
    (present : trim text ≠ []) : text.length ≤ 8 * 1024 ∧
      (replaceExprCriteria (trim text)).bind (parseSkeleton lib) = .ok parse := by
  have fits : text.length ≤ 8 * 1024 := by
    by_contra long
    have some : text ≠ [] := by
      rintro rfl
      exact present rfl
    rw [boolParse, if_neg some, if_pos (Nat.not_le.mp long)] at parsed
    cases parsed
  rw [boolParse_eq lib fits present] at parsed
  exact ⟨fits, parsed⟩

lemma groups_of_filter {parse : BoolParse} (filter : IsFilter text tokens expr)
    (parsed : boolParse lib text = .ok parse) :
    ∃ textss, Groups textss parse ∧ parse.totalCrit ≠ 0 ∧ ∀ assignment : Text → Bool,
      (textss.any fun texts => texts.all assignment) =
        expr.eval fun crit => assignment (firstSame (critTexts tokens) crit) := by
  obtain ⟨writes, spells⟩ := filter
  obtain ⟨replaced, isReplaced, crits, present, first, lexed⟩ :=
    replaceExprCriteria_of_spells spells writes.alternates (trim_ends text)
  obtain ⟨fits, isParsed⟩ := boolParse_cases parsed (trim_ne_nil isReplaced present)
  rw [isReplaced] at isParsed
  change parseSkeleton lib replaced = .ok parse at isParsed
  have stands : ∀ crit ∈ expr.atoms, replaced.mapvec.getD (critId replaced.mapvec crit) [] =
      firstSame (critTexts tokens) crit := by
    intro crit member
    rw [← critTexts_of_writes writes] at member
    rw [crits, getD_critId member]
  have known : ∀ crit ∈ expr.atoms, critId replaced.mapvec crit < replaced.mapvec.length := by
    intro crit member
    rw [← critTexts_of_writes writes] at member
    rw [crits]
    exact critId_lt member []
  by_cases several : 2 ≤ replaced.mapvec.length
  · obtain ⟨tree, isTree, isTerms⟩ := parseSkeleton_tree several isParsed
    have isLexed := lexed several
    rw [doubled_eq_nil writes isLexed isTree, append_nil] at isLexed
    have numbered := writes.map fun crit => decimal (critId replaced.mapvec crit)
    obtain ⟨some, nonempty⟩ := terms_nonempty numbered isLexed isTree
    have distinct : HashesDistinct replaced.mapvec := by
      rw [crits]
      apply HashesDistinct.distinctCrits
      intro first member
      cases member
    obtain ⟨textss, groups, total, same⟩ := groups_of_terms isTerms distinct some nonempty
    refine ⟨textss, groups, total, ?_⟩
    intro assignment
    rw [← same, ← lib.terms_eval tree fun name =>
        assignment (replaced.mapvec.getD ((stringToNumber name).getD 0) []),
      lib.parse_eval isLexed numbered isTree, eval_map]
    apply eval_congr
    intro crit member
    have isKnown := known crit member
    have count : replaced.mapvec.length ≤ 8 * 1024 := by
      have few := spells.length_critTexts.trans ((length_trim_le text).trans fits)
      rw [crits]
      exact (length_distinctCrits [] _).trans (by simpa using few)
    rw [stringToNumber_decimal (by omega), Option.getD_some, stands crit member]
  · have one : replaced.mapvec.length = 1 := by
      have positive := length_pos_iff.mpr present
      omega
    obtain ⟨crit, isCrit⟩ := length_eq_one_iff.mp one
    rw [parseSkeleton, if_pos (by omega), first crit isCrit] at isParsed
    cases isParsed
    refine ⟨[[crit]], groups_single ?_, Nat.one_ne_zero, ?_⟩
    · have member : crit ∈ distinctCrits [] (critTexts tokens) := by
        rw [← crits, isCrit]
        exact mem_singleton_self crit
      exact spells.crit_ne_nil (mem_of_mem_distinctCrits member)
    intro assignment
    have same : ∀ other ∈ expr.atoms,
        assignment (firstSame (critTexts tokens) other) = assignment crit := by
      intro other member
      have zero := known other member
      rw [one, Nat.lt_one_iff] at zero
      rw [← stands other member, zero, isCrit]
      rfl
    rw [eval_congr same, eval_const]
    simp

lemma criteriaSet_match {critSubsys : Text → Option Subsys} {subsys : Subsys}
    {isMultihost : Bool} {set : GroupSet} (filter : IsFilter text tokens expr)
    (accepted : criteriaSet critSubsys lib subsys isMultihost text = .ok set) :
    ∃ built : CriteriaSet, built.toGroupSet = set ∧ ∀ assignment : Text → Bool,
      built.matchCriteria (fun crit => assignment crit.text) none =
        if expr.eval fun crit => assignment (firstSame (critTexts tokens) crit) then .pass
        else .fail := by
  obtain ⟨parse, parsed, populated⟩ := bind_eq_ok.mp accepted
  obtain ⟨textss, groups, total, same⟩ := groups_of_filter filter parsed
  rw [if_neg total] at populated
  obtain ⟨l1, l2, rfl, some, done⟩ := populateGroups_ok groups populated
  refine ⟨groups.toCriteriaSet done, rfl, ?_⟩
  intro assignment
  rw [CriteriaSet.matchCriteria_none some, groups.value_toCriteriaSet done, same]

/-- The value of the expression is determined by those of its criteria that are the first
ones with their hash. -/
def FirstsDecide (tokens : List (BoolToken Text)) (expr : BoolExpr Text) : Prop :=
  ∀ assignment other : Text → Bool,
    (∀ crit ∈ critTexts tokens, firstSame (critTexts tokens) crit = crit →
      assignment crit = other crit) →
    expr.eval assignment = expr.eval other

lemma firstsDecide_iff (writes : Writes .expr tokens expr) :
    FirstsDecide tokens expr ↔ ∀ assignment : Text → Bool,
      (expr.eval fun crit => assignment (firstSame (critTexts tokens) crit)) =
        expr.eval assignment := by
  constructor
  · intro decided assignment
    apply decided
    intro crit _ isFirst
    rw [isFirst]
  intro same assignment other agree
  rw [← same assignment, ← same other]
  apply eval_congr
  intro crit member
  rw [← critTexts_of_writes writes] at member
  exact agree _ (firstSame_mem member) (firstSame_firstSame member)

lemma firstsDecide_of_distinct (writes : Writes .expr tokens expr)
    (distinct : HashesDistinct (critTexts tokens)) : FirstsDecide tokens expr := by
  intro assignment other agree
  apply eval_congr
  intro crit member
  rw [← critTexts_of_writes writes] at member
  apply agree crit member
  exact distinct _ (firstSame_mem member) _ member (fnv1Hash_firstSame member)

end Filters

/-- A set evaluates the filter it was built from, for filters whose value is determined by
the criteria that are the first ones with their hash. -/
theorem match_criteria_evaluates_filter_iff (lib : Boolstuff)
    (critSubsys : Text → Option Subsys) (subsys : Subsys) (isMultihost : Bool) (text : Text)
    (tokens : List (BoolToken Text)) (expr : BoolExpr Text) (set : GroupSet)
    (filter : IsFilter text tokens expr)
    (accepted : criteriaSet critSubsys lib subsys isMultihost text = .ok set) :
    ∃ built : CriteriaSet, built.toGroupSet = set ∧ ((∀ assignment : Text → Bool,
        built.matchCriteria (fun crit => assignment crit.text) none =
          if expr.eval assignment then .pass else .fail) ↔ FirstsDecide tokens expr) := by
  obtain ⟨built, isSet, result⟩ := criteriaSet_match filter accepted
  refine ⟨built, isSet, ?_⟩
  rw [firstsDecide_iff filter.1]
  constructor
  · intro evaluates assignment
    have same := (result assignment).symm.trans (evaluates assignment)
    revert same
    cases expr.eval assignment
    all_goals cases expr.eval fun crit => assignment (firstSame (critTexts tokens) crit)
    all_goals decide
  · intro same assignment
    rw [result, same]

theorem two_criteria_evaluated :
    ∃ built : CriteriaSet, criteriaSet (fun _ => some .svcstate) distributing .svcstate false
        (ascii "\x7baaaaa\x7d or \x7bbbbbb\x7d") = .ok built.toGroupSet ∧
      ∀ assignment : Text → Bool, built.matchCriteria (fun crit => assignment crit.text) none =
          if assignment (ascii "aaaaa") || assignment (ascii "bbbbb") then .pass else .fail := by
  have writes : Writes .expr [.atom (ascii "aaaaa"), .or, .atom (ascii "bbbbb")]
      (.or (.atom (ascii "aaaaa")) (.atom (ascii "bbbbb"))) :=
    parseTokens_iff.mp (by decide +kernel)
  have accepted : (criteriaSet (fun _ => some .svcstate) distributing .svcstate false
      (ascii "\x7baaaaa\x7d or \x7bbbbbb\x7d")).toOption.isSome := by
    decide +kernel
  obtain ⟨set, isSet⟩ : ∃ set, criteriaSet (fun _ => some .svcstate) distributing .svcstate false
      (ascii "\x7baaaaa\x7d or \x7bbbbbb\x7d") = .ok set := by
    cases outcome : criteriaSet (fun _ => some .svcstate) distributing .svcstate false
        (ascii "\x7baaaaa\x7d or \x7bbbbbb\x7d") with
    | error _ =>
      rw [outcome] at accepted
      cases accepted
    | ok set => exact ⟨set, rfl⟩
  obtain ⟨built, rfl, evaluates⟩ := match_criteria_evaluates_filter_iff distributing _ _ _ _ _ _ _
    ⟨writes, spells_two_criteria⟩ isSet
  refine ⟨built, isSet, evaluates.mpr (firstsDecide_of_distinct writes ?_)⟩
  decide +kernel

/-- The two criteria of the filter `{qps5s = 8288} and {nconns <= 15986}` have the same hash:
a record with the first one true and the second one false passes. -/
theorem criterion_lost_to_hash_collision :
    ∃ tokens expr, IsFilter (ascii "\x7bqps5s = 8288\x7d and \x7bnconns <= 15986\x7d")
        tokens expr ∧
      (expr.eval fun crit => crit = ascii "qps5s = 8288") = false ∧
      ∀ lib, ∃ built : CriteriaSet, criteriaSet (fun _ => some .svcstate) lib .svcstate false
          (ascii "\x7bqps5s = 8288\x7d and \x7bnconns <= 15986\x7d") = .ok built.toGroupSet ∧
        built.matchCriteria (fun crit => crit.text = ascii "qps5s = 8288") none = .pass := by
  have first : trim (ascii "qps5s = 8288") = ascii "qps5s = 8288" := by decide +kernel
  have second : trim (ascii "nconns <= 15986") = ascii "nconns <= 15986" := by decide +kernel
  have writes : Writes .expr [.atom (ascii "qps5s = 8288"), .and, .atom (ascii "nconns <= 15986")]
      (.and (.atom (ascii "qps5s = 8288")) (.atom (ascii "nconns <= 15986"))) :=
    parseTokens_iff.mp (by decide +kernel)
  have spells : Spells [.atom (ascii "qps5s = 8288"), .and, .atom (ascii "nconns <= 15986")]
      (trim (ascii "\x7bqps5s = 8288\x7d and \x7bnconns <= 15986\x7d")) := by
    have text : trim (ascii "\x7bqps5s = 8288\x7d and \x7bnconns <= 15986\x7d") =
        openBrace :: (ascii "qps5s = 8288" ++ closeBrace :: 32 :: (ascii "and" ++ 32 ::
          openBrace :: (ascii "nconns <= 15986" ++ [closeBrace]))) := by
      decide +kernel
    rw [text]
    nth_rewrite 1 [← first]
    nth_rewrite 1 [← second]
    exact .crit (by decide +kernel) (by decide +kernel) (.blank rfl (.oper .and
      (by decide +kernel) rfl (.crit (by decide +kernel) (by decide +kernel) .nil)))
  refine ⟨_, _, ⟨writes, spells⟩, by decide +kernel, ?_⟩
  intro lib
  have run : replaceExprCriteria
      (trim (ascii "\x7bqps5s = 8288\x7d and \x7bnconns <= 15986\x7d")) =
        .ok ⟨ascii "0  & 0", [ascii "qps5s = 8288"], ascii "qps5s = 8288"⟩ := by
    decide +kernel
  have parsed : boolParse lib (ascii "\x7bqps5s = 8288\x7d and \x7bnconns <= 15986\x7d") =
      .ok (.single (ascii "qps5s = 8288")) := by
    rw [boolParse_eq lib (by decide +kernel) (by decide +kernel), run]
    rfl
  have accepted : criteriaSet (fun _ => some .svcstate) lib .svcstate false
      (ascii "\x7bqps5s = 8288\x7d and \x7bnconns <= 15986\x7d") =
        .ok ⟨⟨.and, [⟨ascii "qps5s = 8288", .svcstate⟩]⟩, [], [.svcstate], .and⟩ := by
    rw [criteriaSet, parsed]
    decide +kernel
  obtain ⟨built, isSet, result⟩ := criteriaSet_match ⟨writes, spells⟩ accepted
  refine ⟨built, isSet ▸ accepted, ?_⟩
  rw [result fun crit => crit = ascii "qps5s = 8288"]
  decide +kernel

end Gyeeta.Filter
