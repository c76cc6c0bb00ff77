import Gyeeta.Alerts.Inhibit

/-!
# Inhibition by several inhibits

The alert manager asks its inhibits one after the other about a new alert.  One that is asked
before the inhibit that applies may have taken the alert as a source; the manager then removes it
from the front of the source list.
-/

namespace Gyeeta.Alerts

open List

variable {Col : Type}

/-- An entry of `inhibitmap_`, in the order of the map. -/
abbrev InhibitEntry (Col : Type) := Nat × Option (AlertInhibit Col)

/-- `srcstatslist_.pop_front()`. -/
def popFront (inhibit : AlertInhibit Col) : AlertInhibit Col :=
  { inhibit with srcstatslist := inhibit.srcstatslist.tail }

/-- Removes the source entries that were added to the inhibits at these places. -/
def removeSources (ivec : List Nat) (inhibitmap : List (InhibitEntry Col)) :
    List (InhibitEntry Col) :=
  ivec.foldl (fun inhibitmap place =>
    inhibitmap.modify place fun entry => (entry.1, entry.2.map popFront)) inhibitmap

/-- What the manager leaves behind: its inhibits, the inhibits that the alert is a source of,
and the inhibit that inhibits the alert. -/
structure InhibitResult (Col : Type) where
  inhibitmap : List (InhibitEntry Col)
  srcInhibVec : List Nat
  inhibitedBy : Option Nat

section Manager

variable (isDeleted : Nat → Bool) (pstat : Nat) (astat : Columns Col)

/-- The loop of `ALERTMGR::is_alert_inhibited`: `done` are the entries it has seen and `ivec`
the places of those that took the alert as a source. -/
def inhibitLoop (done : List (InhibitEntry Col)) (ivec : List Nat) :
    List (InhibitEntry Col) → InhibitResult Col
  | [] =>
    { inhibitmap := done
      srcInhibVec := ivec.filterMap fun place => (done[place]?).map (·.1)
      inhibitedBy := none }
  | (inhid, none) :: rest => inhibitLoop (done ++ [(inhid, none)]) ivec rest
  | (inhid, some pinhibit) :: rest =>
    let (pinhibit, isInhib, causesinhibit) :=
      isAlertInhibited isDeleted pinhibit pstat astat
    if isInhib then
      { inhibitmap := removeSources ivec (done ++ (inhid, some pinhibit) :: rest)
        srcInhibVec := []
        inhibitedBy := some inhid }
    else
      inhibitLoop (done ++ [(inhid, some pinhibit)])
        (if causesinhibit then ivec ++ [done.length] else ivec) rest

/-- `ALERTMGR::is_alert_inhibited`. -/
def managerIsAlertInhibited (inhibitmap : List (InhibitEntry Col)) : InhibitResult Col :=
  inhibitLoop isDeleted pstat astat [] [] inhibitmap

/-! ## One inhibit -/

/-- The inhibit inhibits the alert. -/
def Inhibits (inhibit : AlertInhibit Col) : Prop :=
  inhibit.isDisabled = false ∧ inhibit.targetMatch astat = true ∧
    sameSource isDeleted inhibit astat = true

/-- The inhibit takes the alert as a source. -/
def TakesSource (inhibit : AlertInhibit Col) : Prop :=
  inhibit.isDisabled = false ∧ ¬Inhibits isDeleted astat inhibit ∧
    inhibit.srcMatch astat = true

instance (inhibit : AlertInhibit Col) : Decidable (Inhibits isDeleted astat inhibit) :=
  inferInstanceAs (Decidable (_ ∧ _))

instance (inhibit : AlertInhibit Col) : Decidable (TakesSource isDeleted astat inhibit) :=
  inferInstanceAs (Decidable (_ ∧ _))

lemma not_isEmpty_of_sameSource {inhibit : AlertInhibit Col}
    (same : sameSource isDeleted inhibit astat = true) : inhibit.srcstatslist.isEmpty = false := by
  rw [sameSource] at same
  cases isList : inhibit.srcstatslist with
  | nil => simp [isList] at same
  | cons src rest => rfl

lemma isAlertInhibited_cases (inhibit : AlertInhibit Col) :
    isAlertInhibited isDeleted inhibit pstat astat =
      if Inhibits isDeleted astat inhibit then (inhibit, true, false)
      else if TakesSource isDeleted astat inhibit then (addSource inhibit pstat astat, false, true)
      else (inhibit, false, false) := by
  have asked : (!inhibit.srcstatslist.isEmpty && inhibit.targetMatch astat &&
      sameSource isDeleted inhibit astat) = true ↔
      inhibit.targetMatch astat = true ∧ sameSource isDeleted inhibit astat = true := by
    simp only [Bool.and_eq_true, Bool.not_eq_true']
    constructor
    · rintro ⟨⟨-, target⟩, same⟩
      exact ⟨target, same⟩
    · rintro ⟨target, same⟩
      exact ⟨⟨not_isEmpty_of_sameSource isDeleted astat same, target⟩, same⟩
  rw [isAlertInhibited]
  cases enabled : inhibit.isDisabled with
  | true =>
    have notInhibits : ¬Inhibits isDeleted astat inhibit := by simp [Inhibits, enabled]
    have notTakes : ¬TakesSource isDeleted astat inhibit := by simp [TakesSource, enabled]
    rw [if_pos rfl, if_neg notInhibits, if_neg notTakes]
  | false =>
    have inhibits_iff : Inhibits isDeleted astat inhibit ↔
        inhibit.targetMatch astat = true ∧ sameSource isDeleted inhibit astat = true := by
      simp only [Inhibits, enabled, true_and]
    rw [if_neg (by decide)]
    by_cases inhibits : Inhibits isDeleted astat inhibit
    · rw [if_pos (asked.mpr (inhibits_iff.mp inhibits)), if_pos inhibits]
    rw [if_neg (fun isAsked => inhibits (inhibits_iff.mpr (asked.mp isAsked))), if_neg inhibits]
    cases source : inhibit.srcMatch astat with
    | true => rw [if_neg (by decide), if_pos ⟨enabled, inhibits, source⟩]
    | false =>
      rw [if_pos (by decide), if_neg]
      rintro ⟨-, -, isSource⟩
      rw [source] at isSource
      contradiction

/-! ## Rollback -/

/-- What a source that was added and removed again leaves of an inhibit: a full list has lost
its oldest source. -/
def rolledBack (inhibit : AlertInhibit Col) : AlertInhibit Col :=
  if TakesSource isDeleted astat inhibit then popFront (addSource inhibit pstat astat)
  else inhibit

lemma popFront_addSource (inhibit : AlertInhibit Col) :
    (popFront (addSource inhibit pstat astat)).srcstatslist =
      if inhibit.srcstatslist.length ≥ maxSrcAstats then inhibit.srcstatslist.dropLast
      else inhibit.srcstatslist := rfl

/-- The source is not deleted. -/
def isLive (src : SrcStats) : Bool := src.pstat.any fun pstat => !isDeleted pstat

/-- The list is full, and its oldest source is not deleted. -/
def LosesLive (srcstatslist : List SrcStats) : Prop :=
  srcstatslist.length ≥ maxSrcAstats ∧ srcstatslist.getLast?.any (isLive isDeleted) = true

lemma filter_dropLast_iff (srcstatslist : List SrcStats) :
    srcstatslist.dropLast.filter (isLive isDeleted) = srcstatslist.filter (isLive isDeleted) ↔
      ¬srcstatslist.getLast?.any (isLive isDeleted) = true := by
  rcases eq_nil_or_concat srcstatslist with rfl | ⟨first, oldest, rfl⟩
  · simp
  · cases live : isLive isDeleted oldest with
    | true => simp [live]
    | false => simp [live]

/-- Only a full list whose oldest source is not deleted loses a live source. -/
lemma rolledBack_live_iff (inhibit : AlertInhibit Col) :
    (rolledBack isDeleted pstat astat inhibit).srcstatslist.filter (isLive isDeleted) =
        inhibit.srcstatslist.filter (isLive isDeleted) ↔
      (TakesSource isDeleted astat inhibit → ¬LosesLive isDeleted inhibit.srcstatslist) := by
  rw [rolledBack, LosesLive]
  by_cases takes : TakesSource isDeleted astat inhibit
  · rw [if_pos takes, popFront_addSource, forall_prop_of_true takes]
    by_cases full : inhibit.srcstatslist.length ≥ maxSrcAstats
    · rw [if_pos full, filter_dropLast_iff, and_iff_right full]
    · rw [if_neg full]
      exact iff_of_true rfl fun loses => full loses.1
  · rw [if_neg takes]
    exact iff_of_true rfl fun isTaken => absurd isTaken takes

/-- The entry does not end the loop. -/
def passes (entry : InhibitEntry Col) : Bool :=
  entry.2.all fun inhibit => !decide (Inhibits isDeleted astat inhibit)

/-- An entry whose source was removed again. -/
def rolledBackEntry (entry : InhibitEntry Col) : InhibitEntry Col :=
  (entry.1, entry.2.map (rolledBack isDeleted pstat astat))

lemma removeSources_snoc (ivec : List Nat) (place : Nat) (inhibitmap : List (InhibitEntry Col)) :
    removeSources (ivec ++ [place]) inhibitmap = (removeSources ivec inhibitmap).modify place
        fun entry => (entry.1, entry.2.map popFront) := by
  rw [removeSources, foldl_append]
  rfl

/-- The places of `ivec` stand for the entries that were seen: removing the sources turns
them into `undone`, whatever follows. -/
structure Undoes (done undone : List (InhibitEntry Col)) (ivec : List Nat) : Prop where
  length : undone.length = done.length
  removes : ∀ rest, removeSources ivec (done ++ rest) = undone ++ rest

variable {done undone : List (InhibitEntry Col)} {ivec : List Nat}

section

variable (undoes : Undoes done undone ivec)
include undoes

lemma Undoes.skip (entry : InhibitEntry Col) :
    Undoes (done ++ [entry]) (undone ++ [entry]) ivec where
  length := by
    rw [length_append, length_append, undoes.length]
  removes rest := by
    rw [append_assoc, undoes.removes, append_assoc]

lemma Undoes.take (inhid : Nat) (inhibit : AlertInhibit Col) :
    Undoes (done ++ [(inhid, some inhibit)]) (undone ++ [(inhid, some (popFront inhibit))])
      (ivec ++ [done.length]) where
  length := by
    rw [length_append, length_append, undoes.length, length_singleton, length_singleton]
  removes rest := by
    rw [removeSources_snoc, append_assoc, undoes.removes, ← undoes.length,
      modify_eq_take_cons_drop (by simp)]
    simp

lemma inhibitLoop_inhibited (rest : List (InhibitEntry Col))
    (inhibited : (inhibitLoop isDeleted pstat astat done ivec rest).inhibitedBy.isSome) :
    (inhibitLoop isDeleted pstat astat done ivec rest).inhibitmap =
      undone ++ ((rest.takeWhile (passes isDeleted astat)).map
        (rolledBackEntry isDeleted pstat astat) ++ rest.dropWhile (passes isDeleted astat)) := by
  induction rest generalizing done undone ivec with
  | nil => simp [inhibitLoop] at inhibited
  | cons entry rest ih =>
    obtain ⟨inhid, pinhibit⟩ := entry
    cases pinhibit with
    | none =>
      rw [inhibitLoop] at inhibited ⊢
      rw [ih (undoes.skip (inhid, none)) inhibited,
        takeWhile_cons_of_pos rfl, dropWhile_cons_of_pos rfl]
      simp [rolledBackEntry]
    | some inhibit =>
      rw [inhibitLoop, isAlertInhibited_cases] at inhibited ⊢
      by_cases inhibits : Inhibits isDeleted astat inhibit
      · have stops : ¬passes isDeleted astat (inhid, some inhibit) = true := by
          simp [passes, inhibits]
        simp only [if_pos inhibits, if_true]
        rw [undoes.removes, takeWhile_cons_of_neg stops, dropWhile_cons_of_neg stops]
        rfl
      have goesOn : passes isDeleted astat (inhid, some inhibit) = true := by
        simp [passes, inhibits]
      rw [takeWhile_cons_of_pos goesOn, dropWhile_cons_of_pos goesOn]
      by_cases takes : TakesSource isDeleted astat inhibit
      · simp only [if_neg inhibits, if_pos takes, Bool.false_eq_true, if_false, if_true]
          at inhibited ⊢
        rw [ih (undoes.take inhid _) inhibited]
        simp [rolledBackEntry, rolledBack, takes]
      · simp only [if_neg inhibits, if_neg takes, Bool.false_eq_true, if_false]
          at inhibited ⊢
        rw [ih (undoes.skip _) inhibited]
        simp [rolledBackEntry, rolledBack, takes]

end

/-- The live sources of the inhibits. -/
def liveSources (inhibitmap : List (InhibitEntry Col)) : List (Nat × Option (List SrcStats)) :=
  inhibitmap.map fun entry =>
    (entry.1, entry.2.map fun inhibit => inhibit.srcstatslist.filter (isLive isDeleted))

/-- An inhibited alert leaves every list of live sources as it was exactly when no inhibit that
was asked before the inhibiting one took the alert into a full list whose oldest source is
live. -/
theorem rollback_restores_iff (inhibitmap : List (InhibitEntry Col)) (inhibited :
      (managerIsAlertInhibited isDeleted pstat astat inhibitmap).inhibitedBy.isSome) :
    liveSources isDeleted (managerIsAlertInhibited isDeleted pstat astat inhibitmap).inhibitmap =
        liveSources isDeleted inhibitmap ↔
      ∀ entry ∈ inhibitmap.takeWhile (passes isDeleted astat), ∀ inhibit,
        entry.2 = some inhibit → TakesSource isDeleted astat inhibit →
          ¬LosesLive isDeleted inhibit.srcstatslist := by
  have start : Undoes ([] : List (InhibitEntry Col)) [] [] :=
    ⟨rfl, fun _ => rfl⟩
  have result := inhibitLoop_inhibited isDeleted pstat astat start inhibitmap inhibited
  have split : inhibitmap.takeWhile (passes isDeleted astat) ++
      inhibitmap.dropWhile (passes isDeleted astat) = inhibitmap :=
    takeWhile_append_dropWhile
  rw [managerIsAlertInhibited, result, nil_append]
  nth_rewrite 3 [← split]
  rw [liveSources, liveSources, map_append, map_append, append_cancel_right_eq,
    map_map, map_inj_left]
  refine forall₂_congr fun entry _ => ?_
  obtain ⟨inhid, pinhibit⟩ := entry
  cases pinhibit with
  | none => simp [rolledBackEntry]
  | some inhibit =>
    simp only [rolledBackEntry, Function.comp_apply, Option.map_some, Prod.mk.injEq,
      true_and, Option.some.injEq, rolledBack_live_iff]
    constructor
    · intro keeps other isOther
      rw [← isOther]
      exact keeps
    · intro keeps
      exact keeps inhibit rfl

end Manager

/-- An inhibit whose source filter matches every alert, or one whose target filter does. -/
def exampleInhibit (srcMatch : Bool) (sources : List SrcStats) : AlertInhibit Unit :=
  ⟨fun _ => srcMatch, fun _ => !srcMatch, [()], sources, false⟩

/-- The first inhibit takes the alert as a source, the second inhibits it. -/
def exampleMap (sources : List SrcStats) : List (InhibitEntry Unit) :=
  [(1, some (exampleInhibit true sources)), (2, some (exampleInhibit false [⟨some 0, [[1]]⟩]))]

/-- A full list whose oldest source is deleted gets back its live sources. -/
theorem dead_source_dropped :
    let sources := List.replicate 127 ⟨some 5, [[2]]⟩ ++ [⟨some 6, [[3]]⟩]
    let isDeleted := fun pstat => pstat == 6
    let result := managerIsAlertInhibited isDeleted 7 (fun _ => [1]) (exampleMap sources)
    result.inhibitedBy.isSome ∧
      liveSources isDeleted result.inhibitmap = liveSources isDeleted (exampleMap sources) := by
  have inhibited : (managerIsAlertInhibited (fun pstat => pstat == 6) 7 (fun _ => [1])
      (exampleMap (List.replicate 127 ⟨some 5, [[2]]⟩ ++
        [⟨some 6, [[3]]⟩]))).inhibitedBy.isSome := by
    decide +kernel
  refine ⟨inhibited, (rollback_restores_iff _ 7 _ _ inhibited).mpr ?_⟩
  intro entry isEntry inhibit isInhibit _
  rw [mem_singleton.mp isEntry] at isInhibit
  cases isInhibit
  exact fun loses => absurd loses.2 (by decide +kernel)

/-- A full list of 128 live sources loses its oldest one to an alert that is then inhibited. -/
theorem full_list_loses_source :
    let sources := List.replicate 127 ⟨some 5, [[2]]⟩ ++ [⟨some 6, [[3]]⟩]
    let isDeleted := fun _ => false
    let result := managerIsAlertInhibited isDeleted 7 (fun _ => [1]) (exampleMap sources)
    sources.length = maxSrcAstats ∧ result.inhibitedBy = some 2 ∧
      liveSources isDeleted result.inhibitmap ≠ liveSources isDeleted (exampleMap sources) ∧
      liveSources isDeleted result.inhibitmap =
        liveSources isDeleted (exampleMap (List.replicate 127 ⟨some 5, [[2]]⟩)) := by
  decide +kernel

end Gyeeta.Alerts
