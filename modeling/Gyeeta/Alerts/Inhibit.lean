import Gyeeta.Lib.Bytes

/-!
# Inhibition of alerts

An inhibit keeps the latest alerts that matched its source filter, each with the text of the
listed columns, and is asked for every new alert whether one of them inhibits it.
-/

namespace Gyeeta.Alerts

open List

variable {Col : Type}

/-- The columns of an alert as texts. -/
abbrev Columns (Col : Type) := Col → Bytes

/-- The characters that a `STRING_BUFFER<2048>` holds. -/
def maxColumnLen : Nat := 2047

/-- `astat_field_to_string` into a buffer, which cuts a longer text. -/
def fieldToString (astat : Columns Col) (pcol : Col) : Bytes :=
  (astat pcol).take maxColumnLen

/-- `ALERT_INHIBIT::SrcStats`: a source alert and the texts of its columns. -/
structure SrcStats where
  pstat : Option Nat
  cols : List Bytes
  deriving DecidableEq, Repr

/-- `ALERT_INHIBIT`.  The filters are the results of `filter_match`. -/
structure AlertInhibit (Col : Type) where
  srcMatch : Columns Col → Bool
  targetMatch : Columns Col → Bool
  equalCols : List Col
  srcstatslist : List SrcStats
  isDisabled : Bool

def maxSrcAstats : Nat := 128

/-- The inner loop: some stored column is not empty and has the text of the alert. -/
def sameColumn (astat : Columns Col) (equalCols : List Col) (cols : List Bytes) : Bool :=
  (cols.zip equalCols).any fun (stored, pcol) =>
    stored.length != 0 && fieldToString astat pcol == stored

/-- The outer loop, which skips the sources that are deleted. -/
def sameSource (isDeleted : Nat → Bool) (inhibit : AlertInhibit Col) (astat : Columns Col) : Bool :=
  inhibit.srcstatslist.any fun src =>
    match src.pstat with
    | none => false
    | some pstat =>
      !isDeleted pstat && src.cols.length == inhibit.equalCols.length &&
        sameColumn astat inhibit.equalCols src.cols

/-- A new source in front of the list, which drops its oldest one when it is full. -/
def addSource (inhibit : AlertInhibit Col) (pstat : Nat) (astat : Columns Col) : AlertInhibit Col :=
  let kept :=
    if inhibit.srcstatslist.length ≥ maxSrcAstats then inhibit.srcstatslist.dropLast
    else inhibit.srcstatslist
  { inhibit with srcstatslist := ⟨some pstat, inhibit.equalCols.map (fieldToString astat)⟩ :: kept }

/-- `is_alert_inhibited`: whether the alert is inhibited, and whether it is a source. -/
def isAlertInhibited (isDeleted : Nat → Bool) (inhibit : AlertInhibit Col) (pstat : Nat)
    (astat : Columns Col) : AlertInhibit Col × Bool × Bool :=
  if inhibit.isDisabled then
    (inhibit, false, false)
  else if !inhibit.srcstatslist.isEmpty && inhibit.targetMatch astat &&
      sameSource isDeleted inhibit astat then
    (inhibit, true, false)
  else if !inhibit.srcMatch astat then
    (inhibit, false, false)
  else
    (addSource inhibit pstat astat, false, true)

/-! ## Sources with the same columns -/

/-- A list of source alerts, each with the columns it had, as the inhibit stores it. -/
def storedSources (equalCols : List Col) (sources : List (Nat × Columns Col)) : List SrcStats :=
  sources.map fun (pstat, astat) => ⟨some pstat, equalCols.map (fieldToString astat)⟩

lemma sameColumn_stored (equalCols : List Col) (astat source : Columns Col) :
    sameColumn astat equalCols (equalCols.map (fieldToString source)) = true ↔
      ∃ pcol ∈ equalCols, fieldToString source pcol ≠ [] ∧
        fieldToString astat pcol = fieldToString source pcol := by
  have zipped : (equalCols.map (fieldToString source)).zip equalCols =
      equalCols.map fun pcol => (fieldToString source pcol, pcol) := by
    induction equalCols with
    | nil => rfl
    | cons pcol equalCols ih =>
      simp only [map_cons, zip_cons_cons, ih]
  simp only [sameColumn, zipped, any_map, any_eq_true, Function.comp_apply,
    Bool.and_eq_true, bne_iff_ne, ne_eq, length_eq_zero_iff, beq_iff_eq]

variable {astat : Columns Col}

lemma inhibited_iff (isDeleted : Nat → Bool) (inhibit : AlertInhibit Col) (pstat : Nat)
    {sources : List (Nat × Columns Col)}
    (enabled : inhibit.isDisabled = false) (target : inhibit.targetMatch astat = true)
    (stored : inhibit.srcstatslist = storedSources inhibit.equalCols sources) :
    (isAlertInhibited isDeleted inhibit pstat astat).2.1 = true ↔
      ∃ source ∈ sources, isDeleted source.1 = false ∧
        ∃ pcol ∈ inhibit.equalCols, fieldToString source.2 pcol ≠ [] ∧
          fieldToString astat pcol = fieldToString source.2 pcol := by
  have same : sameSource isDeleted inhibit astat = true ↔
      ∃ source ∈ sources, isDeleted source.1 = false ∧
        ∃ pcol ∈ inhibit.equalCols, fieldToString source.2 pcol ≠ [] ∧
          fieldToString astat pcol = fieldToString source.2 pcol := by
    simp only [sameSource, stored, storedSources, any_map, any_eq_true,
      Function.comp_apply, length_map, beq_self_eq_true, Bool.and_true, Bool.and_eq_true,
      Bool.not_eq_true', sameColumn_stored]
  rw [← same, isAlertInhibited, if_neg (by simp [enabled])]
  by_cases inhibited : sameSource isDeleted inhibit astat = true
  · have listed : inhibit.srcstatslist.isEmpty = false := by
      rw [sameSource] at inhibited
      cases isList : inhibit.srcstatslist with
      | nil => simp [isList] at inhibited
      | cons src rest => rfl
    rw [if_pos (by simp [listed, target, inhibited])]
    exact ⟨fun _ => inhibited, fun _ => rfl⟩
  · rw [if_neg (by simp [inhibited])]
    constructor
    · intro isInhibited
      split at isInhibited <;> contradiction
    · intro isSame
      exact absurd isSame inhibited

/-- What inhibits an alert: a source that is not deleted and had the value of the alert in every
listed column. -/
def HasEqual (isDeleted : Nat → Bool) (equalCols : List Col) (sources : List (Nat × Columns Col))
    (astat : Columns Col) : Prop :=
  ∃ source ∈ sources, isDeleted source.1 = false ∧ ∀ pcol ∈ equalCols, source.2 pcol = astat pcol

/-- A matching alert is decided as meant exactly if there is an equal source, or if no source
that is not deleted has the text of the alert, as far as it is compared, in any listed column. -/
theorem inhibits_equal_columns_iff (isDeleted : Nat → Bool) (inhibit : AlertInhibit Col)
    (sources : List (Nat × Columns Col)) (pstat : Nat) (astat : Columns Col)
    (listed : inhibit.equalCols ≠ []) (enabled : inhibit.isDisabled = false)
    (stored : inhibit.srcstatslist = storedSources inhibit.equalCols sources)
    (filled : ∀ pcol ∈ inhibit.equalCols, astat pcol ≠ [])
    (target : inhibit.targetMatch astat = true) :
    ((isAlertInhibited isDeleted inhibit pstat astat).2.1 = true ↔
        HasEqual isDeleted inhibit.equalCols sources astat) ↔
      HasEqual isDeleted inhibit.equalCols sources astat ∨
      ∀ source ∈ sources, isDeleted source.1 = false → ∀ pcol ∈ inhibit.equalCols,
        (source.2 pcol).take maxColumnLen ≠ (astat pcol).take maxColumnLen := by
  rw [inhibited_iff isDeleted inhibit pstat enabled target stored]
  have nonempty : ∀ pcol ∈ inhibit.equalCols, fieldToString astat pcol ≠ [] := by
    intro pcol isListed
    simpa [fieldToString, maxColumnLen] using filled pcol isListed
  have inhibits : HasEqual isDeleted inhibit.equalCols sources astat →
      ∃ source ∈ sources, isDeleted source.1 = false ∧
        ∃ pcol ∈ inhibit.equalCols, fieldToString source.2 pcol ≠ [] ∧
          fieldToString astat pcol = fieldToString source.2 pcol := by
    rintro ⟨source, mem, alive, same⟩
    obtain ⟨pcol, isListed⟩ := exists_mem_of_ne_nil _ listed
    refine ⟨source, mem, alive, pcol, isListed, ?_⟩
    rw [fieldToString, fieldToString, same pcol isListed]
    exact ⟨nonempty pcol isListed, rfl⟩
  constructor
  · intro decided
    by_cases equal : HasEqual isDeleted inhibit.equalCols sources astat
    · exact .inl equal
    right
    intro source mem alive pcol isListed same
    have isText : fieldToString astat pcol = fieldToString source.2 pcol := same.symm
    exact equal (decided.mp
      ⟨source, mem, alive, pcol, isListed, isText ▸ nonempty pcol isListed, isText⟩)
  · rintro (equal | none)
    · exact iff_of_true (inhibits equal) equal
    · refine ⟨?_, inhibits⟩
      rintro ⟨source, mem, alive, pcol, isListed, -, same⟩
      exact absurd same.symm (none source mem alive pcol isListed)

/-- An inhibit on two columns whose only source had the texts `[1]` and `[2]`. -/
def twoColumns : AlertInhibit Bool where
  srcMatch := fun _ => false
  targetMatch := fun _ => true
  equalCols := [true, false]
  srcstatslist := storedSources [true, false] [(0, fun pcol => if pcol then [1] else [2])]
  isDisabled := false

/-- An alert with the texts `[4]` and `[3]` is decided as meant. -/
theorem other_columns_exact :
    let astat : Columns Bool := fun pcol => if pcol then [4] else [3]
    (isAlertInhibited (fun _ => false) twoColumns 1 astat).2.1 = true ↔
      HasEqual (fun _ => false) [true, false] [(0, fun pcol => if pcol then [1] else [2])] astat :=
  (inhibits_equal_columns_iff (fun _ => false) twoColumns
    [(0, fun pcol => if pcol then [1] else [2])] 1 (fun pcol => if pcol then [4] else [3])
    (by decide) rfl rfl (by decide) rfl).mpr (.inr (by decide))

/-- An alert with the texts `[1]` and `[3]` is inhibited. -/
theorem inhibited_by_one_column :
    let astat : Columns Bool := fun pcol => if pcol then [1] else [3]
    (isAlertInhibited (fun _ => false) twoColumns 1 astat).2.1 = true ∧
      ¬HasEqual (fun _ => false) [true, false] [(0, fun pcol => if pcol then [1] else [2])]
        astat := by
  unfold HasEqual
  decide

end Gyeeta.Alerts
