import Gyeeta.Lib.Bytes

/-!
# Placement of hosts

A host that registers is assigned to a madhava server.  The remembered assignment of the
host is tried first, then the server used last, then the whole table, in passes that give up
the zone, the region and the server to be avoided.
-/

namespace Gyeeta.Hosts

open List

/-- `MADHAVA_INFO`: what the placement reads of a server. -/
structure MadhavaInfo where
  madhavaId : UInt64
  lastStatusCsec : Nat
  regionName : Bytes
  zoneName : Bytes
  nparthaNodes : UInt32
  maxParthaNodes : UInt32
  currParAdds : UInt32
  lastParAdds : UInt32
  deriving DecidableEq, Repr

/-- The assignment of a host remembered in `pardbmap_`. -/
structure PardbStat where
  madhavaId : UInt64
  regionName : Bytes
  zoneName : Bytes
  deriving DecidableEq, Repr

/-- A placement request, with the clock at the call. -/
structure PlacementRequest where
  region : Bytes
  zone : Bytes
  ignMadid : UInt64
  clockSec : Nat
  deriving DecidableEq, Repr

/-- The servers, named by their addresses, the table of servers in the order of a walk, and
the server used last. -/
structure MadhavaTable where
  mads : Nat → MadhavaInfo
  madhavaTbl : List (Option Nat)
  currMadhava : Option Nat

/-- The variables of `assign_partha_madhava`. -/
structure Assigning where
  mads : Nat → MadhavaInfo
  regionerr : Nat
  zoneerr : Nat
  ignZone : Bool
  ignRegion : Bool
  ignMadid : UInt64

namespace PlacementRequest

/-- `min_csec`: the status of a live server is later. -/
def minCsec (request : PlacementRequest) : Nat :=
  max (request.clockSec - 600) 60

/-- The request names a region and a zone. -/
def isPlaced (request : PlacementRequest) : Bool :=
  !request.region.isEmpty && !request.zone.isEmpty

/-- `curr_par_adds_.fetch_add(1)`. -/
def countAdd (assigning : Assigning) (pmad : Nat) : Assigning :=
  { assigning with
    mads := fun other =>
      if other = pmad then
        { assigning.mads pmad with currParAdds := (assigning.mads pmad).currParAdds + 1 }
      else assigning.mads other }

/-- The capacity test of `check_madhava`. -/
def checkCapacity (assigning : Assigning) (pmad : Nat) : Assigning × Bool :=
  let mad := assigning.mads pmad
  if mad.nparthaNodes + 1 < mad.maxParthaNodes then
    (countAdd assigning pmad,
      mad.nparthaNodes + (mad.currParAdds + 1) + mad.lastParAdds < mad.maxParthaNodes)
  else
    (assigning, false)

def checkMadhava (request : PlacementRequest) (assigning : Assigning) (pmad : Nat) :
    Assigning × Bool :=
  let mad := assigning.mads pmad
  if mad.madhavaId ≠ assigning.ignMadid ∧ mad.lastStatusCsec > request.minCsec then
    if request.isPlaced && !assigning.ignRegion then
      if request.region ≠ mad.regionName then
        ({ assigning with regionerr := assigning.regionerr + 1 }, false)
      else if assigning.ignZone = false ∧ request.zone ≠ mad.zoneName then
        ({ assigning with zoneerr := assigning.zoneerr + 1 }, false)
      else
        checkCapacity assigning pmad
    else
      checkCapacity assigning pmad
  else
    (assigning, false)

/-- `walk_hash_table_const` with `lammad`: the first server that passes the check. -/
def walkTable (request : PlacementRequest) : List (Option Nat) → Assigning → Assigning × Option Nat
  | [], assigning => (assigning, none)
  | none :: rest, assigning => walkTable request rest assigning
  | some pmad :: rest, assigning =>
    match checkMadhava request assigning pmad with
    | (assigning, true) => (assigning, some pmad)
    | (assigning, false) => walkTable request rest assigning

/-- A further pass over the table, if none was found yet and its condition holds. -/
def furtherPass (request : PlacementRequest) (table : List (Option Nat)) (condition : Bool)
    (relax : Assigning → Assigning) (found : Assigning × Option Nat) : Assigning × Option Nat :=
  match found with
  | (assigning, none) =>
    if condition then walkTable request table (relax assigning) else (assigning, none)
  | (assigning, some pmad) => (assigning, some pmad)

/-- The passes over the table after the first one. -/
def furtherPasses (request : PlacementRequest) (table : List (Option Nat))
    (first : Assigning × Option Nat) : Assigning × Option Nat :=
  let second := furtherPass request table (first.1.zoneerr > 0)
    (fun assigning => { assigning with ignZone := true }) first
  let third := furtherPass request table (second.1.regionerr > 0)
    (fun assigning => { assigning with ignRegion := true }) second
  furtherPass request table (third.1.ignMadid != 0)
    (fun assigning => { assigning with ignMadid := 0 }) third

/-- The remembered server of the host, if it is to be tried. -/
def lastUsed (request : PlacementRequest) (table : MadhavaTable) (dbstat : Option PardbStat) :
    Option Nat :=
  match dbstat with
  | none => none
  | some dbstat =>
    if dbstat.madhavaId = request.ignMadid then none
    else if request.region ≠ dbstat.regionName ∨ request.zone ≠ dbstat.zoneName then none
    else
      (table.madhavaTbl.find? fun pmad =>
        (pmad.map fun pmad => (table.mads pmad).madhavaId) == some dbstat.madhavaId).join

/-- A single server tried before the table. -/
def tryFirst (request : PlacementRequest) (pmad : Option Nat) (assigning : Assigning) :
    Assigning × Option Nat :=
  walkTable request [pmad] assigning

/-- `assign_partha_madhava`: the server for the host. -/
def assignParthaMadhava (request : PlacementRequest) (table : MadhavaTable)
    (dbstat : Option PardbStat) : Assigning × Option Nat :=
  let assigning : Assigning := ⟨table.mads, 0, 0, false, false, request.ignMadid⟩
  match tryFirst request (request.lastUsed table dbstat) assigning with
  | (assigning, some pmad) => (assigning, some pmad)
  | (assigning, none) =>
    match tryFirst request table.currMadhava assigning with
    | (assigning, some pmad) => (assigning, some pmad)
    | (assigning, none) =>
      furtherPasses request table.madhavaTbl (walkTable request table.madhavaTbl assigning)

/-! ## What a check decides -/

/-- The server sent its status lately. -/
def Live (request : PlacementRequest) (mad : MadhavaInfo) : Prop :=
  mad.lastStatusCsec > request.minCsec

/-- The server has room for one more host beside those registered and lately added. -/
def Spare (mad : MadhavaInfo) : Prop :=
  mad.nparthaNodes.toNat + mad.currParAdds.toNat + mad.lastParAdds.toNat + 1 <
    mad.maxParthaNodes.toNat

/-- The server is live and not the one to be avoided. -/
def Open (request : PlacementRequest) (ignMadid : UInt64) (mad : MadhavaInfo) : Prop :=
  mad.madhavaId ≠ ignMadid ∧ Live request mad

def OtherRegion (request : PlacementRequest) (mad : MadhavaInfo) : Prop :=
  request.isPlaced = true ∧ request.region ≠ mad.regionName

/-- The server is in the region of the host, but not in its zone. -/
def OtherZone (request : PlacementRequest) (mad : MadhavaInfo) : Prop :=
  request.isPlaced = true ∧ request.region = mad.regionName ∧ request.zone ≠ mad.zoneName

/-- The region and the zone of the server suit the host, as far as they are looked at. -/
def Suits (request : PlacementRequest) (ignZone ignRegion : Bool) (mad : MadhavaInfo) : Prop :=
  ignRegion = false → ¬OtherRegion request mad ∧ (ignZone = false → ¬OtherZone request mad)

variable {request : PlacementRequest} {assigning before after : Assigning} {pmad left : Nat}
  {table : List (Option Nat)} {mads : Nat → MadhavaInfo}

/-- The paths of `check_madhava`. -/
lemma checkMadhava_cases (request : PlacementRequest) (assigning : Assigning) (pmad : Nat) :
    let mad := assigning.mads pmad
    let checked := checkMadhava request assigning pmad
    (¬Open request assigning.ignMadid mad ∧ checked = (assigning, false)) ∨
    Open request assigning.ignMadid mad ∧
      (assigning.ignRegion = false ∧ OtherRegion request mad ∧
          checked = ({ assigning with regionerr := assigning.regionerr + 1 }, false) ∨
        assigning.ignRegion = false ∧ assigning.ignZone = false ∧ OtherZone request mad ∧
          checked = ({ assigning with zoneerr := assigning.zoneerr + 1 }, false) ∨
        Suits request assigning.ignZone assigning.ignRegion mad ∧
          checked = checkCapacity assigning pmad) := by
  simp only [checkMadhava]
  split
  next isOpen =>
    refine .inr ⟨isOpen, ?_⟩
    split
    next filtered =>
      rw [Bool.and_eq_true, Bool.not_eq_true'] at filtered
      split
      next other => exact .inl ⟨filtered.2, ⟨filtered.1, other⟩, rfl⟩
      next same =>
      rw [not_ne_iff] at same
      split
      next other => exact .inr (.inl ⟨filtered.2, other.1, ⟨filtered.1, same, other.2⟩, rfl⟩)
      next fits =>
      exact .inr (.inr ⟨fun _ => ⟨fun other => other.2 same,
        fun looked other => fits ⟨looked, other.2.2⟩⟩, rfl⟩)
    next unfiltered =>
      rw [Bool.and_eq_true, Bool.not_eq_true'] at unfiltered
      exact .inr (.inr ⟨fun looked => ⟨fun other => unfiltered ⟨other.1, looked⟩,
        fun _ other => unfiltered ⟨other.1, looked⟩⟩, rfl⟩)
  next notOpen => exact .inl ⟨notOpen, rfl⟩

/-- What failed checks leave of the servers `mads`: only the count of recent additions grows,
and no server gains or loses its spare room by that.  `left` further checks do not make the
32-bit sum of the counters wrap. -/
structure Kept (mads : Nat → MadhavaInfo) (left : Nat) (after : Nat → MadhavaInfo) : Prop where
  same : ∀ pmad, after pmad = { mads pmad with currParAdds := (after pmad).currParAdds }
  spare : ∀ pmad, Spare (after pmad) ↔ Spare (mads pmad)
  room : ∀ pmad, (after pmad).nparthaNodes.toNat + (after pmad).currParAdds.toNat +
    (after pmad).lastParAdds.toNat + left < 2 ^ 32

namespace Kept

lemma mono {more : Nat} (kept : Kept mads more assigning.mads) (le : left ≤ more) :
    Kept mads left assigning.mads :=
  ⟨kept.same, kept.spare, fun pmad => by have := kept.room pmad; omega⟩

lemma checkCapacity_iff (kept : Kept mads (left + 1) assigning.mads) :
    (checkCapacity assigning pmad).2 = true ↔ Spare (mads pmad) := by
  have room := kept.room pmad
  have most := (assigning.mads pmad).maxParthaNodes.toNat_lt
  rw [← kept.spare pmad, Spare, checkCapacity]
  simp only [UInt32.lt_iff_toNat_lt, UInt32.toNat_add, UInt32.toNat_one]
  split
  · simp only [decide_eq_true_eq]
    omega
  · simp only [Bool.false_eq_true, false_iff]
    omega

lemma checkCapacity (kept : Kept mads (left + 1) assigning.mads)
    (failed : (checkCapacity assigning pmad).2 = false) :
    Kept mads left (checkCapacity assigning pmad).1.mads := by
  have full : ¬Spare (mads pmad) := by
    rw [← kept.checkCapacity_iff, failed]
    exact Bool.false_ne_true
  rw [PlacementRequest.checkCapacity]
  split
  · have counted : ((assigning.mads pmad).currParAdds + 1).toNat =
        (assigning.mads pmad).currParAdds.toNat + 1 := by
      have := kept.room pmad
      rw [UInt32.toNat_add, UInt32.toNat_one]
      omega
    constructor
    all_goals
      intro other
      simp only [countAdd]
      split
    next isPmad => rw [isPmad, kept.same pmad]
    · exact kept.same other
    next isPmad =>
      have still := mt (kept.spare pmad).mp full
      rw [isPmad, iff_false_right full]
      simp only [Spare, counted] at still ⊢
      omega
    · exact kept.spare other
    next isPmad =>
      have := kept.room pmad
      simp only [counted]
      omega
    · have := kept.room other
      omega
  · exact kept.mono (Nat.le_succ left)

end Kept

/-- The check passes. -/
def Accepts (request : PlacementRequest) (ignZone ignRegion : Bool) (ignMadid : UInt64)
    (mad : MadhavaInfo) : Prop :=
  Open request ignMadid mad ∧ Suits request ignZone ignRegion mad ∧ Spare mad

/-- What a walk over `table` leaves that finds no server. -/
structure Failed (request : PlacementRequest) (mads : Nat → MadhavaInfo) (left : Nat)
    (table : List (Option Nat)) (before after : Assigning) : Prop where
  kept : Kept mads left after.mads
  ignZone : after.ignZone = before.ignZone
  ignRegion : after.ignRegion = before.ignRegion
  ignMadid : after.ignMadid = before.ignMadid
  rejects : ∀ pmad, some pmad ∈ table →
    ¬Accepts request before.ignZone before.ignRegion before.ignMadid (mads pmad)
  regionerr : after.regionerr > 0 ↔ before.regionerr > 0 ∨ before.ignRegion = false ∧
    ∃ pmad, some pmad ∈ table ∧ Open request before.ignMadid (mads pmad) ∧
      OtherRegion request (mads pmad)
  zoneerr : after.zoneerr > 0 ↔ before.zoneerr > 0 ∨ before.ignRegion = false ∧
    before.ignZone = false ∧ ∃ pmad, some pmad ∈ table ∧
      Open request before.ignMadid (mads pmad) ∧ OtherZone request (mads pmad)

namespace Failed

lemma single {others : Nat → MadhavaInfo} {regionerr zoneerr : Nat}
    (kept : Kept mads left others)
    (rejects : ¬Accepts request before.ignZone before.ignRegion before.ignMadid (mads pmad))
    (region : regionerr > 0 ↔ before.regionerr > 0 ∨ before.ignRegion = false ∧
      Open request before.ignMadid (mads pmad) ∧ OtherRegion request (mads pmad))
    (zone : zoneerr > 0 ↔ before.zoneerr > 0 ∨ before.ignRegion = false ∧ before.ignZone = false ∧
      Open request before.ignMadid (mads pmad) ∧ OtherZone request (mads pmad)) :
    Failed request mads left [some pmad] before
      { before with mads := others, regionerr := regionerr, zoneerr := zoneerr } := by
  refine ⟨kept, rfl, rfl, rfl, ?_, ?_, ?_⟩
  · intro other mem
    rw [Option.some.inj (mem_singleton.mp mem)]
    exact rejects
  · simpa using region
  · simpa using zone

lemma cons {entry : Option Nat} {middle : Assigning}
    (first : Failed request mads (left + table.length) [entry] before middle)
    (rest : Failed request mads left table middle after) :
    Failed request mads left (entry :: table) before after := by
  have one := first.rejects
  have two := rest.rejects
  have regionerr := rest.regionerr
  have zoneerr := rest.zoneerr
  rw [first.regionerr] at regionerr
  rw [first.zoneerr] at zoneerr
  rw [first.ignMadid, first.ignRegion] at two regionerr zoneerr
  rw [first.ignZone] at two zoneerr
  refine ⟨rest.kept, rest.ignZone.trans first.ignZone, rest.ignRegion.trans first.ignRegion,
    rest.ignMadid.trans first.ignMadid, ?_, ?_, ?_⟩
  · intro pmad mem
    rcases mem_cons.mp mem with isFirst | inRest
    · exact one pmad (isFirst ▸ mem_singleton_self _)
    · exact two pmad inRest
  · rw [regionerr, or_assoc, ← and_or_left]
    simp only [mem_cons, not_mem_nil, or_false, or_and_right, exists_or]
  · rw [zoneerr, or_assoc, ← and_or_left, ← and_or_left]
    simp only [mem_cons, not_mem_nil, or_false, or_and_right, exists_or]

end Failed

/-- A check that passes accepts the server, and one that fails leaves what a walk over the
server alone leaves. -/
lemma checkMadhava_spec (request : PlacementRequest) (pmad : Nat)
    (kept : Kept mads (left + 1) assigning.mads) :
    (checkMadhava request assigning pmad).2 = true ∧
        Accepts request assigning.ignZone assigning.ignRegion assigning.ignMadid (mads pmad) ∨
      (checkMadhava request assigning pmad).2 = false ∧
        Failed request mads left [some pmad] assigning
          (checkMadhava request assigning pmad).1 := by
  have cases := checkMadhava_cases request assigning pmad
  rw [kept.same pmad] at cases
  have fewer := kept.mono (Nat.le_succ left)
  rcases cases with ⟨notOpen, checked⟩ | ⟨isOpen, ⟨looked, other, checked⟩ |
    ⟨looked, zoneLooked, other, checked⟩ | ⟨suits, checked⟩⟩
  · rw [checked]
    exact .inr ⟨rfl, .single fewer (fun accepts => notOpen accepts.1)
      (iff_self_or.mpr fun noted => absurd noted.2.1 notOpen)
      (iff_self_or.mpr fun noted => absurd noted.2.2.1 notOpen)⟩
  · rw [checked]
    exact .inr ⟨rfl, .single fewer (fun accepts => (accepts.2.1 looked).1 other)
      (iff_of_true (Nat.succ_pos _) (.inr ⟨looked, isOpen, other⟩))
      (iff_self_or.mpr fun noted => absurd noted.2.2.2.2.1 other.2)⟩
  · rw [checked]
    exact .inr ⟨rfl, .single fewer (fun accepts => (accepts.2.1 looked).2 zoneLooked other)
      (iff_self_or.mpr fun noted => absurd other.2.1 noted.2.2.2)
      (iff_of_true (Nat.succ_pos _) (.inr ⟨looked, zoneLooked, isOpen, other⟩))⟩
  · rw [checked]
    cases passed : (checkCapacity assigning pmad).2 with
    | true => exact .inl ⟨rfl, isOpen, suits, kept.checkCapacity_iff.mp passed⟩
    | false =>
      have full : ¬Spare (mads pmad) := by
        rw [← kept.checkCapacity_iff, passed]
        exact Bool.false_ne_true
      have same : (checkCapacity assigning pmad).1 =
          { assigning with mads := (checkCapacity assigning pmad).1.mads } := by
        rw [checkCapacity]
        split
        · rfl
        · rfl
      rw [same]
      exact .inr ⟨rfl, .single (kept.checkCapacity passed) (fun accepts => full accepts.2.2)
        (iff_self_or.mpr fun noted => absurd noted.2.2 (suits noted.1).1)
        (iff_self_or.mpr fun noted => absurd noted.2.2.2 ((suits noted.1).2 noted.2.1))⟩

/-- A walk returns a server of the table that its check accepts, or no server is accepted. -/
lemma walkTable_spec (request : PlacementRequest) (table : List (Option Nat)) (before : Assigning)
    (kept : Kept mads (left + table.length) before.mads) :
    (∃ pmad, (walkTable request table before).2 = some pmad ∧ some pmad ∈ table ∧
        Accepts request before.ignZone before.ignRegion before.ignMadid (mads pmad)) ∨
      (walkTable request table before).2 = none ∧
        Failed request mads left table before (walkTable request table before).1 := by
  induction table generalizing before with
  | nil =>
    right
    refine ⟨rfl, kept, rfl, rfl, rfl, fun _ mem => absurd mem not_mem_nil, ?_, ?_⟩
    all_goals simp [walkTable]
  | cons entry rest ih =>
    rw [length_cons, ← Nat.add_assoc] at kept
    cases entry with
    | none =>
      rcases ih before (kept.mono (Nat.le_succ _)) with ⟨pmad, found, mem, accepts⟩ | ⟨none, failed⟩
      · exact .inl ⟨pmad, found, mem_cons_of_mem _ mem, accepts⟩
      · refine .inr ⟨none, .cons ⟨kept.mono (Nat.le_succ _), rfl, rfl, rfl, ?_, ?_, ?_⟩ failed⟩
        all_goals simp
    | some pmad =>
      rw [walkTable]
      have spec := checkMadhava_spec request pmad kept
      rcases isChecked : checkMadhava request before pmad with ⟨middle, passed⟩
      rw [isChecked] at spec
      rcases spec with ⟨rfl, accepts⟩ | ⟨rfl, failed⟩
      · exact .inl ⟨pmad, rfl, mem_cons_self, accepts⟩
      rcases ih middle failed.kept with ⟨other, found, mem, accepts⟩ | ⟨none, rest⟩
      · rw [failed.ignZone, failed.ignRegion, failed.ignMadid] at accepts
        exact .inl ⟨other, found, mem_cons_of_mem _ mem, accepts⟩
      · exact .inr ⟨none, .cons failed rest⟩

/-- The servers of the first checks: the remembered one, the current one and the table. -/
def checkedFirst (request : PlacementRequest) (table : MadhavaTable) (dbstat : Option PardbStat) :
    List (Option Nat) :=
  request.lastUsed table dbstat :: table.currMadhava :: table.madhavaTbl

lemma walkTable_cons (request : PlacementRequest) (entry : Option Nat) (rest : List (Option Nat))
    (assigning : Assigning) :
    walkTable request (entry :: rest) assigning =
      match walkTable request [entry] assigning with
      | (assigning, some pmad) => (assigning, some pmad)
      | (assigning, none) => walkTable request rest assigning := by
  cases entry with
  | none => rfl
  | some pmad =>
    simp only [walkTable]
    split
    · rfl
    · rfl

/-- The two servers that are tried first and the first pass are one walk. -/
lemma assignParthaMadhava_eq (request : PlacementRequest) (table : MadhavaTable)
    (dbstat : Option PardbStat) :
    assignParthaMadhava request table dbstat = furtherPasses request table.madhavaTbl
      (walkTable request (request.checkedFirst table dbstat)
        ⟨table.mads, 0, 0, false, false, request.ignMadid⟩) := by
  rw [checkedFirst, walkTable_cons, assignParthaMadhava]
  simp only [tryFirst]
  split
  · rfl
  simp only [walkTable_cons request table.currMadhava table.madhavaTbl]
  split
  · rfl
  · rfl

/-- One of the first checks meets an open server with the property. -/
def Meets (request : PlacementRequest) (table : MadhavaTable) (dbstat : Option PardbStat)
    (property : MadhavaInfo → Prop) : Prop :=
  ∃ pmad, some pmad ∈ request.checkedFirst table dbstat ∧
    Open request request.ignMadid (table.mads pmad) ∧ property (table.mads pmad)

/-- The last pass looks at the server to be avoided: the passes before it give up the region
(the zone) only if they met another server of another region (zone). -/
def LastPass (request : PlacementRequest) (table : MadhavaTable) (dbstat : Option PardbStat)
    (mad : MadhavaInfo) : Prop :=
  request.ignMadid ≠ 0 ∧
    (OtherRegion request mad → Meets request table dbstat (OtherRegion request)) ∧
    (OtherZone request mad → Meets request table dbstat (OtherRegion request) ∨
      Meets request table dbstat (OtherZone request))

/-- A server for the host: the remembered or the current one if it is open, spare and of the
region and zone of the host, and else any live and spare one of the table, the server to be
avoided only in the last pass. -/
def Eligible (request : PlacementRequest) (table : MadhavaTable) (dbstat : Option PardbStat)
    (pmad : Nat) : Prop :=
  (request.lastUsed table dbstat = some pmad ∨ table.currMadhava = some pmad) ∧
      Accepts request false false request.ignMadid (table.mads pmad) ∨
    some pmad ∈ table.madhavaTbl ∧ Live request (table.mads pmad) ∧ Spare (table.mads pmad) ∧
      ((table.mads pmad).madhavaId ≠ request.ignMadid ∨
        LastPass request table dbstat (table.mads pmad))

/-- What the passes leave that found no server: they have given up the zone, the region if
the propositions hold. -/
structure Narrowed (request : PlacementRequest) (table : MadhavaTable) (dbstat : Option PardbStat)
    (left : Nat) (zone region : Prop) (after : Assigning) : Prop where
  kept : Kept table.mads left after.mads
  ignMadid : after.ignMadid = request.ignMadid
  ignZone : after.ignZone = true ↔ zone
  ignRegion : after.ignRegion = true ↔ region
  regionerr : after.regionerr > 0 ↔ Meets request table dbstat (OtherRegion request)

section

variable {table : MadhavaTable} {dbstat : Option PardbStat} {zone : Prop}

lemma Failed.narrowed (failed : Failed request table.mads left (request.checkedFirst table dbstat)
      ⟨table.mads, 0, 0, false, false, request.ignMadid⟩ after) :
    Narrowed request table dbstat left False False after ∧
      (after.zoneerr > 0 ↔ Meets request table dbstat (OtherZone request)) := by
  have region := failed.regionerr
  have zone := failed.zoneerr
  simp only [gt_iff_lt, Nat.lt_irrefl, false_or, true_and] at region zone
  refine ⟨⟨failed.kept, failed.ignMadid, ?_, ?_, region⟩, zone⟩
  · rw [failed.ignZone]
    simp
  · rw [failed.ignRegion]
    simp

lemma Meets.of_table {property : MadhavaInfo → Prop} (listed : some pmad ∈ table.madhavaTbl)
    (isOpen : Open request request.ignMadid (table.mads pmad))
    (holds : property (table.mads pmad)) : Meets request table dbstat property :=
  ⟨pmad, mem_cons_of_mem _ (mem_cons_of_mem _ listed), isOpen, holds⟩

/-- The pass that gives up the zone. -/
lemma secondPass_spec
    (one : Narrowed request table dbstat (left + table.madhavaTbl.length) False False before) :
    let second := furtherPass request table.madhavaTbl (before.zoneerr > 0)
      (fun assigning => { assigning with ignZone := true }) (before, none)
    (∃ pmad, second.2 = some pmad ∧ some pmad ∈ table.madhavaTbl ∧
        Accepts request true false request.ignMadid (table.mads pmad)) ∨
      second.2 = none ∧ Narrowed request table dbstat left (before.zoneerr > 0) False second.1 ∧
        (before.zoneerr > 0 → ∀ pmad, some pmad ∈ table.madhavaTbl →
          ¬Accepts request true false request.ignMadid (table.mads pmad)) := by
  obtain ⟨others, regionerr, zoneerr, ignZone, ignRegion, ignMadid⟩ := before
  obtain ⟨kept, rfl, noZone, noRegion, noted⟩ := one
  obtain rfl : ignRegion = false := by simpa using noRegion
  simp only [furtherPass]
  by_cases other : zoneerr > 0
  · rw [if_pos (decide_eq_true other)]
    refine (walkTable_spec request table.madhavaTbl ⟨_, _, _, true, _, _⟩ kept).imp_right ?_
    rintro ⟨notFound, failed⟩
    refine ⟨notFound, ⟨failed.kept, failed.ignMadid, ?_, ?_, ?_⟩, fun _ => failed.rejects⟩
    · exact iff_of_true failed.ignZone other
    · rw [failed.ignRegion]
      exact noRegion
    · rw [failed.regionerr, noted, or_iff_left_iff_imp]
      rintro ⟨-, pmad, listed, isOpen, differs⟩
      exact .of_table listed isOpen differs
  · rw [if_neg (by simpa using other)]
    refine .inr ⟨rfl, ⟨kept.mono (Nat.le_add_right _ _), rfl, ?_, noRegion, noted⟩, ?_⟩
    · exact noZone.trans (iff_of_false id other)
    · exact fun isOther => absurd isOther other

/-- The pass that gives up the region. -/
lemma thirdPass_spec
    (two : Narrowed request table dbstat (left + table.madhavaTbl.length) zone False before) :
    let third := furtherPass request table.madhavaTbl (before.regionerr > 0)
      (fun assigning => { assigning with ignRegion := true }) (before, none)
    (∃ pmad, third.2 = some pmad ∧ some pmad ∈ table.madhavaTbl ∧
        Accepts request before.ignZone true request.ignMadid (table.mads pmad)) ∨
      third.2 = none ∧ Narrowed request table dbstat left zone
          (Meets request table dbstat (OtherRegion request)) third.1 ∧
        (Meets request table dbstat (OtherRegion request) →
          ∀ pmad, some pmad ∈ table.madhavaTbl →
            ¬Accepts request before.ignZone true request.ignMadid (table.mads pmad)) := by
  obtain ⟨others, regionerr, zoneerr, ignZone, ignRegion, ignMadid⟩ := before
  obtain ⟨kept, rfl, isZone, noRegion, noted⟩ := two
  simp only [furtherPass]
  by_cases other : regionerr > 0
  · rw [if_pos (decide_eq_true other)]
    refine (walkTable_spec request table.madhavaTbl ⟨_, _, _, _, true, _⟩ kept).imp_right ?_
    rintro ⟨notFound, failed⟩
    refine ⟨notFound, ⟨failed.kept, failed.ignMadid, ?_, ?_, ?_⟩, fun _ => failed.rejects⟩
    · rw [failed.ignZone]
      exact isZone
    · exact iff_of_true failed.ignRegion (noted.mp other)
    · rw [failed.regionerr, noted, or_iff_left_iff_imp]
      exact fun looked => absurd looked.1 (by simp)
  · rw [if_neg (by simpa using other)]
    refine .inr ⟨rfl, ⟨kept.mono (Nat.le_add_right _ _), rfl, isZone, ?_, noted⟩, ?_⟩
    · exact noRegion.trans (iff_of_false id (mt noted.mpr other))
    · exact fun isOther => absurd (noted.mpr isOther) other

/-- What the passes return: an eligible server, or none if no server is eligible. -/
def Decided (request : PlacementRequest) (table : MadhavaTable) (dbstat : Option PardbStat)
    (found : Option Nat) : Prop :=
  (∃ pmad, found = some pmad ∧ Live request (table.mads pmad) ∧ Spare (table.mads pmad) ∧
      Eligible request table dbstat pmad) ∨
    found = none ∧ ∀ pmad, ¬Eligible request table dbstat pmad

lemma Decided.of_table {ignZone ignRegion : Bool} (listed : some pmad ∈ table.madhavaTbl)
    (accepts : Accepts request ignZone ignRegion request.ignMadid (table.mads pmad)) :
    Decided request table dbstat (some pmad) :=
  .inl ⟨pmad, rfl, accepts.1.2, accepts.2.2,
    .inr ⟨listed, accepts.1.2, accepts.2.2, .inl accepts.1.1⟩⟩

/-- The pass that gives up the server to be avoided, if no other server is eligible. -/
lemma lastPass_decided
    (three : Narrowed request table dbstat table.madhavaTbl.length
      (Meets request table dbstat (OtherZone request))
      (Meets request table dbstat (OtherRegion request)) before)
    (rest : ∀ {pmad}, Eligible request table dbstat pmad → some pmad ∈ table.madhavaTbl ∧
      Live request (table.mads pmad) ∧ Spare (table.mads pmad) ∧
      (table.mads pmad).madhavaId = request.ignMadid ∧
      LastPass request table dbstat (table.mads pmad)) :
    Decided request table dbstat (furtherPass request table.madhavaTbl (before.ignMadid != 0)
      (fun assigning => { assigning with ignMadid := 0 }) (before, none)).2 := by
  obtain ⟨others, regionerr, zoneerr, ignZone, ignRegion, ignMadid⟩ := before
  obtain ⟨kept, rfl, isZone, isRegion, -⟩ := three
  simp only [furtherPass]
  by_cases isZero : request.ignMadid = 0
  · rw [if_neg (by simpa using isZero)]
    exact .inr ⟨rfl, fun pmad eligible => (rest eligible).2.2.2.2.1 isZero⟩
  rw [if_pos (by simpa using isZero)]
  rw [← Nat.zero_add table.madhavaTbl.length] at kept
  rcases walkTable_spec request table.madhavaTbl ⟨_, regionerr, zoneerr, ignZone, ignRegion, 0⟩
    kept with ⟨pmad, found, listed, isOpen, suits, spare⟩ | ⟨notFound, failed⟩
  · refine .inl ⟨pmad, found, isOpen.2, spare, .inr ⟨listed, isOpen.2, spare, .inr ⟨isZero, ?_⟩⟩⟩
    constructor
    · intro other
      by_contra notMet
      exact (suits (by simpa using mt isRegion.mp notMet)).1 other
    · intro other
      by_contra notMet
      rw [not_or] at notMet
      exact (suits (by simpa using mt isRegion.mp notMet.1)).2
        (by simpa using mt isZone.mp notMet.2) other
  · refine .inr ⟨notFound, fun pmad eligible => ?_⟩
    obtain ⟨listed, live, spare, isAvoided, -, region, zone⟩ := rest eligible
    refine failed.rejects pmad listed ⟨⟨?_, live⟩, fun looked => ⟨?_, ?_⟩, spare⟩
    · rw [isAvoided]
      exact isZero
    · intro other
      exact absurd (isRegion.mpr (region other)) (by simpa using looked)
    · intro zoneLooked other
      rcases zone other with metRegion | metZone
      · exact absurd (isRegion.mpr metRegion) (by simpa using looked)
      · exact absurd (isZone.mpr metZone) (by simpa using zoneLooked)

/-- An eligible server is assigned, or none if none is eligible. -/
lemma assign_decided
    (kept : Kept table.mads (3 * table.madhavaTbl.length +
      (request.checkedFirst table dbstat).length) table.mads) :
    Decided request table dbstat (assignParthaMadhava request table dbstat).2 := by
  rw [assignParthaMadhava_eq]
  have spec := walkTable_spec request (request.checkedFirst table dbstat)
    ⟨table.mads, 0, 0, false, false, request.ignMadid⟩ kept
  generalize walkTable request (request.checkedFirst table dbstat) _ = first at spec ⊢
  obtain ⟨one, first⟩ := first
  simp only [furtherPasses]
  rcases spec with ⟨pmad, rfl, mem, accepts⟩ | ⟨rfl, failed⟩
  · rcases mem_cons.mp mem with isLast | mem
    · exact .inl ⟨pmad, rfl, accepts.1.2, accepts.2.2, .inl ⟨.inl isLast.symm, accepts⟩⟩
    rcases mem_cons.mp mem with isCurr | listed
    · exact .inl ⟨pmad, rfl, accepts.1.2, accepts.2.2, .inl ⟨.inr isCurr.symm, accepts⟩⟩
    · exact .of_table listed accepts
  have rejectsFirst := failed.rejects
  obtain ⟨narrowed, meetsZone⟩ := failed.narrowed
  rw [show 3 * table.madhavaTbl.length = 2 * table.madhavaTbl.length + table.madhavaTbl.length by
    omega] at narrowed
  have spec := secondPass_spec narrowed
  generalize furtherPass request table.madhavaTbl (one.zoneerr > 0) _ _ = second at spec ⊢
  obtain ⟨two, second⟩ := second
  rcases spec with ⟨pmad, rfl, listed, accepts⟩ | ⟨rfl, narrowed, rejectsSecond⟩
  · exact .of_table listed accepts
  rw [Nat.two_mul] at narrowed
  have spec := thirdPass_spec narrowed
  generalize furtherPass request table.madhavaTbl (two.regionerr > 0) _ _ = third at spec ⊢
  obtain ⟨three, third⟩ := third
  rcases spec with ⟨pmad, rfl, listed, accepts⟩ | ⟨rfl, narrowed, rejectsThird⟩
  · exact .of_table listed accepts
  rw [meetsZone] at narrowed rejectsSecond
  apply lastPass_decided narrowed
  rintro pmad (⟨isFirst, accepts⟩ | ⟨listed, live, spare, reached⟩)
  · refine absurd accepts (rejectsFirst pmad ?_)
    rw [checkedFirst, mem_cons, mem_cons]
    exact isFirst.elim (fun isLast => .inl isLast.symm) fun isCurr => .inr (.inl isCurr.symm)
  -- an open server with room is rejected by none of the passes
  have isAvoided : (table.mads pmad).madhavaId = request.ignMadid := by
    by_contra differs
    have isOpen : Open request request.ignMadid (table.mads pmad) := ⟨differs, live⟩
    by_cases otherRegion : OtherRegion request (table.mads pmad)
    · exact rejectsThird (.of_table listed isOpen otherRegion) pmad listed
        ⟨isOpen, fun looked => absurd looked (by simp), spare⟩
    by_cases otherZone : OtherZone request (table.mads pmad)
    · exact rejectsSecond (.of_table listed isOpen otherZone) pmad listed
        ⟨isOpen, fun _ => ⟨otherRegion, fun looked => absurd looked (by simp)⟩, spare⟩
    · exact rejectsFirst pmad (mem_cons_of_mem _ (mem_cons_of_mem _ listed))
        ⟨isOpen, fun _ => ⟨otherRegion, fun _ => otherZone⟩, spare⟩
  exact ⟨listed, live, spare, isAvoided, reached.resolve_left (not_not_intro isAvoided)⟩

end

/-- The server returned for a host is live and has room for it beside the hosts registered and
lately added, and one is returned exactly if a server is eligible.  The hypothesis keeps the
32-bit sum of the counters below its range for all checks of the call. -/
theorem placement_finds_server (request : PlacementRequest) (table : MadhavaTable)
    (dbstat : Option PardbStat)
    (counted : ∀ pmad, (table.mads pmad).nparthaNodes.toNat +
      (table.mads pmad).currParAdds.toNat + (table.mads pmad).lastParAdds.toNat +
      4 * table.madhavaTbl.length + 2 < 2 ^ 32) :
    (∀ pmad, (assignParthaMadhava request table dbstat).2 = some pmad →
      Live request (table.mads pmad) ∧ Spare (table.mads pmad)) ∧
    ((assignParthaMadhava request table dbstat).2 ≠ none ↔
      ∃ pmad, Eligible request table dbstat pmad) := by
  have kept : Kept table.mads (3 * table.madhavaTbl.length +
      (request.checkedFirst table dbstat).length) table.mads := by
    refine ⟨fun _ => rfl, fun _ => Iff.rfl, fun pmad => ?_⟩
    have := counted pmad
    simp only [checkedFirst, length_cons]
    omega
  rcases assign_decided kept with ⟨pmad, found, live, spare, eligible⟩ | ⟨none, notEligible⟩
  · rw [found]
    refine ⟨?_, iff_of_true (Option.some_ne_none _) ⟨pmad, eligible⟩⟩
    intro other isOther
    rw [← Option.some.inj isOther]
    exact ⟨live, spare⟩
  · rw [none]
    refine ⟨fun _ isSome => absurd isSome (by simp), iff_of_false (not_not_intro rfl) ?_⟩
    rintro ⟨pmad, eligible⟩
    exact notEligible pmad eligible

/-- One live server with room, to be avoided by the host it served. -/
def oneServer : MadhavaTable where
  mads := fun _ => ⟨5, 5000, [97], [98], 0, 10, 3, 2⟩
  madhavaTbl := [some 0]
  currMadhava := none

/-- The server is returned if its region and zone are those of the host. -/
theorem avoided_server_returned :
    (∀ pmad, (oneServer.mads pmad).nparthaNodes.toNat + (oneServer.mads pmad).currParAdds.toNat +
      (oneServer.mads pmad).lastParAdds.toNat + 4 * oneServer.madhavaTbl.length + 2 < 2 ^ 32) ∧
      (assignParthaMadhava ⟨[97], [98], 5, 1000⟩ oneServer none).2 ≠ none := by
  have counted : ∀ pmad, (oneServer.mads pmad).nparthaNodes.toNat +
      (oneServer.mads pmad).currParAdds.toNat + (oneServer.mads pmad).lastParAdds.toNat +
      4 * oneServer.madhavaTbl.length + 2 < 2 ^ 32 :=
    fun _ => show (0 : UInt32).toNat + (3 : UInt32).toNat + (2 : UInt32).toNat + 4 + 2 < 2 ^ 32 by
      decide
  refine ⟨counted, ?_⟩
  refine (placement_finds_server ⟨[97], [98], 5, 1000⟩ oneServer none counted).2.mpr
    ⟨0, .inr ⟨by decide, show 5000 > max (1000 - 600) 60 by decide, show _ < _ by decide,
      .inr ⟨by decide, ?_, ?_⟩⟩⟩
  · exact fun other => absurd rfl other.2
  · exact fun other => absurd rfl other.2.2

/-- It is not returned if it is in another region, although no other server is left. -/
theorem avoided_server_not_returned :
    Live ⟨[99], [98], 5, 1000⟩ (oneServer.mads 0) ∧ Spare (oneServer.mads 0) ∧
      (assignParthaMadhava ⟨[99], [98], 5, 1000⟩ oneServer none).2 = none :=
  ⟨show 5000 > max (1000 - 600) 60 by decide, show _ < _ by decide, by decide⟩

end PlacementRequest

end Gyeeta.Hosts
