import Mathlib.Data.List.Basic
import Mathlib.Data.List.Chain
import Mathlib.Logic.Function.Basic
import Mathlib.Tactic.Ring
import Gyeeta.Lib.Run

/-!
# Realtime alerts of the shyama server

A realtime alert definition counts the hits of a key in an alert object, raises an alert once
enough of them came in time, repeats it at most every so often, and closes it when the hits stop
or it is too old.  A map ordered by time says when an object is checked.  The id of an alert
object is a hash; an alert with the id 0 is not sent, but its close is.
-/

namespace Gyeeta.Alerts

open List

/-! ## The id of an alert object -/

/-- `__jhash_mix` -/
def jhashMix (a b c : BitVec 32) : BitVec 32 × BitVec 32 × BitVec 32 :=
  let a := (a - b - c) ^^^ (c >>> 13)
  let b := (b - c - a) ^^^ (a <<< 8)
  let c := (c - a - b) ^^^ (b >>> 13)
  let a := (a - b - c) ^^^ (c >>> 12)
  let b := (b - c - a) ^^^ (a <<< 16)
  let c := (c - a - b) ^^^ (b >>> 5)
  let a := (a - b - c) ^^^ (c >>> 3)
  let b := (b - c - a) ^^^ (a <<< 10)
  let c := (c - a - b) ^^^ (b >>> 15)
  (a, b, c)

/-- The loop of `jhash2` and the words behind it. -/
def jhashWords (length : Nat) (a b c : BitVec 32) : List (BitVec 32) → BitVec 32
  | first :: second :: third :: words =>
    let mixed := jhashMix (a + first) (b + second) (c + third)
    jhashWords length mixed.1 mixed.2.1 mixed.2.2 words
  | [first, second] => (jhashMix (a + first) (b + second) (c + BitVec.ofNat 32 (length * 4))).2.2
  | [first] => (jhashMix (a + first) b (c + BitVec.ofNat 32 (length * 4))).2.2
  | [] => (jhashMix a b (c + BitVec.ofNat 32 (length * 4))).2.2

def jhash2 (words : List (BitVec 32)) (initval : BitVec 32) : BitVec 32 :=
  jhashWords words.length 0x9e3779b9 0x9e3779b9 initval words

/-- `ALERT_STAT_HASH` of the definition and the key of an object, without a machine id. -/
def alertStatHash (shyamaId adefId keyid tcurr : Nat) : BitVec 32 :=
  jhash2 [0, 0, 0, 0, BitVec.ofNat 32 keyid, BitVec.ofNat 32 (keyid / 2 ^ 32),
    BitVec.ofNat 32 shyamaId, BitVec.ofNat 32 (shyamaId / 2 ^ 32), BitVec.ofNat 32 adefId,
    BitVec.ofNat 32 tcurr] 0xceedfead

/-! ## Definitions and objects -/

/-- `SHALERTDEF`: what the handler reads of a realtime definition. -/
structure ShAlertDef where
  numcheckfor : Nat
  subsysInterSec : Nat
  repeataftersec : Nat
  forceclosesec : Nat
  deriving DecidableEq, Repr

namespace ShAlertDef

def usecPerSec : Nat := 1000000

/-- `get_rt_max_multi_iter_sec`. -/
def rtMaxMultiIterSec (pdef : ShAlertDef) : Nat :=
  pdef.subsysInterSec + min (pdef.subsysInterSec / 2 + 1) 10

/-- `get_nextcheck_tusec`. -/
def nextcheckTusec (pdef : ShAlertDef) (currtusec currNumhits : Nat) : Nat :=
  let npend := if currNumhits < pdef.numcheckfor then pdef.numcheckfor - currNumhits else 1
  let nfor := if npend > 1 then (if pdef.subsysInterSec ≥ 60 then 2 else min npend 10) else 1
  let wait := (nfor * pdef.subsysInterSec + 15) * usecPerSec
  if nfor > 3 ∧ wait > 100 * usecPerSec then
    currtusec + (3 * pdef.subsysInterSec + 15) * usecPerSec
  else
    currtusec + wait

end ShAlertDef

inductive ShAlertState where
  | pending
  | fired
  deriving DecidableEq, Repr

/-- `SHALERT_STATS`: an alert object. -/
structure ShAlertStats where
  alertid : BitVec 32
  tlastHit : Nat
  tlastAlert : Nat
  trepeatAlert : Nat
  tforceClose : Nat
  tlastValidate : Nat
  tnextchkusec : Nat
  numhits : Nat
  numcheckfor : Nat
  nrepeats : Nat
  state : ShAlertState
  deriving DecidableEq, Repr

/-- An alert object is found by its definition and its key. -/
abbrev AlertKey := Nat × Nat

/-- `SHALERT_HDLR`: the alert objects of all definitions and the time map.  An entry of the map
points to an object, which is destroyed only where its entry is erased. -/
structure ShAlertHdlr where
  astatTbl : AlertKey → Option ShAlertStats
  atimemap : List (Nat × AlertKey)

/-- What is sent for an alert object. -/
inductive ShAlertMsg where
  | info (key : AlertKey)
  | close (key : AlertKey)
  deriving DecidableEq, Repr

namespace ShAlertHdlr

def init : ShAlertHdlr where
  astatTbl := fun _ => none
  atimemap := []

def setStat (hdlr : ShAlertHdlr) (key : AlertKey) (stat : Option ShAlertStats) : ShAlertHdlr :=
  { hdlr with astatTbl := Function.update hdlr.astatTbl key stat }

lemma setStat_self (hdlr : ShAlertHdlr) (key : AlertKey) (stat : Option ShAlertStats) :
    (hdlr.setStat key stat).astatTbl key = stat :=
  Function.update_self ..

/-- An entry of the time map, behind the entries of the same time. -/
def insertTimer (tusec : Nat) (key : AlertKey) : List (Nat × AlertKey) → List (Nat × AlertKey)
  | [] => [(tusec, key)]
  | entry :: rest =>
    if tusec < entry.1 then (tusec, key) :: entry :: rest else entry :: insertTimer tusec key rest

/-- The entry of an object gets a new time, if it is found under the old one. -/
def rekeyTimer (oldtusec newtusec : Nat) (key : AlertKey) (atimemap : List (Nat × AlertKey)) :
    List (Nat × AlertKey) :=
  if (oldtusec, key) ∈ atimemap then insertTimer newtusec key (atimemap.erase (oldtusec, key))
  else atimemap

/-! ## Hits -/

/-- The count of a hit, and whether it completes the hits that are needed. -/
def countHit (pdef : ShAlertDef) (stat : ShAlertStats) (tcurr : Nat) : ShAlertStats × Bool :=
  let numhits := (stat.numhits + 1) % 256
  if numhits > 1 ∧ stat.numcheckfor > 1 ∧ stat.tlastHit + pdef.rtMaxMultiIterSec ≤ tcurr then
    -- a flapping alert starts again
    ({ stat with numhits := 1, tlastHit := tcurr }, false)
  else if numhits ≥ pdef.numcheckfor then
    ({ stat with numhits := 1, tlastHit := tcurr }, true)
  else
    ({ stat with numhits := numhits, tlastHit := tcurr }, false)

/-- The alert of a hit that completes the hits that are needed.  The result is `none` if the
function returns `false`, and else `alertid_` of `astat`, which is 0 as long as no alert is set. -/
def raiseAlert (pdef : ShAlertDef) (stat : ShAlertStats) (isFired : Bool) (tcurr : Nat) :
    ShAlertStats × Option (BitVec 32) :=
  if isFired = true ∧
      (stat.tlastAlert = 0 ∨ stat.tlastAlert + pdef.repeataftersec < tcurr) then
    let trepeat := if pdef.repeataftersec > 0 then tcurr + pdef.repeataftersec else 0
    if stat.tlastAlert = 0 then
      ({ stat with
          state := .fired
          tforceClose := tcurr + pdef.forceclosesec
          tlastAlert := tcurr
          trepeatAlert := trepeat }, some stat.alertid)
    else if pdef.repeataftersec = 0 then
      (stat, none)
    else
      ({ stat with
          nrepeats := (stat.nrepeats + 1) % 256
          tlastAlert := tcurr
          trepeatAlert := trepeat }, some stat.alertid)
  else
    (stat, some 0)

section

variable (shyamaId : Nat) (defs : Nat → ShAlertDef)

/-- The hit of a key without an alert object. -/
def newHit (hdlr : ShAlertHdlr) (key : AlertKey) (tcurr currtusec : Nat) :
    ShAlertHdlr × Option (BitVec 32) :=
  let pdef := defs key.1
  let isFired : Bool := 1 = pdef.numcheckfor
  let tnextchkusec := pdef.nextcheckTusec currtusec 1
  let stat : ShAlertStats :=
    { alertid := alertStatHash shyamaId key.1 key.2 tcurr, tlastHit := tcurr, tlastAlert := 0
      trepeatAlert := 0, tforceClose := 0, tlastValidate := tcurr + 60
      tnextchkusec := tnextchkusec, numhits := 1, numcheckfor := pdef.numcheckfor % 256
      nrepeats := 0, state := if isFired then .fired else .pending }
  let raised := if isFired then raiseAlert pdef stat true tcurr else (stat, none)
  ({ hdlr.setStat key (some raised.1) with
      atimemap := insertTimer tnextchkusec key hdlr.atimemap }, raised.2)

/-- The hit of a key with an alert object. -/
def nextHit (hdlr : ShAlertHdlr) (key : AlertKey) (stat : ShAlertStats) (tcurr currtusec : Nat) :
    ShAlertHdlr × Option (BitVec 32) :=
  let counted := countHit (defs key.1) stat tcurr
  let raised := raiseAlert (defs key.1) counted.1 counted.2 tcurr
  if raised.2 = none then
    (hdlr.setStat key (some raised.1), raised.2)
  else
    let tnextchkusec :=
      (defs key.1).nextcheckTusec currtusec (if counted.2 then 1 else raised.1.numhits)
    ({ hdlr.setStat key (some { raised.1 with tnextchkusec := tnextchkusec }) with
        atimemap := rekeyTimer raised.1.tnextchkusec tnextchkusec key hdlr.atimemap }, raised.2)

def setAstatOnAlert (hdlr : ShAlertHdlr) (key : AlertKey) (tcurr currtusec : Nat) :
    ShAlertHdlr × Option (BitVec 32) :=
  match hdlr.astatTbl key with
  | none => newHit shyamaId defs hdlr key tcurr currtusec
  | some stat => nextHit defs hdlr key stat tcurr currtusec

/-- The check behind `set_astat_on_alert`: `!bret || 0 == astat.alertid_` skips the alert. -/
def hasAlert (result : Option (BitVec 32)) : Bool :=
  result.any (· ≠ 0)

/-- The part of `check_rt_clusterstate` for a key that the definition's filter takes. -/
def checkHit (hdlr : ShAlertHdlr) (key : AlertKey) (tcurr currtusec : Nat) :
    ShAlertHdlr × List ShAlertMsg :=
  let result := setAstatOnAlert shyamaId defs hdlr key tcurr currtusec
  (result.1, if hasAlert result.2 then [.info key] else [])

/-! ## Timer checks -/

def maxTotalAlertsPerHour : Nat := 30000

def usecPerYear : Nat := 365 * 24 * 3600 * ShAlertDef.usecPerSec

/-- The entries of the time map before this time are checked. -/
def checkLimit (tcurr : Nat) (checkAll : Bool) : Nat :=
  tcurr * ShAlertDef.usecPerSec + (if checkAll then usecPerYear else 0) + ShAlertDef.usecPerSec

/-- What becomes of an object that is checked. -/
inductive Checked where
  | erase (isClosed : Bool)
  | stay
  | move (tnextchkusec : Nat)
  deriving DecidableEq, Repr

/-- The check of the object of an entry for the time `tusec`. -/
def checkStat (pdef : ShAlertDef) (stat : ShAlertStats) (tcurr tusec : Nat) (checkAll : Bool) :
    Checked :=
  let currusec := tcurr * ShAlertDef.usecPerSec
  if stat.tlastHit + pdef.rtMaxMultiIterSec ≤ tcurr then
    .erase (stat.state ≠ .pending)
  else if stat.tlastAlert > 0 ∧ tcurr ≥ stat.tforceClose then
    .erase true
  else if checkAll = true ∧ tusec > currusec + ShAlertDef.usecPerSec then
    .stay
  else
    .move (pdef.nextcheckTusec currusec
      (if stat.numhits ≥ stat.numcheckfor then 1 else stat.numhits))

/-- An entry with a new time, among the entries already passed or those that follow: it is met
again only if it is put behind the next one. -/
def moveTimer (tusec : Nat) (key : AlertKey) (passed rest : List (Nat × AlertKey)) :
    List (Nat × AlertKey) × List (Nat × AlertKey) :=
  if rest.head?.all (tusec < ·.1) then (insertTimer tusec key passed, rest)
  else (passed, insertTimer tusec key rest)

/-- The loop of `validate_timemap` over the entries that follow, with those already passed. -/
def validateLoop (tcurr : Nat) (checkAll : Bool) : Nat → List (Nat × AlertKey) →
    List (Nat × AlertKey) → ShAlertHdlr → List ShAlertMsg → ShAlertHdlr × List ShAlertMsg
  | 0, passed, rest, hdlr, sent => ({ hdlr with atimemap := passed ++ rest }, sent)
  | _ + 1, passed, [], hdlr, sent => ({ hdlr with atimemap := passed }, sent)
  | fuel + 1, passed, (tusec, key) :: rest, hdlr, sent =>
    if tusec ≥ checkLimit tcurr checkAll then
      ({ hdlr with atimemap := passed ++ (tusec, key) :: rest }, sent)
    else
      match hdlr.astatTbl key with
      | none => validateLoop tcurr checkAll fuel passed rest hdlr sent
      | some stat =>
        if stat.tnextchkusec > tusec then
          validateLoop tcurr checkAll fuel passed rest hdlr sent
        else
          let stat := { stat with tlastValidate := tcurr }
          match checkStat (defs key.1) stat tcurr tusec checkAll with
          | .erase isClosed =>
            validateLoop tcurr checkAll fuel passed rest (hdlr.setStat key none)
              (if isClosed then sent ++ [.close key] else sent)
          | .stay =>
            validateLoop tcurr checkAll fuel (passed ++ [(tusec, key)]) rest
              (hdlr.setStat key (some stat)) sent
          | .move tnextchkusec =>
            let moved := moveTimer tnextchkusec key passed rest
            validateLoop tcurr checkAll fuel moved.1 moved.2
              (hdlr.setStat key (some { stat with tnextchkusec := tnextchkusec })) sent

/-- `validate_timemap`, which checks a bounded number of entries. -/
def validateTimemap (hdlr : ShAlertHdlr) (tcurr : Nat) (checkAll : Bool) :
    ShAlertHdlr × List ShAlertMsg :=
  validateLoop defs tcurr checkAll (maxTotalAlertsPerHour * 10 + 1) [] hdlr.atimemap hdlr []

/-- A hit of a key of a definition, or a timer check. -/
inductive ShAlertEvent where
  | hit (key : AlertKey) (tcurr currtusec : Nat)
  | check (tcurr : Nat) (checkAll : Bool)
  deriving DecidableEq, Repr

def ShAlertEvent.time : ShAlertEvent → Nat
  | hit _ tcurr _ => tcurr
  | check tcurr _ => tcurr

def step (hdlr : ShAlertHdlr) : ShAlertEvent → ShAlertHdlr × List ShAlertMsg
  | .hit key tcurr currtusec => checkHit shyamaId defs hdlr key tcurr currtusec
  | .check tcurr checkAll => validateTimemap defs hdlr tcurr checkAll

end

end ShAlertHdlr

/-! ## What is seen of an alert object -/

/-- The times of the hits of an alert object, latest first, the hits up to each alert that was
sent for it, latest first, and the number of closes that were sent. -/
structure AlertLife where
  hits : List Nat := []
  alerts : List (List Nat) := []
  closes : Nat := 0
  deriving DecidableEq, Repr

namespace AlertLife

open ShAlertHdlr

def hit (life : AlertLife) (tcurr : Nat) (isAlert : Bool) : AlertLife :=
  { life with
    hits := tcurr :: life.hits
    alerts := if isAlert then (tcurr :: life.hits) :: life.alerts else life.alerts }

def close (life : AlertLife) (count : Nat) : AlertLife :=
  { life with closes := life.closes + count }

/-- The life of the object that a key has, or had last, after an event.  A hit of a key without
an object starts a new life. -/
def observe (shyamaId : Nat) (defs : Nat → ShAlertDef) (key : AlertKey) (hdlr : ShAlertHdlr)
    (life : AlertLife) (event : ShAlertEvent) : AlertLife :=
  let sent := (hdlr.step shyamaId defs event).2
  match event with
  | .hit other tcurr _ =>
    if other = key then
      (if (hdlr.astatTbl key).isNone then {} else life).hit tcurr (ShAlertMsg.info key ∈ sent)
    else life
  | .check _ _ => life.close (sent.count (.close key))

/-- The times of the alerts, latest first. -/
def alertTimes (life : AlertLife) : List Nat :=
  life.alerts.filterMap List.head?

/-- `alertid_` of the object, from its key and its first hit. -/
def alertid (shyamaId : Nat) (key : AlertKey) (life : AlertLife) : BitVec 32 :=
  alertStatHash shyamaId key.1 key.2 (life.hits.getLast?.getD 0)

end AlertLife

/-- The handler and the life of the object of a key, after an event. -/
def observedStep (shyamaId : Nat) (defs : Nat → ShAlertDef) (key : AlertKey)
    (state : ShAlertHdlr × AlertLife) (event : ShAlertHdlr.ShAlertEvent) :
    ShAlertHdlr × AlertLife :=
  ((state.1.step shyamaId defs event).1, state.2.observe shyamaId defs key state.1 event)

/-! ## The discipline of an alert object -/

/-- The number of the latest hits each of which came less than `gap` after the one before. -/
def streak (gap : Nat) : List Nat → Nat
  | [] => 0
  | [_] => 1
  | tcurr :: previous :: hits =>
    if previous + gap ≤ tcurr then 1 else streak gap (previous :: hits) + 1

/-- At no hit so far had the needed number of hits come in time. -/
def Incomplete (pdef : ShAlertDef) (hits : List Nat) : Prop :=
  ∀ earlier, earlier <:+ hits → streak pdef.rtMaxMultiIterSec earlier < pdef.numcheckfor

/-- The latest hit is the first one at which the needed number of hits had come in time. -/
def CompletesFirst (pdef : ShAlertDef) (hits : List Nat) : Prop :=
  hits ≠ [] ∧ pdef.numcheckfor ≤ streak pdef.rtMaxMultiIterSec hits ∧ Incomplete pdef hits.tail

/-- The first alert comes exactly at the hit that completes the needed hits, alerts are more than
the repeat time apart, none follows the first if they are not repeated, and a close is sent at
most once, after an alert. -/
structure Disciplined (pdef : ShAlertDef) (life : AlertLife) : Prop where
  notYet : life.alerts = [] → Incomplete pdef life.hits
  first : ∀ first ∈ life.alerts.getLast?, first <:+ life.hits ∧ CompletesFirst pdef first
  atHits : ∀ hits ∈ life.alerts, hits ≠ [] ∧ hits <:+ life.hits
  apart : life.alertTimes.IsChain fun later earlier => earlier + pdef.repeataftersec < later
  noRepeat : pdef.repeataftersec = 0 → life.alerts.length ≤ 1
  closes : life.closes ≤ 1
  closed : life.closes = 1 → life.alerts ≠ []

variable {pdef : ShAlertDef} {hits : List Nat} {tcurr : Nat}

lemma incomplete_nil (needed : 1 ≤ pdef.numcheckfor) : Incomplete pdef [] := by
  intro earlier isSuffix
  rw [suffix_nil.mp isSuffix]
  exact needed

lemma incomplete_cons : Incomplete pdef (tcurr :: hits) ↔
    streak pdef.rtMaxMultiIterSec (tcurr :: hits) < pdef.numcheckfor ∧ Incomplete pdef hits := by
  constructor
  · intro incomplete
    exact ⟨incomplete _ suffix_rfl,
      fun earlier isSuffix => incomplete earlier (isSuffix.trans (suffix_cons _ _))⟩
  · rintro ⟨latest, older⟩ earlier isSuffix
    rcases suffix_cons_iff.mp isSuffix with rfl | isSuffix
    · exact latest
    · exact older earlier isSuffix

lemma streak_pos {gap : Nat} : 1 ≤ streak gap (tcurr :: hits) := by
  cases hits with
  | nil => exact Nat.le_refl 1
  | cons previous hits =>
    rw [streak]
    split <;> omega

lemma disciplined_empty (needed : 1 ≤ pdef.numcheckfor) : Disciplined pdef {} where
  notYet := fun _ => incomplete_nil needed
  first := by simp
  atHits := by simp
  apart := isChain_nil
  noRepeat := fun _ => Nat.zero_le 1
  closes := Nat.zero_le 1
  closed := fun isOne => absurd isOne Nat.zero_ne_one

variable {life : AlertLife}

/-- A hit without an alert, which completes the needed hits only after an alert. -/
lemma Disciplined.quietHit (disciplined : Disciplined pdef life)
    (waits : life.alerts = [] → Incomplete pdef (tcurr :: life.hits)) :
    Disciplined pdef (life.hit tcurr false) where
  notYet := waits
  first first isFirst :=
    (disciplined.first first isFirst).imp_left (·.trans (suffix_cons _ _))
  atHits hits mem := (disciplined.atHits hits mem).imp_right (·.trans (suffix_cons _ _))
  apart := disciplined.apart
  noRepeat := disciplined.noRepeat
  closes := disciplined.closes
  closed := disciplined.closed

/-- A hit with an alert, which completes the needed hits first, or is a repetition in time. -/
lemma Disciplined.alertHit (disciplined : Disciplined pdef life)
    (isFirst : life.alerts = [] →
      pdef.numcheckfor ≤ streak pdef.rtMaxMultiIterSec (tcurr :: life.hits))
    (isNext : life.alerts ≠ [] → pdef.repeataftersec ≠ 0 ∧
      ∀ earlier ∈ life.alertTimes.head?, earlier + pdef.repeataftersec < tcurr) :
    Disciplined pdef (life.hit tcurr true) := by
  have isSome : (life.hit tcurr true).alerts ≠ [] := cons_ne_nil _ _
  constructor
  · intro isNil
    exact absurd isNil isSome
  · by_cases none : life.alerts = []
    · intro first mem
      rw [show (life.hit tcurr true).alerts = [tcurr :: life.hits] from congrArg _ none,
        getLast?_singleton, Option.mem_some_iff] at mem
      rw [← mem]
      exact ⟨suffix_rfl, cons_ne_nil _ _, isFirst none, disciplined.notYet none⟩
    · intro first mem
      rw [show (life.hit tcurr true).alerts = (tcurr :: life.hits) :: life.alerts from rfl,
        getLast?_cons_of_ne_nil none] at mem
      exact (disciplined.first first mem).imp_left (·.trans (suffix_cons _ _))
  · intro hits mem
    rcases mem_cons.mp mem with rfl | mem
    · exact ⟨cons_ne_nil _ _, suffix_rfl⟩
    · exact (disciplined.atHits hits mem).imp_right (·.trans (suffix_cons _ _))
  · refine disciplined.apart.cons ?_
    intro earlier isEarlier
    by_cases none : life.alerts = []
    · rw [AlertLife.alertTimes, none] at isEarlier
      cases isEarlier
    · exact (isNext none).2 earlier isEarlier
  · intro isZero
    by_cases none : life.alerts = []
    · rw [show (life.hit tcurr true).alerts = [tcurr :: life.hits] from congrArg _ none]
      exact Nat.le_refl 1
    · exact absurd isZero (isNext none).1
  · exact disciplined.closes
  · intro _
    exact isSome

/-! ## An alert object and its life -/

/-- The life with all the alerts of the object, sent or not. -/
abbrev AlertLife.fired (life : AlertLife) (raised : List (List Nat)) : AlertLife :=
  { life with alerts := raised }

/-- What an alert object knows of its alerts, in a life in which all of them are sent. -/
structure Open (pdef : ShAlertDef) (stat : ShAlertStats) (life : AlertLife) : Prop
    extends Disciplined pdef life where
  isOpen : life.closes = 0
  needed : stat.numcheckfor = pdef.numcheckfor
  lastAlert : stat.tlastAlert = life.alertTimes.head?.getD 0
  positive : life.alerts ≠ [] → 0 < stat.tlastAlert

/-- An alert object agrees with a life in which all its alerts are sent. -/
structure Tracks (pdef : ShAlertDef) (stat : ShAlertStats) (life : AlertLife) : Prop
    extends Open pdef stat life where
  lastHit : life.hits.head? = some stat.tlastHit
  state : stat.state ≠ .pending → life.alerts ≠ []
  counted : life.alerts = [] → stat.numhits = streak pdef.rtMaxMultiIterSec life.hits

/-- An alert object once a hit is counted, before the alert. -/
structure Counted (pdef : ShAlertDef) (stat : ShAlertStats) (isFired : Bool) (life : AlertLife)
    (tcurr : Nat) : Prop extends Open pdef stat life where
  lastHit : stat.tlastHit = tcurr
  state : stat.state ≠ .pending → life.alerts ≠ [] ∨ isFired = true
  fires : life.alerts = [] → isFired =
    decide (pdef.numcheckfor ≤ streak pdef.rtMaxMultiIterSec (tcurr :: life.hits))
  counted : life.alerts = [] → isFired = false →
    stat.numhits = streak pdef.rtMaxMultiIterSec (tcurr :: life.hits)

open ShAlertHdlr

variable {stat : ShAlertStats} {isFired : Bool}

/-- What `raiseAlert` can do: nothing, or an alert that is the first one or a repetition. -/
lemma raiseAlert_cases (pdef : ShAlertDef) (stat : ShAlertStats) (isFired : Bool) (tcurr : Nat) :
    ((raiseAlert pdef stat isFired tcurr).1 = stat ∧
        hasAlert (raiseAlert pdef stat isFired tcurr).2 = false ∧
        (isFired = true → stat.tlastAlert ≠ 0)) ∨
      (isFired = true ∧ (raiseAlert pdef stat isFired tcurr).2 = some stat.alertid ∧
        (stat.tlastAlert ≠ 0 → pdef.repeataftersec ≠ 0 ∧
          stat.tlastAlert + pdef.repeataftersec < tcurr) ∧
        ∃ state tforceClose trepeatAlert nrepeats,
          (raiseAlert pdef stat isFired tcurr).1 =
            { stat with
              state := state, tforceClose := tforceClose, tlastAlert := tcurr
              trepeatAlert := trepeatAlert, nrepeats := nrepeats }) := by
  rw [raiseAlert]
  split
  next due =>
    by_cases isFirst : stat.tlastAlert = 0
    · simp only [if_pos isFirst]
      exact .inr ⟨due.1, trivial, fun some => absurd isFirst some, _, _, _, _, rfl⟩
    simp only [if_neg isFirst]
    split
    · exact .inl ⟨rfl, rfl, fun _ => isFirst⟩
    next repeats =>
      exact .inr ⟨due.1, rfl, fun _ => ⟨repeats, due.2.resolve_left isFirst⟩, _, _, _, _, rfl⟩
  next waits =>
    exact .inl ⟨rfl, rfl, fun fired isFirst => waits ⟨fired, .inl isFirst⟩⟩

lemma Open.lastAlert_eq_zero_iff (isOpen : Open pdef stat life) :
    stat.tlastAlert = 0 ↔ life.alerts = [] := by
  constructor
  · intro zero
    by_contra some
    exact Nat.ne_of_gt (isOpen.positive some) zero
  · intro none
    rw [isOpen.lastAlert, AlertLife.alertTimes, none]
    rfl

/-- The alert of a counted hit, if there is one, keeps the discipline. -/
lemma Counted.raise (counted : Counted pdef stat isFired life tcurr) (positive : 0 < tcurr)
    (tnextchkusec : Nat) :
    ∃ isAlert : Bool, Tracks pdef
        { (raiseAlert pdef stat isFired tcurr).1 with tnextchkusec := tnextchkusec }
        (life.hit tcurr isAlert) ∧
      hasAlert (raiseAlert pdef stat isFired tcurr).2 =
        (isAlert && decide (stat.alertid ≠ 0)) := by
  have isFirst := counted.lastAlert_eq_zero_iff
  rcases raiseAlert_cases pdef stat isFired tcurr with
    ⟨same, silent, notFirst⟩ | ⟨fired, isId, repeats, state, _, _, _, same⟩
  · have waits : life.alerts = [] → isFired = false := by
      intro none
      by_contra fired
      exact notFirst (Bool.not_eq_false _ ▸ fired) (isFirst.mpr none)
    refine ⟨false, ?_, silent⟩
    rw [same]
    refine ⟨⟨counted.quietHit fun none => ?_, counted.isOpen, counted.needed, counted.lastAlert,
      counted.positive⟩, congrArg some counted.lastHit.symm, ?_, fun none =>
      counted.counted none (waits none)⟩
    · have few := counted.fires none
      rw [waits none] at few
      exact incomplete_cons.mpr ⟨Nat.lt_of_not_le (of_decide_eq_false few.symm),
        counted.notYet none⟩
    · intro notPending none
      rcases counted.state notPending with some | fired
      · exact some none
      · exact absurd fired (Bool.eq_false_iff.mp (waits none))
  · refine ⟨true, ?_, by rw [isId]; rfl⟩
    rw [same]
    refine ⟨⟨counted.alertHit (fun none => ?_) (fun some => ?_), counted.isOpen, counted.needed,
      rfl, fun _ => positive⟩, congrArg some counted.lastHit.symm, fun _ => cons_ne_nil _ _,
      fun isNil => absurd isNil (cons_ne_nil _ _)⟩
    · exact of_decide_eq_true ((counted.fires none).symm.trans fired)
    · obtain ⟨isSome, later⟩ := repeats (mt isFirst.mp some)
      refine ⟨isSome, fun earlier isEarlier => ?_⟩
      have isLast := counted.lastAlert
      rw [Option.mem_def.mp isEarlier, Option.getD_some] at isLast
      rw [← isLast]
      exact later

lemma countHit_eq (pdef : ShAlertDef) (stat : ShAlertStats) (tcurr : Nat) :
    ∃ numhits, (countHit pdef stat tcurr).1 =
      { stat with numhits := numhits, tlastHit := tcurr } := by
  rw [countHit]
  split
  · exact ⟨1, rfl⟩
  split
  · exact ⟨1, rfl⟩
  · exact ⟨_, rfl⟩

/-- As long as there is no alert, the count is that of the hits in time. -/
lemma countHit_pending (tcurr : Nat) (tracks : Tracks pdef stat life)
    (most : pdef.numcheckfor ≤ 60) (none : life.alerts = []) :
    (countHit pdef stat tcurr).2 =
        decide (pdef.numcheckfor ≤ streak pdef.rtMaxMultiIterSec (tcurr :: life.hits)) ∧
      ((countHit pdef stat tcurr).2 = false → (countHit pdef stat tcurr).1.numhits =
          streak pdef.rtMaxMultiIterSec (tcurr :: life.hits)) := by
  have incomplete := tracks.notYet none
  have counted := tracks.counted none
  have lastHit := tracks.lastHit
  cases isHits : life.hits with
  | nil => simp [isHits] at lastHit
  | cons last hits =>
    rw [isHits] at incomplete counted lastHit
    have isLast : last = stat.tlastHit := Option.some.inj lastHit
    have few := incomplete _ suffix_rfl
    have some : 1 ≤ streak pdef.rtMaxMultiIterSec (last :: hits) := streak_pos
    have number : (stat.numhits + 1) % 256 = stat.numhits + 1 := Nat.mod_eq_of_lt (by omega)
    rw [countHit, number, streak, isLast]
    by_cases flapping : stat.tlastHit + pdef.rtMaxMultiIterSec ≤ tcurr
    · rw [if_pos ⟨by omega, by rw [tracks.needed]; omega, flapping⟩, if_pos flapping]
      exact ⟨(decide_eq_false (by omega)).symm, fun _ => rfl⟩
    rw [if_neg (fun flaps => flapping flaps.2.2), if_neg flapping, ← isLast, ← counted]
    by_cases enough : stat.numhits + 1 ≥ pdef.numcheckfor
    · rw [if_pos enough]
      exact ⟨(decide_eq_true enough).symm, fun isFalse => Bool.noConfusion isFalse⟩
    · rw [if_neg enough]
      exact ⟨(decide_eq_false enough).symm, fun _ => rfl⟩

lemma Tracks.count (tracks : Tracks pdef stat life) (most : pdef.numcheckfor ≤ 60) (tcurr : Nat) :
    Counted pdef (countHit pdef stat tcurr).1 (countHit pdef stat tcurr).2 life tcurr := by
  obtain ⟨numhits, same⟩ := countHit_eq pdef stat tcurr
  have pending := countHit_pending tcurr tracks most
  refine ⟨?_, ?_, ?_, fun none => (pending none).1, fun none => (pending none).2⟩
  all_goals rw [same]
  · exact { tracks.toOpen with }
  · exact fun notPending => .inl (tracks.state notPending)

/-! ## Runs -/

/-- If all alerts of the object are disciplined and those with the id 0 are not sent, then what is
seen is disciplined unless the id is 0 and the needed hits came. -/
lemma disciplined_iff_of_fired {raised : List (List Nat)} {alertid : BitVec 32}
    (disciplined : Disciplined pdef (life.fired raised))
    (sent : life.alerts = if alertid = 0 then [] else raised) :
    Disciplined pdef life ↔ Incomplete pdef life.hits ∨ alertid ≠ 0 := by
  have isSame : life.alerts = raised → Disciplined pdef life := by
    rintro rfl
    exact disciplined
  by_cases zero : alertid = 0
  · rw [if_pos zero] at sent
    rw [or_iff_left (not_not_intro zero)]
    refine ⟨fun seen => seen.notYet sent, fun incomplete => isSame ?_⟩
    rw [sent]
    by_contra some
    obtain ⟨first, isFirst⟩ := Option.isSome_iff_exists.mp
      (getLast?_isSome.mpr (Ne.symm some))
    obtain ⟨isSuffix, -, enough, -⟩ := disciplined.first first isFirst
    exact Nat.not_lt.mpr enough (incomplete first isSuffix)
  · rw [if_neg zero] at sent
    exact iff_of_true (isSame sent) (.inr zero)

section

variable {shyamaId : Nat} {key : AlertKey}

/-- An alert object agrees with what is seen of it. -/
def Lives (shyamaId : Nat) (pdef : ShAlertDef) (key : AlertKey) (stat : ShAlertStats)
    (life : AlertLife) : Prop :=
  stat.alertid = life.alertid shyamaId key ∧ ∃ raised, Tracks pdef stat (life.fired raised) ∧
    life.alerts = if stat.alertid = 0 then [] else raised

lemma Lives.disciplined_iff (lives : Lives shyamaId pdef key stat life) :
    Disciplined pdef life ↔ Incomplete pdef life.hits ∨ life.alertid shyamaId key ≠ 0 := by
  obtain ⟨isId, raised, tracks, sent⟩ := lives
  rw [← isId]
  exact disciplined_iff_of_fired tracks.toDisciplined sent

lemma alertid_raiseAlert (pdef : ShAlertDef) (stat : ShAlertStats) (isFired : Bool) (tcurr : Nat) :
    (raiseAlert pdef stat isFired tcurr).1.alertid = stat.alertid := by
  rcases raiseAlert_cases pdef stat isFired tcurr with ⟨same, -⟩ | ⟨-, -, -, _, _, _, _, same⟩
  · rw [same]
  · rw [same]

variable (shyamaId key)

lemma Counted.lives {raised : List (List Nat)}
    (counted : Counted pdef stat isFired (life.fired raised) tcurr) (positive : 0 < tcurr)
    (sent : life.alerts = if stat.alertid = 0 then [] else raised)
    (isId : ∀ isAlert, stat.alertid = (life.hit tcurr isAlert).alertid shyamaId key)
    (tnextchkusec : Nat) :
    Lives shyamaId pdef key
      { (raiseAlert pdef stat isFired tcurr).1 with tnextchkusec := tnextchkusec }
      (life.hit tcurr (hasAlert (raiseAlert pdef stat isFired tcurr).2)) := by
  obtain ⟨isAlert, tracks, isSent⟩ := counted.raise positive tnextchkusec
  have sameId := alertid_raiseAlert pdef stat isFired tcurr
  refine ⟨sameId.trans (isId _), _, tracks, ?_⟩
  rw [isSent]
  simp only [sameId, AlertLife.hit, sent]
  cases isAlert with
  | false => rfl
  | true =>
    by_cases zero : stat.alertid = 0
    · simp only [zero, ne_eq, not_true_eq_false, decide_false, Bool.and_false, if_true,
        Bool.false_eq_true, if_false]
    · simp only [zero, ne_eq, not_false_eq_true, decide_true, Bool.and_true, if_true, if_false]

lemma lives_newHit (needed : 1 ≤ pdef.numcheckfor) (most : pdef.numcheckfor ≤ 60)
    (positive : 0 < tcurr) (isNew : stat.alertid = alertStatHash shyamaId key.1 key.2 tcurr ∧
      stat.tlastHit = tcurr ∧ stat.tlastAlert = 0 ∧ stat.numhits = 1 ∧
      stat.numcheckfor = pdef.numcheckfor % 256 ∧
      stat.state = if decide (1 = pdef.numcheckfor) = true then .fired else .pending) :
    let raised := if decide (1 = pdef.numcheckfor) = true then raiseAlert pdef stat true tcurr
      else (stat, none)
    Lives shyamaId pdef key raised.1 (({} : AlertLife).hit tcurr (hasAlert raised.2)) := by
  obtain ⟨isId, lastHit, noAlert, one, needs, state⟩ := isNew
  have small : pdef.numcheckfor % 256 = pdef.numcheckfor := Nat.mod_eq_of_lt (by omega)
  have counted : Counted pdef stat (decide (1 = pdef.numcheckfor)) ({} : AlertLife) tcurr :=
    { disciplined_empty needed with
      isOpen := rfl
      needed := needs.trans small
      lastAlert := noAlert
      positive := fun some => absurd rfl some
      lastHit := lastHit
      state := fun notPending => .inr (by
        by_contra notOne
        rw [state, if_neg notOne] at notPending
        exact notPending rfl)
      fires := fun _ => decide_eq_decide.mpr ⟨Nat.le_of_eq ∘ Eq.symm, fun few =>
        Nat.le_antisymm needed few⟩
      counted := fun _ _ => one }
  intro raised
  have same : raised.1 =
        (raiseAlert pdef stat (decide (1 = pdef.numcheckfor)) tcurr).1 ∧
      hasAlert raised.2 =
        hasAlert (raiseAlert pdef stat (decide (1 = pdef.numcheckfor)) tcurr).2 := by
    by_cases isOne : 1 = pdef.numcheckfor
    · simp only [raised, decide_eq_true isOne, if_true, and_self]
    · simp [raised, isOne, raiseAlert, hasAlert]
  rw [same.1, same.2]
  exact @Counted.lives _ _ {} _ _ shyamaId key [] counted positive (ite_self _).symm
    (fun _ => isId) _

variable {shyamaId key}

/-- The object of the key, if there is one, agrees with its life; the life of the object it had
last is disciplined unless its id is 0 and the needed hits came. -/
structure Sound (shyamaId : Nat) (defs : Nat → ShAlertDef) (key : AlertKey) (hdlr : ShAlertHdlr)
    (life : AlertLife) : Prop where
  living : ∀ stat, hdlr.astatTbl key = some stat → Lives shyamaId (defs key.1) key stat life
  past : hdlr.astatTbl key = none → (Disciplined (defs key.1) life ↔
    Incomplete (defs key.1) life.hits ∨ life.alertid shyamaId key ≠ 0)

variable {defs : Nat → ShAlertDef} {hdlr : ShAlertHdlr}

lemma Sound.of_lives {other : ShAlertHdlr} (isStat : other.astatTbl key = some stat)
    (lives : Lives shyamaId (defs key.1) key stat life) : Sound shyamaId defs key other life where
  living found isFound := by
    rw [isStat] at isFound
    cases isFound
    exact lives
  past isNone := by
    rw [isStat] at isNone
    cases isNone

lemma Sound.of_eq {other : ShAlertHdlr} (sound : Sound shyamaId defs key hdlr life)
    (same : other.astatTbl key = hdlr.astatTbl key) : Sound shyamaId defs key other life where
  living stat isStat := sound.living stat (same ▸ isStat)
  past isNone := sound.past (same ▸ isNone)

lemma nextHit_eq (defs : Nat → ShAlertDef) (hdlr : ShAlertHdlr) (key : AlertKey)
    (stat : ShAlertStats) (tcurr currtusec : Nat) :
    let counted := countHit (defs key.1) stat tcurr
    let raised := raiseAlert (defs key.1) counted.1 counted.2 tcurr
    ∃ tnextchkusec atimemap, nextHit defs hdlr key stat tcurr currtusec =
      ({ hdlr.setStat key (some { raised.1 with tnextchkusec := tnextchkusec }) with
          atimemap := atimemap }, raised.2) := by
  intro counted raised
  rw [nextHit]
  split
  · exact ⟨raised.1.tnextchkusec, hdlr.atimemap, rfl⟩
  · exact ⟨_, _, rfl⟩

section

variable (needed : ∀ pdef, 1 ≤ (defs pdef).numcheckfor)
  (most : ∀ pdef, (defs pdef).numcheckfor ≤ 60) (positive : 0 < tcurr)
include most positive

lemma Lives.nextHit (lives : Lives shyamaId (defs key.1) key stat life) (hdlr : ShAlertHdlr)
    (currtusec : Nat) :
    Sound shyamaId defs key (nextHit defs hdlr key stat tcurr currtusec).1
      (life.hit tcurr (hasAlert (nextHit defs hdlr key stat tcurr currtusec).2)) := by
  obtain ⟨isId, raised, tracks, sent⟩ := lives
  obtain ⟨numhits, same⟩ := countHit_eq (defs key.1) stat tcurr
  have sameId : (countHit (defs key.1) stat tcurr).1.alertid = stat.alertid := by rw [same]
  have some : life.hits ≠ [] := by
    intro isNil
    have lastHit := tracks.lastHit
    rw [show life.hits = [] from isNil] at lastHit
    cases lastHit
  have keepsId (isAlert : Bool) : (countHit (defs key.1) stat tcurr).1.alertid =
      (life.hit tcurr isAlert).alertid shyamaId key := by
    rw [sameId, isId, AlertLife.alertid, AlertLife.alertid, AlertLife.hit,
      getLast?_cons_of_ne_nil some]
  have lives := (tracks.count (most key.1) tcurr).lives shyamaId key positive
    (by rw [sameId]; exact sent) keepsId
  obtain ⟨tnextchkusec, atimemap, isNext⟩ := nextHit_eq defs hdlr key stat tcurr currtusec
  rw [isNext]
  exact .of_lives (setStat_self ..) (lives tnextchkusec)

include needed

/-- A hit of the key keeps the agreement, with the alert that is seen. -/
lemma Sound.hit (sound : Sound shyamaId defs key hdlr life) (currtusec : Nat) :
    Sound shyamaId defs key (checkHit shyamaId defs hdlr key tcurr currtusec).1
      (life.observe shyamaId defs key hdlr (.hit key tcurr currtusec)) := by
  have observed : life.observe shyamaId defs key hdlr (.hit key tcurr currtusec) =
      (if (hdlr.astatTbl key).isNone then {} else life).hit tcurr
        (hasAlert (setAstatOnAlert shyamaId defs hdlr key tcurr currtusec).2) := by
    rw [AlertLife.observe, if_pos rfl, step, checkHit]
    simp only
    cases hasAlert (setAstatOnAlert shyamaId defs hdlr key tcurr currtusec).2 with
    | false => rfl
    | true => simp
  rw [observed, checkHit]
  simp only
  rw [setAstatOnAlert]
  cases isStat : hdlr.astatTbl key with
  | none =>
    exact .of_lives (Function.update_self ..) (lives_newHit shyamaId key (needed key.1)
      (most key.1) positive ⟨rfl, rfl, rfl, rfl, rfl, rfl⟩)
  | some stat =>
    exact (sound.living stat isStat).nextHit most positive hdlr currtusec

end

lemma checkStat_erase {tusec : Nat} {checkAll : Bool}
    (erased : checkStat pdef stat tcurr tusec checkAll = .erase true) :
    stat.state ≠ .pending ∨ 0 < stat.tlastAlert := by
  simp only [checkStat] at erased
  split at erased
  · exact .inl (of_decide_eq_true (Checked.erase.inj erased))
  split at erased
  next due => exact .inr due.1
  split at erased
  · cases erased
  · cases erased

/-- An object is destroyed, with a close if it fired. -/
lemma Lives.erase (lives : Lives shyamaId pdef key stat life) {isClosed : Bool}
    (fires : isClosed = true → stat.state ≠ .pending ∨ 0 < stat.tlastAlert) :
    Disciplined pdef (life.close isClosed.toNat) ↔
      Incomplete pdef life.hits ∨ life.alertid shyamaId key ≠ 0 := by
  obtain ⟨isId, raised, tracks, sent⟩ := lives
  rw [← isId]
  have isOpen : life.closes = 0 := tracks.isOpen
  refine @disciplined_iff_of_fired _ (life.close isClosed.toNat) raised _ ?_ sent
  refine { tracks.toDisciplined with closes := ?_, closed := ?_ }
  · show life.closes + isClosed.toNat ≤ 1
    rw [isOpen, Nat.zero_add]
    exact isClosed.toNat_le
  · intro isOne none
    have closed : life.closes + isClosed.toNat = 1 := isOne
    rw [isOpen, Nat.zero_add, Bool.toNat_eq_one] at closed
    rcases fires closed with notPending | fired
    · exact tracks.state notPending none
    · rw [tracks.lastAlert_eq_zero_iff.mpr none] at fired
      exact Nat.lt_irrefl 0 fired

variable {other : AlertKey}

lemma Sound.check (sound : Sound shyamaId defs key hdlr life)
    (isStat : hdlr.astatTbl other = some stat) (tlastValidate tnextchkusec : Nat) :
    Sound shyamaId defs key (hdlr.setStat other
      (some { stat with tlastValidate := tlastValidate, tnextchkusec := tnextchkusec })) life := by
  by_cases isKey : other = key
  · subst isKey
    obtain ⟨isId, raised, tracks, isSent⟩ := sound.living stat isStat
    exact .of_lives (setStat_self ..) ⟨isId, raised, { tracks with }, isSent⟩
  · exact sound.of_eq (Function.update_of_ne (Ne.symm isKey) ..)

lemma Sound.erase (sound : Sound shyamaId defs key hdlr life)
    (isStat : hdlr.astatTbl other = some stat) {isClosed : Bool}
    (fires : isClosed = true → stat.state ≠ .pending ∨ 0 < stat.tlastAlert) :
    Sound shyamaId defs key (hdlr.setStat other none)
      (life.close (if other = key then isClosed.toNat else 0)) := by
  by_cases isKey : other = key
  · subst isKey
    rw [if_pos rfl]
    refine ⟨fun found isFound => ?_, fun _ => (sound.living stat isStat).erase fires⟩
    rw [setStat_self] at isFound
    cases isFound
  · rw [if_neg isKey]
    exact sound.of_eq (Function.update_of_ne (Ne.symm isKey) ..)

lemma AlertLife.close_close (life : AlertLife) (first second : Nat) :
    (life.close first).close second = life.close (first + second) := by
  simp only [AlertLife.close, Nat.add_assoc]

/-- The loop, with the closes that it has sent. -/
lemma Sound.validateLoop (tcurr : Nat) (checkAll : Bool) (fuel : Nat)
    (passed rest : List (Nat × AlertKey)) (sent : List ShAlertMsg)
    (sound : Sound shyamaId defs key hdlr (life.close (sent.count (.close key)))) :
    Sound shyamaId defs key (validateLoop defs tcurr checkAll fuel passed rest hdlr sent).1
      (life.close ((validateLoop defs tcurr checkAll fuel passed rest hdlr sent).2.count
        (.close key))) := by
  induction fuel generalizing passed rest hdlr sent with
  | zero => exact sound.of_eq rfl
  | succ fuel ih =>
    cases rest with
    | nil => exact sound.of_eq rfl
    | cons entry rest =>
      obtain ⟨tusec, other⟩ := entry
      rw [ShAlertHdlr.validateLoop]
      split
      · exact sound.of_eq rfl
      split
      · exact ih passed rest sent sound
      rename_i stat isStat
      simp only
      split
      · exact ih passed rest sent sound
      split
      next isClosed erased =>
        have count : (if isClosed = true then sent ++ [.close other] else sent).count
            (.close key) = sent.count (.close key) +
              (if other = key then isClosed.toNat else 0) := by
          cases isClosed with
          | false => simp
          | true => simp [count_singleton]
        apply ih
        rw [count, ← AlertLife.close_close]
        refine sound.erase isStat ?_
        rintro rfl
        exact checkStat_erase erased
      · exact ih _ _ _ (sound.check isStat tcurr stat.tnextchkusec)
      next tnextchkusec _ => exact ih _ _ _ (sound.check isStat tcurr tnextchkusec)

/-- Every event keeps the agreement of all objects with what is seen of them. -/
lemma Sound.step {event : ShAlertEvent} (needed : ∀ pdef, 1 ≤ (defs pdef).numcheckfor)
    (most : ∀ pdef, (defs pdef).numcheckfor ≤ 60) (positive : 0 < event.time)
    (sound : Sound shyamaId defs key hdlr life) :
    Sound shyamaId defs key (hdlr.step shyamaId defs event).1
      (life.observe shyamaId defs key hdlr event) := by
  cases event with
  | hit other tcurr currtusec =>
    by_cases isKey : other = key
    · subst isKey
      exact sound.hit needed most positive currtusec
    · rw [AlertLife.observe]
      simp only [if_neg isKey]
      refine sound.of_eq ?_
      show (setAstatOnAlert shyamaId defs hdlr other tcurr currtusec).1.astatTbl key = _
      rw [setAstatOnAlert]
      split
      · exact Function.update_of_ne (Ne.symm isKey) ..
      next stat _ =>
        obtain ⟨_, _, isNext⟩ := nextHit_eq defs hdlr other stat tcurr currtusec
        rw [isNext]
        exact Function.update_of_ne (Ne.symm isKey) ..
  | check tcurr checkAll => exact sound.validateLoop tcurr checkAll _ [] hdlr.atimemap []

end

end Gyeeta.Alerts
