import Mathlib.Data.List.Nodup
import Gyeeta.Lib.Run

/-!
# The connections of a host

A server keeps the persistent connections of each host in a forward list, newest first, with weak
references to the connection objects and a cached pointer per connection type.  Entries leave the
list when their connection is closed, a walk deletes them or a check finds their connection
object gone.
-/

namespace Gyeeta.Hosts

open List

/-- `CLI_TYPE_E`: the types of a connection. -/
inductive CliType where
  | reqResp
  | reqOnly
  | respOnly
  | respReq
  deriving DecidableEq, Repr

/-- The type of a code, which is taken modulo `CLI_TYPE_MAX`. -/
def CliType.ofCode (code : Nat) : CliType :=
  match code % 4 with
  | 0 => reqResp
  | 1 => reqOnly
  | 2 => respOnly
  | _ => respReq

/-- `CB_RET_E`: what the callback of a walk asks for. -/
inductive CbRet where
  | ok
  | deleteElem
  | breakLoop
  | deleteBreak
  deriving DecidableEq, Repr

/-- The callback asks to break, with or without a deletion. -/
def CbRet.Breaks (ret : CbRet) : Prop :=
  ret = .breakLoop ∨ ret = .deleteBreak

/-- `HOST_CONN_L1`: an entry of the list, at the address of its list node.  A connection
object is named by a number, which the weak reference and the plain pointer hold. -/
structure HostConn where
  node : Nat
  weakconn : Nat
  pconn : Option Nat
  cliType : CliType
  deriving DecidableEq, Repr

/-- `HOST_CONN_FLIST`, with the connection objects that no longer exist and the address of
the next list node. -/
structure HostConnFlist where
  listconn : List HostConn
  nconns : Nat
  lastCheckTime : Int
  plastCliType : CliType → Option Nat
  nextNode : Nat
  expired : Nat → Bool

namespace HostConnFlist

def empty : HostConnFlist where
  listconn := []
  nconns := 0
  lastCheckTime := 0
  plastCliType := fun _ => none
  nextNode := 0
  expired := fun _ => false

def isCliActive (conns : HostConnFlist) (lref : HostConn) : Bool :=
  lref.pconn.isSome && !conns.expired lref.weakconn

/-- The cached pointers with one set. -/
def setLast (plast : CliType → Option Nat) (ctype : CliType) (node : Option Nat) :
    CliType → Option Nat :=
  fun other => if other = ctype then node else plast other

/-- The cached pointers once an entry leaves the list. -/
def forget (plast : CliType → Option Nat) (lref : HostConn) : CliType → Option Nat :=
  if plast lref.cliType = some lref.node then setLast plast lref.cliType none else plast

/-- The loop that erases the first entry of a kind and stops. -/
def eraseFirst (conns : HostConnFlist) (which : HostConn → Bool) :
    HostConnFlist × Option HostConn :=
  match conns.listconn.find? which with
  | none => (conns, none)
  | some lref =>
    ({ conns with
        nconns := conns.nconns - 1
        plastCliType := forget conns.plastCliType lref
        listconn := conns.listconn.eraseP which }, some lref)

/-- The walk that sets the cached pointers that are null. -/
def fillLast (plast : CliType → Option Nat) (listconn : List HostConn) : CliType → Option Nat :=
  listconn.foldl
    (fun plast lref =>
      if plast lref.cliType = none then setLast plast lref.cliType (some lref.node) else plast)
    plast

/-- `clear_closed_conns_locked`: the number of entries removed. -/
def clearClosedConnsLocked (conns : HostConnFlist) (tcurr : Int) : HostConnFlist × Nat :=
  let checked := { conns with lastCheckTime := tcurr }
  match checked.eraseFirst fun lref => !conns.isCliActive lref with
  | (cleared, none) => (cleared, 0)
  | (cleared, some lref) =>
    -- `nlastdel`: the removed entry was a cached one
    if conns.plastCliType lref.cliType = some lref.node then
      ({ cleared with plastCliType := fillLast cleared.plastCliType cleared.listconn }, 1)
    else
      (cleared, 1)

/-- `add_conn`: the number of connections, or `none` if it throws. -/
def addConn (conns : HostConnFlist) (maxConnPerHost : Nat) (weakconn : Nat)
    (pconn : Option Nat) (cliType : Nat) (tcurr : Int) : HostConnFlist × Option Nat :=
  let (conns, nfree) :=
    if conns.nconns > maxConnPerHost then conns.clearClosedConnsLocked tcurr else (conns, 1)
  if nfree = 0 then
    (conns, none)
  else
    let lref : HostConn := ⟨conns.nextNode, weakconn, pconn, .ofCode cliType⟩
    ({ conns with
        listconn := lref :: conns.listconn
        nconns := conns.nconns + 1
        plastCliType := setLast conns.plastCliType lref.cliType (some lref.node)
        nextNode := conns.nextNode + 1 }, some (conns.nconns + 1))

/-- `del_conn`: the number of connections that remain. -/
def delConn (conns : HostConnFlist) (pconn : Option Nat) : HostConnFlist × Nat :=
  let conns := (conns.eraseFirst fun lref => lref.pconn == pconn).1
  (conns, conns.nconns)

/-- The entry a cached pointer refers to: `none` if the list has no node at the address. -/
def entryAt (conns : HostConnFlist) (node : Nat) : Option HostConn :=
  conns.listconn.find? fun lref => lref.node == node

/-- The weak reference of a cached entry, locked. -/
def lockAt (conns : HostConnFlist) (node : Nat) : Option Nat :=
  match conns.entryAt node with
  | none => none
  | some lref => if conns.expired lref.weakconn then none else some lref.weakconn

def isCliTypeAvail (conns : HostConnFlist) (ctype : CliType) : HostConnFlist × Bool :=
  if ((conns.plastCliType ctype).bind conns.lockAt).isSome then
    (conns, true)
  else
    match conns.listconn.find? fun lref => lref.cliType == ctype && conns.isCliActive lref with
    | some lref =>
      ({ conns with
          plastCliType := setLast conns.plastCliType lref.cliType (some lref.node) }, true)
    | none => (conns, false)

/-- `get_last_conn`: the connection object, if there is one. -/
def getLastConn (conns : HostConnFlist) (ctype : CliType) (tcurr : Int) :
    HostConnFlist × Option Nat :=
  if tcurr - conns.lastCheckTime > 300 then
    let conns := (conns.clearClosedConnsLocked tcurr).1
    (conns, (conns.plastCliType ctype).bind conns.lockAt)
  else
    match conns.plastCliType ctype with
    | none => (conns, none)
    | some node =>
      match conns.lockAt node with
      | some conn => (conns, some conn)
      | none =>
        let conns := (conns.clearClosedConnsLocked tcurr).1
        (conns, (conns.plastCliType ctype).bind conns.lockAt)

/-- A callback of a walk: what it asks for at an entry, after the entries it has seen. -/
abbrev Walk := List HostConn → HostConn → CbRet

/-- The state of a walk: the entries behind it that stay, the count, the cached pointers
and the entries the callback has seen. -/
structure WalkState where
  kept : List HostConn
  nconns : Nat
  plastCliType : CliType → Option Nat
  visited : List HostConn

/-- The loop of `walk_conn_list`.  After a deletion the code tests once more for
`CB_BREAK_LOOP`, which the value is not in this branch, so the walk goes on. -/
def walkLoop (walk : Walk) : List HostConn → WalkState → WalkState
  | [], state => state
  | lref :: rest, state =>
    let seen := { state with visited := state.visited ++ [lref] }
    match walk state.visited lref with
    | .breakLoop => { seen with kept := state.kept ++ lref :: rest }
    | .deleteElem | .deleteBreak =>
      walkLoop walk rest
        { seen with
          nconns := state.nconns - 1
          plastCliType := forget state.plastCliType lref }
    | .ok => walkLoop walk rest { seen with kept := state.kept ++ [lref] }

/-- `walk_conn_list`: the entries visited. -/
def walkConnList (conns : HostConnFlist) (walk : Walk) : HostConnFlist × List HostConn :=
  let state := walkLoop walk conns.listconn ⟨[], conns.nconns, conns.plastCliType, []⟩
  ({ conns with
      listconn := state.kept
      nconns := state.nconns
      plastCliType := state.plastCliType }, state.visited)

/-! ## The list and its count -/

/-- What every operation keeps: the count is the length, no two entries are at one node,
and a cached pointer refers to a listed entry of its type. -/
structure Linked (conns : HostConnFlist) : Prop where
  count : conns.nconns = conns.listconn.length
  nodes : (conns.listconn.map HostConn.node).Nodup
  below : ∀ lref ∈ conns.listconn, lref.node < conns.nextNode
  cached : ∀ ctype node, conns.plastCliType ctype = some node →
    ∃ lref ∈ conns.listconn, lref.node = node ∧ lref.cliType = ctype

lemma linked_empty : Linked empty where
  count := rfl
  nodes := nodup_nil
  below := by simp [empty]
  cached := by simp [empty]

variable {lref : HostConn} {ctype : CliType} {node : Nat} {conns : HostConnFlist}

lemma forget_some {plast : CliType → Option Nat} (isSome : forget plast lref ctype = some node) :
    plast ctype = some node ∧ (lref.node ≠ node ∨ lref.cliType ≠ ctype) := by
  rw [forget] at isSome
  split at isSome
  next isLast =>
    rw [setLast] at isSome
    split at isSome
    · contradiction
    next other =>
      exact ⟨isSome, .inr fun same => other same.symm⟩
  next notLast =>
  refine ⟨isSome, ?_⟩
  by_cases same : lref.cliType = ctype
  · left
    intro isNode
    rw [same, isNode] at notLast
    exact notLast isSome
  · exact .inr same

variable {front back : List HostConn}

lemma Linked.unlink (linked : Linked conns)
    (split : conns.listconn = front ++ lref :: back) : Linked { conns with
      nconns := conns.nconns - 1
      plastCliType := forget conns.plastCliType lref
      listconn := front ++ back } := by
  obtain ⟨count, nodes, below, cached⟩ := linked
  rw [split] at count nodes below cached
  constructor
  · rw [length_append, length_cons] at count
    simp only [length_append]
    omega
  · rw [map_append, map_cons] at nodes
    rw [map_append]
    exact (nodup_middle.mp nodes).of_cons
  · intro other mem
    apply below
    rw [mem_append, mem_cons]
    rcases mem_append.mp mem with inFront | inBack
    · exact .inl inFront
    · exact .inr (.inr inBack)
  · intro ctype node isSome
    obtain ⟨isLast, differs⟩ := forget_some isSome
    obtain ⟨other, mem, isNode, isType⟩ := cached ctype node isLast
    refine ⟨other, ?_, isNode, isType⟩
    rcases mem_append.mp mem with inFront | mem
    · exact mem_append_left _ inFront
    · rcases mem_cons.mp mem with rfl | inBack
      · exact absurd differs (by simp [isNode, isType])
      · exact mem_append_right _ inBack

lemma eraseFirst_cases (conns : HostConnFlist) (which : HostConn → Bool) :
    ((∀ lref ∈ conns.listconn, which lref = false) ∧ conns.eraseFirst which = (conns, none)) ∨
    ∃ front lref back, conns.listconn = front ++ lref :: back ∧ which lref = true ∧
      (∀ other ∈ front, which other = false) ∧ conns.eraseFirst which = ({ conns with
            nconns := conns.nconns - 1
            plastCliType := forget conns.plastCliType lref
            listconn := front ++ back }, some lref) := by
  rw [eraseFirst]
  cases found : conns.listconn.find? which with
  | none =>
    left
    refine ⟨?_, rfl⟩
    intro lref mem
    simpa using List.find?_eq_none.mp found lref mem
  | some lref =>
    right
    obtain ⟨isWhich, front, back, split, before⟩ := List.find?_eq_some_iff_append.mp found
    have before : ∀ other ∈ front, which other = false := by simpa using before
    refine ⟨front, lref, back, split, isWhich, before, ?_⟩
    have erased : conns.listconn.eraseP which = front ++ back := by
      rw [split, eraseP_append_right _ (by simpa using before), eraseP_cons_of_pos isWhich]
    rw [erased]

lemma Linked.eraseFirst (linked : Linked conns)
    (which : HostConn → Bool) : Linked (conns.eraseFirst which).1 := by
  rcases eraseFirst_cases conns which with ⟨-, same⟩ | ⟨front, lref, back, split, -, -, erased⟩
  · rw [same]
    exact linked
  · rw [erased]
    exact linked.unlink split

lemma fillLast_cases (listconn : List HostConn) (plast : CliType → Option Nat) (ctype : CliType) :
    (fillLast plast listconn ctype = plast ctype ∧
      (plast ctype = none → ∀ lref ∈ listconn, lref.cliType ≠ ctype)) ∨
    ∃ lref ∈ listconn, lref.cliType = ctype ∧ fillLast plast listconn ctype = some lref.node := by
  induction listconn generalizing plast with
  | nil => exact .inl ⟨rfl, by simp⟩
  | cons lref rest ih =>
    rw [fillLast, foldl_cons]
    split
    next isNull =>
      rcases ih (setLast plast lref.cliType (some lref.node)) with
        ⟨same, others⟩ | ⟨found, mem, isType, isNode⟩
      · by_cases isType : ctype = lref.cliType
        · right
          refine ⟨lref, mem_cons_self, isType.symm, ?_⟩
          rw [fillLast] at same
          rw [same, setLast, if_pos isType]
        left
        have kept : setLast plast lref.cliType (some lref.node) ctype = plast ctype := by
          rw [setLast, if_neg isType]
        rw [fillLast, kept] at same
        rw [kept] at others
        refine ⟨same, ?_⟩
        intro isNone other mem
        rcases mem_cons.mp mem with rfl | mem
        · exact fun eq => isType eq.symm
        · exact others isNone other mem
      · exact .inr ⟨found, mem_cons_of_mem _ mem, isType, isNode⟩
    next notNull =>
    rcases ih plast with ⟨same, others⟩ | ⟨found, mem, isType, isNode⟩
    · left
      refine ⟨same, ?_⟩
      intro isNone other mem
      rcases mem_cons.mp mem with rfl | mem
      · intro isType
        rw [isType] at notNull
        exact notNull isNone
      · exact others isNone other mem
    · exact .inr ⟨found, mem_cons_of_mem _ mem, isType, isNode⟩

section

variable (linked : Linked conns)
include linked

lemma Linked.fillLast :
    Linked { conns with plastCliType := fillLast conns.plastCliType conns.listconn } :=
  { linked with
    cached := by
      intro ctype node isSome
      rcases fillLast_cases conns.listconn conns.plastCliType ctype with
        ⟨same, -⟩ | ⟨lref, mem, isType, isNode⟩
      · exact linked.cached ctype node (same ▸ isSome)
      · exact ⟨lref, mem, Option.some.inj (isNode.symm.trans isSome), isType⟩ }

lemma Linked.setLastCheckTime (tcurr : Int) : Linked { conns with lastCheckTime := tcurr } :=
  { linked with }

lemma Linked.clearClosedConnsLocked
    (tcurr : Int) : Linked (conns.clearClosedConnsLocked tcurr).1 := by
  have erased := (linked.setLastCheckTime tcurr).eraseFirst fun lref => !conns.isCliActive lref
  rw [HostConnFlist.clearClosedConnsLocked]
  split
  next same =>
    rw [same] at erased
    exact erased
  next same =>
  rw [same] at erased
  split
  · exact erased.fillLast
  · exact erased

lemma Linked.pushFront (weakconn : Nat) (pconn : Option Nat) (ctype : CliType) :
    Linked { conns with
      listconn := ⟨conns.nextNode, weakconn, pconn, ctype⟩ :: conns.listconn
      nconns := conns.nconns + 1
      plastCliType := setLast conns.plastCliType ctype (some conns.nextNode)
      nextNode := conns.nextNode + 1 } := by
  constructor
  · simp [linked.count]
  · rw [map_cons, nodup_cons]
    refine ⟨?_, linked.nodes⟩
    intro mem
    obtain ⟨lref, isListed, isNode⟩ := mem_map.mp mem
    exact Nat.lt_irrefl _ (isNode ▸ linked.below lref isListed)
  · intro lref mem
    rcases mem_cons.mp mem with rfl | mem
    · exact Nat.lt_succ_self _
    · exact Nat.lt_succ_of_lt (linked.below lref mem)
  · intro other node isSome
    simp only [setLast] at isSome
    split at isSome
    next isType =>
      exact ⟨_, mem_cons_self, Option.some.inj isSome, isType.symm⟩
    · obtain ⟨lref, mem, isNode, isType⟩ := linked.cached other node isSome
      exact ⟨lref, mem_cons_of_mem _ mem, isNode, isType⟩

lemma Linked.entryAt (isLast : conns.plastCliType ctype = some node) :
    ∃ lref ∈ conns.listconn, conns.entryAt node = some lref ∧ lref.node = node ∧
      lref.cliType = ctype := by
  obtain ⟨lref, mem, isNode, isType⟩ := linked.cached ctype node isLast
  cases found : conns.entryAt node with
  | none =>
    have := List.find?_eq_none.mp found lref mem
    simp [isNode] at this
  | some other =>
    have isOther : other.node = node := by simpa using List.find?_some found
    have mem' := mem_of_find?_eq_some found
    have same : other = lref :=
      inj_on_of_nodup_map linked.nodes mem' mem (isOther.trans isNode.symm)
    exact ⟨other, mem', rfl, isOther, same ▸ isType⟩

lemma Linked.isCliTypeAvail (ctype : CliType) : Linked (conns.isCliTypeAvail ctype).1 := by
  rw [HostConnFlist.isCliTypeAvail]
  split
  · exact linked
  split
  next lref found =>
    refine ⟨linked.count, linked.nodes, linked.below, ?_⟩
    intro other node isSome
    simp only [setLast] at isSome
    split at isSome
    next isType =>
      exact ⟨lref, mem_of_find?_eq_some found, Option.some.inj isSome, isType.symm⟩
    · exact linked.cached other node isSome
  · exact linked

end

/-! ## Runs -/

/-- The calls on a list, and the end of a connection object. -/
inductive FlistEvent where
  | addConn (weakconn : Nat) (pconn : Option Nat) (cliType : Nat) (tcurr : Int)
  | delConn (pconn : Option Nat)
  | walk (walk : Walk)
  | expire (conn : Nat)
  | clearClosed (tcurr : Int)
  | isAvail (ctype : CliType)
  | getLast (ctype : CliType) (tcurr : Int)

variable (maxConnPerHost : Nat)

def step (conns : HostConnFlist) : FlistEvent → HostConnFlist
  | .addConn weakconn pconn cliType tcurr =>
    (conns.addConn maxConnPerHost weakconn pconn cliType tcurr).1
  | .delConn pconn => (conns.delConn pconn).1
  | .walk walk => (conns.walkConnList walk).1
  | .expire conn => { conns with expired := fun other => conns.expired other || other == conn }
  | .clearClosed tcurr => (conns.clearClosedConnsLocked tcurr).1
  | .isAvail ctype => (conns.isCliTypeAvail ctype).1
  | .getLast ctype tcurr => (conns.getLastConn ctype tcurr).1

variable {maxConnPerHost}

/-- The entry is not the cached one of its type, or the only listed one of its type. -/
def Spare (conns : HostConnFlist) (lref : HostConn) : Prop :=
  conns.plastCliType lref.cliType ≠ some lref.node ∨
    ∀ other ∈ conns.listconn, other.cliType = lref.cliType → other = lref

/-- The number of listed entries without an active connection. -/
def numClosed (conns : HostConnFlist) : Nat :=
  conns.listconn.countP fun lref => !conns.isCliActive lref

/-- The condition on a call, in the state before it: a live connection is added with its
pointer, entries are deleted only while their type keeps its cached pointer, at most one listed
connection is closed at a time, and no callback asks to delete and break. -/
def Allowed (conns : HostConnFlist) : FlistEvent → Prop
  | .addConn weakconn pconn _ _ =>
    (conns.expired weakconn = false → pconn.isSome = true) ∧
      (conns.numClosed = 0 ∨ conns.numClosed ≤ 1 ∧ conns.expired weakconn = false)
  | .delConn pconn =>
    ∀ lref, (conns.listconn.find? fun lref => lref.pconn == pconn) = some lref → conns.Spare lref
  | .walk walk =>
    ∀ seen, ∀ lref ∈ conns.listconn, walk seen lref ≠ .deleteBreak ∧
      (walk seen lref = .deleteElem → conns.Spare lref)
  | .expire conn =>
    (conns.listconn.countP fun lref => !conns.isCliActive lref || lref.weakconn == conn) ≤ 1
  | .clearClosed _ => True
  | .isAvail _ => True
  | .getLast _ _ => True

/-- What calls that meet the condition keep besides. -/
structure Kept (conns : HostConnFlist) : Prop extends Linked conns where
  found : ∀ lref ∈ conns.listconn, (conns.plastCliType lref.cliType).isSome = true
  pointed : ∀ lref ∈ conns.listconn, conns.expired lref.weakconn = false → lref.pconn.isSome = true
  single : conns.numClosed ≤ 1

lemma mem_of_unlinked {other : HostConn} (mem : other ∈ front ++ back) :
    other ∈ front ++ lref :: back :=
  ((sublist_append_right [lref] back).append_left front).subset mem

lemma Kept.unlink (kept : Kept conns)
    (split : conns.listconn = front ++ lref :: back) (spare : conns.Spare lref) : Kept { conns with
      nconns := conns.nconns - 1
      plastCliType := forget conns.plastCliType lref
      listconn := front ++ back } where
  toLinked := kept.toLinked.unlink split
  pointed other mem := kept.pointed other (split ▸ mem_of_unlinked mem)
  found := by
    intro other mem
    have mem' : other ∈ conns.listconn := split ▸ mem_of_unlinked mem
    have isSome := kept.found other mem'
    simp only [forget]
    split
    next isLast =>
      have alone := spare.resolve_left (fun notLast => notLast isLast)
      have notIn : lref ∉ front ++ back := by
        have nodes := kept.nodes
        rw [split] at nodes
        exact (nodup_cons.mp (nodup_middle.mp nodes.of_map)).1
      rw [setLast, if_neg]
      · exact isSome
      · intro isType
        exact notIn (alone other mem' isType ▸ mem)
    · exact isSome
  single := by
    have single := kept.single
    rw [numClosed, split, countP_append, countP_cons] at single
    rw [numClosed, countP_append]
    simp only [isCliActive] at single ⊢
    omega

lemma Kept.clearClosedConnsLocked (kept : Kept conns) (tcurr : Int) :
    let cleared := conns.clearClosedConnsLocked tcurr
    (∀ lref ∈ cleared.1.listconn, lref ∈ conns.listconn ∧ conns.isCliActive lref = true) ∧
      (∀ lref ∈ conns.listconn, conns.isCliActive lref = true → lref ∈ cleared.1.listconn) ∧
      (∀ lref ∈ cleared.1.listconn, (cleared.1.plastCliType lref.cliType).isSome = true) ∧
      cleared.1.expired = conns.expired ∧
      cleared.2 + cleared.1.listconn.length = conns.listconn.length := by
  have single := kept.single
  intro cleared
  have isCleared : conns.clearClosedConnsLocked tcurr = cleared := rfl
  rw [HostConnFlist.clearClosedConnsLocked] at isCleared
  rcases eraseFirst_cases { conns with lastCheckTime := tcurr }
    (fun lref => !conns.isCliActive lref) with
    ⟨allActive, same⟩ | ⟨front, lref, back, split, isClosed, before, erased⟩
  · rw [same] at isCleared
    rw [← isCleared]
    refine ⟨?_, fun lref mem _ => mem, kept.found, rfl, Nat.zero_add _⟩
    intro lref mem
    exact ⟨mem, by simpa using allActive lref mem⟩
  rw [erased] at isCleared
  simp only at isCleared split before isClosed
  have behind : ∀ other ∈ back, conns.isCliActive other = true := by
    rw [numClosed, split, countP_append, countP_cons, if_pos isClosed] at single
    have none : (back.countP fun lref => !conns.isCliActive lref) = 0 := by omega
    intro other mem
    simpa using countP_eq_zero.mp none other mem
  have rest : ∀ other ∈ front ++ back, other ∈ conns.listconn ∧
      conns.isCliActive other = true := by
    intro other mem
    rw [split, mem_append, mem_cons]
    rcases mem_append.mp mem with inFront | inBack
    · exact ⟨.inl inFront, by simpa using before other inFront⟩
    · exact ⟨.inr (.inr inBack), behind other inBack⟩
  have stays : ∀ other ∈ conns.listconn, conns.isCliActive other = true →
      other ∈ front ++ back := by
    intro other mem active
    rw [split] at mem
    rcases mem_append.mp mem with inFront | mem
    · exact mem_append_left _ inFront
    · rcases mem_cons.mp mem with rfl | inBack
      · rw [active] at isClosed
        exact absurd isClosed (by decide)
      · exact mem_append_right _ inBack
  have length : 1 + (front ++ back).length = conns.listconn.length := by
    rw [split, length_append, length_append, length_cons]
    omega
  by_cases isLast : conns.plastCliType lref.cliType = some lref.node
  · rw [if_pos isLast] at isCleared
    rw [← isCleared]
    refine ⟨rest, stays, ?_, rfl, length⟩
    intro other mem
    -- the pointers that the removed entry left null are filled from the list
    rcases fillLast_cases (front ++ back) (forget conns.plastCliType lref) other.cliType with
      ⟨filled, others⟩ | ⟨first, -, -, filled⟩
    · show (HostConnFlist.fillLast _ _ _).isSome = true
      rw [filled, Option.isSome_iff_ne_none]
      intro isNone
      exact others isNone other mem rfl
    · show (HostConnFlist.fillLast _ _ _).isSome = true
      rw [filled]
      rfl
  · rw [if_neg isLast] at isCleared
    rw [← isCleared]
    refine ⟨rest, stays, ?_, rfl, length⟩
    intro other mem
    show (forget conns.plastCliType lref other.cliType).isSome = true
    rw [forget, if_neg isLast]
    exact kept.found other (rest other mem).1

lemma Kept.clear (kept : Kept conns) (tcurr : Int) : Kept (conns.clearClosedConnsLocked tcurr).1 ∧
      (conns.clearClosedConnsLocked tcurr).1.numClosed = 0 := by
  obtain ⟨active, -, found, expired, -⟩ := kept.clearClosedConnsLocked tcurr
  have none : (conns.clearClosedConnsLocked tcurr).1.numClosed = 0 := by
    rw [numClosed, countP_eq_zero]
    intro lref mem
    have := (active lref mem).2
    rw [isCliActive] at this
    rw [isCliActive, expired, this]
    decide
  refine ⟨⟨kept.toLinked.clearClosedConnsLocked tcurr, found, ?_, by omega⟩, none⟩
  rw [expired]
  exact fun lref mem => kept.pointed lref (active lref mem).1

lemma Kept.pushFront (kept : Kept conns) (weakconn : Nat) (pconn : Option Nat) (ctype : CliType)
    (isPointed : conns.expired weakconn = false → pconn.isSome = true)
    (single : conns.numClosed = 0 ∨ conns.expired weakconn = false) : Kept { conns with
      listconn := ⟨conns.nextNode, weakconn, pconn, ctype⟩ :: conns.listconn
      nconns := conns.nconns + 1
      plastCliType := setLast conns.plastCliType ctype (some conns.nextNode)
      nextNode := conns.nextNode + 1 } where
  toLinked := kept.toLinked.pushFront weakconn pconn ctype
  found := by
    intro lref mem
    simp only [setLast]
    split
    · rfl
    next otherType =>
    rcases mem_cons.mp mem with rfl | mem
    · exact absurd rfl otherType
    · exact kept.found lref mem
  pointed := forall_mem_cons.mpr ⟨isPointed, kept.pointed⟩
  single := by
    have most := kept.single
    rw [numClosed] at most single
    show ((⟨conns.nextNode, weakconn, pconn, ctype⟩ :: conns.listconn).countP
      fun lref => !conns.isCliActive lref) ≤ 1
    rcases single with none | alive
    · rw [countP_cons, none, Nat.zero_add]
      split
      · exact Nat.le_refl 1
      · exact Nat.zero_le 1
    · rw [countP_cons_of_neg]
      · exact most
      · simp [isCliActive, isPointed alive, alive]

lemma Kept.walkLoop (conns : HostConnFlist) (walk : Walk) (rest : List HostConn)
    (state : WalkState) (kept : Kept { conns with
      listconn := state.kept ++ rest
      nconns := state.nconns
      plastCliType := state.plastCliType })
    (allowed : ∀ seen, ∀ lref ∈ rest, walk seen lref ≠ .deleteBreak ∧
      (walk seen lref = .deleteElem → Spare { conns with
        listconn := state.kept ++ rest
        plastCliType := state.plastCliType } lref)) : Kept { conns with
      listconn := (walkLoop walk rest state).kept
      nconns := (walkLoop walk rest state).nconns
      plastCliType := (walkLoop walk rest state).plastCliType } := by
  induction rest generalizing state with
  | nil =>
    rw [append_nil] at kept
    exact kept
  | cons lref rest ih =>
    rw [HostConnFlist.walkLoop]
    simp only
    have here := allowed state.visited lref mem_cons_self
    cases asked : walk state.visited lref with
    | breakLoop => exact kept
    | deleteBreak => exact absurd asked here.1
    | deleteElem =>
      apply ih _ (kept.unlink rfl (here.2 asked))
      intro seen other mem
      obtain ⟨notBreak, spare⟩ := allowed seen other (mem_cons_of_mem _ mem)
      refine ⟨notBreak, ?_⟩
      intro isDelete
      -- a deletion makes no pointer non-null and adds no entry
      rcases spare isDelete with notLast | alone
      · left
        intro isLast
        exact notLast (forget_some isLast).1
      · right
        intro third mem isType
        exact alone third (mem_of_unlinked mem) isType
    | ok =>
      apply ih
      · simp only [append_assoc, singleton_append]
        exact kept
      · simp only [append_assoc, singleton_append]
        intro seen other mem
        exact allowed seen other (mem_cons_of_mem _ mem)

variable {event : FlistEvent}

/-- An allowed call keeps the links and the cached pointers. -/
lemma Kept.step (kept : Kept conns)
    (allowed : conns.Allowed event) : Kept (conns.step maxConnPerHost event) := by
  cases event with
  | addConn weakconn pconn cliType tcurr =>
    rw [HostConnFlist.step, HostConnFlist.addConn]
    split
    rename_i cleared nfree isCleared
    have fits : Kept cleared ∧ (cleared.expired weakconn = false → pconn.isSome = true) ∧
        (cleared.numClosed = 0 ∨ cleared.expired weakconn = false) := by
      split at isCleared
      · have := kept.clear tcurr
        have expired := (kept.clearClosedConnsLocked tcurr).2.2.2.1
        rw [isCleared] at this expired
        exact ⟨this.1, expired ▸ allowed.1, .inl this.2⟩
      · injection isCleared with same
        rw [← same]
        exact ⟨kept, allowed.1, allowed.2.imp_right And.right⟩
    split
    · exact fits.1
    · exact fits.1.pushFront weakconn pconn _ fits.2.1 fits.2.2
  | delConn pconn =>
    rw [HostConnFlist.step, HostConnFlist.delConn]
    rcases eraseFirst_cases conns (fun lref => lref.pconn == pconn) with
      ⟨-, same⟩ | ⟨front, lref, back, split, isConn, before, erased⟩
    · rw [same]
      exact kept
    rw [erased]
    apply kept.unlink split
    apply allowed lref
    rw [List.find?_eq_some_iff_append]
    exact ⟨isConn, front, back, split, by simpa using before⟩
  | walk walk =>
    exact Kept.walkLoop conns walk conns.listconn ⟨[], conns.nconns, conns.plastCliType, []⟩
      kept allowed
  | expire conn =>
    refine ⟨{ kept with }, kept.found, ?_, ?_⟩
    · intro lref mem alive
      exact kept.pointed lref mem (Bool.or_eq_false_iff.mp alive).1
    refine Nat.le_trans (countP_mono_left ?_) allowed
    intro lref _ isClosed
    simp only [HostConnFlist.step, isCliActive, Bool.not_and, Bool.not_not, Bool.or_eq_true]
      at isClosed ⊢
    rcases isClosed with noConn | gone | isConn
    · exact .inl (.inl noConn)
    · exact .inl (.inr gone)
    · exact .inr isConn
  | clearClosed tcurr => exact (kept.clear tcurr).1
  | isAvail ctype =>
    have linked := kept.toLinked.isCliTypeAvail ctype
    rw [HostConnFlist.isCliTypeAvail] at linked
    rw [HostConnFlist.step, HostConnFlist.isCliTypeAvail]
    split
    · exact kept
    next notCached =>
    rw [if_neg notCached] at linked
    split
    next found =>
      rw [found] at linked
      refine ⟨linked, ?_, kept.pointed, kept.single⟩
      intro lref mem
      simp only [setLast]
      split
      · rfl
      · exact kept.found lref mem
    · exact kept
  | getLast ctype tcurr =>
    rw [HostConnFlist.step, HostConnFlist.getLastConn]
    split
    · exact (kept.clear tcurr).1
    split
    · exact kept
    split
    · exact kept
    · exact (kept.clear tcurr).1

/-! ## Answers -/

/-- A live connection of the type is listed. -/
def HasLive (conns : HostConnFlist) (ctype : CliType) : Prop :=
  ∃ lref ∈ conns.listconn, lref.cliType = ctype ∧ conns.isCliActive lref = true

/-- What a call answers in a state: `get_last_conn` a live connection of the type if one is
listed and else none, `is_cli_type_avail` whether one is listed, `clear_closed_conns` the number
of entries it removed, with only live ones left.  A walk visits no entry after its callback asked
to break. -/
def Answers (conns : HostConnFlist) : FlistEvent → Prop
  | .getLast ctype tcurr =>
    (∃ lref ∈ conns.listconn, lref.cliType = ctype ∧ conns.isCliActive lref = true ∧
        (conns.getLastConn ctype tcurr).2 = some lref.weakconn) ∨
      ¬conns.HasLive ctype ∧ (conns.getLastConn ctype tcurr).2 = none
  | .isAvail ctype => (conns.isCliTypeAvail ctype).2 = true ↔ conns.HasLive ctype
  | .clearClosed tcurr =>
    (∀ lref ∈ (conns.clearClosedConnsLocked tcurr).1.listconn, conns.isCliActive lref = true) ∧
    (conns.clearClosedConnsLocked tcurr).2 +
      (conns.clearClosedConnsLocked tcurr).1.listconn.length = conns.listconn.length
  | .walk walk =>
    ∀ seen lref more, (conns.walkConnList walk).2 = seen ++ lref :: more →
      (walk seen lref).Breaks → more = []
  | .addConn _ _ _ _ => True
  | .delConn _ => True
  | .expire _ => True

/-- The cached connection of a type, if it can be locked, is a live one. -/
lemma Kept.of_lockAt (kept : Kept conns) {conn : Nat}
    (locked : (conns.plastCliType ctype).bind conns.lockAt = some conn) :
    ∃ lref ∈ conns.listconn, lref.cliType = ctype ∧ conns.isCliActive lref = true ∧
      some conn = some lref.weakconn := by
  obtain ⟨node, isLast, locked⟩ := Option.bind_eq_some_iff.mp locked
  obtain ⟨lref, mem, isEntry, -, isType⟩ := kept.toLinked.entryAt isLast
  rw [lockAt, isEntry] at locked
  simp only at locked
  split at locked
  · contradiction
  next alive =>
    have alive : conns.expired lref.weakconn = false := by simpa using alive
    refine ⟨lref, mem, isType, ?_, locked.symm⟩
    rw [isCliActive, kept.pointed lref mem alive, alive]
    rfl

/-- The cached connection of a type after a check. -/
lemma Kept.lock_cleared (kept : Kept conns) (ctype : CliType) (tcurr : Int) :
    let cleared := (conns.clearClosedConnsLocked tcurr).1
    (∃ lref ∈ conns.listconn, lref.cliType = ctype ∧ conns.isCliActive lref = true ∧
        (cleared.plastCliType ctype).bind cleared.lockAt = some lref.weakconn) ∨
      ¬conns.HasLive ctype ∧ (cleared.plastCliType ctype).bind cleared.lockAt = none := by
  intro cleared
  obtain ⟨active, stays, found, expired, -⟩ := kept.clearClosedConnsLocked tcurr
  have keptCleared : Kept cleared := (kept.clear tcurr).1
  cases locked : (cleared.plastCliType ctype).bind cleared.lockAt with
  | some conn =>
    obtain ⟨lref, mem, isType, -, isConn⟩ := keptCleared.of_lockAt locked
    exact .inl ⟨lref, (active lref mem).1, isType, (active lref mem).2, isConn⟩
  | none =>
    refine .inr ⟨?_, rfl⟩
    rintro ⟨lref, mem, isType, isActive⟩
    obtain ⟨node, isLast⟩ := Option.isSome_iff_exists.mp (found lref (stays lref mem isActive))
    rw [isType] at isLast
    obtain ⟨last, lastMem, isEntry, -, -⟩ := keptCleared.toLinked.entryAt isLast
    have alive : cleared.expired last.weakconn = false := by
      have lastActive := (active last lastMem).2
      rw [isCliActive, Bool.and_eq_true] at lastActive
      rw [expired]
      simpa using lastActive.2
    rw [isLast, Option.bind_some, lockAt, isEntry] at locked
    simp [alive] at locked

lemma visited_walkLoop (walk : Walk) (rest : List HostConn) (state : WalkState)
    (never : ∀ seen, ∀ lref ∈ rest, walk seen lref ≠ .deleteBreak) :
    ∃ more, (walkLoop walk rest state).visited = state.visited ++ more ∧
      ∀ seen lref last, more = seen ++ lref :: last →
        (walk (state.visited ++ seen) lref).Breaks → last = [] := by
  induction rest generalizing state with
  | nil =>
    refine ⟨[], (append_nil _).symm, ?_⟩
    intro seen lref last isEmpty
    exact absurd isEmpty.symm (by simp)
  | cons lref rest ih =>
    have later := fun seen other mem => never seen other (mem_cons_of_mem lref mem)
    -- the entries seen behind one at which the walk goes on
    have goesOn : ∀ state' : WalkState, state'.visited = state.visited ++ [lref] →
        ¬(walk state.visited lref).Breaks →
        ∃ more, (walkLoop walk rest state').visited = state.visited ++ more ∧
          ∀ seen other last, more = seen ++ other :: last →
            (walk (state.visited ++ seen) other).Breaks → last = [] := by
      intro state' isVisited continues
      obtain ⟨more, visited, stops⟩ := ih state' later
      rw [isVisited] at visited stops
      refine ⟨lref :: more, by rw [visited, append_assoc]; rfl, ?_⟩
      intro seen other last split breaks
      cases seen with
      | nil =>
        rw [nil_append, List.cons.injEq] at split
        rw [← split.1, append_nil] at breaks
        exact absurd breaks continues
      | cons first seen =>
        rw [cons_append, List.cons.injEq] at split
        apply stops seen other last split.2
        rw [← split.1] at breaks
        rw [append_assoc]
        exact breaks
    rw [walkLoop]
    simp only
    cases asked : walk state.visited lref with
    | breakLoop =>
      refine ⟨[lref], rfl, ?_⟩
      intro seen other last split _
      cases seen with
      | nil => exact (List.cons.inj split).2.symm
      | cons first seen => exact absurd (congrArg List.length split) (by simp)
    | deleteBreak => exact absurd asked (never state.visited lref mem_cons_self)
    | deleteElem =>
      apply goesOn _ rfl
      rw [asked]
      simp [CbRet.Breaks]
    | ok =>
      apply goesOn _ rfl
      rw [asked]
      simp [CbRet.Breaks]

lemma Kept.answers (kept : Kept conns) (allowed : conns.Allowed event) : conns.Answers event := by
  cases event with
  | addConn weakconn pconn cliType tcurr => trivial
  | delConn pconn => trivial
  | expire conn => trivial
  | clearClosed tcurr =>
    obtain ⟨active, -, -, -, length⟩ := kept.clearClosedConnsLocked tcurr
    exact ⟨fun lref mem => (active lref mem).2, length⟩
  | getLast ctype tcurr =>
    rw [Answers, getLastConn]
    split
    · exact kept.lock_cleared ctype tcurr
    split
    next isNull =>
      refine .inr ⟨?_, rfl⟩
      rintro ⟨lref, mem, isType, -⟩
      have := kept.found lref mem
      rw [isType, isNull] at this
      contradiction
    next node isLast =>
    split
    next conn locked => exact .inl (kept.of_lockAt (by rw [isLast]; exact locked))
    · exact kept.lock_cleared ctype tcurr
  | isAvail ctype =>
    rw [Answers, isCliTypeAvail]
    split
    next locked =>
      obtain ⟨conn, isConn⟩ := Option.isSome_iff_exists.mp locked
      obtain ⟨lref, mem, isType, active, -⟩ := kept.of_lockAt isConn
      exact iff_of_true rfl ⟨lref, mem, isType, active⟩
    split
    next lref found =>
      have isLive := List.find?_some found
      rw [Bool.and_eq_true, beq_iff_eq] at isLive
      exact iff_of_true rfl ⟨lref, mem_of_find?_eq_some found, isLive⟩
    next notFound =>
      refine iff_of_false Bool.false_ne_true ?_
      rintro ⟨lref, mem, isType, active⟩
      have := List.find?_eq_none.mp notFound lref mem
      simp [isType, active] at this
  | walk walk =>
    intro seen lref more visited breaks
    obtain ⟨all, isVisited, stops⟩ := visited_walkLoop walk conns.listconn
      ⟨[], conns.nconns, conns.plastCliType, []⟩ (fun seen lref mem => (allowed seen lref mem).1)
    exact stops seen lref more (isVisited.symm.trans visited) breaks

/-- In every run whose calls meet the condition, the count is the length of the list, the
cached pointers refer to listed entries of their types, and every call answers as it
should. -/
theorem lookups_consistent (events : List FlistEvent) (event : FlistEvent)
    (allowed : Machine.Guarded (step maxConnPerHost) Allowed empty (events ++ [event])) :
    let conns := Machine.run (step maxConnPerHost) empty events
    conns.nconns = conns.listconn.length ∧
      (∀ ctype node, conns.plastCliType ctype = some node →
        ∃ lref ∈ conns.listconn, lref.node = node ∧ lref.cliType = ctype) ∧
      conns.Answers event := by
  obtain ⟨before, last⟩ := Machine.guarded_append.mp allowed
  have start : Kept empty := ⟨linked_empty, by simp [empty], by simp [empty], by decide⟩
  have kept := before.invariant (fun conns event kept allowed => kept.step allowed) start
  exact ⟨kept.count, kept.cached, kept.answers last.1⟩

/-- Two connections of one type, the older one first. -/
def twoConns : List FlistEvent :=
  [.addConn 1 (some 1) 0 10, .addConn 2 (some 2) 0 10]

/-- The cached connection of a type is gone, and the other one is returned. -/
theorem gone_conn_replaced :
    Machine.Guarded (step 4) Allowed empty ((twoConns ++ [.expire 2]) ++ [.getLast .reqResp 20]) ∧
      ∃ conn, ((Machine.run (step 4) empty (twoConns ++ [.expire 2])).getLastConn
        .reqResp 20).2 = some conn := by
  have allowed : Machine.Guarded (step 4) Allowed empty
      ((twoConns ++ [.expire 2]) ++ [.getLast .reqResp 20]) :=
    ⟨⟨fun _ => rfl, .inl (by decide)⟩, ⟨fun _ => rfl, .inl (by decide)⟩, show _ ≤ 1 by decide,
      trivial, trivial⟩
  refine ⟨allowed, ?_⟩
  obtain ⟨-, -, answers⟩ := lookups_consistent (twoConns ++ [.expire 2]) (.getLast .reqResp 20)
    allowed
  have live : HasLive (Machine.run (step 4) empty (twoConns ++ [.expire 2])) .reqResp :=
    ⟨⟨0, 1, some 1, .reqResp⟩, by decide⟩
  obtain ⟨lref, -, -, -, isConn⟩ := answers.resolve_right fun none => none.1 live
  exact ⟨lref.weakconn, isConn⟩

/-- With two connections gone a check removes one of them, a closed connection whose entry
was the cached one hides the live one of its type, and a walk goes on after a callback that
asks to delete and break. -/
theorem lookups_miss_conns :
    (((Machine.run (step 4) empty (twoConns ++ [.expire 1, .expire 2])).clearClosedConnsLocked
        20).1.listconn.map HostConn.weakconn = [1] ∧
      ((Machine.run (step 4) empty (twoConns ++ [.expire 1, .expire 2])).clearClosedConnsLocked
        20).2 = 1) ∧ ((Machine.run (step 4) empty (twoConns ++ [.delConn (some 2)])).listconn.map
        HostConn.weakconn = [1] ∧
      ((Machine.run (step 4) empty (twoConns ++ [.delConn (some 2)])).getLastConn
        .reqResp 20).2 = none) ∧
    ((Machine.run (step 4) empty twoConns).walkConnList fun _ _ => .deleteBreak).2.length = 2 := by
  decide

end HostConnFlist

end Gyeeta.Hosts
