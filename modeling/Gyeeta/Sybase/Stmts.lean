import Gyeeta.Lib.Run
import Gyeeta.Sybase.Datalist
import Mathlib.Data.List.TakeWhile

/-!
# Prepared statements and cursors of a Sybase session

A session keeps the texts of its prepared statements by their ids, and those of its cursors by
their numbers.  What a session should find is what was stored last for an id and not removed
since.
-/

namespace Gyeeta.Sybase

open List Bytes Hashtbl

def sybtdsSqllistsize : Nat := 8

def sybtdsSqlstmtlen : Nat := 128

def sybtdsHashtblsize : Nat := 128

def sybtdsDynidlen : Nat := 32

def sybMaxCursors : Nat := 1024

/-- The default of `max_elem`, 0xFFFFFFFF as an `int` -/
def defaultMaxElem : Int := -1

/-- What is kept of a statement in `SYB_DYN_SQL_STATS_S` and of a cursor in
`SYB_IW_CURSOR_LOOKUP_T`; the text has its `len`. -/
structure Prepared where
  text : Bytes
  dynPrepReqnum : Nat
  dynPrepTimeT : Nat
  deriving DecidableEq, Repr, Inhabited

/-- The number and the time in seconds of the current request. -/
structure Request where
  reqnum : Nat
  timeT : Nat
  deriving DecidableEq, Repr

/-- `SYBASE_ASE_SESSINFO`: `pDynStmt` and `pDynStmtMap`, which one call makes, `pCurList`,
`pCurIDLookupMap`, `ncurrcursor`, and `dyn_prep_reqnum_` with `dyn_prep_time_t_`. -/
structure Stmts where
  dynStmt : Option (DataList Prepared × Hashtbl) := none
  curList : DataList Prepared := .init sybMaxCursors sybtdsSqllistsize
  curIdLookupMap : Hashtbl := .set 4 sybtdsHashtblsize
  ncurrcursor : Nat := 0
  dynPrep : Nat × Nat := (0, 0)

namespace Stmts

/-! ## Statements -/

/-- An id with zeros behind it. -/
def dynId (pid : Bytes) : Bytes :=
  (pid.take (sybtdsDynidlen - 1)).rightpad sybtdsDynidlen 0

/-- The request number and time of a preparation, where it is not after the request. -/
def prepOf (request : Request) (stat : Prepared) : Nat × Nat :=
  if stat.dynPrepReqnum ≤ request.reqnum then (stat.dynPrepReqnum, stat.dynPrepTimeT) else (0, 0)

/-- The text that is kept of a statement. -/
def dynSql (pstmt : Bytes) : Bytes :=
  if sybtdsSqlstmtlen ≤ pstmt.length then
    pstmt.take (sybtdsSqlstmtlen - 3) ++ [46, 46]
  else pstmt

def storeDynTxt (stmts : Stmts) (request : Request) (pid pstmt : Bytes) : Stmts × Int :=
  if pid = [] ∨ pstmt = [] then (stmts, 0)
  else
    let dynStmt := stmts.dynStmt.getD
      (.init defaultMaxElem sybtdsSqllistsize, .set sybtdsDynidlen sybtdsHashtblsize)
    let added := dynStmt.1.addElement ⟨dynSql pstmt, request.reqnum, request.timeT⟩
    match added.2 with
    | none => ({ stmts with dynStmt := some (added.1, dynStmt.2) }, -1)
    | some index => ({ stmts with dynStmt := some (added.1, dynStmt.2.add (dynId pid) index) }, 0)

/-- `get_dyn_text`, with the size of the buffer `pdyntext` if there is one: the text that is
found, for the buffer or for the request. -/
def getDynText (stmts : Stmts) (request : Request) (pid : Bytes) (dealloc : Bool)
    (maxDynLen : Option Nat) : Stmts × Option Bytes :=
  match stmts.dynStmt with
  | none => (stmts, none)
  | some (list, table) =>
    if pid = [] then (stmts, none)
    else
      match table.search (dynId pid) with
      | none => ({ stmts with dynPrep := (0, 0) }, none)
      | some index =>
        match list.getElementPtr index, maxDynLen with
        | none, _ => (stmts, none)
        | some stat, some maxDynLen =>
          (stmts, some (stat.text.take ((maxDynLen + 2 ^ 32 - 1) % 2 ^ 32)))
        | some stat, none =>
          ({ stmts with
              dynPrep := prepOf request stat
              dynStmt := some (if dealloc then (list.deleteElement index, table.remove (dynId pid))
                else (list, table)) }, some (stat.text.take sybtdsSqlstmtlen))

/-! ## Cursors -/

/-- The memory at the address of a cursor's number: its four bytes and what is behind it. -/
def cursorMemory (cursor : UInt32) (behind : Bytes) : Bytes :=
  ofNat 4 cursor.toNat ++ behind

/-- `find_pcap_cursor`: the text of the cursor that is found; the text of the request is set if it
is not empty. -/
def findPcapCursor (stmts : Stmts) (request : Request) (cursor : UInt32) (behind : Bytes) :
    Stmts × Option Bytes :=
  if cursor = 0 ∨ stmts.ncurrcursor = 0 then (stmts, none)
  else
    match stmts.curIdLookupMap.search (cursorMemory cursor behind) with
    | none => ({ stmts with dynPrep := (0, 0) }, none)
    | some index =>
      match stmts.curList.getElementPtr index with
      | none => (stmts, none)
      | some found =>
        (if found.text = [] then stmts else { stmts with dynPrep := prepOf request found },
          some (found.text.take sybtdsSqlstmtlen))

/-- `add_cursor`, with the text in `sybstat_.cursortext` -/
def addCursor (stmts : Stmts) (request : Request) (cursor : UInt32) (cursortext behind : Bytes) :
    Stmts × Int :=
  if cursor = 0 then (stmts, 1)
  else
    let text := (cursortext.takeWhile (· ≠ 0)).take (sybtdsSqlstmtlen - 1)
    let elem : Prepared := if text = [] then default else ⟨text, request.reqnum, request.timeT⟩
    let added := stmts.curList.addElement elem
    match added.2 with
    | none => ({ stmts with curList := added.1 }, -1)
    | some index =>
      ({ stmts with
          curList := added.1
          curIdLookupMap := stmts.curIdLookupMap.add (cursorMemory cursor behind) index
          ncurrcursor := stmts.ncurrcursor + 1 }, 0)

def closeCursor (stmts : Stmts) (cursor : UInt32) (behind : Bytes) : Stmts × Int :=
  if cursor = 0 ∨ stmts.ncurrcursor = 0 then (stmts, 1)
  else
    match stmts.curIdLookupMap.search (cursorMemory cursor behind) with
    | none => (stmts, 1)
    | some index =>
      match stmts.curList.getElementPtr index with
      | none => (stmts, 1)
      | some _ =>
        ({ stmts with
            curList := stmts.curList.deleteElement index
            curIdLookupMap := stmts.curIdLookupMap.remove (cursorMemory cursor behind)
            ncurrcursor := stmts.ncurrcursor - 1 }, 0)

end Stmts

/-! ## What should be found -/

/-- The calls, each in a request. -/
inductive StmtCall where
  | storeDynTxt (request : Request) (pid pstmt : Bytes)
  | getDynText (request : Request) (pid : Bytes) (dealloc : Bool) (maxDynLen : Option Nat)
  | addCursor (request : Request) (cursor : UInt32) (cursortext behind : Bytes)
  | findPcapCursor (request : Request) (cursor : UInt32) (behind : Bytes)
  | closeCursor (cursor : UInt32) (behind : Bytes)

/-- The texts that were stored last and not removed since. -/
structure Latest where
  statements : List (Bytes × Bytes) := []
  cursors : List (UInt32 × Bytes) := []

namespace Latest

def step (latest : Latest) : StmtCall → Latest
  | .storeDynTxt _ pid pstmt =>
    { latest with statements := (pid, pstmt) :: latest.statements.filter (·.1 != pid) }
  | .getDynText _ pid true none =>
    { latest with statements := latest.statements.filter (·.1 != pid) }
  | .addCursor _ cursor cursortext _ =>
    { latest with cursors := (cursor, cursortext) :: latest.cursors.filter (·.1 != cursor) }
  | .closeCursor cursor _ =>
    { latest with cursors := latest.cursors.filter (·.1 != cursor) }
  | _ => latest

end Latest

/-- A session together with what it should find. -/
structure StmtRun where
  stmts : Stmts := {}
  latest : Latest := {}

namespace StmtRun

open Stmts

def step (run : StmtRun) (call : StmtCall) : StmtRun where
  stmts :=
    match call with
    | .storeDynTxt request pid pstmt => (run.stmts.storeDynTxt request pid pstmt).1
    | .getDynText request pid dealloc maxDynLen =>
      (run.stmts.getDynText request pid dealloc maxDynLen).1
    | .addCursor request cursor cursortext behind =>
      (run.stmts.addCursor request cursor cursortext behind).1
    | .findPcapCursor request cursor behind => (run.stmts.findPcapCursor request cursor behind).1
    | .closeCursor cursor behind => (run.stmts.closeCursor cursor behind).1
  latest := run.latest.step call

/-- An id of 1 to 31 bytes that does not end in a zero. -/
def ValidId (pid : Bytes) : Prop :=
  pid ≠ [] ∧ pid.length ≤ 31 ∧ pid.getLast? ≠ some 0

/-- A cursor that is not zero but has a zero byte. -/
def ValidCursor (cursor : UInt32) : Prop :=
  cursor ≠ 0 ∧ 0 ∈ ofNat 4 cursor.toNat

instance (pid : Bytes) : Decidable (ValidId pid) := inferInstanceAs (Decidable (_ ∧ _))

instance (cursor : UInt32) : Decidable (ValidCursor cursor) :=
  inferInstanceAs (Decidable (_ ∧ _))

/-- Only ids without a live text are stored, up to 8 statements and 1024 cursors. -/
def Allowed (run : StmtRun) : StmtCall → Prop
  | .storeDynTxt _ pid pstmt =>
    ValidId pid ∧ pstmt ≠ [] ∧ pstmt.length ≤ 127 ∧ run.latest.statements.lookup pid = none ∧
      run.latest.statements.length < sybtdsSqllistsize
  | .getDynText _ pid _ _ => ValidId pid
  | .addCursor _ cursor cursortext _ =>
    ValidCursor cursor ∧ 0 ∉ cursortext ∧ cursortext.length ≤ 127 ∧
      run.latest.cursors.lookup cursor = none ∧ run.latest.cursors.length < sybMaxCursors
  | .findPcapCursor _ cursor _ => ValidCursor cursor
  | .closeCursor cursor _ => ValidCursor cursor

instance (run : StmtRun) (call : StmtCall) : Decidable (Allowed run call) := by
  cases call <;> exact inferInstanceAs (Decidable (_ ∧ _))

end StmtRun

/-! ## Texts in slots -/

lemma DataList.length_deleteElement (list : DataList Prepared) (index : Nat) :
    (list.deleteElement index).datalist.length = list.datalist.length := by
  rw [DataList.deleteElement]
  split
  · exact length_set ..
  · rfl

section

variable {Id : Type} [BEq Id] [LawfulBEq Id]

/-- The live elements are the texts, under the keys of their ids. -/
def Mirrors (encode : Id → Bytes) (live : List (Bytes × Prepared)) (texts : List (Id × Bytes)) :
    Prop :=
  live.map (fun entry => (entry.1, entry.2.text)) =
    texts.map fun entry => (encode entry.1, entry.2)

/-- The slots have the texts of ids that differ in their keys. -/
structure TextSlots (encode : Id → Bytes) (Valid : Id → Prop) (place : Bytes → Nat)
    (list : DataList Prepared) (table : Hashtbl) (texts : List (Id × Bytes)) : Prop where
  linked : ∃ live, Linked list table place live ∧ Mirrors encode live texts
  valid : ∀ entry ∈ texts, Valid entry.1
  injective : ∀ first second, Valid first → Valid second → encode first = encode second →
    first = second

namespace TextSlots

variable {encode : Id → Bytes} {Valid : Id → Prop} {place : Bytes → Nat}
  {list : DataList Prepared} {table : Hashtbl} {texts : List (Id × Bytes)}

variable {id : Id} {memory : Bytes}

lemma lookup (keeps : TextSlots encode Valid place list table texts)
    {live : List (Bytes × Prepared)} (mirrors : Mirrors encode live texts) (valid : Valid id) :
    (live.lookup (encode id)).map Prepared.text = texts.lookup id := by
  rw [← Chained.lookup_map_val live, mirrors]
  apply Chained.lookup_map_key
  intro entry mem same
  exact keeps.injective _ _ (keeps.valid entry mem) valid same

omit [BEq Id] [LawfulBEq Id] in
lemma length (keeps : TextSlots encode Valid place list table texts) :
    list.freelist.length + texts.length = list.datalist.length := by
  obtain ⟨live, linked, mirrors⟩ := keeps.linked
  have lengths := congrArg List.length mirrors
  rw [length_map, length_map] at lengths
  rw [← lengths]
  exact linked.length

section

variable (keeps : TextSlots encode Valid place list table texts) (valid : Valid id)
  (isKey : memory.take table.keylen = encode id) (placed : table.bucket memory = place (encode id))
include keeps valid isKey placed

lemma search :
    (∃ index elem, table.search memory = some index ∧ list.getElementPtr index = some elem ∧
      texts.lookup id = some elem.text) ∨
    (table.search memory = none ∧ texts.lookup id = none) := by
  obtain ⟨live, linked, mirrors⟩ := keeps.linked
  have texts := keeps.lookup mirrors valid
  rw [← isKey] at placed
  rcases linked.search placed with ⟨index, elem, found, isElem, isLive⟩ | ⟨absent, isLive⟩
  · rw [isKey] at isLive
    rw [isLive] at texts
    exact .inl ⟨index, elem, found, isElem, texts.symm⟩
  · rw [isKey] at isLive
    rw [isLive] at texts
    exact .inr ⟨absent, texts.symm⟩

lemma takeSlot (fresh : texts.lookup id = none)
    {index : Nat} {rest : List Nat} (isFree : list.freelist = index :: rest) (elem : Prepared) :
    TextSlots encode Valid place
      { list with datalist := list.datalist.set index elem, freelist := rest }
      (table.add memory index) ((id, elem.text) :: texts) := by
  obtain ⟨live, linked, mirrors⟩ := keeps.linked
  have isFresh := keeps.lookup mirrors valid
  rw [fresh, Option.map_eq_none_iff, ← isKey, Chained.lookup_eq_none_iff] at isFresh
  rw [← isKey] at placed
  constructor
  · refine ⟨_, linked.takeSlot placed isFresh isFree elem, ?_⟩
    rw [Mirrors, map_cons, map_cons, isKey]
    exact congrArg _ mirrors
  · rw [forall_mem_cons]
    exact ⟨valid, keeps.valid⟩
  · exact keeps.injective

lemma addElement (fresh : texts.lookup id = none)
    (room : texts.length = list.datalist.length → 0 < list.nresizelem ∧
      list.datalist.length + list.nresizelem ≤ list.maxElements) (elem : Prepared) :
    ∃ next index, list.addElement elem = (next, some index) ∧
      TextSlots encode Valid place next (table.add memory index) ((id, elem.text) :: texts) ∧
      next.nresizelem = list.nresizelem ∧ next.maxElements = list.maxElements ∧
      (next.datalist.length = list.datalist.length ∨ texts.length = list.datalist.length ∧
        next.datalist.length = list.datalist.length + list.nresizelem) := by
  have length := keeps.length
  rw [DataList.addElement]
  cases isFree : list.freelist with
  | cons index rest =>
    refine ⟨_, index, ?_, keeps.takeSlot valid isKey placed fresh isFree elem, rfl, rfl,
      .inl (length_set ..)⟩
    rw [if_neg (cons_ne_nil _ _), DataList.takeSlot, isFree]
  | nil =>
    rw [isFree, length_nil, Nat.zero_add] at length
    obtain ⟨some, fits⟩ := room length
    have resized : TextSlots encode Valid place
        (list.initMore (list.datalist.length + list.nresizelem)) table texts := by
      obtain ⟨live, linked, mirrors⟩ := keeps.linked
      exact ⟨⟨live, linked.initMore _, mirrors⟩, keeps.valid, keeps.injective⟩
    have size : (list.initMore (list.datalist.length + list.nresizelem)).datalist.length =
        list.datalist.length + list.nresizelem := by
      rw [DataList.initMore, length_append, length_replicate, Nat.add_sub_cancel_left]
    have more := resized.length
    rw [size, length] at more
    obtain ⟨index, rest, isMore⟩ := exists_cons_of_length_pos
      (show 0 < (list.initMore (list.datalist.length + list.nresizelem)).freelist.length by omega)
    refine ⟨_, index, ?_, resized.takeSlot valid isKey placed fresh isMore elem, rfl, rfl,
      .inr ⟨length, (length_set ..).trans size⟩⟩
    rw [if_pos rfl, DataList.resizeList, if_neg (Int.not_lt.mpr fits)]
    dsimp only
    rw [DataList.takeSlot, isMore]

lemma remove {index : Nat} (found : table.search memory = some index) :
    TextSlots encode Valid place (list.deleteElement index) (table.remove memory)
      (texts.filter (·.1 != id)) := by
  obtain ⟨live, linked, mirrors⟩ := keeps.linked
  rw [← isKey] at placed
  constructor
  · refine ⟨_, linked.remove placed found, ?_⟩
    have same : texts.filter (fun entry => encode entry.1 != encode id) =
        texts.filter (·.1 != id) := by
      apply filter_congr
      intro entry mem
      apply Bool.eq_iff_iff.mpr
      rw [bne_iff_ne, bne_iff_ne, not_iff_not]
      exact ⟨keeps.injective _ _ (keeps.valid entry mem) valid, congrArg encode⟩
    have filtered := congrArg (List.filter (·.1 != encode id)) mirrors
    rw [filter_map, filter_map] at filtered
    rw [Mirrors, isKey, ← same]
    exact filtered
  · intro entry mem
    exact keeps.valid entry (mem_of_mem_filter mem)
  · exact keeps.injective

end

end TextSlots

end

/-! ## Keys -/

namespace StmtRun

open Stmts

lemma length_dynId (pid : Bytes) : (dynId pid).length = sybtdsDynidlen := by
  rw [dynId, length_rightpad, length_take]
  apply Nat.max_eq_left
  exact (Nat.min_le_left _ _).trans (by decide)

lemma dynId_of_valid {pid : Bytes} (valid : ValidId pid) :
    dynId pid = pid ++ List.replicate (sybtdsDynidlen - pid.length) 0 := by
  rw [dynId, take_of_length_le (show pid.length ≤ sybtdsDynidlen - 1 from valid.2.1)]
  rfl

lemma length_le_of_dynId_eq {first second : Bytes} (validFirst : ValidId first)
    (validSecond : ValidId second) (same : dynId first = dynId second) :
    second.length ≤ first.length := by
  by_contra longer
  rw [Nat.not_le] at longer
  have short := validSecond.2.1
  have last := congrArg (·[second.length - 1]?) same
  rw [dynId_of_valid validFirst, dynId_of_valid validSecond,
    List.getElem?_append_right (by omega), List.getElem?_append_left (by omega),
    List.getElem?_replicate_of_lt (by rw [sybtdsDynidlen]; omega),
    ← List.getLast?_eq_getElem?] at last
  exact validSecond.2.2 last.symm

lemma dynId_injective (first second : Bytes) (validFirst : ValidId first)
    (validSecond : ValidId second) (same : dynId first = dynId second) : first = second := by
  have lengths := Nat.le_antisymm (length_le_of_dynId_eq validSecond validFirst same.symm)
    (length_le_of_dynId_eq validFirst validSecond same)
  rw [dynId_of_valid validFirst, dynId_of_valid validSecond] at same
  exact (append_inj same lengths).1

lemma cursorKey_injective (first second : UInt32)
    (same : ofNat 4 first.toNat = ofNat 4 second.toNat) : first = second := by
  have bytes := congrArg toNat same
  rw [toNat_ofNat first.toNat_lt, toNat_ofNat second.toNat_lt] at bytes
  exact UInt32.toNat_inj.mp bytes

/-! ## Statements -/

/-- The tables of the statements, also before the first one is stored. -/
def dynTables (stmts : Stmts) : DataList Prepared × Hashtbl :=
  stmts.dynStmt.getD
    (.init defaultMaxElem sybtdsSqllistsize, .set sybtdsDynidlen sybtdsHashtblsize)

/-- The slots of the statements have their texts. -/
structure StatementsKept (stmts : Stmts) (texts : List (Bytes × Bytes)) : Prop where
  slots : TextSlots dynId ValidId (set sybtdsDynidlen sybtdsHashtblsize).bucket
    (dynTables stmts).1 (dynTables stmts).2 texts
  keylen : (dynTables stmts).2.keylen = sybtdsDynidlen
  capacity : (dynTables stmts).2.capacity = sybtdsHashtblsize
  size : (dynTables stmts).1.datalist.length = sybtdsSqllistsize
  none_eq : stmts.dynStmt = none → texts = []

namespace StatementsKept

variable {stmts : Stmts} {texts : List (Bytes × Bytes)} {pid : Bytes}

lemma take_dynId (kept : StatementsKept stmts texts) :
    (dynId pid).take (dynTables stmts).2.keylen = dynId pid := by
  rw [kept.keylen, ← length_dynId pid]
  exact take_length

lemma bucket_dynId (kept : StatementsKept stmts texts) : (dynTables stmts).2.bucket (dynId pid) =
      (set sybtdsDynidlen sybtdsHashtblsize).bucket (dynId pid) := by
  rw [bucket, kept.keylen, kept.capacity]
  rfl

lemma start : StatementsKept {} [] where
  slots := {
    linked := ⟨[], .init _ _ _ _, rfl⟩
    valid := fun _ mem => absurd mem not_mem_nil
    injective := dynId_injective }
  keylen := rfl
  capacity := rfl
  size := rfl
  none_eq _ := rfl

section

variable (kept : StatementsKept stmts texts)
include kept

lemma congr {other : Stmts}
    (same : other.dynStmt = stmts.dynStmt) : StatementsKept other texts := by
  have tables : dynTables other = dynTables stmts := congrArg (Option.getD · _) same
  constructor
  · rw [tables]
    exact kept.slots
  · rw [tables]
    exact kept.keylen
  · rw [tables]
    exact kept.capacity
  · rw [tables]
    exact kept.size
  · rw [same]
    exact kept.none_eq

lemma storeDynTxt (valid : ValidId pid) {pstmt : Bytes}
    (some : pstmt ≠ []) (short : pstmt.length ≤ 127) (fresh : texts.lookup pid = none)
    (room : texts.length < sybtdsSqllistsize) (request : Request) :
    StatementsKept (stmts.storeDynTxt request pid pstmt).1 ((pid, pstmt) :: texts) := by
  have isSql : dynSql pstmt = pstmt := by
    rw [dynSql, sybtdsSqlstmtlen, if_neg (by omega)]
  obtain ⟨next, index, isAdded, slots, -, -, size⟩ := kept.slots.addElement valid kept.take_dynId
    kept.bucket_dynId fresh (fun full => absurd (full ▸ room) (by rw [kept.size]; decide))
    ⟨pstmt, request.reqnum, request.timeT⟩
  have isStored : (stmts.storeDynTxt request pid pstmt).1 =
      { stmts with dynStmt := Option.some (next, (dynTables stmts).2.add (dynId pid) index) } := by
    rw [Stmts.storeDynTxt, if_neg (not_or.mpr ⟨valid.1, some⟩), isSql]
    rw [dynTables] at isAdded ⊢
    dsimp only
    rw [isAdded]
  rw [isStored]
  exact { kept with
    slots := slots
    size := size.elim (·.trans kept.size) fun full => absurd (full.1.trans kept.size) room.ne
    none_eq := nofun }

lemma getDynText (valid : ValidId pid) (request : Request)
    (dealloc : Bool) (maxDynLen : Option Nat) :
    StatementsKept (stmts.getDynText request pid dealloc maxDynLen).1
      (if dealloc ∧ maxDynLen = none then texts.filter (·.1 != pid) else texts) ∧
    (stmts.getDynText request pid dealloc maxDynLen).2 = (texts.lookup pid).map fun text =>
      match maxDynLen with
      | none => text.take sybtdsSqlstmtlen
      | some maxDynLen => text.take ((maxDynLen + 2 ^ 32 - 1) % 2 ^ 32) := by
  rw [Stmts.getDynText]
  cases isDyn : stmts.dynStmt with
  | none =>
    obtain rfl := kept.none_eq isDyn
    rw [filter_nil, ite_self]
    exact ⟨kept, rfl⟩
  | some tables =>
    obtain ⟨list, table⟩ := tables
    have isTables : dynTables stmts = (list, table) := by
      rw [dynTables, isDyn]
      rfl
    have found := kept.slots.search valid kept.take_dynId kept.bucket_dynId
    rw [isTables] at found
    dsimp only at found ⊢
    rw [if_neg valid.1]
    rcases found with ⟨index, elem, isIndex, isElem, isText⟩ | ⟨absent, isText⟩
    · rw [isIndex, isText]
      dsimp only
      rw [isElem]
      cases maxDynLen with
      | some maxDynLen =>
        rw [if_neg (show ¬(dealloc = true ∧ some maxDynLen = none) from fun both => nomatch both.2)]
        exact ⟨kept, rfl⟩
      | none =>
        refine ⟨?_, rfl⟩
        cases dealloc with
        | false =>
          rw [if_neg (show ¬(false = true ∧ none = none) from fun both => nomatch both.1)]
          exact kept.congr isDyn.symm
        | true =>
          rw [if_pos (show true = true ∧ none = none from ⟨rfl, rfl⟩)]
          have removed := kept.slots.remove valid kept.take_dynId kept.bucket_dynId
            ((congrArg (fun tables => tables.2.search (dynId pid)) isTables).trans isIndex)
          obtain ⟨-, keylen, capacity, size, -⟩ := kept
          rw [isTables] at removed keylen capacity size
          exact {
            slots := removed
            keylen := keylen
            capacity := capacity
            size := (DataList.length_deleteElement list index).trans size
            none_eq := nofun }
    · rw [absent, isText]
      refine ⟨?_, rfl⟩
      rw [Chained.filter_eq_self isText, ite_self]
      exact kept.congr isDyn.symm

end

end StatementsKept

/-! ## Cursors -/

def cursorKey (cursor : UInt32) : Bytes :=
  ofNat 4 cursor.toNat

/-- The slots of the cursors have their texts, and there can be more slots in steps of 4. -/
structure CursorsKept (stmts : Stmts) (texts : List (UInt32 × Bytes)) : Prop where
  slots : TextSlots cursorKey ValidCursor (set 4 sybtdsHashtblsize).bucket
    stmts.curList stmts.curIdLookupMap texts
  keylen : stmts.curIdLookupMap.keylen = 4
  capacity : stmts.curIdLookupMap.capacity = sybtdsHashtblsize
  count : stmts.ncurrcursor = texts.length
  size : stmts.curList.datalist.length % 4 = 0 ∧
    stmts.curList.datalist.length ≤ sybMaxCursors
  resize : stmts.curList.nresizelem = 4 ∧ stmts.curList.maxElements = sybMaxCursors

namespace CursorsKept

variable {stmts : Stmts} {texts : List (UInt32 × Bytes)} {cursor : UInt32}

lemma take_cursorMemory (kept : CursorsKept stmts texts) (behind : Bytes) :
    (cursorMemory cursor behind).take stmts.curIdLookupMap.keylen = cursorKey cursor := by
  rw [kept.keylen]
  rfl

lemma bucket_cursorMemory (kept : CursorsKept stmts texts) (valid : ValidCursor cursor)
    (behind : Bytes) : stmts.curIdLookupMap.bucket (cursorMemory cursor behind) =
      (set 4 sybtdsHashtblsize).bucket (cursorKey cursor) := by
  rw [bucket, kept.keylen, kept.capacity, cursorMemory, hash_append valid.2 (show 4 ≤ 6 by decide)]
  rfl

lemma start : CursorsKept {} [] where
  slots := {
    linked := ⟨[], .init _ _ _ _, rfl⟩
    valid := fun _ mem => absurd mem not_mem_nil
    injective := fun first second _ _ => cursorKey_injective first second }
  keylen := rfl
  capacity := rfl
  count := rfl
  size := by decide
  resize := ⟨rfl, rfl⟩

lemma congr (kept : CursorsKept stmts texts) {other : Stmts}
    (list : other.curList = stmts.curList) (table : other.curIdLookupMap = stmts.curIdLookupMap)
    (count : other.ncurrcursor = stmts.ncurrcursor) : CursorsKept other texts := by
  constructor
  · rw [list, table]
    exact kept.slots
  · rw [table]
    exact kept.keylen
  · rw [table]
    exact kept.capacity
  · rw [count]
    exact kept.count
  · rw [list]
    exact kept.size
  · rw [list]
    exact kept.resize

section

variable (kept : CursorsKept stmts texts) (valid : ValidCursor cursor)
include kept valid

lemma addCursor {cursortext : Bytes} (noZero : 0 ∉ cursortext) (short : cursortext.length ≤ 127)
    (fresh : texts.lookup cursor = none) (room : texts.length < sybMaxCursors)
    (request : Request) (behind : Bytes) :
    CursorsKept (stmts.addCursor request cursor cursortext behind).1
      ((cursor, cursortext) :: texts) := by
  have isText : (cursortext.takeWhile (· ≠ 0)).take (sybtdsSqlstmtlen - 1) = cursortext := by
    rw [takeWhile_eq_self_iff.mpr]
    · exact take_of_length_le short
    · intro char mem
      exact decide_eq_true (ne_of_mem_of_not_mem mem noZero)
  generalize isElem : (if cursortext = [] then (default : Prepared) else
    ⟨cursortext, request.reqnum, request.timeT⟩) = elem
  have elemText : elem.text = cursortext := by
    rw [← isElem]
    split
    next empty =>
      exact empty.symm
    · rfl
  have more : texts.length = stmts.curList.datalist.length →
      stmts.curList.datalist.length + 4 ≤ sybMaxCursors := by
    have limit : sybMaxCursors = 1024 := rfl
    have size := kept.size
    omega
  obtain ⟨next, index, isAdded, slots, resize, limit, size⟩ := kept.slots.addElement valid
    (kept.take_cursorMemory behind) (kept.bucket_cursorMemory valid behind) fresh
    (fun full => by
      rw [kept.resize.1, kept.resize.2]
      exact ⟨by decide, by exact_mod_cast more full⟩) elem
  have isStored : (stmts.addCursor request cursor cursortext behind).1 =
      { stmts with
        curList := next
        curIdLookupMap := stmts.curIdLookupMap.add (cursorMemory cursor behind) index
        ncurrcursor := stmts.ncurrcursor + 1 } := by
    rw [Stmts.addCursor, if_neg valid.1, isText]
    dsimp only
    rw [isElem, isAdded]
  rw [elemText] at slots
  rw [isStored]
  exact { kept with
    slots := slots
    count := congrArg (· + 1) kept.count
    size := by
      have sizes := kept.size
      have four := kept.resize.1
      dsimp only
      omega
    resize := ⟨resize.trans kept.resize.1, limit.trans kept.resize.2⟩ }

lemma eq_nil (none : cursor = 0 ∨ stmts.ncurrcursor = 0) : texts = [] := by
  apply eq_nil_of_length_eq_zero
  rw [← kept.count]
  exact none.resolve_left valid.1

lemma findPcapCursor (request : Request) (behind : Bytes) :
    CursorsKept (stmts.findPcapCursor request cursor behind).1 texts ∧
    (stmts.findPcapCursor request cursor behind).2 =
      (texts.lookup cursor).map (·.take sybtdsSqlstmtlen) := by
  rw [Stmts.findPcapCursor]
  split
  next none =>
    obtain rfl := kept.eq_nil valid none
    exact ⟨kept, rfl⟩
  · rcases kept.slots.search valid (kept.take_cursorMemory behind)
      (kept.bucket_cursorMemory valid behind) with
      ⟨index, elem, isIndex, isElem, isText⟩ | ⟨absent, isText⟩
    · rw [isIndex, isText]
      dsimp only
      rw [isElem]
      refine ⟨?_, rfl⟩
      dsimp only
      split
      · exact kept
      · exact kept.congr rfl rfl rfl
    · rw [absent, isText]
      exact ⟨kept.congr rfl rfl rfl, rfl⟩

lemma closeCursor (behind : Bytes) :
    CursorsKept (stmts.closeCursor cursor behind).1 (texts.filter (·.1 != cursor)) := by
  rw [Stmts.closeCursor]
  split
  next none =>
    obtain rfl := kept.eq_nil valid none
    exact kept
  · rcases kept.slots.search valid (kept.take_cursorMemory behind)
      (kept.bucket_cursorMemory valid behind) with
      ⟨index, elem, isIndex, isElem, isText⟩ | ⟨absent, isText⟩
    · rw [isIndex]
      dsimp only
      rw [isElem]
      have removed := kept.slots.remove valid (kept.take_cursorMemory behind)
        (kept.bucket_cursorMemory valid behind) isIndex
      obtain ⟨inside, -⟩ := List.getElem?_eq_some_iff.mp isElem
      have before := kept.slots.length
      have after := removed.length
      rw [DataList.deleteElement, if_pos inside] at removed after ⊢
      rw [length_cons, length_set] at after
      exact { kept with
        slots := removed
        count := by
          have count := kept.count
          dsimp only
          omega
        size := by
          rw [length_set]
          exact kept.size }
    · rw [absent, Chained.filter_eq_self isText]
      exact kept

end

end CursorsKept

/-! ## Runs -/

variable {stmts : Stmts} {cursors : List (UInt32 × Bytes)}

lemma CursorsKept.of_storeDynTxt (kept : CursorsKept stmts cursors) (request : Request)
    (pid pstmt : Bytes) : CursorsKept (stmts.storeDynTxt request pid pstmt).1 cursors := by
  rw [Stmts.storeDynTxt]
  split
  · exact kept
  · dsimp only
    split
    · exact kept.congr rfl rfl rfl
    · exact kept.congr rfl rfl rfl

lemma CursorsKept.of_getDynText (kept : CursorsKept stmts cursors) (request : Request)
    (pid : Bytes) (dealloc : Bool) (maxDynLen : Option Nat) :
    CursorsKept (stmts.getDynText request pid dealloc maxDynLen).1 cursors := by
  rw [Stmts.getDynText]
  repeat' split
  all_goals exact kept.congr rfl rfl rfl

lemma dynStmt_addCursor (stmts : Stmts) (request : Request) (cursor : UInt32)
    (cursortext behind : Bytes) :
    (stmts.addCursor request cursor cursortext behind).1.dynStmt = stmts.dynStmt := by
  rw [Stmts.addCursor]
  split
  · rfl
  · dsimp only
    split <;> rfl

lemma dynStmt_findPcapCursor (stmts : Stmts) (request : Request) (cursor : UInt32)
    (behind : Bytes) : (stmts.findPcapCursor request cursor behind).1.dynStmt = stmts.dynStmt := by
  rw [Stmts.findPcapCursor]
  repeat' split
  all_goals rfl

lemma dynStmt_closeCursor (stmts : Stmts) (cursor : UInt32) (behind : Bytes) :
    (stmts.closeCursor cursor behind).1.dynStmt = stmts.dynStmt := by
  rw [Stmts.closeCursor]
  repeat' split
  all_goals rfl

/-- The slots have the texts that were stored last and not removed since. -/
structure Kept (run : StmtRun) : Prop where
  statements : StatementsKept run.stmts run.latest.statements
  cursors : CursorsKept run.stmts run.latest.cursors
  statement_le : ∀ entry ∈ run.latest.statements, entry.2.length ≤ 127
  cursor_le : ∀ entry ∈ run.latest.cursors, entry.2.length ≤ 127

lemma Kept.start : Kept {} where
  statements := .start
  cursors := .start
  statement_le _ mem := absurd mem not_mem_nil
  cursor_le _ mem := absurd mem not_mem_nil

/-- An allowed call keeps the texts that are live. -/
lemma Kept.step {run : StmtRun} (kept : Kept run) {call : StmtCall} (allowed : Allowed run call) :
    Kept (run.step call) := by
  have statementsFilter : ∀ pid, ∀ entry ∈ run.latest.statements.filter (·.1 != pid),
      entry.2.length ≤ 127 :=
    fun pid entry mem => kept.statement_le entry (mem_of_mem_filter mem)
  have cursorsFilter : ∀ cursor, ∀ entry ∈ run.latest.cursors.filter (·.1 != cursor),
      entry.2.length ≤ 127 :=
    fun cursor entry mem => kept.cursor_le entry (mem_of_mem_filter mem)
  cases call with
  | storeDynTxt request pid pstmt =>
    obtain ⟨valid, some, short, fresh, room⟩ := allowed
    constructor
    · rw [StmtRun.step, Latest.step, Chained.filter_eq_self fresh]
      exact kept.statements.storeDynTxt valid some short fresh room request
    · exact kept.cursors.of_storeDynTxt request pid pstmt
    · rw [StmtRun.step, Latest.step, forall_mem_cons]
      exact ⟨short, statementsFilter pid⟩
    · exact kept.cursor_le
  | getDynText request pid dealloc maxDynLen =>
    have after := (kept.statements.getDynText allowed request dealloc maxDynLen).1
    have others := kept.cursors.of_getDynText request pid dealloc maxDynLen
    by_cases removes : dealloc = true ∧ maxDynLen = none
    · obtain ⟨rfl, rfl⟩ := removes
      exact ⟨after, others, statementsFilter pid, kept.cursor_le⟩
    rw [if_neg removes] at after
    have latest : run.latest.step (.getDynText request pid dealloc maxDynLen) = run.latest := by
      cases dealloc with
      | false => rfl
      | true =>
        cases maxDynLen with
        | none => exact absurd ⟨rfl, rfl⟩ removes
        | some _ => rfl
    rw [StmtRun.step, latest]
    exact ⟨after, others, kept.statement_le, kept.cursor_le⟩
  | addCursor request cursor cursortext behind =>
    obtain ⟨valid, noZero, short, fresh, room⟩ := allowed
    constructor
    · exact kept.statements.congr (dynStmt_addCursor _ _ _ _ _)
    · rw [StmtRun.step, Latest.step, Chained.filter_eq_self fresh]
      exact kept.cursors.addCursor valid noZero short fresh room request behind
    · exact kept.statement_le
    · rw [StmtRun.step, Latest.step, forall_mem_cons]
      exact ⟨short, cursorsFilter cursor⟩
  | findPcapCursor request cursor behind =>
    exact ⟨kept.statements.congr (dynStmt_findPcapCursor _ _ _ _),
      (kept.cursors.findPcapCursor allowed request behind).1, kept.statement_le, kept.cursor_le⟩
  | closeCursor cursor behind =>
    exact ⟨kept.statements.congr (dynStmt_closeCursor _ _ _),
      kept.cursors.closeCursor allowed behind, kept.statement_le, cursorsFilter cursor⟩

lemma take_lookup {Id : Type} [BEq Id] [LawfulBEq Id] {texts : List (Id × Bytes)}
    (short : ∀ entry ∈ texts, entry.2.length ≤ 127) (id : Id) :
    (texts.lookup id).map (·.take sybtdsSqlstmtlen) = texts.lookup id := by
  cases isText : texts.lookup id with
  | none => rfl
  | some text =>
    obtain ⟨before, after, rfl, -⟩ := List.lookup_eq_some_iff.mp isText
    have length := short (id, text) (mem_append_right _ mem_cons_self)
    rw [Option.map_some, take_of_length_le (length.trans (by decide))]

/-- In every state reached, a lookup finds the text stored last for an id and not removed since,
if there is one. -/
theorem run_finds (calls : List StmtCall) (allowed : Machine.Guarded step Allowed {} calls) :
    let run := Machine.run step {} calls
    (∀ request pid dealloc, ValidId pid →
      (run.stmts.getDynText request pid dealloc none).2 = run.latest.statements.lookup pid ∧
      ∀ maxDynLen, (run.stmts.getDynText request pid dealloc (some maxDynLen)).2 =
        (run.latest.statements.lookup pid).map (·.take ((maxDynLen + 2 ^ 32 - 1) % 2 ^ 32))) ∧
    ∀ request cursor behind, ValidCursor cursor →
      (run.stmts.findPcapCursor request cursor behind).2 = run.latest.cursors.lookup cursor := by
  have keeps : ∀ (run : StmtRun) (call : StmtCall), Kept run → Allowed run call →
      Kept (run.step call) := fun _ _ kept now => kept.step now
  have kept := allowed.invariant keeps Kept.start
  constructor
  · intro request pid dealloc valid
    constructor
    · rw [(kept.statements.getDynText valid request dealloc none).2]
      exact take_lookup kept.statement_le pid
    · intro maxDynLen
      exact (kept.statements.getDynText valid request dealloc (some maxDynLen)).2
  · intro request cursor behind valid
    rw [(kept.cursors.findPcapCursor valid request behind).2]
    exact take_lookup kept.cursor_le cursor

/-- A statement and a cursor are stored, and the statement is removed. -/
def storeAndRemove : List StmtCall :=
  [.storeDynTxt ⟨1, 0⟩ [97] [1, 2], .addCursor ⟨2, 0⟩ 5 [3] [9, 9],
    .getDynText ⟨3, 0⟩ [97] true none]

theorem run_finds_storeAndRemove :
    ((Machine.run step {} storeAndRemove).stmts.getDynText ⟨4, 0⟩ [97] false none).2 = none ∧
      ((Machine.run step {} storeAndRemove).stmts.findPcapCursor ⟨4, 0⟩ 5 [7, 7]).2 = some [3] := by
  have found := run_finds storeAndRemove (by decide +kernel)
  exact ⟨(found.1 ⟨4, 0⟩ [97] false (by decide)).1, found.2 ⟨4, 0⟩ 5 [7, 7] (by decide)⟩

/-- The text of a first statement is found for a second one with its id; a ninth statement is not
found; an id is found with a zero at its end; and a cursor without a zero byte is not found when
the memory behind its number changes. -/
theorem getDynText_stale : ((Machine.run step {} [.storeDynTxt ⟨1, 0⟩ [97] [1],
      .storeDynTxt ⟨2, 0⟩ [97] [2]]).stmts.getDynText ⟨3, 0⟩ [97] false none).2 = some [1] ∧
    ((Machine.run step {} ((List.range 9).map fun count =>
      .storeDynTxt ⟨count, 0⟩ [UInt8.ofNat (97 + count)] [1])).stmts.getDynText
      ⟨9, 0⟩ [105] false none).2 = none ∧
    ((Machine.run step {} [.storeDynTxt ⟨1, 0⟩ [97] [1]]).stmts.getDynText
      ⟨2, 0⟩ [97, 0] false none).2 = some [1] ∧
    ((Machine.run step {} [.addCursor ⟨1, 0⟩ 16843009 [1] [0, 0]]).stmts.findPcapCursor
      ⟨2, 0⟩ 16843009 [1, 0]).2 = none := by
  decide +kernel

end StmtRun

end Gyeeta.Sybase
