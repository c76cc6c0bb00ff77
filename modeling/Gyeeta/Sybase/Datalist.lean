import Gyeeta.Lib.Bytes
import Gyeeta.Lib.Chained
import Mathlib.Data.List.GetD

/-!
# Slots and keys

`DataList` keeps elements in slots and the free slots on a stack, and adds slots up to a limit.
`Hashtbl` finds the slot of a key; its hash function reads until a zero byte, so the memory
behind a short key is an input of each call.  Memory allocation succeeds.
-/

namespace Gyeeta.Sybase

open List

/-! ## The slots -/

/-- `DataList`; the first of `freelist` is the last of the source's array. -/
structure DataList (Elem : Type) where
  datalist : List Elem
  freelist : List Nat
  freelistsize : Nat
  nresizelem : Nat
  maxElements : Int
  deriving DecidableEq, Repr

namespace DataList

variable {Elem : Type} [Inhabited Elem]

/-- `Init` of a list that has fewer elements. -/
def initMore (list : DataList Elem) (nelem : Nat) : DataList Elem :=
  let more := nelem - list.datalist.length
  { list with
    datalist := list.datalist ++ List.replicate more default
    freelist := (List.range' list.datalist.length more).reverse ++ list.freelist }

/-- The first `Init`, without a number of elements for resizes. -/
def init (maxElements : Int) (nelem : Nat) : DataList Elem :=
  initMore ⟨[], [], nelem, nelem / 2, maxElements⟩ nelem

/-- `ResizeList`; `none` is a failure. -/
def resizeList (list : DataList Elem) : Option (DataList Elem) :=
  if list.maxElements < list.datalist.length + list.nresizelem then none
  else some (list.initMore (list.datalist.length + list.nresizelem))

omit [Inhabited Elem] in
/-- The element is written to the last free slot. -/
def takeSlot (list : DataList Elem) (elem : Elem) : DataList Elem × Option Nat :=
  match list.freelist with
  | [] => (list, none)
  | index :: rest =>
    ({ list with datalist := list.datalist.set index elem, freelist := rest }, some index)

def addElement (list : DataList Elem) (elem : Elem) : DataList Elem × Option Nat :=
  if list.freelist = [] then
    match list.resizeList with
    | none => (list, none)
    | some list => list.takeSlot elem
  else list.takeSlot elem

omit [Inhabited Elem] in
def getElementPtr (list : DataList Elem) (index : Nat) : Option Elem :=
  list.datalist[index]?

/-- `DeleteElement`, which also resets the element. -/
def deleteElement (list : DataList Elem) (index : Nat) : DataList Elem :=
  if index < list.datalist.length then
    { list with
      datalist := list.datalist.set index default
      freelist := index :: list.freelist
      freelistsize :=
        if list.freelistsize ≤ list.freelist.length then list.freelistsize + list.nresizelem
        else list.freelistsize }
  else list

end DataList

/-! ## The keys -/

/-- The first loop of `hash`, over the multipliers: the sum, and the rest of the memory if no
zero byte was read. -/
def hashFirst : List Int → Bytes → Int × Option Bytes
  | [], memory => (0, some memory)
  | _ :: _, [] => (0, none)
  | mult :: mults, char :: memory =>
    if char = 0 then (0, none)
    else
      let next := hashFirst mults memory
      (mult * (char.toInt8.toInt - 64) + next.1, next.2)

def hash (memory : Bytes) (len : Nat) : Nat :=
  let first := hashFirst [257, 123, 61, 31, 17, 11] memory
  let chars := ((first.2.getD []).take (len - 6)).takeWhile (· ≠ 0)
  (first.1 + (chars.map fun char => char.toInt8.toInt).sum).natAbs

/-- `Hashtbl`: the chains of `start`, where `val` of -1 is an empty chain. -/
structure Hashtbl where
  keylen : Nat
  capacity : Nat
  start : Nat → List (Bytes × Nat)

namespace Hashtbl

def set (keylen size : Nat) : Hashtbl :=
  ⟨keylen, size, fun _ => []⟩

/-- The chain of the key at an address. -/
def bucket (table : Hashtbl) (memory : Bytes) : Nat :=
  hash memory table.keylen % table.capacity

def add (table : Hashtbl) (memory : Bytes) (val : Nat) : Hashtbl :=
  { table with
    start := Function.update table.start (table.bucket memory)
      (Chained.insert (memory.take table.keylen, val) (table.start (table.bucket memory))) }

def search (table : Hashtbl) (memory : Bytes) : Option Nat :=
  (table.start (table.bucket memory)).lookup (memory.take table.keylen)

def remove (table : Hashtbl) (memory : Bytes) : Hashtbl :=
  { table with
    start := Function.update table.start (table.bucket memory)
      ((table.start (table.bucket memory)).eraseP (·.1 == memory.take table.keylen)) }

end Hashtbl

/-! ## Keys with a zero byte -/

lemma hashFirst_append {mults : List Int} {key : Bytes} (zero : 0 ∈ key)
    (short : key.length ≤ mults.length) (behind : Bytes) :
    hashFirst mults (key ++ behind) = hashFirst mults key := by
  induction key generalizing mults with
  | nil => exact absurd zero not_mem_nil
  | cons char key ih =>
    cases mults with
    | nil => exact absurd short (Nat.not_succ_le_zero _)
    | cons mult mults =>
      rw [cons_append, hashFirst, hashFirst]
      by_cases isZero : char = 0
      · rw [if_pos isZero, if_pos isZero]
      · have later : 0 ∈ key := (mem_cons.mp zero).resolve_left (Ne.symm isZero)
        rw [if_neg isZero, if_neg isZero, ih later (Nat.le_of_succ_le_succ short)]

lemma hash_append {key : Bytes} (zero : 0 ∈ key) (short : key.length ≤ 6) (behind : Bytes)
    (len : Nat) : hash (key ++ behind) len = hash key len := by
  rw [hash, hash, hashFirst_append zero (by exact short)]

/-! ## Keys and slots together -/

section

variable {Elem : Type} [Inhabited Elem] {list : DataList Elem} {table : Hashtbl}
  {place : Bytes → Nat} {live : List (Bytes × Elem)}

/-- The element that a key's slot has. -/
def DataList.linked (list : DataList Elem) (link : Bytes × Nat) : Bytes × Elem :=
  (link.1, list.datalist.getD link.2 default)

/-- The live keys have slots of their own with their elements, and all other slots are free. -/
def Linked (list : DataList Elem) (table : Hashtbl) (place : Bytes → Nat)
    (live : List (Bytes × Elem)) : Prop :=
  ∃ links, Chained.Represents place table.start links ∧
    (list.freelist ++ links.map Prod.snd).Perm (List.range list.datalist.length) ∧
    live = links.map list.linked

omit [Inhabited Elem] in
section

variable {links : List (Bytes × Nat)} {link : Bytes × Nat}

lemma slot_lt
    (slots : (list.freelist ++ links.map Prod.snd).Perm (List.range list.datalist.length))
    (mem : link ∈ links) : link.2 < list.datalist.length := by
  apply mem_range.mp
  apply slots.mem_iff.mp
  exact mem_append_right _ (mem_map_of_mem mem)

lemma slot_ne {index : Nat} {free : List Nat}
    (distinct : (index :: free ++ links.map Prod.snd).Nodup) (mem : link ∈ links) :
    index ≠ link.2 := by
  rintro rfl
  rw [cons_append, nodup_cons] at distinct
  exact distinct.1 (mem_append_right _ (mem_map_of_mem mem))

end

lemma Linked.init (maxElements : Int) (nelem keylen size : Nat) :
    Linked (.init maxElements nelem : DataList Elem) (.set keylen size) place [] := by
  refine ⟨[], .empty, ?_, rfl⟩
  rw [map_nil, append_nil, DataList.init, DataList.initMore]
  simp only [length_nil, Nat.sub_zero, append_nil, nil_append, length_replicate, range_eq_range']
  exact reverse_perm _

section

variable (linked : Linked list table place live)
include linked

lemma Linked.length : list.freelist.length + live.length = list.datalist.length := by
  obtain ⟨links, -, slots, rfl⟩ := linked
  have lengths := slots.length_eq
  rwa [length_append, length_map, length_range, ← length_map list.linked]
    at lengths

variable {memory : Bytes}

lemma Linked.search (placed : table.bucket memory = place (memory.take table.keylen)) :
    (∃ index elem, table.search memory = some index ∧ list.getElementPtr index = some elem ∧
      live.lookup (memory.take table.keylen) = some elem) ∨
    (table.search memory = none ∧ live.lookup (memory.take table.keylen) = none) := by
  obtain ⟨links, represents, slots, rfl⟩ := linked
  rw [Hashtbl.search, placed, represents.lookup]
  have mapped := Chained.lookup_map_val links (list.datalist.getD · default)
    (memory.take table.keylen)
  change (links.map list.linked).lookup (memory.take table.keylen) = _ at mapped
  rw [mapped]
  cases isIndex : links.lookup (memory.take table.keylen) with
  | none => exact .inr ⟨rfl, rfl⟩
  | some index =>
    have mem := (Chained.lookup_eq_some_iff represents.distinct).mp isIndex
    have inside : index < list.datalist.length := slot_lt slots mem
    refine .inl ⟨index, list.datalist[index], rfl, List.getElem?_eq_getElem inside, ?_⟩
    rw [Option.map_some, getD_eq_getElem _ _ inside]

lemma Linked.initMore (more : Nat) :
    Linked (list.initMore (list.datalist.length + more)) table place live := by
  obtain ⟨links, represents, slots, rfl⟩ := linked
  refine ⟨links, represents, ?_, ?_⟩
  · rw [DataList.initMore, Nat.add_sub_cancel_left]
    dsimp only
    rw [length_append, length_replicate, append_assoc, range_add, List.range'_eq_map_range]
    exact ((reverse_perm _).append slots).trans perm_append_comm
  · refine map_congr_left fun link mem => ?_
    have inside := slot_lt slots mem
    rw [DataList.linked, DataList.linked, DataList.initMore, Nat.add_sub_cancel_left,
      getD_append _ _ _ _ inside]

lemma Linked.takeSlot (placed : table.bucket memory = place (memory.take table.keylen))
    (fresh : memory.take table.keylen ∉ live.map Prod.fst) {index : Nat} {rest : List Nat}
    (isFree : list.freelist = index :: rest) (elem : Elem) :
    Linked { list with datalist := list.datalist.set index elem, freelist := rest }
      (table.add memory index) place ((memory.take table.keylen, elem) :: live) := by
  obtain ⟨links, represents, slots, rfl⟩ := linked
  rw [isFree] at slots
  have nodup := slots.nodup_iff.mpr nodup_range
  have inside : index < list.datalist.length := mem_range.mp (slots.mem_iff.mp mem_cons_self)
  refine ⟨(memory.take table.keylen, index) :: links, ?_, ?_, ?_⟩
  · rw [Hashtbl.add, placed]
    refine represents.insert (fun mem => fresh ?_) index
    rwa [map_map]
  · rw [length_set]
    exact perm_middle.trans slots
  rw [map_cons]
  refine congrArg₂ List.cons ?_ (map_congr_left fun link mem => ?_)
  · rw [DataList.linked, getD_eq_getElem _ _ (by rwa [length_set]), getElem_set_self]
  · have apart := slot_ne nodup mem
    rw [DataList.linked, DataList.linked, getD_eq_getElem?_getD,
      getD_eq_getElem?_getD, List.getElem?_set_ne apart]

lemma Linked.remove {index : Nat} (placed : table.bucket memory = place (memory.take table.keylen))
    (found : table.search memory = some index) :
    Linked (list.deleteElement index) (table.remove memory) place
      (live.filter (·.1 != memory.take table.keylen)) := by
  obtain ⟨links, represents, slots, rfl⟩ := linked
  rw [Hashtbl.search, placed, represents.lookup,
    Chained.lookup_eq_some_iff represents.distinct] at found
  have split := Chained.perm_cons_filter represents.distinct found
  have nodup := slots.nodup_iff.mpr nodup_range
  have inside : index < list.datalist.length := slot_lt slots found
  have freed := perm_middle.symm.trans ((split.map Prod.snd).symm.append_left list.freelist)
  rw [DataList.deleteElement, if_pos inside]
  refine ⟨links.filter (·.1 != memory.take table.keylen), ?_, ?_, ?_⟩
  · rw [Hashtbl.remove, placed]
    exact represents.erase _
  · rw [length_set]
    exact freed.trans slots
  · rw [filter_map]
    refine map_congr_left fun link mem => ?_
    have apart := slot_ne (freed.nodup_iff.mpr nodup) mem
    rw [DataList.linked, DataList.linked, getD_eq_getElem?_getD,
      getD_eq_getElem?_getD, List.getElem?_set_ne apart]

end

end

end Gyeeta.Sybase
