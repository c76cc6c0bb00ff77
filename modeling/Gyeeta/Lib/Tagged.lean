import Gyeeta.Lib.Bytes

/-!
# Optional fields in a row

A writer puts those fields of a record that are present into a buffer of limited size.  A reader
takes them off the front and stores what it reads.  If every field is read as it was written,
whatever follows it, then the whole row is.
-/

namespace Gyeeta.Tagged

open List

/-! ## Buffers -/

/-- A buffer of limited size. -/
structure Buf where
  bytes : Bytes
  maxsz : Nat
  deriving DecidableEq, Repr

namespace Buf

def bytesLeft (buf : Buf) : Nat :=
  buf.maxsz - buf.bytes.length

/-- Append as many bytes as there is room for. -/
def append (buf : Buf) (data : Bytes) : Buf :=
  { buf with bytes := buf.bytes ++ data.take buf.bytesLeft }

lemma append_of_le {buf : Buf} {data : Bytes} (room : data.length ≤ buf.bytesLeft) :
    buf.append data = { buf with bytes := buf.bytes ++ data } := by
  rw [append, take_of_length_le room]

end Buf

/-- A number of the given width after the next bytes of a string were copied over its
first bytes.  The string may have fewer bytes than the number. -/
def load (width old : Nat) (bytes : Bytes) : Nat :=
  Bytes.toNat (bytes.take width ++ (Bytes.ofNat width old).drop (bytes.take width).length)

lemma load_ofNat {width value : Nat} (fits : value < 256 ^ width) (old : Nat) (rest : Bytes) :
    load width old (Bytes.ofNat width value ++ rest) = value := by
  have copied : (Bytes.ofNat width value ++ rest).take width = Bytes.ofNat width value :=
    take_left' (Bytes.length_ofNat width value)
  rw [load, copied, Bytes.length_ofNat,
    drop_of_length_le (Nat.le_of_eq (Bytes.length_ofNat width old)), append_nil,
    Bytes.toNat_ofNat fits]

/-! ## Rows -/

section Rows

variable {Fields : Type}

/-- A field in a row: its bytes, and what a reader stores. -/
structure Item (Fields : Type) where
  bytes : Bytes
  store : Fields → Fields

/-- Take a number of fields off a string.  The reader of one field returns what is behind
it, and ends the loop with `none`.  The result has the number of fields that were read. -/
def readAll (read : Bytes → Fields → Option (Bytes × Fields)) : Nat → Bytes → Fields → Nat × Fields
  | 0, _, fields => (0, fields)
  | count + 1, bytes, fields =>
    match read bytes fields with
    | none => (0, fields)
    | some (rest, fields) =>
      let (others, fields) := readAll read count rest fields
      (others + 1, fields)

/-- The bytes of the fields of a row. -/
def rowBytes (items : List (Item Fields)) : Bytes :=
  items.flatMap Item.bytes

/-- What a reader of the row has stored. -/
def storeAll (items : List (Item Fields)) (fields : Fields) : Fields :=
  items.foldl (fun fields item => item.store fields) fields

@[simp] lemma rowBytes_nil : rowBytes ([] : List (Item Fields)) = [] := rfl

@[simp] lemma rowBytes_cons (item : Item Fields) (items : List (Item Fields)) :
    rowBytes (item :: items) = item.bytes ++ rowBytes items := rfl

@[simp] lemma rowBytes_append (first second : List (Item Fields)) :
    rowBytes (first ++ second) = rowBytes first ++ rowBytes second :=
  flatMap_append

@[simp] lemma storeAll_nil (fields : Fields) : storeAll [] fields = fields := rfl

@[simp] lemma storeAll_cons (item : Item Fields) (items : List (Item Fields))
    (fields : Fields) : storeAll (item :: items) fields = storeAll items (item.store fields) :=
  rfl

@[simp] lemma storeAll_append (first second : List (Item Fields)) (fields : Fields) :
    storeAll (first ++ second) fields = storeAll second (storeAll first fields) :=
  foldl_append

variable {read : Bytes → Fields → Option (Bytes × Fields)}

/-- A field is read as it was written, whatever follows it. -/
def Item.Reads (read : Bytes → Fields → Option (Bytes × Fields)) (item : Item Fields) : Prop :=
  ∀ rest fields, read (item.bytes ++ rest) fields = some (rest, item.store fields)

section

variable {items : List (Item Fields)} (reads : ∀ item ∈ items, item.Reads read)
include reads

lemma readAll_append
    (count : Nat) (rest : Bytes) (fields : Fields) :
    readAll read (items.length + count) (rowBytes items ++ rest) fields =
      (items.length + (readAll read count rest (storeAll items fields)).1,
        (readAll read count rest (storeAll items fields)).2) := by
  induction items generalizing fields with
  | nil => simp
  | cons item items ih =>
    rw [forall_mem_cons] at reads
    rw [length_cons, Nat.add_right_comm, rowBytes_cons, append_assoc, readAll,
      reads.1, storeAll_cons]
    simp only [ih reads.2, Nat.add_right_comm]

lemma readAll_row
    (fields : Fields) : readAll read items.length (rowBytes items) fields =
      (items.length, storeAll items fields) := by
  have all := readAll_append reads 0 [] fields
  rwa [Nat.add_zero, append_nil, readAll] at all

end

end Rows

end Gyeeta.Tagged
