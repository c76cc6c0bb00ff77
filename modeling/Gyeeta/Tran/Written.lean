import Gyeeta.Tran.Print

/-!
# The fields of a record

What the writers of extension fields leave in the extension, and what a reader of a record
finds there.
-/

namespace Gyeeta.Tran

open List

open Tagged

/-! ## Fields -/

/-- A string in the extension. -/
def textItem (field : ParseField) (text : Bytes) : Item ParseExtFields where
  bytes := fieldLen field (text.length + 1) ++ (text ++ [0])
  store fields := fields.setText text field

/-- A number of the given size in the extension. -/
def numItem (field : ParseField) (width value : Nat) : Item ParseExtFields where
  bytes := fieldLen field width ++ .ofNat width value
  store fields := fields.setNum value field

@[simp] lemma length_fieldLen (field : ParseField) (len : Nat) :
    (fieldLen field len).length = 4 := by
  simp [fieldLen]

lemma field_fieldLen (field : ParseField) {len : Nat} (fits : len < 2 ^ 16) (data : Bytes) :
    Bytes.field (fieldLen field len ++ data) 0 2 = field.code ∧
      Bytes.field (fieldLen field len ++ data) 2 2 = len := by
  have small := field.code_lt
  have code := @Bytes.field_ofNat 2 field.code (by omega) [] (Bytes.ofNat 2 len ++ data)
  have length := @Bytes.field_ofNat 2 len fits (Bytes.ofNat 2 field.code) data
  rw [Bytes.length_ofNat] at length
  constructor
  · rw [fieldLen, append_assoc]
    exact code
  · rw [fieldLen]
    exact length

lemma getField_fieldLen (field : ParseField) {len : Nat} (fits : len < 2 ^ 16) (data : Bytes)
    (fields : ParseExtFields) : getField (fieldLen field len ++ data) fields =
      match field.width with
      | none =>
        if data.length < len then none
        else some (data.drop len, fields.setText (data.take (len - 1)) field)
      | some width =>
        some (data.drop width, fields.setNum (load width (fields.num field) data) field) := by
  obtain ⟨code, length⟩ := field_fieldLen field fits data
  have behind : (fieldLen field len ++ data).drop 4 = data :=
    drop_left' (length_fieldLen field len)
  have long : ¬(fieldLen field len ++ data).length < 4 := by
    rw [length_append, length_fieldLen]
    omega
  cases isWidth : field.width <;>
    simp only [getField, if_neg long, code, length, behind, ParseField.ofCode_code, isWidth]

variable {field : ParseField}

lemma textItem_reads (isText : field.width = none) {text : Bytes}
    (short : text.length + 1 < 2 ^ 16) : (textItem field text).Reads getField := by
  intro rest fields
  have behind : ((text ++ [0]) ++ rest).drop (text.length + 1) = rest := drop_left' (by simp)
  have here : ((text ++ [0]) ++ rest).take (text.length + 1 - 1) = text := by
    rw [append_assoc]
    exact take_left' rfl
  rw [textItem, append_assoc, getField_fieldLen field short, isText]
  dsimp only
  rw [behind, here, if_neg (by simp)]

lemma numItem_reads {width value : Nat} (isNum : field.width = some width)
    (fits : value < 256 ^ width) : (numItem field width value).Reads getField := by
  intro rest fields
  have short : width < 2 ^ 16 := by
    cases field <;> cases isNum <;> decide
  rw [numItem, append_assoc, getField_fieldLen field short, isNum]
  dsimp only
  rw [load_ofNat fits, drop_left' (Bytes.length_ofNat width value)]

/-! ## What a writer has written -/

/-- The fields of the extension, and a bound on its size.  It is small enough for the
number of fields to be a byte. -/
structure Written (ext : ExtWriter) (items : List (Item ParseExtFields)) (most : Nat) : Prop where
  bytes_eq : ext.ustrbuf.bytes = 0 :: rowBytes items
  maxsz_eq : ext.ustrbuf.maxsz = maxParseExtLen
  next_eq : ext.next.toNat = items.length
  count_le : 4 * items.length ≤ (rowBytes items).length
  size_le : (rowBytes items).length + 1 ≤ most
  most_lt : most < 1024

namespace Written

variable {ext : ExtWriter} {items : List (Item ParseExtFields)} {most : Nat}

lemma start : Written ExtWriter.start [] 1 :=
  ⟨rfl, rfl, rfl, Nat.le_refl 0, Nat.le_refl 1, by decide⟩

section

variable (written : Written ext items most)
include written

lemma mono {more : Nat} (le : most ≤ more) (lt : more < 1024) : Written ext items more :=
  { written with size_le := le_trans written.size_le le, most_lt := lt }

lemma bytesLeft_eq : ext.ustrbuf.bytesLeft = maxParseExtLen - ((rowBytes items).length + 1) := by
  rw [Buf.bytesLeft, written.maxsz_eq, written.bytes_eq, length_cons]

lemma room {size : Nat} (small : most + size < 1024) : size ≤ ext.ustrbuf.bytesLeft := by
  have size_le := written.size_le
  rw [written.bytesLeft_eq, maxParseExtLen]
  omega

lemma put (item : Item ParseExtFields) {len : Nat} {data : Bytes}
    (isItem : item.bytes = fieldLen field len ++ data) {size : Nat}
    (size_le : 4 + data.length ≤ size) (small : most + size < 1024) :
    Written (ext.put field len data) (items ++ [item]) (most + size) := by
  have room := written.room small
  have header : ext.ustrbuf.append (fieldLen field len) =
      { ext.ustrbuf with bytes := ext.ustrbuf.bytes ++ fieldLen field len } := by
    apply Buf.append_of_le
    rw [length_fieldLen]
    omega
  have body : (ext.put field len data).ustrbuf =
      { ext.ustrbuf with bytes := ext.ustrbuf.bytes ++ fieldLen field len ++ data } := by
    rw [ExtWriter.put, header]
    apply Buf.append_of_le
    change data.length ≤ ext.ustrbuf.maxsz - (ext.ustrbuf.bytes ++ fieldLen field len).length
    rw [Buf.bytesLeft] at room
    rw [length_append, length_fieldLen]
    omega
  have length : (rowBytes (items ++ [item])).length =
      (rowBytes items).length + (4 + data.length) := by
    rw [rowBytes_append, rowBytes_cons, rowBytes_nil, append_nil, isItem, length_append,
      length_append, length_fieldLen]
  have count := written.count_le
  have upper := written.size_le
  constructor
  · rw [body, written.bytes_eq, rowBytes_append, rowBytes_cons, rowBytes_nil, append_nil,
      isItem, ← append_assoc]
    rfl
  · rw [body, written.maxsz_eq]
  · have next : ((ext.next + 1).toNat : Nat) = (ext.next.toNat + 1) % 256 := UInt8.toNat_add _ _
    rw [ExtWriter.put, next, written.next_eq, length_append, length_singleton]
    omega
  · rw [length, length_append, length_singleton]
    omega
  · rw [length]
    omega
  · exact small

end

end Written

/-- The field of a string, if it is not empty. -/
def textItems (field : ParseField) (text : Bytes) : List (Item ParseExtFields) :=
  if text = [] then [] else [textItem field text]

/-- The field of a number, if it is not zero. -/
def numItems (field : ParseField) (width value : Nat) : List (Item ParseExtFields) :=
  if value = 0 then [] else [numItem field width value]

/-- The statement was prepared by a request that was seen. -/
def Prepared (reqnum : UInt64) (time : Int64) : Prop :=
  reqnum ≠ 0 ∧ time ≠ 0

instance (reqnum : UInt64) (time : Int64) : Decidable (Prepared reqnum time) :=
  inferInstanceAs (Decidable (_ ∧ _))

/-- The fields of the request that prepared the statement, if there is one. -/
def prepItems (reqnum : UInt64) (time : Int64) : List (Item ParseExtFields) :=
  if Prepared reqnum time then
    [numItem .prepReqnum 8 reqnum.toNat, numItem .prepReqtime 8 time.toUInt64.toNat]
  else []

namespace Written

variable {ext : ExtWriter} {items : List (Item ParseExtFields)} {most : Nat}

section

variable (written : Written ext items most)
include written

lemma addText (field : ParseField) {szbuf : Nat}
    (buffer : StringBuffer szbuf) (small : most + (4 + szbuf) < 1024) :
    Written (ext.addText field buffer.text) (items ++ textItems field buffer.text)
      (most + (4 + szbuf)) := by
  have fits := buffer.fits
  by_cases empty : buffer.text = []
  · rw [ExtWriter.addText, if_neg (fun both => both.1 (length_eq_zero_iff.mpr empty)),
      textItems, if_pos empty, append_nil]
    exact written.mono (Nat.le_add_right _ _) small
  have room := written.room small
  rw [ExtWriter.addText, if_pos ⟨fun none => empty (length_eq_zero_iff.mp none), by omega⟩,
    textItems, if_neg empty]
  apply written.put (textItem field buffer.text) rfl _ small
  rw [length_append, length_singleton]
  omega

lemma addNum (field : ParseField) (width value : Nat)
    (small : most + (4 + width) < 1024) :
    Written (ext.addNum field width value) (items ++ numItems field width value)
      (most + (4 + width)) := by
  by_cases zero : value = 0
  · rw [ExtWriter.addNum, if_neg (fun both => both.1 zero), numItems, if_pos zero, append_nil]
    exact written.mono (Nat.le_add_right _ _) small
  · rw [ExtWriter.addNum, if_pos ⟨zero, written.room small⟩, numItems, if_neg zero]
    exact written.put (numItem field width value) rfl
      (Nat.le_of_eq (by rw [Bytes.length_ofNat])) small

lemma addPrep (reqnum : UInt64) (time : Int64)
    (small : most + 12 + 12 < 1024) :
    Written (ext.addPrep reqnum time) (items ++ prepItems reqnum time) (most + 12 + 12) := by
  by_cases prepared : Prepared reqnum time
  · have room : 2 * 4 + 2 * 8 ≤ ext.ustrbuf.bytesLeft := written.room (by omega)
    have first := written.put (numItem .prepReqnum 8 reqnum.toNat) rfl (Nat.le_refl 12)
      (by omega)
    have second := first.put (numItem .prepReqtime 8 time.toUInt64.toNat) rfl
      (Nat.le_refl 12) small
    rw [append_assoc] at second
    rw [ExtWriter.addPrep, if_pos ⟨prepared.1, prepared.2, room⟩, prepItems, if_pos prepared]
    exact second
  · rw [ExtWriter.addPrep, if_neg (fun all => prepared ⟨all.1, all.2.1⟩), prepItems,
      if_neg prepared, append_nil]
    exact written.mono (by omega) small

end

end Written

/-! ## Reading a record -/

section Record

variable {ext : ExtWriter} {items : List (Item ParseExtFields)} {most : Nat}

section

variable (written : Written ext items most)
include written

lemma Written.bytes : ext.bytes = ext.next :: rowBytes items := by
  rw [ExtWriter.bytes, written.bytes_eq, set_cons_zero]

lemma Written.getFields_eq (some : items ≠ []) (fields : ParseExtFields) :
    getFields ext.bytes fields = readAll getField items.length (rowBytes items) fields := by
  have count := written.count_le
  have positive := length_pos_iff.mpr some
  have number : Bytes.field (ext.next :: rowBytes items) 0 1 = items.length := by
    rw [← written.next_eq]
    exact Nat.add_zero _
  have long : ¬(ext.next :: rowBytes items).length ≤ 1 := by
    rw [length_cons]
    omega
  rw [written.bytes, getFields, if_neg long, number]
  rfl

lemma Written.lenext_eq (tran : ApiTran) (textSize : Nat) (reqnum lastUpdTusec : UInt64) :
    (tran.complete textSize ext.ustrbuf.bytes.length reqnum lastUpdTusec).lenext.toNat =
      if items = [] then 0 else ext.bytes.length := by
  have size := written.size_le
  have small := written.most_lt
  have count := written.count_le
  change (if 1 < ext.ustrbuf.bytes.length then UInt16.ofNat ext.ustrbuf.bytes.length
    else 0).toNat = _
  rw [written.bytes, written.bytes_eq, length_cons, length_cons]
  by_cases none : items = []
  · rw [none]
    rfl
  · have positive := length_pos_iff.mpr none
    rw [if_pos (by omega), if_neg none, UInt16.toNat_ofNat']
    omega

lemma Written.getApiTran_record {text : Bytes}
    (some : text ≠ []) (short : text.length + 1 < 2 ^ 16) (tran : ApiTran)
    (reqnum lastUpdTusec : UInt64) (old : Nat → UInt8) (fields : ParseExtFields) :
    getApiTran (record tran text ext reqnum lastUpdTusec old) fields =
      (text, (readAll getField items.length (rowBytes items) fields).2) := by
  have positive := length_pos_iff.mpr some
  have lenext_eq := written.lenext_eq tran text.length reqnum lastUpdTusec
  have requestLen_eq : (tran.complete text.length ext.ustrbuf.bytes.length reqnum
      lastUpdTusec).requestLen.toNat = text.length + 1 := by
    change (UInt16.ofNat (text.length + 1)).toNat = _
    rw [UInt16.toNat_ofNat', Nat.mod_eq_of_lt short]
  rw [record]
  generalize tran.complete text.length ext.ustrbuf.bytes.length reqnum lastUpdTusec = full at *
  have request := Bytes.slice_append_right full.toBytes
    ((text ++ [0]) ++ (ext.bytes.take full.lenext.toNat ++ (List.range full.padlen.toNat).map old))
    0 text.length
  have extension := Bytes.slice_append_right (full.toBytes ++ (text ++ [0]))
    (ext.bytes.take full.lenext.toNat ++ (List.range full.padlen.toNat).map old) 0
    full.lenext.toNat
  rw [ApiTran.length_toBytes, Nat.add_zero, Bytes.slice_zero, append_assoc,
    take_left' rfl] at request
  rw [Nat.add_zero, length_append, ApiTran.length_toBytes, length_append,
    length_singleton, append_assoc, Bytes.slice_zero] at extension
  rw [recordBytes, getApiTran, ApiTran.field_requestLen, ApiTran.field_lenext, requestLen_eq,
    if_neg (by omega), Nat.add_sub_cancel, extension, append_assoc text, request]
  by_cases none : items = []
  · rw [if_pos none] at lenext_eq
    rw [lenext_eq, none]
    rfl
  · rw [if_neg none] at lenext_eq
    rw [lenext_eq, take_length, take_left' rfl, written.getFields_eq none]

end

end Record

/-! ## What the fields store -/

section Stored

variable {fields : ParseExtFields}

lemma storeAll_textItems (field : ParseField) (text : Bytes)
    (unset : fields.setText [] field = fields) :
    storeAll (textItems field text) fields = fields.setText text field := by
  by_cases empty : text = []
  · rw [textItems, if_pos empty, empty]
    exact unset.symm
  · rw [textItems, if_neg empty]
    rfl

lemma storeAll_numItems (field : ParseField) (width value : Nat)
    (unset : fields.setNum 0 field = fields) :
    storeAll (numItems field width value) fields = fields.setNum value field := by
  by_cases zero : value = 0
  · rw [numItems, if_pos zero, zero]
    exact unset.symm
  · rw [numItems, if_neg zero]
    rfl

lemma storeAll_prepItems (reqnum : UInt64) (time : Int64)
    (unset : { fields with dynPrepReqnum := 0, dynPrepTimeT := 0 } = fields) :
    storeAll (prepItems reqnum time) fields = { fields with
        dynPrepReqnum := if Prepared reqnum time then reqnum else 0
        dynPrepTimeT := if Prepared reqnum time then time else 0 } := by
  by_cases prepared : Prepared reqnum time
  · simp only [prepItems, if_pos prepared]
    change { fields with
      dynPrepReqnum := UInt64.ofNat reqnum.toNat
      dynPrepTimeT := (UInt64.ofNat time.toUInt64.toNat).toInt64 } = _
    rw [UInt64.ofNat_toNat, UInt64.ofNat_toNat, Int64.toInt64_toUInt64]
  · simp only [prepItems, if_neg prepared]
    exact unset.symm

lemma textItems_reads (isText : field.width = none) {szbuf : Nat} (buffer : StringBuffer szbuf)
    (short : szbuf < 2 ^ 16) : ∀ item ∈ textItems field buffer.text, item.Reads getField := by
  have fits := buffer.fits
  intro item mem
  rw [textItems] at mem
  split at mem
  · cases mem
  · rw [mem_singleton.mp mem]
    exact textItem_reads isText (by omega)

lemma numItems_reads {width value : Nat} (isNum : field.width = some width)
    (fits : value < 256 ^ width) : ∀ item ∈ numItems field width value, item.Reads getField := by
  intro item mem
  rw [numItems] at mem
  split at mem
  · cases mem
  · rw [mem_singleton.mp mem]
    exact numItem_reads isNum fits

lemma prepItems_reads (reqnum : UInt64) (time : Int64) :
    ∀ item ∈ prepItems reqnum time, item.Reads getField := by
  intro item mem
  rw [prepItems] at mem
  split at mem
  · rw [mem_cons, mem_singleton] at mem
    rcases mem with rfl | rfl
    · exact numItem_reads rfl reqnum.toNat_lt
    · exact numItem_reads rfl time.toUInt64.toNat_lt
  · cases mem

end Stored

end Gyeeta.Tran
