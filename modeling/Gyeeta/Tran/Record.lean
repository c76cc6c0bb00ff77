import Gyeeta.Lib.Tagged

/-!
# Request records

A traced request is sent as an `API_TRAN`, its text, and the extension fields: their number, and
for each a `PARSE_FIELD_LEN` and its data.  Offsets and sizes are those of the 64-bit ABI.
-/

namespace Gyeeta.Tran

open List Bytes

open Tagged

def maxParseApiLen : Nat := 16 * 1024

def maxParseExtLen : Nat := 1400

/-- A `STRING_BUFFER` or `STRING_HEAP` of the given size.  One byte is kept for the
terminator. -/
structure StringBuffer (szbuf : Nat) where
  text : Bytes
  fits : text.length < szbuf

/-! ## The fixed part -/

/-- `cliip_`, `serip_`, `glob_id_`, `conn_id_` and `comm_` of an `API_TRAN`. -/
structure Parties where
  bytes : Bytes
  length_eq : bytes.length = 80

structure ApiTran where
  treqUsec : UInt64
  tresUsec : UInt64
  tupdUsec : UInt64
  reqlen : UInt64
  reslen : UInt64
  reqnum : UInt64
  responseUsec : UInt64
  reactionUsec : UInt64
  tconnectUsec : UInt64
  parties : Parties
  errorcode : Int32
  appSleepMs : UInt32
  tranType : UInt32
  proto : UInt16
  cliport : UInt16
  serport : UInt16
  requestLen : UInt16
  lenext : UInt16
  padlen : UInt8

namespace ApiTran

/-- The bytes of an `API_TRAN` before `request_len_`. -/
def headBytes (tran : ApiTran) : Bytes :=
  .ofNat 8 tran.treqUsec.toNat ++ .ofNat 8 tran.tresUsec.toNat ++ .ofNat 8 tran.tupdUsec.toNat ++
    .ofNat 8 tran.reqlen.toNat ++ .ofNat 8 tran.reslen.toNat ++ .ofNat 8 tran.reqnum.toNat ++
    .ofNat 8 tran.responseUsec.toNat ++ .ofNat 8 tran.reactionUsec.toNat ++
    .ofNat 8 tran.tconnectUsec.toNat ++ tran.parties.bytes ++
    .ofNat 4 tran.errorcode.toUInt32.toNat ++ .ofNat 4 tran.appSleepMs.toNat ++
    .ofNat 4 tran.tranType.toNat ++ .ofNat 2 tran.proto.toNat ++ .ofNat 2 tran.cliport.toNat ++
    .ofNat 2 tran.serport.toNat

/-- The bytes of an `API_TRAN`, with the one that aligns it. -/
def toBytes (tran : ApiTran) : Bytes :=
  tran.headBytes ++ .ofNat 2 tran.requestLen.toNat ++ .ofNat 2 tran.lenext.toNat ++
    .ofNat 1 tran.padlen.toNat ++ [0]

/-- `sizeof(API_TRAN)`. -/
def size : Nat := 176

def getActLen (tran : ApiTran) : Nat :=
  size + tran.requestLen.toNat + tran.lenext.toNat

def getElemSize (tran : ApiTran) : Nat :=
  tran.getActLen + tran.padlen.toNat

def setPaddingLen (tran : ApiTran) : ApiTran :=
  { tran with padlen := .ofNat ((tran.getActLen + 7) / 8 * 8 - tran.getActLen) }

def setRespTimes (tran : ApiTran) : ApiTran :=
  { tran with
    responseUsec := tran.tupdUsec - tran.treqUsec
    reactionUsec := tran.tresUsec - tran.treqUsec }

variable (tran : ApiTran)

lemma length_headBytes : tran.headBytes.length = 170 := by
  simp [headBytes, tran.parties.length_eq]

@[simp] lemma length_toBytes : tran.toBytes.length = size := by
  simp [toBytes, length_headBytes, size]

lemma field_requestLen (rest : Bytes) :
    field (tran.toBytes ++ rest) 170 2 = tran.requestLen.toNat := by
  have read := @Bytes.field_ofNat 2 _ tran.requestLen.toNat_lt tran.headBytes
    (ofNat 2 tran.lenext.toNat ++ ofNat 1 tran.padlen.toNat ++ [0] ++ rest)
  rw [length_headBytes] at read
  rw [← read, toBytes]
  simp only [append_assoc]

lemma field_lenext (rest : Bytes) : field (tran.toBytes ++ rest) 172 2 = tran.lenext.toNat := by
  have read := @Bytes.field_ofNat 2 _ tran.lenext.toNat_lt
    (tran.headBytes ++ .ofNat 2 tran.requestLen.toNat)
    (ofNat 1 tran.padlen.toNat ++ [0] ++ rest)
  rw [length_append, length_headBytes, length_ofNat] at read
  rw [← read, toBytes]
  simp only [append_assoc]

lemma field_padlen (rest : Bytes) : field (tran.toBytes ++ rest) 174 1 = tran.padlen.toNat := by
  have read := @Bytes.field_ofNat 1 _ tran.padlen.toNat_lt
    (tran.headBytes ++ .ofNat 2 tran.requestLen.toNat ++ .ofNat 2 tran.lenext.toNat) ([0] ++ rest)
  rw [length_append, length_append, length_headBytes, length_ofNat, length_ofNat] at read
  rw [← read, toBytes]
  simp only [append_assoc]

end ApiTran

/-! ## Extension fields -/

/-- `PARSE_FIELD_E`, without `EFIELD_NONE`. -/
inductive ParseField where
  | appname
  | username
  | dbname
  | errtxt
  | errclass
  | sessid
  | prepReqnum
  | prepReqtime
  | hostpid
  | nrows
  | cursorname
  | statuscode
  deriving DecidableEq, Repr

namespace ParseField

def code : ParseField → Nat
  | appname => 1
  | username => 2
  | dbname => 3
  | errtxt => 4
  | errclass => 5
  | sessid => 6
  | prepReqnum => 7
  | prepReqtime => 8
  | hostpid => 9
  | nrows => 10
  | cursorname => 11
  | statuscode => 12

def ofCode : Nat → Option ParseField
  | 1 => some appname
  | 2 => some username
  | 3 => some dbname
  | 4 => some errtxt
  | 5 => some errclass
  | 6 => some sessid
  | 7 => some prepReqnum
  | 8 => some prepReqtime
  | 9 => some hostpid
  | 10 => some nrows
  | 11 => some cursorname
  | 12 => some statuscode
  | _ => none

@[simp] lemma ofCode_code (field : ParseField) : ofCode field.code = some field := by
  cases field <;> rfl

lemma code_lt (field : ParseField) : field.code < 13 := by
  cases field <;> decide

/-- The size of the member of `PARSE_EXT_FIELDS` that a number is read into; `none` for a
string, which is as long as `len_` says. -/
def width : ParseField → Option Nat
  | errclass => some 2
  | sessid => some 4
  | prepReqnum => some 8
  | prepReqtime => some 8
  | hostpid => some 4
  | nrows => some 4
  | statuscode => some 4
  | appname | username | dbname | errtxt | cursorname => none

end ParseField

@[ext] structure ParseExtFields where
  appname : Bytes := []
  username : Bytes := []
  dbname : Bytes := []
  errtxt : Bytes := []
  errclass : UInt16 := 0
  sessid : UInt32 := 0
  dynPrepReqnum : UInt64 := 0
  dynPrepTimeT : Int64 := 0
  hostpid : UInt32 := 0
  nrows : UInt32 := 0
  cursorname : Bytes := []
  statuscode : Int32 := 0
  deriving DecidableEq

namespace ParseExtFields

/-- Set the string of a field. -/
def setText (fields : ParseExtFields) (text : Bytes) : ParseField → ParseExtFields
  | .appname => { fields with appname := text }
  | .username => { fields with username := text }
  | .dbname => { fields with dbname := text }
  | .errtxt => { fields with errtxt := text }
  | .cursorname => { fields with cursorname := text }
  | _ => fields

/-- The number of a field, as the bits of its type. -/
def num (fields : ParseExtFields) : ParseField → Nat
  | .errclass => fields.errclass.toNat
  | .sessid => fields.sessid.toNat
  | .prepReqnum => fields.dynPrepReqnum.toNat
  | .prepReqtime => fields.dynPrepTimeT.toUInt64.toNat
  | .hostpid => fields.hostpid.toNat
  | .nrows => fields.nrows.toNat
  | .statuscode => fields.statuscode.toUInt32.toNat
  | _ => 0

/-- Set the number of a field. -/
def setNum (fields : ParseExtFields) (value : Nat) : ParseField → ParseExtFields
  | .errclass => { fields with errclass := .ofNat value }
  | .sessid => { fields with sessid := .ofNat value }
  | .prepReqnum => { fields with dynPrepReqnum := .ofNat value }
  | .prepReqtime => { fields with dynPrepTimeT := (UInt64.ofNat value).toInt64 }
  | .hostpid => { fields with hostpid := .ofNat value }
  | .nrows => { fields with nrows := .ofNat value }
  | .statuscode => { fields with statuscode := (UInt32.ofNat value).toInt32 }
  | _ => fields

end ParseExtFields

/-- The bytes of a `PARSE_FIELD_LEN`. -/
def fieldLen (field : ParseField) (len : Nat) : Bytes :=
  .ofNat 2 field.code ++ .ofNat 2 len

/-- One round of the loop of `get_fields`: what is behind the field, and the fields with
the value it stores.  Numbers are read with `STR_RD_BIN >>`, whatever `len_` is. -/
def getField (ustr : Bytes) (fields : ParseExtFields) : Option (Bytes × ParseExtFields) :=
  if ustr.length < 4 then none
  else
    let len := ustr.field 2 2
    match ParseField.ofCode (ustr.field 0 2) with
    | none => none
    | some field =>
      let ustr := ustr.drop 4
      match field.width with
      | none =>
        if ustr.length < len then none
        else some (ustr.drop len, fields.setText (ustr.take (len - 1)) field)
      | some width =>
        some (ustr.drop width, fields.setNum (load width (fields.num field) ustr) field)

/-- `PARSE_EXT_FIELDS::get_fields` on the `lenext` bytes of the extension. -/
def getFields (pext : Bytes) (fields : ParseExtFields) : Nat × ParseExtFields :=
  if pext.length ≤ 1 then (0, fields)
  else readAll getField (pext.field 0 1) (pext.drop 1) fields

/-- `get_api_tran`: the text of the request, and the extension fields. -/
def getApiTran (record : Bytes) (extfields : ParseExtFields) : Bytes × ParseExtFields :=
  let requestLen := record.field 170 2
  let lenext := record.field 172 2
  if requestLen ≤ 1 then ([], extfields)
  else
    (record.slice ApiTran.size (requestLen - 1),
      (getFields (record.slice (ApiTran.size + requestLen) lenext) extfields).2)

end Gyeeta.Tran
