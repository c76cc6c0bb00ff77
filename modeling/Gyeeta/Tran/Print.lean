import Gyeeta.Tran.Record

/-!
# Writing request records

`print_req` writes the record of a request into the transfer buffer: the `API_TRAN` of the
session, the text of the request with its terminator, and the extension fields that the session
has, here for Sybase, Postgres, Mongo and HTTP/1 sessions.  The statistics that it updates are
left out.
-/

namespace Gyeeta.Tran

open Tagged

/-! ## Extension fields -/

/-- The extension fields that `print_req` has written: `next` and `ustrbuf`. -/
structure ExtWriter where
  next : UInt8
  ustrbuf : Buf

namespace ExtWriter

/-- No fields yet, but the place for their number. -/
def start : ExtWriter where
  next := 0
  ustrbuf := (Buf.mk [] maxParseExtLen).append [0]

/-- Append a field. -/
def put (ext : ExtWriter) (field : ParseField) (len : Nat) (data : Bytes) : ExtWriter where
  next := ext.next + 1
  ustrbuf := (ext.ustrbuf.append (fieldLen field len)).append data

/-- Append a string with its terminator, unless it is empty or there is no room. -/
def addText (ext : ExtWriter) (field : ParseField) (text : Bytes) : ExtWriter :=
  if text.length ≠ 0 ∧ 4 + text.length + 1 ≤ ext.ustrbuf.bytesLeft then
    ext.put field (text.length + 1) (text ++ [0])
  else ext

/-- Append a number of the given size, unless it is zero or there is no room. -/
def addNum (ext : ExtWriter) (field : ParseField) (width value : Nat) : ExtWriter :=
  if value ≠ 0 ∧ 4 + width ≤ ext.ustrbuf.bytesLeft then
    ext.put field width (.ofNat width value)
  else ext

/-- Append the request that prepared the statement, its number and its time. -/
def addPrep (ext : ExtWriter) (reqnum : UInt64) (time : Int64) : ExtWriter :=
  if reqnum ≠ 0 ∧ time ≠ 0 ∧ 2 * 4 + 2 * 8 ≤ ext.ustrbuf.bytesLeft then
    (ext.put .prepReqnum 8 (.ofNat 8 reqnum.toNat)).put .prepReqtime 8
      (.ofNat 8 time.toUInt64.toNat)
  else ext

/-- The bytes of the extension, with the number of fields set. -/
def bytes (ext : ExtWriter) : Bytes :=
  ext.ustrbuf.bytes.set 0 ext.next

end ExtWriter

/-! ## Records -/

/-- The members that `print_req` sets in the `API_TRAN` of a record, from the sizes of the
text and of the extension and from the counters of the session. -/
def ApiTran.complete (tran : ApiTran) (textSize extSize : Nat) (reqnum lastUpdTusec : UInt64) :
    ApiTran :=
  ApiTran.setPaddingLen <| ApiTran.setRespTimes
    { tran with
      reqnum := reqnum
      appSleepMs :=
        if 0 < reqnum then ((tran.tupdUsec - lastUpdTusec) / 1000).toUInt32
        else tran.appSleepMs
      requestLen := .ofNat (textSize + 1)
      lenext := if 1 < extSize then .ofNat extSize else 0 }

/-- The bytes of a record.  Its padding is what the buffer held before. -/
def recordBytes (tran : ApiTran) (text : Bytes) (ext : ExtWriter) (old : Nat → UInt8) : Bytes :=
  tran.toBytes ++ ((text ++ [0]) ++ (ext.bytes.take tran.lenext.toNat ++
    (List.range tran.padlen.toNat).map old))

/-- The record of a request with the given text. -/
def record (tran : ApiTran) (text : Bytes) (ext : ExtWriter) (reqnum lastUpdTusec : UInt64)
    (old : Nat → UInt8) : Bytes :=
  recordBytes (tran.complete text.length ext.ustrbuf.bytes.length reqnum lastUpdTusec) text ext old

/-- `print_req` of a session with a single text buffer: the record, and the text that
remains, which is cut to the limit.  There is no record if the request has no text or no
response, or if there is no transfer buffer. -/
def printText (apiMaxLen : Nat) (pool : Option (Nat → UInt8)) (tran : ApiTran) (tdstrbuf : Bytes)
    (ext : ExtWriter) (reqnum lastUpdTusec : UInt64) : Option Bytes × Bytes :=
  if tdstrbuf.length = 0 ∨ tran.reslen = 0 then (none, tdstrbuf)
  else
    let text := tdstrbuf.take apiMaxLen
    (pool.map fun old => record tran text ext reqnum lastUpdTusec old, text)

/-! ## Sessions -/

abbrev maxUserDbLen : Nat := 128

structure SybTranExtstat where
  userbuf : StringBuffer maxUserDbLen
  appbuf : StringBuffer maxUserDbLen
  dbbuf : StringBuffer maxUserDbLen
  errorbuf : StringBuffer 256
  reqnum : UInt64
  lastUpdTusec : UInt64
  dynPrepReqnum : UInt64
  dynPrepTimeT : Int64
  spid : Int32
  hostpid : Int32
  errclass : UInt8

/-- The part of `SYBASE_ASE_SESSINFO` that `print_req` uses. -/
structure SybaseSessinfo where
  tran : ApiTran
  tdstrbuf : Bytes
  tdstat : SybTranExtstat

namespace SybaseSessinfo

/-- The extension fields.  The error class is written as the single byte it is kept in. -/
def ext (sess : SybaseSessinfo) : ExtWriter :=
  let stat := sess.tdstat
  let ext := ExtWriter.start
  let ext := ext.addText .username stat.userbuf.text
  let ext := ext.addText .appname stat.appbuf.text
  let ext := ext.addText .dbname stat.dbbuf.text
  let ext :=
    if sess.tran.errorcode ≠ 0 then
      (ext.addText .errtxt stat.errorbuf.text).addNum .errclass 1 stat.errclass.toNat
    else ext
  let ext := ext.addPrep stat.dynPrepReqnum stat.dynPrepTimeT
  let ext := ext.addNum .sessid 4 stat.spid.toUInt32.toNat
  ext.addNum .hostpid 4 stat.hostpid.toUInt32.toNat

def printReq (apiMaxLen : Nat) (pool : Option (Nat → UInt8)) (sess : SybaseSessinfo) :
    Option Bytes × SybaseSessinfo :=
  let (written, tdstrbuf) := printText apiMaxLen pool sess.tran sess.tdstrbuf sess.ext
    sess.tdstat.reqnum sess.tdstat.lastUpdTusec
  let tdstat :=
    if written.isSome then
      { sess.tdstat with
        reqnum := sess.tdstat.reqnum + 1
        lastUpdTusec := sess.tran.tupdUsec }
    else sess.tdstat
  (written, { sess with tdstrbuf := tdstrbuf, tdstat := tdstat })

end SybaseSessinfo

structure PgTranExtstat where
  userbuf : StringBuffer maxUserDbLen
  appbuf : StringBuffer maxUserDbLen
  dbbuf : StringBuffer maxUserDbLen
  errorbuf : StringBuffer 256
  reqnum : UInt64
  lastUpdTusec : UInt64
  dynPrepReqnum : UInt64
  dynPrepTimeT : Int64
  nrows : UInt32
  spid : Int32

/-- The part of `POSTGRES_SESSINFO` that `print_req` uses. -/
structure PostgresSessinfo where
  tran : ApiTran
  tdstrbuf : Bytes
  tdstat : PgTranExtstat

namespace PostgresSessinfo

def ext (sess : PostgresSessinfo) : ExtWriter :=
  let stat := sess.tdstat
  let ext := ExtWriter.start
  let ext := ext.addText .username stat.userbuf.text
  let ext := ext.addText .appname stat.appbuf.text
  let ext := ext.addText .dbname stat.dbbuf.text
  let ext := if sess.tran.errorcode ≠ 0 then ext.addText .errtxt stat.errorbuf.text else ext
  let ext := ext.addPrep stat.dynPrepReqnum stat.dynPrepTimeT
  let ext := ext.addNum .nrows 4 stat.nrows.toNat
  ext.addNum .sessid 4 stat.spid.toUInt32.toNat

def printReq (apiMaxLen : Nat) (pool : Option (Nat → UInt8)) (sess : PostgresSessinfo) :
    Option Bytes × PostgresSessinfo :=
  let (written, tdstrbuf) := printText apiMaxLen pool sess.tran sess.tdstrbuf sess.ext
    sess.tdstat.reqnum sess.tdstat.lastUpdTusec
  let tdstat :=
    if written.isSome then
      { sess.tdstat with
        reqnum := sess.tdstat.reqnum + 1
        lastUpdTusec := sess.tran.tupdUsec }
    else sess.tdstat
  (written, { sess with tdstrbuf := tdstrbuf, tdstat := tdstat })

end PostgresSessinfo

structure MgTranExtstat where
  userbuf : StringBuffer maxUserDbLen
  appbuf : StringBuffer maxUserDbLen
  errorbuf : StringBuffer 256
  reqnum : UInt64
  lastUpdTusec : UInt64
  dynPrepReqnum : UInt64
  dynPrepTimeT : Int64

/-- The part of `MONGO_SESSINFO` that `print_req` uses. -/
structure MongoSessinfo where
  tran : ApiTran
  tdstrbuf : Bytes
  tdstat : MgTranExtstat

namespace MongoSessinfo

def ext (sess : MongoSessinfo) : ExtWriter :=
  let stat := sess.tdstat
  let ext := ExtWriter.start
  let ext := ext.addText .username stat.userbuf.text
  let ext := ext.addText .appname stat.appbuf.text
  let ext := if sess.tran.errorcode ≠ 0 then ext.addText .errtxt stat.errorbuf.text else ext
  ext.addPrep stat.dynPrepReqnum stat.dynPrepTimeT

def printReq (apiMaxLen : Nat) (pool : Option (Nat → UInt8)) (sess : MongoSessinfo) :
    Option Bytes × MongoSessinfo :=
  let (written, tdstrbuf) := printText apiMaxLen pool sess.tran sess.tdstrbuf sess.ext
    sess.tdstat.reqnum sess.tdstat.lastUpdTusec
  let tdstat :=
    if written.isSome then
      { sess.tdstat with
        reqnum := sess.tdstat.reqnum + 1
        lastUpdTusec := sess.tran.tupdUsec }
    else sess.tdstat
  (written, { sess with tdstrbuf := tdstrbuf, tdstat := tdstat })

end MongoSessinfo

/-- The part of `HTTP1_SESSINFO` that `print_req` uses. -/
structure Http1Sessinfo where
  tran : ApiTran
  tdstrbuf : Bytes
  parambuf : StringBuffer 512
  useragentbuf : StringBuffer maxUserDbLen
  errorbuf : StringBuffer 256
  lastRespStatus : UInt16
  reqnum : UInt64
  lastUpdTusec : UInt64

namespace Http1Sessinfo

def ext (sess : Http1Sessinfo) : ExtWriter :=
  let ext := ExtWriter.start
  let ext := ext.addText .appname sess.useragentbuf.text
  let ext := if sess.tran.errorcode ≠ 0 then ext.addText .errtxt sess.errorbuf.text else ext
  ext.addNum .statuscode 4 sess.lastRespStatus.toNat

/-- The text of the request and its parameters. -/
def text (sess : Http1Sessinfo) : Bytes :=
  sess.tdstrbuf ++ sess.parambuf.text

/-- `print_req` of HTTP/1 gives up a request that is too long. -/
def printReq (apiMaxLen : Nat) (pool : Option (Nat → UInt8)) (sess : Http1Sessinfo) :
    Option Bytes × Http1Sessinfo :=
  if sess.tdstrbuf.length = 0 ∨ sess.tran.reslen = 0 then (none, sess)
  else if apiMaxLen < sess.tdstrbuf.length + sess.parambuf.text.length then (none, sess)
  else
    match pool with
    | none => (none, sess)
    | some old =>
      (some (record sess.tran sess.text sess.ext sess.reqnum sess.lastUpdTusec old),
        { sess with reqnum := sess.reqnum + 1, lastUpdTusec := sess.tran.tupdUsec })

end Http1Sessinfo

end Gyeeta.Tran
