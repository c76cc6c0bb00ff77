import Gyeeta.Tran.Written

/-!
# Records are read as they were written

The reader of a record gets back the text of the request and the extension fields that
were written.  For Sybase there is an exception: the error class is written as one byte and
read as two, so that the fields behind it are lost.
-/

namespace Gyeeta.Tran

open List

open Tagged

variable {tdstrbuf : Bytes} {tran : ApiTran}

lemma something_of (some : tdstrbuf ≠ [])
    (answered : tran.reslen ≠ 0) : ¬(tdstrbuf.length = 0 ∨ tran.reslen = 0) := by
  rintro (none | none)
  · exact some (length_eq_zero_iff.mp none)
  · exact answered none

lemma printText_eq {apiMaxLen : Nat} (ext : ExtWriter)
    (reqnum lastUpdTusec : UInt64) (old : Nat → UInt8) (some : tdstrbuf ≠ [])
    (answered : tran.reslen ≠ 0) (short : tdstrbuf.length ≤ apiMaxLen) :
    (printText apiMaxLen (.some old) tran tdstrbuf ext reqnum lastUpdTusec).1 =
      .some (record tran tdstrbuf ext reqnum lastUpdTusec old) := by
  rw [printText, if_neg (something_of some answered), take_of_length_le short]
  rfl

/-- A record whose fields are all known to the reader is read back. -/
lemma Written.read_back {ext : ExtWriter} {items : List (Item ParseExtFields)} {bound : Nat}
    (written : Written ext items bound) {text : Bytes} (some : text ≠ [])
    (short : text.length ≤ maxParseApiLen) (reads : ∀ item ∈ items, item.Reads getField)
    (tran : ApiTran) (reqnum lastUpdTusec : UInt64) (old : Nat → UInt8) :
    getApiTran (record tran text ext reqnum lastUpdTusec old) {} =
      (text, storeAll items {}) := by
  rw [maxParseApiLen] at short
  rw [written.getApiTran_record some (by omega), readAll_row reads]

/-- The error text that is written: none if the request has no error. -/
def errtxt (tran : ApiTran) (errorbuf : StringBuffer 256) : StringBuffer 256 :=
  if tran.errorcode ≠ 0 then errorbuf else ⟨[], by decide⟩

lemma addText_errtxt (ext : ExtWriter) (tran : ApiTran) (errorbuf : StringBuffer 256) :
    ext.addText .errtxt (errtxt tran errorbuf).text =
      if tran.errorcode ≠ 0 then ext.addText .errtxt errorbuf.text else ext := by
  rw [errtxt]
  split
  · rfl
  · rfl

namespace PostgresSessinfo

/-- The extension fields that a reader should find. -/
def fields (sess : PostgresSessinfo) : ParseExtFields where
  username := sess.tdstat.userbuf.text
  appname := sess.tdstat.appbuf.text
  dbname := sess.tdstat.dbbuf.text
  errtxt := (errtxt sess.tran sess.tdstat.errorbuf).text
  dynPrepReqnum :=
    if Prepared sess.tdstat.dynPrepReqnum sess.tdstat.dynPrepTimeT then sess.tdstat.dynPrepReqnum
    else 0
  dynPrepTimeT :=
    if Prepared sess.tdstat.dynPrepReqnum sess.tdstat.dynPrepTimeT then sess.tdstat.dynPrepTimeT
    else 0
  nrows := sess.tdstat.nrows
  sessid := sess.tdstat.spid.toUInt32

/-- The fields of the extension. -/
def items (sess : PostgresSessinfo) : List (Item ParseExtFields) :=
  textItems .username sess.tdstat.userbuf.text ++ textItems .appname sess.tdstat.appbuf.text ++
    textItems .dbname sess.tdstat.dbbuf.text ++
    textItems .errtxt (errtxt sess.tran sess.tdstat.errorbuf).text ++
    prepItems sess.tdstat.dynPrepReqnum sess.tdstat.dynPrepTimeT ++
    numItems .nrows 4 sess.tdstat.nrows.toNat ++
    numItems .sessid 4 sess.tdstat.spid.toUInt32.toNat

lemma written (sess : PostgresSessinfo) : Written sess.ext sess.items 697 := by
  have user := Written.start.addText .username sess.tdstat.userbuf (by decide)
  have app := user.addText .appname sess.tdstat.appbuf (by decide)
  have db := app.addText .dbname sess.tdstat.dbbuf (by decide)
  have error := db.addText .errtxt (errtxt sess.tran sess.tdstat.errorbuf) (by decide)
  have prep := error.addPrep sess.tdstat.dynPrepReqnum sess.tdstat.dynPrepTimeT (by decide)
  have rows := prep.addNum .nrows 4 sess.tdstat.nrows.toNat (by decide)
  have session := rows.addNum .sessid 4 sess.tdstat.spid.toUInt32.toNat (by decide)
  rw [addText_errtxt] at session
  exact session

lemma items_read (sess : PostgresSessinfo) : ∀ item ∈ sess.items, item.Reads getField := by
  simp only [items, forall_mem_append]
  exact ⟨⟨⟨⟨⟨⟨textItems_reads rfl _ (by decide), textItems_reads rfl _ (by decide)⟩,
    textItems_reads rfl _ (by decide)⟩, textItems_reads rfl _ (by decide)⟩,
    prepItems_reads _ _⟩, numItems_reads rfl sess.tdstat.nrows.toNat_lt⟩,
    numItems_reads rfl sess.tdstat.spid.toUInt32.toNat_lt⟩

lemma storeAll_items (sess : PostgresSessinfo) : storeAll sess.items {} = sess.fields := by
  simp only [items, storeAll_append]
  rw [storeAll_textItems .username _ rfl, storeAll_textItems .appname _ rfl,
    storeAll_textItems .dbname _ rfl, storeAll_textItems .errtxt _ rfl,
    storeAll_prepItems _ _ rfl, storeAll_numItems .nrows _ _ rfl,
    storeAll_numItems .sessid _ _ rfl]
  simp only [ParseExtFields.setText, ParseExtFields.setNum, UInt32.ofNat_toNat, fields]

end PostgresSessinfo

namespace MongoSessinfo

/-- The extension fields that a reader should find. -/
def fields (sess : MongoSessinfo) : ParseExtFields where
  username := sess.tdstat.userbuf.text
  appname := sess.tdstat.appbuf.text
  errtxt := (errtxt sess.tran sess.tdstat.errorbuf).text
  dynPrepReqnum :=
    if Prepared sess.tdstat.dynPrepReqnum sess.tdstat.dynPrepTimeT then sess.tdstat.dynPrepReqnum
    else 0
  dynPrepTimeT :=
    if Prepared sess.tdstat.dynPrepReqnum sess.tdstat.dynPrepTimeT then sess.tdstat.dynPrepTimeT
    else 0

/-- The fields of the extension. -/
def items (sess : MongoSessinfo) : List (Item ParseExtFields) :=
  textItems .username sess.tdstat.userbuf.text ++ textItems .appname sess.tdstat.appbuf.text ++
    textItems .errtxt (errtxt sess.tran sess.tdstat.errorbuf).text ++
    prepItems sess.tdstat.dynPrepReqnum sess.tdstat.dynPrepTimeT

lemma written (sess : MongoSessinfo) : Written sess.ext sess.items 549 := by
  have user := Written.start.addText .username sess.tdstat.userbuf (by decide)
  have app := user.addText .appname sess.tdstat.appbuf (by decide)
  have error := app.addText .errtxt (errtxt sess.tran sess.tdstat.errorbuf) (by decide)
  have prep := error.addPrep sess.tdstat.dynPrepReqnum sess.tdstat.dynPrepTimeT (by decide)
  rw [addText_errtxt] at prep
  exact prep

lemma items_read (sess : MongoSessinfo) : ∀ item ∈ sess.items, item.Reads getField := by
  simp only [items, forall_mem_append]
  exact ⟨⟨⟨textItems_reads rfl _ (by decide), textItems_reads rfl _ (by decide)⟩,
    textItems_reads rfl _ (by decide)⟩, prepItems_reads _ _⟩

lemma storeAll_items (sess : MongoSessinfo) : storeAll sess.items {} = sess.fields := by
  rw [items, storeAll_append, storeAll_append, storeAll_append,
    storeAll_textItems .username _ rfl, storeAll_textItems .appname _ rfl,
    storeAll_textItems .errtxt _ rfl, storeAll_prepItems _ _ rfl]
  rfl

end MongoSessinfo

namespace Http1Sessinfo

/-- The extension fields that a reader should find. -/
def fields (sess : Http1Sessinfo) : ParseExtFields where
  appname := sess.useragentbuf.text
  errtxt := (errtxt sess.tran sess.errorbuf).text
  statuscode := sess.lastRespStatus.toUInt32.toInt32

/-- The fields of the extension. -/
def items (sess : Http1Sessinfo) : List (Item ParseExtFields) :=
  textItems .appname sess.useragentbuf.text ++
    textItems .errtxt (errtxt sess.tran sess.errorbuf).text ++
    numItems .statuscode 4 sess.lastRespStatus.toNat

lemma written (sess : Http1Sessinfo) : Written sess.ext sess.items 401 := by
  have app := Written.start.addText .appname sess.useragentbuf (by decide)
  have error := app.addText .errtxt (errtxt sess.tran sess.errorbuf) (by decide)
  have status := error.addNum .statuscode 4 sess.lastRespStatus.toNat (by decide)
  rw [addText_errtxt] at status
  exact status

lemma items_read (sess : Http1Sessinfo) : ∀ item ∈ sess.items, item.Reads getField := by
  have small := sess.lastRespStatus.toNat_lt
  simp only [items, forall_mem_append]
  exact ⟨⟨textItems_reads rfl _ (by decide), textItems_reads rfl _ (by decide)⟩,
    numItems_reads rfl (by omega)⟩

lemma storeAll_items (sess : Http1Sessinfo) : storeAll sess.items {} = sess.fields := by
  have status := UInt32.ofNat_uInt16ToNat sess.lastRespStatus
  rw [items, storeAll_append, storeAll_append, storeAll_textItems .appname _ rfl,
    storeAll_textItems .errtxt _ rfl, storeAll_numItems .statuscode _ _ rfl]
  simp only [ParseExtFields.setText, ParseExtFields.setNum, status, fields]

lemma printReq_eq {apiMaxLen : Nat} {sess : Http1Sessinfo} (some : sess.tdstrbuf ≠ [])
    (answered : sess.tran.reslen ≠ 0) (short : sess.text.length ≤ apiMaxLen) (old : Nat → UInt8) :
    (sess.printReq apiMaxLen (.some old)).1 =
      .some (record sess.tran sess.text sess.ext sess.reqnum sess.lastUpdTusec old) := by
  rw [text, length_append] at short
  rw [printReq, if_neg (something_of some answered), if_neg (Nat.not_lt.mpr short)]

end Http1Sessinfo

/-! ## The error class -/

lemma getField_errclass (errclass : UInt8) (rest : Bytes) (fields : ParseExtFields) :
    getField ((numItem .errclass 1 errclass.toNat).bytes ++ rest) fields = some (rest.drop 1,
        fields.setNum (load 2 fields.errclass.toNat (errclass :: rest)) .errclass) := by
  have byte : Bytes.ofNat 1 errclass.toNat = [errclass] := by
    have small := errclass.toNat_lt
    change [UInt8.ofNat (errclass.toNat % 256)] = [errclass]
    rw [Nat.mod_eq_of_lt small, UInt8.ofNat_toNat]
  rw [numItem, append_assoc, getField_fieldLen .errclass (by decide), byte]
  rfl

lemma getField_shifted (field : ParseField) {width : Nat} (small : width < 256) (value : Nat)
    (rest : Bytes) (fields : ParseExtFields) :
    getField ((((numItem field width value).bytes ++ rest)).drop 1) fields = none := by
  have code := field.code_lt
  have bytes : ((numItem field width value).bytes ++ rest).drop 1 =
      0 :: UInt8.ofNat width :: 0 :: (Bytes.ofNat width value ++ rest) := by
    change UInt8.ofNat (field.code / 256 % 256) :: UInt8.ofNat (width % 256) ::
      UInt8.ofNat (width / 256 % 256) :: (Bytes.ofNat width value ++ rest) = _
    rw [Nat.div_eq_of_lt (by omega), Nat.div_eq_of_lt small, Nat.mod_eq_of_lt small]
    rfl
  have found : Bytes.field (0 :: UInt8.ofNat width :: 0 :: (Bytes.ofNat width value ++ rest)) 0 2 =
      256 * width := by
    change (0 : UInt8).toNat + 256 * ((UInt8.ofNat width).toNat + 256 * 0) = _
    rw [UInt8.toNat_ofNat', Nat.mod_eq_of_lt small]
    simp
  have unknown : ParseField.ofCode (256 * width) = none := by
    rw [ParseField.ofCode] <;> omega
  rw [bytes, getField, found, unknown]
  split
  · rfl
  · rfl

namespace SybaseSessinfo

/-- The extension fields that a reader should find. -/
def fields (sess : SybaseSessinfo) : ParseExtFields where
  username := sess.tdstat.userbuf.text
  appname := sess.tdstat.appbuf.text
  dbname := sess.tdstat.dbbuf.text
  errtxt := (errtxt sess.tran sess.tdstat.errorbuf).text
  errclass := if sess.tran.errorcode ≠ 0 then sess.tdstat.errclass.toUInt16 else 0
  dynPrepReqnum :=
    if Prepared sess.tdstat.dynPrepReqnum sess.tdstat.dynPrepTimeT then sess.tdstat.dynPrepReqnum
    else 0
  dynPrepTimeT :=
    if Prepared sess.tdstat.dynPrepReqnum sess.tdstat.dynPrepTimeT then sess.tdstat.dynPrepTimeT
    else 0
  sessid := sess.tdstat.spid.toUInt32
  hostpid := sess.tdstat.hostpid.toUInt32

/-- The error class that is written: none if the request has no error. -/
def errclass (sess : SybaseSessinfo) : UInt8 :=
  if sess.tran.errorcode ≠ 0 then sess.tdstat.errclass else 0

/-- The fields before the error class. -/
def before (sess : SybaseSessinfo) : List (Item ParseExtFields) :=
  textItems .username sess.tdstat.userbuf.text ++ textItems .appname sess.tdstat.appbuf.text ++
    textItems .dbname sess.tdstat.dbbuf.text ++
    textItems .errtxt (errtxt sess.tran sess.tdstat.errorbuf).text

/-- The fields behind the error class. -/
def behind (sess : SybaseSessinfo) : List (Item ParseExtFields) :=
  prepItems sess.tdstat.dynPrepReqnum sess.tdstat.dynPrepTimeT ++
    numItems .sessid 4 sess.tdstat.spid.toUInt32.toNat ++
    numItems .hostpid 4 sess.tdstat.hostpid.toUInt32.toNat

section

variable (sess : SybaseSessinfo)
include sess

lemma ext_eq : sess.ext =
      (((((((ExtWriter.start.addText .username sess.tdstat.userbuf.text).addText .appname
        sess.tdstat.appbuf.text).addText .dbname sess.tdstat.dbbuf.text).addText .errtxt
        (errtxt sess.tran sess.tdstat.errorbuf).text).addNum .errclass 1
        sess.errclass.toNat).addPrep sess.tdstat.dynPrepReqnum
        sess.tdstat.dynPrepTimeT).addNum .sessid 4 sess.tdstat.spid.toUInt32.toNat).addNum
        .hostpid 4 sess.tdstat.hostpid.toUInt32.toNat := by
  rw [ext, errclass, addText_errtxt]
  split
  · rfl
  · rfl

lemma written : Written sess.ext
      (sess.before ++ (numItems .errclass 1 sess.errclass.toNat ++ sess.behind)) 702 := by
  have user := Written.start.addText .username sess.tdstat.userbuf (by decide)
  have app := user.addText .appname sess.tdstat.appbuf (by decide)
  have db := app.addText .dbname sess.tdstat.dbbuf (by decide)
  have error := db.addText .errtxt (errtxt sess.tran sess.tdstat.errorbuf) (by decide)
  have class_ := error.addNum .errclass 1 sess.errclass.toNat (by decide)
  have prep := class_.addPrep sess.tdstat.dynPrepReqnum sess.tdstat.dynPrepTimeT (by decide)
  have session := prep.addNum .sessid 4 sess.tdstat.spid.toUInt32.toNat (by decide)
  have host := session.addNum .hostpid 4 sess.tdstat.hostpid.toUInt32.toNat (by decide)
  rw [ext_eq]
  simp only [behind, ← append_assoc]
  exact host

lemma before_read : ∀ item ∈ sess.before, item.Reads getField := by
  simp only [before, forall_mem_append]
  exact ⟨⟨⟨textItems_reads rfl _ (by decide), textItems_reads rfl _ (by decide)⟩,
    textItems_reads rfl _ (by decide)⟩, textItems_reads rfl _ (by decide)⟩

lemma behind_read : ∀ item ∈ sess.behind, item.Reads getField := by
  simp only [behind, forall_mem_append]
  exact ⟨⟨prepItems_reads _ _, numItems_reads rfl sess.tdstat.spid.toUInt32.toNat_lt⟩,
    numItems_reads rfl sess.tdstat.hostpid.toUInt32.toNat_lt⟩

lemma storeAll_before : storeAll sess.before {} =
    { username := sess.tdstat.userbuf.text
      appname := sess.tdstat.appbuf.text
      dbname := sess.tdstat.dbbuf.text
      errtxt := (errtxt sess.tran sess.tdstat.errorbuf).text } := by
  rw [before, storeAll_append, storeAll_append, storeAll_append,
    storeAll_textItems .username _ rfl, storeAll_textItems .appname _ rfl,
    storeAll_textItems .dbname _ rfl, storeAll_textItems .errtxt _ rfl]
  rfl

lemma errclass_eq : UInt16.ofNat sess.errclass.toNat =
    if sess.tran.errorcode ≠ 0 then sess.tdstat.errclass.toUInt16 else 0 := by
  rw [UInt16.ofNat_uInt8ToNat, errclass]
  split
  · rfl
  · rfl

lemma storeAll_behind :
    storeAll sess.behind ((storeAll sess.before {}).setNum sess.errclass.toNat .errclass) =
      sess.fields := by
  rw [storeAll_before, behind, storeAll_append, storeAll_append, storeAll_prepItems _ _ rfl,
    storeAll_numItems .sessid _ _ rfl, storeAll_numItems .hostpid _ _ rfl]
  simp only [ParseExtFields.setNum, UInt32.ofNat_toNat, errclass_eq, fields]

end

/-- The error class is written and a field follows it. -/
def ErrclassFollowed (sess : SybaseSessinfo) : Prop :=
  sess.tran.errorcode ≠ 0 ∧ sess.tdstat.errclass ≠ 0 ∧
    (Prepared sess.tdstat.dynPrepReqnum sess.tdstat.dynPrepTimeT ∨ sess.tdstat.spid ≠ 0 ∨
      sess.tdstat.hostpid ≠ 0)

instance (sess : SybaseSessinfo) : Decidable sess.ErrclassFollowed :=
  inferInstanceAs (Decidable (_ ∧ _ ∧ (_ ∨ _ ∨ _)))

lemma toNat_eq_zero (value : Int32) : value.toUInt32.toNat = 0 ↔ value = 0 := by
  constructor
  · intro zero
    have word : value.toUInt32 = 0 := UInt32.toNat_inj.mp zero
    rw [← Int32.toInt32_toUInt32 value, word]
    rfl
  · rintro rfl
    rfl

lemma behind_cases (sess : SybaseSessinfo) :
    (sess.behind = [] ∧ ¬Prepared sess.tdstat.dynPrepReqnum sess.tdstat.dynPrepTimeT ∧
      sess.tdstat.spid = 0 ∧ sess.tdstat.hostpid = 0) ∨
    ((Prepared sess.tdstat.dynPrepReqnum sess.tdstat.dynPrepTimeT ∨ sess.tdstat.spid ≠ 0 ∨
      sess.tdstat.hostpid ≠ 0) ∧ ∃ field width value others, width < 256 ∧
        sess.behind = numItem field width value :: others) := by
  rw [behind, prepItems, numItems, numItems]
  by_cases prepared : Prepared sess.tdstat.dynPrepReqnum sess.tdstat.dynPrepTimeT
  · rw [if_pos prepared]
    exact .inr ⟨.inl prepared, _, _, _, _, by decide, rfl⟩
  rw [if_neg prepared]
  by_cases noSession : sess.tdstat.spid = 0
  · rw [if_pos ((toNat_eq_zero _).mpr noSession)]
    by_cases noHost : sess.tdstat.hostpid = 0
    · rw [if_pos ((toNat_eq_zero _).mpr noHost)]
      exact .inl ⟨rfl, prepared, noSession, noHost⟩
    · rw [if_neg (fun zero => noHost ((toNat_eq_zero _).mp zero))]
      exact .inr ⟨.inr (.inr noHost), _, _, _, _, by decide, rfl⟩
  · rw [if_neg (fun zero => noSession ((toNat_eq_zero _).mp zero))]
    exact .inr ⟨.inr (.inl noSession), _, _, _, _, by decide, rfl⟩

/-- What a reader finds in the extension. -/
def found (sess : SybaseSessinfo) : ParseExtFields :=
  (readAll getField (numItems .errclass 1 sess.errclass.toNat ++ sess.behind).length
    (rowBytes (numItems .errclass 1 sess.errclass.toNat ++ sess.behind))
    (storeAll sess.before {})).2

variable {sess : SybaseSessinfo}

lemma found_of_errclass_zero (zero : sess.errclass = 0) :
    sess.found = sess.fields := by
  have none : numItems .errclass 1 sess.errclass.toNat = [] := by
    rw [zero]
    rfl
  have unset : (storeAll sess.before {}).setNum sess.errclass.toNat .errclass =
      storeAll sess.before {} := by
    rw [zero, storeAll_before]
    rfl
  have stored := sess.storeAll_behind
  rw [unset] at stored
  rw [found, none, nil_append, readAll_row sess.behind_read]
  exact stored

lemma found_of_errclass (class_ : sess.errclass ≠ 0) : sess.found =
      (readAll getField sess.behind.length ((rowBytes sess.behind).drop 1)
        ((storeAll sess.before {}).setNum (load 2 0 (sess.errclass :: rowBytes sess.behind))
          .errclass)).2 := by
  have one : numItems .errclass 1 sess.errclass.toNat =
      [numItem .errclass 1 sess.errclass.toNat] := by
    rw [numItems, if_neg]
    intro zero
    exact class_ (UInt8.toNat_inj.mp zero)
  have unset : (storeAll sess.before {}).errclass.toNat = 0 := by
    rw [storeAll_before]
    rfl
  rw [found, one, cons_append, nil_append, length_cons, rowBytes_cons, readAll,
    getField_errclass, unset]

/-- All fields are found again unless one follows the error class. -/
lemma found_eq_iff (sess : SybaseSessinfo) :
    sess.found = sess.fields ↔ ¬sess.ErrclassFollowed := by
  by_cases zero : sess.errclass = 0
  · refine ⟨fun _ followed => ?_, fun _ => found_of_errclass_zero zero⟩
    rw [errclass, if_pos followed.1] at zero
    exact followed.2.1 zero
  have failed : sess.tran.errorcode ≠ 0 := by
    intro none
    exact zero (by rw [errclass, if_neg (fun some => some none)])
  have class_ : sess.tdstat.errclass ≠ 0 := by
    rwa [errclass, if_pos failed] at zero
  rw [found_of_errclass zero]
  rcases sess.behind_cases with ⟨empty, noPrep, noSession, noHost⟩ |
    ⟨follows, field, width, value, others, small, isBehind⟩
  · have last : load 2 0 [sess.errclass] = sess.errclass.toNat := Nat.add_zero _
    have stored := sess.storeAll_behind
    rw [empty] at stored ⊢
    rw [rowBytes_nil, last]
    refine ⟨fun _ followed => ?_, fun _ => stored⟩
    rcases followed.2.2 with prepared | session | host
    · exact noPrep prepared
    · exact session noSession
    · exact host noHost
  rw [isBehind, length_cons, rowBytes_cons, readAll, getField_shifted field small]
  refine ⟨fun same => ?_, fun fine => absurd ⟨failed, class_, follows⟩ fine⟩
  -- The second byte that is read is the number of the field behind the error class.
  have read : load 2 0 (sess.errclass :: ((numItem field width value).bytes ++
      rowBytes others)) = sess.errclass.toNat + 256 * field.code := by
    have code := field.code_lt
    change sess.errclass.toNat + 256 * ((UInt8.ofNat (field.code % 256)).toNat + 256 * 0) = _
    rw [UInt8.toNat_ofNat']
    omega
  have classes := congrArg ParseExtFields.errclass same
  rw [read] at classes
  change UInt16.ofNat (sess.errclass.toNat + 256 * field.code) =
    if sess.tran.errorcode ≠ 0 then sess.tdstat.errclass.toUInt16 else 0 at classes
  rw [← errclass_eq] at classes
  have numbers := congrArg UInt16.toNat classes
  have code := field.code_lt
  have byte := sess.errclass.toNat_lt
  have positive : 0 < field.code := by
    cases field <;> decide
  rw [UInt16.toNat_ofNat', UInt16.toNat_ofNat'] at numbers
  omega

/-- A record that a Sybase session writes is read back if and only if no field follows the
error class. -/
theorem record_read_back_iff {apiMaxLen : Nat} {sess : SybaseSessinfo}
    (some : sess.tdstrbuf ≠ []) (answered : sess.tran.reslen ≠ 0)
    (allowed : apiMaxLen ≤ maxParseApiLen) (short : sess.tdstrbuf.length ≤ apiMaxLen)
    (old : Nat → UInt8) :
    (∃ written, (sess.printReq apiMaxLen (.some old)).1 = .some written ∧
      getApiTran written {} = (sess.tdstrbuf, sess.fields)) ↔ ¬sess.ErrclassFollowed := by
  rw [maxParseApiLen] at allowed
  have printed :=
    printText_eq sess.ext sess.tdstat.reqnum sess.tdstat.lastUpdTusec old some answered short
  have read := sess.written.getApiTran_record some (by omega) sess.tran sess.tdstat.reqnum
    sess.tdstat.lastUpdTusec old {}
  rw [length_append, rowBytes_append, readAll_append sess.before_read] at read
  change _ = (sess.tdstrbuf, sess.found) at read
  rw [← found_eq_iff]
  constructor
  · rintro ⟨written, isWritten, isRead⟩
    rw [← Option.some.inj (printed.symm.trans isWritten)] at isRead
    exact congrArg Prod.snd (read.symm.trans isRead)
  · intro same
    exact ⟨_, printed, by rw [read, same]⟩

end SybaseSessinfo

/-- A transaction with the given error code and a response. -/
def answeredTran (errorcode : Int32) : ApiTran where
  treqUsec := 1000
  tresUsec := 1500
  tupdUsec := 2000
  reqlen := 40
  reslen := 80
  reqnum := 0
  responseUsec := 0
  reactionUsec := 0
  tconnectUsec := 500
  parties := ⟨List.replicate 80 0, rfl⟩
  errorcode := errorcode
  appSleepMs := 0
  tranType := 0
  proto := 1
  cliport := 40000
  serport := 5000
  requestLen := 0
  lenext := 0
  padlen := 0

/-- A Sybase session with the text `go`, the user `sa`, an error of the given class and a
host process. -/
def failedSession (errclass : UInt8) (hostpid : Int32) : SybaseSessinfo where
  tran := answeredTran 208
  tdstrbuf := [103, 111]
  tdstat :=
    { userbuf := ⟨[115, 97], by decide⟩
      appbuf := ⟨[], by decide⟩
      dbbuf := ⟨[], by decide⟩
      errorbuf := ⟨[], by decide⟩
      reqnum := 1
      lastUpdTusec := 1000
      dynPrepReqnum := 0
      dynPrepTimeT := 0
      spid := 0
      hostpid := hostpid
      errclass := errclass }

theorem SybaseSessinfo.failed_session_read_back :
    ∃ written, ((failedSession 16 0).printReq 4096 (some fun _ => 0)).1 = some written ∧
      getApiTran written {} = ([103, 111], { username := [115, 97], errclass := 16 }) :=
  (SybaseSessinfo.record_read_back_iff (by decide) (by decide) (by decide) (by decide)
    fun _ => 0).mpr (by decide)

/-- With a host process behind it, the error class 16 is read as 16 + 9 * 256, and the host
process is lost. -/
theorem SybaseSessinfo.errclass_misread :
    ∃ written, ((failedSession 16 77).printReq 4096 (some fun _ => 0)).1 = some written ∧
      (failedSession 16 77).fields = { username := [115, 97], errclass := 16, hostpid := 77 } ∧
      getApiTran written {} = ([103, 111], { username := [115, 97], errclass := 2320 }) :=
  ⟨_, rfl, by decide, by decide +kernel⟩

/-! ## The other protocols -/

/-- The records that Postgres, Mongo and HTTP/1 sessions write are read back. -/
theorem records_read_back {apiMaxLen : Nat} (allowed : apiMaxLen ≤ maxParseApiLen)
    (old : Nat → UInt8) :
    (∀ sess : PostgresSessinfo, sess.tdstrbuf ≠ [] → sess.tran.reslen ≠ 0 →
      sess.tdstrbuf.length ≤ apiMaxLen →
      ∃ written, (sess.printReq apiMaxLen (some old)).1 = some written ∧
        getApiTran written {} = (sess.tdstrbuf, sess.fields)) ∧
    (∀ sess : MongoSessinfo, sess.tdstrbuf ≠ [] → sess.tran.reslen ≠ 0 →
      sess.tdstrbuf.length ≤ apiMaxLen →
      ∃ written, (sess.printReq apiMaxLen (some old)).1 = some written ∧
        getApiTran written {} = (sess.tdstrbuf, sess.fields)) ∧
    (∀ sess : Http1Sessinfo, sess.tdstrbuf ≠ [] → sess.tran.reslen ≠ 0 →
      sess.text.length ≤ apiMaxLen →
      ∃ written, (sess.printReq apiMaxLen (some old)).1 = some written ∧
        getApiTran written {} = (sess.text, sess.fields)) := by
  refine ⟨?_, ?_, ?_⟩
  · intro sess some answered short
    refine ⟨_, printText_eq sess.ext _ _ old some answered short, ?_⟩
    rw [sess.written.read_back some (short.trans allowed) sess.items_read, sess.storeAll_items]
  · intro sess some answered short
    refine ⟨_, printText_eq sess.ext _ _ old some answered short, ?_⟩
    rw [sess.written.read_back some (short.trans allowed) sess.items_read, sess.storeAll_items]
  · intro sess some answered short
    have someText : sess.text ≠ [] := append_ne_nil_of_left_ne_nil some _
    refine ⟨_, sess.printReq_eq some answered short old, ?_⟩
    rw [sess.written.read_back someText (short.trans allowed) sess.items_read, sess.storeAll_items]

/-- A Postgres session with rows, a Mongo session with an error text and an HTTP/1 session
with a status and parameters. -/
def rowsSession : PostgresSessinfo where
  tran := answeredTran 0
  tdstrbuf := [115]
  tdstat :=
    { userbuf := ⟨[117], by decide⟩
      appbuf := ⟨[97], by decide⟩
      dbbuf := ⟨[], by decide⟩
      errorbuf := ⟨[101], by decide⟩
      reqnum := 0
      lastUpdTusec := 0
      dynPrepReqnum := 7
      dynPrepTimeT := 1700000000
      nrows := 3
      spid := 12 }

def errorSession : MongoSessinfo where
  tran := answeredTran 13
  tdstrbuf := [109]
  tdstat :=
    { userbuf := ⟨[], by decide⟩
      appbuf := ⟨[97], by decide⟩
      errorbuf := ⟨[110, 111], by decide⟩
      reqnum := 4
      lastUpdTusec := 1900
      dynPrepReqnum := 2
      dynPrepTimeT := 0 }

def statusSession : Http1Sessinfo where
  tran := answeredTran 0
  tdstrbuf := [71]
  parambuf := ⟨[63, 120], by decide⟩
  useragentbuf := ⟨[99], by decide⟩
  errorbuf := ⟨[], by decide⟩
  lastRespStatus := 200
  reqnum := 0
  lastUpdTusec := 0

theorem session_records_read_back :
    (∃ written, (rowsSession.printReq 4096 (some fun _ => 0)).1 = some written ∧
      getApiTran written {} = ([115],
        { username := [117], appname := [97], dynPrepReqnum := 7, dynPrepTimeT := 1700000000,
          nrows := 3, sessid := 12 })) ∧
    (∃ written, (errorSession.printReq 4096 (some fun _ => 0)).1 = some written ∧
      getApiTran written {} = ([109], { appname := [97], errtxt := [110, 111] })) ∧
    ∃ written, (statusSession.printReq 4096 (some fun _ => 0)).1 = some written ∧
      getApiTran written {} = ([71, 63, 120], { appname := [99], statuscode := 200 }) :=
  have read := @records_read_back 4096 (by decide) fun _ => 0
  ⟨read.1 rowsSession (by decide) (by decide) (by decide),
    read.2.1 errorSession (by decide) (by decide) (by decide),
    read.2.2 statusSession (by decide) (by decide) (by decide)⟩

end Gyeeta.Tran
