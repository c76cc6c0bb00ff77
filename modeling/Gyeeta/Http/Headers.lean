import Gyeeta.Filter.Literals
import Gyeeta.Http.Session
import Mathlib.Data.List.Infix

/-!
# The header lines of a request

The part of `parse_req_pkt` that decides from the header lines whether the payload is kept:
`save_req_payload_` is -1 for a payload that is compressed, and otherwise one more than the place
of the content type in a table, or zero.  Both tables are read with the number of the header, not
of the entry.
-/

namespace Gyeeta.Http

open List

open Gyeeta.Filter (ascii isSpace isDigitOf readDigits takeSign)

/-- `REQ_HDR_HTTP`. -/
inductive ReqHdr where
  | contentType
  | contentLen
  | contentEncode
  | transferEncode
  | userAgent
  deriving DecidableEq, Repr

namespace ReqHdr

/-- The number of the header in the enumeration. -/
def idx : ReqHdr → Nat
  | contentType => 0
  | contentLen => 1
  | contentEncode => 2
  | transferEncode => 3
  | userAgent => 4

/-- `req_hdr_http`. -/
def text : ReqHdr → Bytes
  | contentType => ascii "Content-Type:"
  | contentLen => ascii "Content-Length:"
  | contentEncode => ascii "Content-Encoding"
  | transferEncode => ascii "Transfer-Encoding:"
  | userAgent => ascii "User-Agent:"

end ReqHdr

def reqContentTypes : List Bytes :=
  [ascii "/json", ascii "text/", ascii "/x-www-form-urlencoded", ascii "/xml", ascii "form-data"]

def compContentTypes : List Bytes :=
  [ascii "gzip", ascii "compress", ascii "deflate", ascii "br"]

/-! ## Reading a line -/

/-- `gy_toupper_ascii`. -/
def toUpper (char : UInt8) : UInt8 :=
  if 97 ≤ char ∧ char ≤ 122 then char - 32 else char

/-- The text of a line behind a name in any case. -/
def behind (name line : Bytes) : Option Bytes :=
  if line.length > name.length ∧ (line.take name.length).map toUpper = name.map toUpper then
    some (line.drop name.length)
  else none

/-- The separators `" ;,"`.  `strchr` finds the zero byte as well. -/
def isWordSeparator (char : UInt8) : Bool :=
  char = 32 || char = 59 || char = 44 || char = 0

/-- `STR_RD_BUF::get_next_word` with the arguments of the scan: a word and the text behind it. -/
def getNextWord (buf : Bytes) : Option (Bytes × Bytes) :=
  let start :=
    (buf.dropWhile fun char => isSpace char || char = 0).dropWhile isWordSeparator
  if start = [] then none
  else
    let (word, rest) := start.span fun char => !isWordSeparator char
    some (word, rest.dropWhile isWordSeparator)

def wordsLoop : Nat → Bytes → List Bytes
  | 0, _ => []
  | fuel + 1, buf =>
    match getNextWord buf with
    | none => []
    | some (word, rest) => word :: wordsLoop fuel rest

/-- The words of a text.  Each has at least one byte. -/
def words (buf : Bytes) : List Bytes := wordsLoop buf.length buf

/-- `string_to_number` for a `size_t` in base 10. -/
def stringToSize (text : Bytes) : Option Nat :=
  let (negative, rest) := takeSign (text.dropWhile isSpace)
  let digits := rest.takeWhile (isDigitOf 10)
  let number := readDigits 10 digits
  if digits = [] ∨ 2 ^ 64 ≤ number then none
  else some (if negative then (2 ^ 64 - number) % 2 ^ 64 else number)

/-- The content length behind the header's name, up to 50 GB. -/
def contentLength (text : Bytes) : Option Nat :=
  (stringToSize text).filter fun length => length ≤ 50 * 2 ^ 30

/-! ## The scan -/

/-- A word is in the table of compressions, as the loop over the table finds it: each round
compares with the entry that has the number of the header. -/
def findsCompression (hdr : ReqHdr) (word : Bytes) : Bool :=
  (List.range compContentTypes.length).any fun _ => compContentTypes[hdr.idx]? = some word

namespace Sessinfo

/-- One header of the table against a line: `rest` is the packet behind the line.  An error is
a return from the parser. -/
def scanHdr (line rest : Bytes) (sess : Sessinfo) (hdr : ReqHdr) : Except Sessinfo Sessinfo :=
  match behind hdr.text line with
  | none => .ok sess
  | some text =>
    let conn := sess.reqstate
    match hdr with
    | .contentType =>
      if conn.saveReqPayload ≠ 0 then .ok sess
      else
        match (List.range reqContentTypes.length).find? fun _ =>
          (reqContentTypes[hdr.idx]?.getD []) <:+: text with
        | some j => .ok { sess with reqstate := { conn with saveReqPayload := j + 1 } }
        | none => .ok sess
    | .contentLen =>
      match contentLength (text ++ rest) with
      | none => .error (sess.resetTillResp true)
      | some length =>
        if conn.isChunkData = false ∧ length > 0 then
          .ok { sess with
            reqstate := { conn with
              isContentLen := true, dataChunkLen := length, dataChunkLeft := length } }
        else .ok sess
    | .contentEncode =>
      if (words text).any (findsCompression hdr) then
        .ok { sess with reqstate := { conn with saveReqPayload := -1 } }
      else .ok sess
    | .transferEncode =>
      -- The last of these words decides whether the payload comes in chunks.
      let isChunk := (words text).foldl (fun isChunk word =>
        if ascii "chunked" <+: word then true
        else if findsCompression hdr word then false else isChunk) false
      let conn :=
        if (words text).any fun word =>
          !decide (ascii "chunked" <+: word) && findsCompression hdr word then
          { conn with saveReqPayload := -1 }
        else conn
      if isChunk then
        .ok { sess with
          reqstate := { conn with
            dataChunkLen := 0, dataChunkLeft := 0, isContentLen := false, isChunkData := true } }
      else .ok { sess with reqstate := conn }
    | .userAgent => .ok sess

/-- The loop over the table for one line. -/
def scanLine (sess : Sessinfo) (line rest : Bytes) : Except Sessinfo Sessinfo :=
  [.contentType, .contentLen, .contentEncode, .transferEncode, .userAgent].foldlM
    (scanHdr line rest) sess

end Sessinfo

/-- The lines of a header in a packet, with the empty line at their end. -/
def packetOf : List Bytes → Bytes
  | [] => [13, 10]
  | line :: lines => line ++ 13 :: 10 :: packetOf lines

/-- The scan of the lines of a header. -/
def Sessinfo.scanLines : List Bytes → Sessinfo → Sessinfo
  | [], sess => sess
  | line :: lines, sess =>
    match sess.scanLine line (13 :: 10 :: packetOf lines) with
    | .error sess => sess
    | .ok sess => sess.scanLines lines

/-! ## The classification of the lines -/

/-- The scan finds a compression in the line. -/
def seenCompressed (line : Bytes) : Bool :=
  ((behind ReqHdr.contentEncode.text line).any fun text => ascii "deflate" ∈ words text) ||
    (behind ReqHdr.transferEncode.text line).any fun text => ascii "br" ∈ words text

/-- The line is a header that names a compression of the table. -/
def namesCompression (line : Bytes) : Bool :=
  [ascii "Content-Encoding:", ascii "Transfer-Encoding:"].any fun name =>
    (behind name line).any fun text => (words text).any (· ∈ compContentTypes)

/-- The line is a `Content-Type` header that an entry of the table matches. -/
def matchesType (line entry : Bytes) : Bool :=
  (behind ReqHdr.contentType.text line).any fun text => decide (entry <:+: text)

/-- The first entry of the table that a `Content-Type` header matches. -/
def contentTypeIdx (lines : List Bytes) : Option Nat :=
  reqContentTypes.findIdx? fun entry => lines.any (matchesType · entry)

/-- What `save_req_payload_` is for. -/
def payloadClass (lines : List Bytes) : Int :=
  if lines.any namesCompression then -1
  else
    match contentTypeIdx lines with
    | some j => j + 1
    | none => 0

/-- The parser cannot read the length of the payload. -/
def badLength : List Bytes → Bool
  | [] => false
  | line :: lines =>
    ((behind ReqHdr.contentLen.text line).any fun text =>
      contentLength (text ++ 13 :: 10 :: packetOf lines) = none) || badLength lines

/-! ## One line -/

lemma findsCompression_eq (hdr : ReqHdr) (word : Bytes) :
    findsCompression hdr word = decide (compContentTypes[hdr.idx]? = some word) := by
  rw [findsCompression, Bool.eq_iff_iff, any_eq_true]
  exact ⟨fun ⟨_, _, found⟩ => found, fun found => ⟨0, by decide, found⟩⟩

namespace Sessinfo

section

variable (line rest : Bytes) (sess : Sessinfo)
include line rest sess

lemma scanHdr_contentType :
    ∃ next, scanHdr line rest sess .contentType = .ok next ∧ next.reqstate.saveReqPayload =
        if sess.reqstate.saveReqPayload ≠ 0 then sess.reqstate.saveReqPayload
        else if matchesType line (ascii "/json") then 1 else 0 := by
  have first : ∀ found : Bool, (List.range reqContentTypes.length).find? (fun _ => found) =
      if found then some 0 else none := by
    decide
  rw [scanHdr, matchesType]
  cases behind ReqHdr.contentType.text line with
  | none => exact ⟨sess, rfl, by simp⟩
  | some text =>
    have entry : reqContentTypes[ReqHdr.contentType.idx]?.getD [] = ascii "/json" := rfl
    by_cases saved : sess.reqstate.saveReqPayload = 0
    · by_cases json : ascii "/json" <:+: text
      · simp [saved, entry, first, json]
      · simp [saved, entry, first, json]
    · simp [saved]

lemma scanHdr_contentLen :
    if (behind ReqHdr.contentLen.text line).any fun text => contentLength (text ++ rest) = none
    then scanHdr line rest sess .contentLen = .error (sess.resetTillResp true)
    else ∃ next, scanHdr line rest sess .contentLen = .ok next ∧
      next.reqstate.saveReqPayload = sess.reqstate.saveReqPayload := by
  rw [scanHdr]
  cases behind ReqHdr.contentLen.text line with
  | none => exact ⟨sess, rfl, rfl⟩
  | some text =>
    cases read : contentLength (text ++ rest) with
    | none => simp [read]
    | some length =>
      by_cases positive : sess.reqstate.isChunkData = false ∧ length > 0
      · simp [read, positive]
      · rw [if_neg (by simp [read])]
        simp only [read, if_neg positive]
        exact ⟨sess, rfl, rfl⟩

lemma scanHdr_contentEncode :
    ∃ next, scanHdr line rest sess .contentEncode = .ok next ∧ next.reqstate.saveReqPayload =
        if (behind ReqHdr.contentEncode.text line).any fun text => ascii "deflate" ∈ words text
        then -1 else sess.reqstate.saveReqPayload := by
  have compared :
      findsCompression .contentEncode = fun word => decide (ascii "deflate" = word) := by
    funext word
    rw [findsCompression_eq]
    simp [compContentTypes, ReqHdr.idx]
  rw [scanHdr]
  cases behind ReqHdr.contentEncode.text line with
  | none => exact ⟨sess, rfl, rfl⟩
  | some text =>
    by_cases named : ascii "deflate" ∈ words text
    · simp [compared, named]
    · simp [compared, named]

lemma scanHdr_transferEncode :
    ∃ next, scanHdr line rest sess .transferEncode = .ok next ∧ next.reqstate.saveReqPayload =
        if (behind ReqHdr.transferEncode.text line).any fun text => ascii "br" ∈ words text
        then -1 else sess.reqstate.saveReqPayload := by
  have compared : (fun word => !decide (ascii "chunked" <+: word) &&
      findsCompression .transferEncode word) = fun word => decide (ascii "br" = word) := by
    funext word
    rw [findsCompression_eq, Bool.eq_iff_iff]
    have apart : ¬ascii "chunked" <+: ascii "br" := by decide +kernel
    by_cases isBr : ascii "br" = word
    · subst isBr
      simp [apart, compContentTypes, ReqHdr.idx]
    · simp [isBr, compContentTypes, ReqHdr.idx]
  rw [scanHdr]
  cases behind ReqHdr.transferEncode.text line with
  | none => exact ⟨sess, rfl, rfl⟩
  | some text =>
    simp only [compared]
    by_cases named : ascii "br" ∈ words text
    · split <;> simp [named]
    · split <;> simp [named]

end

lemma scanLine_bad {line rest : Bytes} (sess : Sessinfo)
    (bad : (behind ReqHdr.contentLen.text line).any fun text =>
      contentLength (text ++ rest) = none) :
    ∃ ended, sess.scanLine line rest = .error ended ∧ ended.reqstate.saveReqPayload = 0 := by
  obtain ⟨typed, isTyped, -⟩ := scanHdr_contentType line rest sess
  have stopped := scanHdr_contentLen line rest typed
  rw [if_pos bad] at stopped
  refine ⟨typed.resetTillResp true, ?_, ?_⟩
  · rw [scanLine, foldlM_cons, isTyped]
    change List.foldlM _ typed _ = _
    rw [foldlM_cons, stopped]
    rfl
  · rw [resetTillResp, if_pos rfl, setRespExpected]
    split
    · rfl
    · split <;> rfl

lemma scanLine_ok {line rest : Bytes} (sess : Sessinfo)
    (read : ¬((behind ReqHdr.contentLen.text line).any fun text =>
      contentLength (text ++ rest) = none)) : ∃ next, sess.scanLine line rest = .ok next ∧
      next.reqstate.saveReqPayload =
        if seenCompressed line then -1
        else if sess.reqstate.saveReqPayload ≠ 0 then sess.reqstate.saveReqPayload
        else if matchesType line (ascii "/json") then 1 else 0 := by
  obtain ⟨typed, isTyped, typedSave⟩ := scanHdr_contentType line rest sess
  have passed := scanHdr_contentLen line rest typed
  rw [if_neg read] at passed
  obtain ⟨measured, isMeasured, measuredSave⟩ := passed
  obtain ⟨encoded, isEncoded, encodedSave⟩ := scanHdr_contentEncode line rest measured
  obtain ⟨next, isNext, nextSave⟩ := scanHdr_transferEncode line rest encoded
  refine ⟨next, ?_, ?_⟩
  · have agent : scanHdr line rest next .userAgent = .ok next := by
      rw [scanHdr]
      cases behind ReqHdr.userAgent.text line <;> rfl
    simp only [scanLine, foldlM_cons, foldlM_nil, isTyped, isMeasured, isEncoded,
      isNext, agent, bind, Except.bind, pure, Except.pure]
  · rw [nextSave, encodedSave, measuredSave, typedSave, seenCompressed]
    generalize (behind ReqHdr.transferEncode.text line).any _ = br
    cases br with
    | true => simp only [Bool.or_true, if_true]
    | false => simp only [Bool.or_false, Bool.false_eq_true, if_false]

/-! ## All lines -/

lemma scanLines_save (lines : List Bytes) (sess : Sessinfo) :
    (sess.scanLines lines).reqstate.saveReqPayload = if badLength lines then 0
      else if lines.any seenCompressed then -1
      else if sess.reqstate.saveReqPayload ≠ 0 then sess.reqstate.saveReqPayload
      else if lines.any (matchesType · (ascii "/json")) then 1 else 0 := by
  induction lines generalizing sess with
  | nil =>
    by_cases saved : sess.reqstate.saveReqPayload = 0
    · simp [scanLines, badLength, saved]
    · simp [scanLines, badLength, saved]
  | cons line lines ih =>
    rw [scanLines, badLength, any_cons, any_cons]
    by_cases bad : (behind ReqHdr.contentLen.text line).any fun text =>
      contentLength (text ++ 13 :: 10 :: packetOf lines) = none
    · obtain ⟨ended, isEnded, zero⟩ := scanLine_bad sess bad
      rw [isEnded, bad]
      exact zero
    obtain ⟨next, isNext, nextSave⟩ := scanLine_ok sess bad
    rw [isNext, Bool.eq_false_iff.mpr bad, Bool.false_or]
    refine (ih next).trans ?_
    rw [nextSave]
    cases seenCompressed line with
    | true => simp
    | false =>
      by_cases saved : sess.reqstate.saveReqPayload = 0
      · cases matchesType line (ascii "/json") <;> simp [saved]
      · simp [saved]

end Sessinfo

lemma contentTypeIdx_zero (lines : List Bytes) :
    contentTypeIdx lines = some 0 ↔ lines.any (matchesType · (ascii "/json")) := by
  rw [contentTypeIdx, reqContentTypes, List.findIdx?_cons]
  cases lines.any (matchesType · (ascii "/json")) with
  | true => simp
  | false => simp

/-- After the header lines of a request the payload has its class exactly when either every
length can be read, the compressions that the scan finds are there exactly when any compression
is named, and without one the content type is of the first entry or of none; or a length
cannot be read and the payload has class zero for its lines. -/
theorem payloadClass_exact_iff (lines : List Bytes) (sess : Sessinfo)
    (fresh : sess.reqstate.saveReqPayload = 0) :
    (sess.scanLines lines).reqstate.saveReqPayload = payloadClass lines ↔
      if badLength lines then lines.any namesCompression = false ∧ contentTypeIdx lines = none
      else lines.any seenCompressed = lines.any namesCompression ∧
          (lines.any namesCompression = true ∨ contentTypeIdx lines = some 0 ∨
            contentTypeIdx lines = none) := by
  rw [sess.scanLines_save, payloadClass]
  simp only [fresh, ne_eq, not_true, if_false, ← contentTypeIdx_zero]
  cases badLength lines with
  | true =>
    cases lines.any namesCompression with
    | true => simp
    | false =>
      cases contentTypeIdx lines with
      | none => simp
      | some j => simp; omega
  | false =>
    cases lines.any seenCompressed with
    | true =>
      cases lines.any namesCompression with
      | true => simp
      | false =>
        cases contentTypeIdx lines with
        | none => simp
        | some j => simp; omega
    | false =>
      cases lines.any namesCompression with
      | true =>
        simp
        split <;> omega
      | false =>
        cases contentTypeIdx lines with
        | none => simp
        | some j =>
          cases j with
          | zero => simp
          | succ j => simp; omega

/-- A session at the start of a request's header. -/
def headerStart : Sessinfo :=
  { Sessinfo.init with reqstate := { HconnStat.empty with state := .hdr, reqMethod := .post } }

/-- A request with JSON that is compressed in the way the scan finds. -/
theorem deflated_json_classified :
    let lines := [ascii "Content-Type: application/json", ascii "Content-Encoding: deflate"]
    headerStart.reqstate.saveReqPayload = 0 ∧
      (headerStart.scanLines lines).reqstate.saveReqPayload = payloadClass lines :=
  ⟨rfl, (payloadClass_exact_iff _ headerStart rfl).mpr (by decide +kernel)⟩

/-- A compressed payload and a payload of a later type of the table have class zero. -/
theorem gzip_and_form_not_classified :
    let gzip := [ascii "Content-Encoding: gzip"]
    let form := [ascii "Content-Type: application/x-www-form-urlencoded"]
    (headerStart.scanLines gzip).reqstate.saveReqPayload = 0 ∧ payloadClass gzip = -1 ∧
      (headerStart.scanLines form).reqstate.saveReqPayload = 0 ∧ payloadClass form = 3 := by
  decide +kernel

end Gyeeta.Http
