import Gyeeta.Filter.Boolstuff
import Gyeeta.Filter.Criteria
import Mathlib.Data.List.DropRight

/-!
# Parsing of filters

`GY_BOOLPARSE` rewrites a filter such as `( { a = 1 } or { b = 2 } ) and { c = 3 }` to the
skeleton `( 0 | 1 ) & 2`, which the boolean parser gets; the terms of the disjunctive normal
form are groups of criteria.  The rewriting scans the text with two cursors, given here by
the text behind each of them: that of the scan, and that of what is not yet written.
-/

namespace Gyeeta.Filter

/-- Why a filter is rejected. -/
inductive ParseError where
  | tooLong
  | missingBraces (oper : GroupOper)
  | startsWithoutBrace
  | emptyBraceAtEnd
  | tooSmall
  | unterminatedString
  | extraBrace
  | unterminatedCriterion
  | badOperator
  | badStart
  | bufferOverflow
  | boolParser
  | tooManyGroups
  | tooManyInGroup
  | tooManyCriteria
  | notUnsupported
  | badCriterionId
  | badGroupNumber
  | noCriteria
  | badCriterion
  | badSubsystem
  | multihost
  deriving DecidableEq, Repr

/-- `get_trim_str`. -/
def trim (text : Text) : Text :=
  (text.dropWhile isSpaceTab).rdropWhile isSpaceTab

/-! ## Rewriting -/

/-- The state of `replace_expr_criteria`. -/
structure Scan where
  strbuf : Text
  /-- `mapvec_`; `expmap` has the hashes of its elements with their positions. -/
  mapvec : List Text
  /-- The text from `pnxtwr` on. -/
  unwritten : Text
  deriving DecidableEq, Repr

/-- `strbuf.append(pnxtwr, ptmp - pnxtwr)`, if that is something. -/
def Scan.flushTo (scan : Scan) (rest : Text) : Scan :=
  { scan with
    strbuf := scan.strbuf ++ scan.unwritten.take (scan.unwritten.length - rest.length) }

/-- The position of the first criterion with the hash of the given one. -/
def critId (mapvec : List Text) (crit : Text) : Nat :=
  mapvec.findIdx fun other => fnv1Hash other = fnv1Hash crit

/-- `expmap.try_emplace` and `mapvec_.emplace_back`. -/
def addCrit (mapvec : List Text) (crit : Text) : List Text :=
  if critId mapvec crit < mapvec.length then mapvec else mapvec ++ [crit]

/-- The check of a text without braces, from the second character on and with the
character before. -/
def checkNoBraces : Text → (before : UInt8) → (inString : Bool) → Option GroupOper
  | char :: rest, before, inString =>
    if rest.length < 4 ∧ (!inString ∨ rest.length < 1) then none
    else if inString then checkNoBraces rest char (char ≠ quote)
    else if char = quote then checkNoBraces rest char true
    else if isSpaceTab before && (char :: rest.take 2).map toLower == ascii "and" &&
        (rest.drop 2).head?.any isSpaceTab then some .and
    else if isSpaceTab before && (char :: rest.take 1).map toLower == ascii "or" &&
        (rest.drop 1).head?.any isSpaceTab then some .or
    else checkNoBraces rest char false
  | [], _, _ => none

/-- The text of a criterion up to its closing brace, and what is behind. -/
def findClose : Text → (inString : Bool) → Except ParseError (Text × Text)
  | [], true => .error .unterminatedString
  | [], false => .error .unterminatedCriterion
  | char :: rest, true => do
    let (body, behind) ← findClose rest (char ≠ quote)
    return (char :: body, behind)
  | char :: rest, false =>
    if char = closeBrace then .ok ([], rest)
    else if char = openBrace then .error .extraBrace
    else do
      let (body, behind) ← findClose rest (char = quote)
      return (char :: body, behind)

/-- A criterion at the cursor, with its opening brace.  The skeleton gets what is not yet
written before it, and its number. -/
def takeCriterion (scan : Scan) (rest : Text) : Except ParseError (Scan × Text) :=
  if rest.length ≤ 2 then .error .emptyBraceAtEnd
  else do
    let (body, behind) ← findClose rest.tail false
    let crit := trim body
    if crit.length < 5 then .error .tooSmall
    else
      let scan := scan.flushTo rest
      return ({
        strbuf := scan.strbuf ++ decimal (critId scan.mapvec crit)
        mapvec := addCrit scan.mapvec crit
        unwritten := behind }, behind)

def isCloser (char : UInt8) : Bool :=
  isSpaceTab char || char = closeParen

def isOpener (char : UInt8) : Bool :=
  char = openParen || isSpaceTab char

/-- Blanks and closing parentheses up to the last character; each one is written, and is
the next one to be written. -/
def skipClosers (scan : Scan) : Text → Scan × Text
  | char :: next :: rest =>
    if isCloser char then skipClosers { scan with
          strbuf := scan.strbuf ++ [char]
          unwritten := char :: next :: rest } (next :: rest)
    else (scan, char :: next :: rest)
  | rest => (scan, rest)

/-- Skips characters up to the last one. -/
def skipTo (skipped : UInt8 → Bool) : Text → Text
  | char :: next :: rest =>
    if skipped char then skipTo skipped (next :: rest) else char :: next :: rest
  | rest => rest

/-- An operator, of at least five characters that are left. -/
def takeOper (rest : Text) : Except ParseError (GroupOper × Text) :=
  let lower := (rest.take 4).map toLower
  if lower.take 1 = ascii "a" then
    if lower.take 3 = ascii "and" ∧ (lower.drop 3).head?.any isSpaceTab then
      .ok (.and, rest.drop 4)
    else .error .badOperator
  else if lower.take 2 = ascii "or" ∧ (lower.drop 2).head?.any isSpaceTab then
    .ok (.or, rest.drop 3)
  else .error .badOperator

/-- An operator in the skeleton. -/
def GroupOper.symbol : GroupOper → Text
  | or => [space, bar, space]
  | and => [space, ampersand, space]

/-- The text behind an operator, up to the opening brace of the next criterion: `none` if
the scan ends before it. -/
def takeOpeners (scan : Scan) (rest : Text) : Except ParseError (Scan × Option Text) :=
  let start := skipTo isSpaceTab rest
  let behind := skipTo isOpener start
  if start.length ≤ 1 then .ok (scan, none)
  else if behind.length ≤ 1 then .ok ({ scan with unwritten := start }, none)
  else if behind.head? ≠ some openBrace then .error .badStart
  else if behind.length < start.length then
    .ok ({ { scan with unwritten := start }.flushTo behind with unwritten := behind.tail },
      some behind)
  else .ok ({ scan with unwritten := start }, some behind)

/-- The text from an operator to the next criterion. -/
def takeNext (scan : Scan) (rest : Text) : Except ParseError (Scan × Option Text) :=
  if rest.length < 5 then .ok (scan, none)
  else do
    let (oper, rest) ← takeOper rest
    takeOpeners { scan with strbuf := scan.strbuf ++ oper.symbol } rest

/-- The main loop, at an opening brace. -/
def scanLoop : Nat → Scan → Text → Except ParseError Scan
  | 0, scan, _ => .ok scan
  | fuel + 1, scan, rest => do
    if rest.length ≤ 1 then return scan
    else
      let (scan, rest) ← takeCriterion scan rest
      let (scan, rest) := skipClosers scan rest
      let (scan, next) ← takeNext scan rest
      match next with
      | none => return scan
      | some rest => scanLoop fuel scan rest

/-- What `replace_expr_criteria` leaves: the skeleton, the criteria and `firstcrit_`. -/
structure Replaced where
  strbuf : Text
  mapvec : List Text
  firstcrit : Text
  deriving DecidableEq, Repr

/-- The end of `replace_expr_criteria`. -/
def Scan.finish (scan : Scan) (text : Text) : Replaced :=
  match scan.mapvec with
  | [] => ⟨scan.strbuf, [], text⟩
  | [crit] => ⟨scan.strbuf, [crit], crit⟩
  | mapvec => ⟨scan.strbuf ++ scan.unwritten, mapvec, []⟩

def replaceExprCriteria (text : Text) : Except ParseError Replaced :=
  if openBrace ∉ text then
    match checkNoBraces text.tail (text.headD 0) false with
    | some oper => .error (.missingBraces oper)
    | none => .ok ⟨[], [], text⟩
  else if (text.takeWhile fun char => char ≠ openBrace).any fun char => !isOpener char then
    .error .startsWithoutBrace
  else
    (scanLoop text.length ⟨[], [], text⟩ (text.dropWhile fun char => char ≠ openBrace)).map
      fun scan => scan.finish text

/-! ## Groups -/

/-- The fields of `GY_BOOLPARSE`. -/
structure BoolParse where
  mapvec : List Text
  firstcrit : Text
  idvec : List (List Nat)
  ncritgroups : Nat
  nl2groups : Nat
  nl1Crit : Nat
  max1crit : Nat
  totalCrit : Nat
  isL1And : Bool
  deriving DecidableEq, Repr

/-- An empty filter. -/
def BoolParse.empty : BoolParse :=
  ⟨[], [], [], 0, 0, 0, 0, 0, false⟩

/-- A filter with a single criterion. -/
def BoolParse.single (firstcrit : Text) : BoolParse :=
  ⟨[], firstcrit, [], 1, 0, 1, 1, 1, true⟩

/-- `MAX_ONE_GROUP_CRITERIA` and `MAX_CRITERIA_GROUPS`. -/
def maxOneGroupCriteria : Nat := 64

def maxQueryCriteria : Nat := 256

/-- The numbers of the criteria of a term. -/
def termIds (ncrits : Nat) (positives : List Text) : Except ParseError (List Nat) :=
  positives.mapM fun name =>
    match stringToNumber name with
    | some id => if id < ncrits then .ok id else .error .badCriterionId
    | none => .error .badCriterionId

/-- The loop over the terms of the normal form. -/
def addTerms (ngroups : Nat) : List
    (List Text × List Text) → BoolParse → Except ParseError BoolParse
  | [], parse => .ok parse
  | (positives, negatives) :: rest, parse =>
    let ncrit := positives.length
    if ncrit > maxOneGroupCriteria then .error .tooManyInGroup
    else if negatives ≠ [] then .error .notUnsupported
    else if parse.totalCrit + ncrit > maxQueryCriteria then .error .tooManyCriteria
    else do
      let ids ← termIds parse.mapvec.length positives
      addTerms ngroups rest
        { parse with
          idvec := parse.idvec ++ [ids]
          totalCrit := parse.totalCrit + ncrit
          max1crit := max parse.max1crit ncrit
          nl2groups := if ngroups > 1 ∧ ncrit > 1 then parse.nl2groups + 1 else parse.nl2groups
          nl1Crit := if ngroups > 1 ∧ ncrit ≤ 1 then parse.nl1Crit + ncrit else parse.nl1Crit }

/-- The groups of the terms of the normal form. -/
def parseTerms (mapvec : List Text) (terms : List (List Text × List Text)) :
    Except ParseError BoolParse :=
  if terms.length > maxOneGroupCriteria then .error .tooManyGroups
  else
    (addTerms terms.length terms
        { BoolParse.empty with mapvec := mapvec, ncritgroups := terms.length }).map fun parse =>
      if terms.length = 1 then { parse with nl1Crit := parse.totalCrit, isL1And := true }
      else parse

/-- What the constructor does with the skeleton. -/
def parseSkeleton (lib : Boolstuff) (replaced : Replaced) : Except ParseError BoolParse :=
  if replaced.mapvec.length ≤ 1 then .ok (.single replaced.firstcrit)
  -- `STRING_BUFFER<1024>` is full with 1023 characters.
  else if replaced.strbuf.length ≥ 1023 then .error .bufferOverflow
  else
    match lib.parse replaced.strbuf with
    | none => .error .boolParser
    | some tree => parseTerms replaced.mapvec (lib.terms tree)

/-- The constructor of `GY_BOOLPARSE`. -/
def boolParse (lib : Boolstuff) (input : Text) : Except ParseError BoolParse :=
  if input = [] then .ok .empty
  else if input.length > 8 * 1024 then .error .tooLong
  else if trim input = [] then .ok .empty
  else (replaceExprCriteria (trim input)).bind (parseSkeleton lib)

def BoolParse.getGroupCriteria (parse : BoolParse) (group maxelem : Nat) :
    Except ParseError (List Text) :=
  if maxelem = 0 then .ok []
  else
    match parse.idvec[group]? with
    | none =>
      if group = 0 ∧ parse.firstcrit ≠ [] then .ok [parse.firstcrit]
      else .error .badGroupNumber
    | some ids =>
      if ids.length > maxelem then .error .tooManyInGroup
      else .ok (ids.map fun id => parse.mapvec.getD id [])

end Gyeeta.Filter
