import Gyeeta.Filter.FilterText

/-!
# The scan of a filter

A filter is rewritten to a skeleton with the same tokens; only a text that ends in two adjacent
parentheses gets one more.  The induction is over the rounds of the main loop, each of which
takes a criterion, the parentheses behind it, an operator and the parentheses before the next
criterion.
-/

namespace Gyeeta.Filter

open List

/-! ## Steps of the scan -/

section Steps

variable {scan : Scan} {text body rest : Text} {more : List (BoolToken Text)}

/-- The scan behind a criterion. -/
def Scan.afterCrit (scan : Scan) (text body rest : Text) : Scan where
  strbuf := (scan.flushTo text).strbuf ++ decimal (critId scan.mapvec (trim body))
  mapvec := addCrit scan.mapvec (trim body)
  unwritten := rest

lemma takeCriterion_of_body (text_eq : text = openBrace :: (body ++ closeBrace :: rest))
    (isText : isBody false body = true) (long : 5 ≤ (trim body).length) :
    takeCriterion scan text = .ok (scan.afterCrit text body rest, rest) := by
  have trimmed := length_trim_le body
  have enough : ¬text.length ≤ 2 := by
    rw [text_eq, length_cons, length_append]
    omega
  rw [takeCriterion, if_neg enough]
  subst text_eq
  rw [tail_cons, findClose_of_isBody isText]
  exact if_neg (Nat.not_lt.mpr long)

lemma takeCriterion_cases {after : Scan} (isOpen : text.head? = some openBrace)
    (taken : takeCriterion scan text = .ok (after, rest)) :
    ∃ body, text = openBrace :: (body ++ closeBrace :: rest) ∧ isBody false body = true ∧
      5 ≤ (trim body).length ∧ after = scan.afterCrit text body rest := by
  rw [takeCriterion] at taken
  split at taken
  · cases taken
  cases found : findClose text.tail false with
  | error error =>
    rw [found] at taken
    cases taken
  | ok pair =>
    obtain ⟨body, behind⟩ := pair
    obtain ⟨isText, same⟩ := isBody_of_findClose found
    rw [found] at taken
    change (if (trim body).length < 5 then _ else _) = _ at taken
    split at taken
    · cases taken
    next long =>
    cases taken
    refine ⟨body, ?_, isText, Nat.le_of_not_lt long, rfl⟩
    rw [← same]
    exact eq_cons_of_mem_head? isOpen

lemma toLower_blank {char : UInt8} (blank : isSpaceTab (toLower char) = true) :
    isSpaceTab char = true := by
  rw [toLower] at blank
  split at blank
  next capital =>
    obtain ⟨low, high⟩ := capital
    simp only [isSpaceTab, space, tab, Bool.or_eq_true, decide_eq_true_eq,
      UInt8.le_iff_toNat_le, ← UInt8.toNat_inj, UInt8.toNat_add] at low high blank
    change 65 ≤ char.toNat at low
    change char.toNat ≤ 90 at high
    change (char.toNat + 32) % 256 = 32 ∨ (char.toNat + 32) % 256 = 9 at blank
    omega
  · exact blank

lemma blank_toLower {char : UInt8} (blank : isSpaceTab char = true) : toLower char = char := by
  simp only [isSpaceTab, Bool.or_eq_true, decide_eq_true_eq] at blank
  rcases blank with rfl | rfl <;> rfl

lemma ascii_and : ascii "and" = [97, 110, 100] := by
  decide +kernel

lemma ascii_or : ascii "or" = [111, 114] := by
  decide +kernel

lemma ascii_a : ascii "a" = [97] := by
  decide +kernel

variable {word : Text}

lemma map_toLower_and (isWord : word.map toLower = ascii "and") :
    ∃ first second third, word = [first, second, third] ∧ toLower first = 97 ∧
      toLower second = 110 ∧ toLower third = 100 := by
  rw [ascii_and] at isWord
  obtain ⟨first, rest, rfl, isFirst, isRest⟩ := map_eq_cons_iff.mp isWord
  obtain ⟨second, last, rfl, isSecond, isLast⟩ := map_eq_cons_iff.mp isRest
  obtain ⟨third, rfl, isThird⟩ := map_eq_singleton_iff.mp isLast
  exact ⟨first, second, third, rfl, isFirst, isSecond, isThird⟩

lemma map_toLower_or (isWord : word.map toLower = ascii "or") :
    ∃ first second, word = [first, second] ∧ toLower first = 111 ∧ toLower second = 114 := by
  rw [ascii_or] at isWord
  obtain ⟨first, rest, rfl, isFirst, isRest⟩ := map_eq_cons_iff.mp isWord
  obtain ⟨second, rfl, isSecond⟩ := map_eq_singleton_iff.mp isRest
  exact ⟨first, second, rfl, isFirst, isSecond⟩

lemma takeOper_of_word {blank : UInt8} (oper : GroupOper)
    (isWord : word.map toLower = oper.word) (isBlank : isSpaceTab blank = true)
    (rest : Text) : takeOper (word ++ blank :: rest) = .ok (oper, rest) := by
  have stays : isSpaceTab (toLower blank) = true := by rw [blank_toLower isBlank, isBlank]
  cases oper with
  | and =>
    obtain ⟨first, second, third, rfl, isFirst, isSecond, isThird⟩ := map_toLower_and isWord
    simp [takeOper, ascii_a, ascii_and, isFirst, isSecond, isThird, stays]
  | or =>
    obtain ⟨first, second, rfl, isFirst, isSecond⟩ := map_toLower_or isWord
    simp [takeOper, ascii_a, ascii_or, isFirst, isSecond, stays]

lemma split_toLower {count : Nat} (text : Text)
    (starts : ((text.take 4).map toLower).take count = word)
    (ends : ((text.take 4).map toLower).drop count ≠ []) :
    ∃ front char rest, text = front ++ char :: rest ∧ front.map toLower = word ∧
      (((text.take 4).map toLower).drop count).head? = some (toLower char) ∧
      text.drop (count + 1) = rest := by
  have short : count < text.length ∧ count < 4 := by
    have := length_pos_iff.mpr ends
    rw [length_drop, length_map, length_take] at this
    omega
  refine ⟨text.take count, text[count], text.drop (count + 1), ?_, ?_, ?_, rfl⟩
  · rw [cons_getElem_drop_succ, take_append_drop]
  · rw [← starts, ← map_take, take_take, Nat.min_eq_left (by omega)]
  · rw [List.head?_drop, List.getElem?_map, List.getElem?_take_of_lt short.2,
      List.getElem?_eq_getElem short.1]
    rfl

lemma takeOper_cases {oper : GroupOper} (taken : takeOper text = .ok (oper, rest)) :
    ∃ word blank, text = word ++ blank :: rest ∧ word.map toLower = oper.word ∧
      isSpaceTab blank = true := by
  have split {count : Nat} {word : Text}
      (found : ((text.take 4).map toLower).take count = word ∧
        (((text.take 4).map toLower).drop count).head?.any isSpaceTab = true) :
      ∃ front blank, text = front ++ blank :: text.drop (count + 1) ∧
        front.map toLower = word ∧ isSpaceTab blank = true := by
    have ends : ((text.take 4).map toLower).drop count ≠ [] := by
      intro empty
      rw [empty] at found
      cases found.2
    obtain ⟨front, char, rest, same, isWord, head, rfl⟩ := split_toLower text found.1 ends
    rw [head] at found
    exact ⟨front, char, same, isWord, toLower_blank found.2⟩
  rw [takeOper] at taken
  split at taken
  · split at taken
    next found =>
      cases taken
      exact split found
    · cases taken
  · split at taken
    next found =>
      cases taken
      exact split found
    · cases taken

end Steps

/-! ## Closing parentheses at the end -/

/-- The skeleton of a text that ends in two adjacent parentheses has one more of them. -/
def doubled (text : Text) : List (BoolToken Text) :=
  if [closeParen, closeParen] <:+ text then [.rparen] else []

lemma doubled_append (front rest : Text) :
    doubled (front ++ closeBrace :: rest) = doubled rest := by
  have same : [closeParen, closeParen] <:+ front ++ closeBrace :: rest ↔
      [closeParen, closeParen] <:+ rest := by
    rw [← reverse_prefix, ← reverse_prefix]
    simp only [reverse_append, reverse_cons, append_assoc]
    match rest.reverse with
    | [] => simp [closeParen, closeBrace]
    | [last] => simp [closeParen, closeBrace]
    | last :: before :: more => simp
  rw [doubled, doubled]
  simp only [same]

section

variable {text : Text} (closers : ∀ char ∈ text, isCloser char = true)
include closers

lemma lex_closers :
    lex text = some (List.replicate (text.count closeParen) .rparen) := by
  induction text with
  | nil => rfl
  | cons char text ih =>
    rw [forall_mem_cons] at closers
    have rest := ih closers.2
    by_cases closes : char = closeParen
    · subst closes
      rw [lex_cons rfl, rest, count_cons_self, replicate_succ]
      rfl
    have isBlank : isSpaceTab char = true := by
      have closer := closers.1
      rw [isCloser, decide_eq_false closes, Bool.or_false] at closer
      exact closer
    rw [lex_blank isBlank, rest, count_cons_of_ne closes]

lemma lex_tail
    (ends : ∀ char ∈ text.getLast?, isSpaceTab char = false)
    {parens : List (BoolToken Text)} (lexed : lex text = some parens) :
    lex (text.dropLast ++ (text.dropLast.getLast?.toList ++ text.drop (text.length - 1))) =
      some (parens ++ doubled text) := by
  rw [lex_closers closers] at lexed
  cases lexed
  have lexAll {other : Text} (subset : ∀ char ∈ other, char ∈ text)
      (count : other.count closeParen = text.count closeParen + (doubled text).length) :
      lex other = some (List.replicate (text.count closeParen) .rparen ++ doubled text) := by
    rw [lex_closers fun char mem => closers char (subset char mem), count, doubled]
    split
    · rw [length_singleton, replicate_succ']
    · rw [length_nil, Nat.add_zero, append_nil]
  induction text using List.reverseRecOn with
  | nil => rfl
  | append_singleton front last _ =>
    have isParen : last = closeParen := by
      have closer := closers last (by simp)
      have notBlank := ends last (by simp)
      rw [isCloser, notBlank, Bool.false_or, decide_eq_true_eq] at closer
      exact closer
    subst isParen
    rw [dropLast_concat, length_append, length_singleton, Nat.add_sub_cancel, drop_left]
    induction front using List.reverseRecOn with
    | nil =>
      apply lexAll
      · simp
      · decide
    | append_singleton front before _ =>
      have double : [closeParen, closeParen] <:+ front ++ [before] ++ [closeParen] ↔
          before = closeParen := by
        rw [← reverse_prefix]
        simp [eq_comm]
      apply lexAll
      · simp
      rw [doubled]
      simp only [double]
      split
      next same =>
        subst same
        simp
      next other =>
        simp [other]

end

/-! ## The scan of a filter -/

section Scanned

variable {scan : Scan} {text body rest : Text} {more : List (BoolToken Text)}
  {oper : GroupOper}

variable {front behind : Text} {openers : List (BoolToken Text)}

variable {parens : List (BoolToken Text)} {isParen : UInt8 → Bool}

lemma Parens.dropBlanks (whole : Parens isParen front parens) :
    Parens isParen (front.dropWhile isSpaceTab) parens := by
  induction front with
  | nil => exact whole
  | cons char front ih =>
    rw [dropWhile_cons]
    split
    next isBlank =>
      apply ih
      exact ⟨(forall_mem_cons.mp whole.chars).2, lex_blank isBlank front ▸ whole.lexed,
        whole.numbered, whole.noCrits⟩
    · exact whole

lemma Scan.flushTo_append (scan : Scan) (front rest : Text)
    (pending : scan.unwritten = front ++ rest) :
    (scan.flushTo rest).strbuf = scan.strbuf ++ front := by
  rw [flushTo, pending, length_append, Nat.add_sub_cancel, take_left]

lemma Scan.flushTo_short (scan : Scan) (rest : Text)
    (short : scan.unwritten.length ≤ rest.length) : (scan.flushTo rest).strbuf = scan.strbuf := by
  rw [flushTo, Nat.sub_eq_zero_of_le short, take_zero, append_nil]

lemma CritAt.length (crit : CritAt text body rest more) : 7 + rest.length ≤ text.length := by
  have trimmed := length_trim_le body
  have long := crit.long
  rw [crit.text_eq, length_cons, length_append, length_cons]
  omega

lemma CritAt.head (crit : CritAt text body rest more) : text.head? = some openBrace := by
  rw [crit.text_eq]
  rfl

lemma takeOpeners_of_crit (scan : Scan) (parens : Parens isOpener front openers)
    (crit : CritAt behind body rest more) :
    ∃ after written, takeOpeners scan (front ++ behind) = .ok (after, some behind) ∧
      Parens isOpener written openers ∧
      (after.flushTo behind).strbuf = scan.strbuf ++ written ∧ after.mapvec = scan.mapvec := by
  have long := crit.length
  have brace : ∀ char ∈ behind.head?, isOpener char = false ∧ isSpaceTab char = false := by
    intro char mem
    rw [crit.head] at mem
    cases mem
    exact ⟨rfl, rfl⟩
  have written := parens.dropBlanks
  have blanks : skipTo isSpaceTab (front ++ behind) =
      front.dropWhile isSpaceTab ++ behind := by
    have split : front ++ behind =
        front.takeWhile isSpaceTab ++ (front.dropWhile isSpaceTab ++ behind) := by
      rw [← append_assoc, takeWhile_append_dropWhile]
    rw [split]
    refine skipTo_stops ?_ ?_ ?_
    · intro char mem
      exact mem_takeWhile_imp mem
    · rw [length_append]
      omega
    intro char mem
    cases start : front.dropWhile isSpaceTab with
    | nil =>
      rw [start] at mem
      exact (brace char mem).2
    | cons other left =>
      rw [start] at mem
      cases mem
      have stops := List.head?_dropWhile_not isSpaceTab front
      rw [start] at stops
      simpa using stops
  have opens : skipTo isOpener (front.dropWhile isSpaceTab ++ behind) = behind :=
    skipTo_stops written.chars (by omega) fun char mem => (brace char mem).1
  have tail : behind.tail.length ≤ behind.length := by
    rw [List.length_tail]
    exact Nat.sub_le _ _
  have flushed := Scan.flushTo_append
    { scan with unwritten := front.dropWhile isSpaceTab ++ behind } _ behind rfl
  rw [takeOpeners]
  dsimp only
  rw [blanks, opens, if_neg (by rw [length_append]; omega), if_neg (by omega),
    if_neg (not_not_intro crit.head)]
  split
  · refine ⟨_, _, rfl, written, ?_, rfl⟩
    rw [Scan.flushTo_short _ _ tail, flushed]
  · exact ⟨_, _, rfl, written, flushed, rfl⟩

lemma takeNext_of_oper (scan : Scan)
    (operator : ∃ word blank, text = word ++ blank :: (front ++ behind) ∧
      word.map toLower = oper.word ∧ isSpaceTab blank = true)
    (parens : Parens isOpener front openers) (crit : CritAt behind body rest more) :
    ∃ after written, takeNext scan text = .ok (after, some behind) ∧
      Parens isOpener written openers ∧
      (after.flushTo behind).strbuf = scan.strbuf ++ (oper.symbol ++ written) ∧
      after.mapvec = scan.mapvec := by
  obtain ⟨word, blank, rfl, isWord, isBlank⟩ := operator
  obtain ⟨after, written, taken, isWritten, strbuf, mapvec⟩ := takeOpeners_of_crit
    { scan with strbuf := scan.strbuf ++ oper.symbol } parens crit
  refine ⟨after, written, ?_, isWritten, ?_, mapvec⟩
  · have long := crit.length
    rw [takeNext, if_neg, takeOper_of_word oper isWord isBlank]
    · exact taken
    · simp only [length_append, length_cons]
      omega
  · rw [strbuf, append_assoc]

variable {tokens : List (BoolToken Text)} {written : Text}

lemma lex_crit (number : Nat)
    (lexed : lex written = some tokens) (ends : ∀ char ∈ written.head?, isDigit char = false) :
    lex (decimal number ++ written) = some (.atom (decimal number) :: tokens) := by
  rw [lex_ident (decimal_ne_nil number) (fun _ => isDigit_decimal) ends, lexed]
  rfl

lemma Parens.lex_append (whole : Parens isParen front parens)
    (noDigits : ∀ char, isParen char = true → isDigit char = false)
    (lexed : lex written = some tokens) : lex (front ++ written) = some (parens ++ tokens) := by
  rw [Filter.lex_append (fun char mem => noDigits char (whole.chars char mem)) whole.lexed,
    lexed]
  rfl

/-- The skeleton that the scan of a filter writes, from a criterion on. -/
structure Written (scan final : Scan) (text : Text) (crit : Text)
    (more : List (BoolToken Text)) (rest : Text) : Prop where
  mapvec : final.mapvec = distinctCrits scan.mapvec (crit :: critTexts more)
  strbuf : ∃ written, final.strbuf ++ final.unwritten = (scan.flushTo text).strbuf ++ written ∧
    lex written = some (numberTokens final.mapvec (.atom crit :: (more ++ doubled rest)))

lemma critTexts_append (first second : List (BoolToken Text)) :
    critTexts (first ++ second) = critTexts first ++ critTexts second :=
  filterMap_append

variable (mapvec : List Text)

lemma numberTokens_append (first second : List (BoolToken Text)) :
    numberTokens mapvec (first ++ second) =
      numberTokens mapvec first ++ numberTokens mapvec second :=
  map_append

lemma numberTokens_doubled (rest : Text) : numberTokens mapvec (doubled rest) = doubled rest := by
  rw [doubled]
  split <;> rfl

lemma numberTokens_atom (crit : Text) (rest : List (BoolToken Text)) :
    numberTokens mapvec (.atom crit :: rest) =
      .atom (decimal (critId mapvec crit)) :: numberTokens mapvec rest :=
  rfl

lemma numberTokens_oper (oper : GroupOper) (rest : List (BoolToken Text)) :
    numberTokens mapvec (oper.toBool.token :: rest) =
      oper.toBool.token :: numberTokens mapvec rest := by
  cases oper <;> rfl

/-- One round: a criterion, the parentheses behind it, and what follows. -/
lemma scanLoop_step {after : Scan} (fuel : Nat) (long : 1 < text.length)
    (taken : takeCriterion scan text = .ok (after, rest)) : scanLoop (fuel + 1) scan text =
      (takeNext (skipClosers after rest).1 (skipClosers after rest).2).bind fun
        | (scan, none) => .ok scan | (scan, some behind) => scanLoop fuel scan behind := by
  rw [scanLoop, if_neg (Nat.not_le.mpr long), taken]
  change (takeNext (skipClosers after rest).1 (skipClosers after rest).2).bind _ = _
  cases takeNext (skipClosers after rest).1 (skipClosers after rest).2 with
  | error error => rfl
  | ok pair =>
    obtain ⟨next, behind⟩ := pair
    cases behind <;> rfl

lemma takeNext_short (short : text.length < 5) : takeNext scan text = .ok (scan, none) := by
  rw [takeNext, if_pos short]

lemma scanLoop_last (fuel : Nat) (crit : CritAt text body rest more)
    (ends : ∀ char ∈ rest.getLast?, isSpaceTab char = false) (parens : Parens isCloser rest more) :
    ∃ final, scanLoop (fuel + 1) scan text = .ok final ∧
      Written scan final text (trim body) more rest := by
  have long := crit.length
  have skipped := takeWhile_eq_self_iff.mpr fun char mem =>
      parens.chars char (dropLast_subset _ mem)
  have subset : ∀ char ∈ rest.dropLast ++ (rest.dropLast.getLast?.toList ++
      rest.drop (rest.length - 1)), char ∈ rest := by
    intro char mem
    simp only [mem_append, Option.mem_toList] at mem
    rcases mem with inFront | isLast | inTail
    · exact dropLast_subset _ inFront
    · exact dropLast_subset _ (mem_of_getLast? isLast)
    · exact mem_of_mem_drop inTail
  refine ⟨{ scan.afterCrit text body rest with
      strbuf := (scan.afterCrit text body rest).strbuf ++ rest.dropLast
      unwritten := rest.dropLast.getLast?.toList ++ rest.drop (rest.length - 1) }, ?_, ?_, ?_⟩
  · rw [scanLoop_step fuel (by omega) (takeCriterion_of_body crit.text_eq crit.isText crit.long),
      skipClosers_eq _ [] rest rfl, skipped, length_dropLast, takeNext_short]
    · rfl
    · rw [length_drop]
      omega
  · rw [parens.noCrits]
    rfl
  refine ⟨decimal (critId scan.mapvec (trim body)) ++ (rest.dropLast ++
    (rest.dropLast.getLast?.toList ++ rest.drop (rest.length - 1))), ?_, ?_⟩
  · simp only [Scan.afterCrit, append_assoc]
  have head : ∀ char ∈ (rest.dropLast ++ (rest.dropLast.getLast?.toList ++
      rest.drop (rest.length - 1))).head?, isDigit char = false := fun char mem =>
    isDigit_of_closer (parens.chars char (subset char (mem_of_mem_head? mem)))
  rw [lex_crit _ (lex_tail parens.chars ends parens.lexed) head, numberTokens,
    map_cons, ← numberTokens, numberTokens_append, numberTokens_doubled,
    parens.numbered, BoolToken.map]
  simp only [Scan.afterCrit, (critId_addCrit scan.mapvec (trim body)).1]

lemma closer_toLower {char : UInt8} (closer : isCloser char = true) : toLower char = char := by
  simp only [isCloser, isSpaceTab, Bool.or_eq_true, decide_eq_true_eq] at closer
  rcases closer with (rfl | rfl) | rfl <;> rfl

lemma not_closer_of_toLower {char lower : UInt8} (isLower : toLower char = lower)
    (letter : isCloser lower = false) : isCloser char = false := by
  cases closer : isCloser char with
  | false => rfl
  | true =>
    rw [← isLower, closer_toLower closer, closer] at letter
    cases letter

lemma OperAt.head {next : Text} (operator : OperAt behind oper next more) :
    2 ≤ behind.length ∧ ∀ char ∈ behind.head?, isCloser char = false := by
  obtain ⟨word, blank, rfl, isWord, -⟩ := operator.text_eq
  cases oper with
  | and =>
    obtain ⟨first, second, third, rfl, isFirst, -, -⟩ := map_toLower_and isWord
    refine ⟨by simp, ?_⟩
    rintro _ ⟨⟩
    exact not_closer_of_toLower isFirst (by decide)
  | or =>
    obtain ⟨first, second, rfl, isFirst, -⟩ := map_toLower_or isWord
    refine ⟨by simp, ?_⟩
    rintro _ ⟨⟩
    exact not_closer_of_toLower isFirst (by decide)

variable {nextMore : List (BoolToken Text)} {critText nextBody nextRest opens : Text}

lemma OperAt.append_eq (front : Text) (operator : OperAt behind oper (opens ++ critText) more)
    (nextCrit : CritAt critText nextBody nextRest nextMore) :
    ∃ before, front ++ behind = before ++ closeBrace :: nextRest := by
  obtain ⟨word, blank, rfl, -, -⟩ := operator.text_eq
  refine ⟨front ++ (word ++ blank :: (opens ++ openBrace :: nextBody)), ?_⟩
  rw [nextCrit.text_eq]
  simp

lemma scanLoop_next {fuel : Nat}
    {closers : List (BoolToken Text)} (crit : CritAt text body (front ++ behind)
      (closers ++ oper.toBool.token :: (openers ++ .atom (trim nextBody) :: nextMore)))
    (parens : Parens isCloser front closers) (operator : OperAt behind oper (opens ++ critText)
      (openers ++ .atom (trim nextBody) :: nextMore)) (openParens : Parens isOpener opens openers)
    (nextCrit : CritAt critText nextBody nextRest nextMore)
    (recursion : ∀ scan, ∃ final, scanLoop fuel scan critText = .ok final ∧
      Written scan final critText (trim nextBody) nextMore nextRest) :
    ∃ final, scanLoop (fuel + 1) scan text = .ok final ∧ Written scan final text (trim body)
        (closers ++ oper.toBool.token :: (openers ++ .atom (trim nextBody) :: nextMore))
        (front ++ behind) := by
  have long := crit.length
  obtain ⟨before, same⟩ := operator.append_eq front nextCrit
  obtain ⟨enough, notCloser⟩ := operator.head
  obtain ⟨after, written, taken, isWritten, strbuf, mapvec⟩ := takeNext_of_oper
    { scan.afterCrit text body (front ++ behind) with
      strbuf := (scan.afterCrit text body (front ++ behind)).strbuf ++ front
      unwritten := front.getLast?.toList ++ behind }
    operator.text_eq openParens nextCrit
  obtain ⟨final, scanned, isMapvec, skeleton, isSkeleton, lexed⟩ := recursion after
  have crits : critTexts (closers ++ oper.toBool.token ::
      (openers ++ .atom (trim nextBody) :: nextMore)) = trim nextBody :: critTexts nextMore := by
    rw [critTexts_append, parens.noCrits, nil_append, ← singleton_append,
      critTexts_append, critTexts_append, openParens.noCrits]
    cases oper <;> rfl
  have allCrits : final.mapvec =
      distinctCrits scan.mapvec (trim body :: critTexts (closers ++ oper.toBool.token ::
        (openers ++ .atom (trim nextBody) :: nextMore))) := by
    rw [isMapvec, crits, mapvec]
    rfl
  have numbered := critId_distinctCrits scan.mapvec (trim body)
    (critTexts (closers ++ oper.toBool.token :: (openers ++ .atom (trim nextBody) :: nextMore)))
  refine ⟨final, ?_, allCrits, ?_⟩
  · rw [scanLoop_step fuel (by omega) (takeCriterion_of_body crit.text_eq crit.isText crit.long),
      skipClosers_eq (scan.afterCrit text body (front ++ behind)) [] (front ++ behind) rfl,
      takeWhile_dropLast parens.chars enough notCloser, drop_left, nil_append, taken]
    exact scanned
  have tail := isWritten.lex_append (fun _ => isDigit_of_opener) lexed
  have operTail : lex (oper.symbol ++ (written ++ skeleton)) = some (oper.toBool.token ::
      (openers ++ numberTokens final.mapvec
        (.atom (trim nextBody) :: (nextMore ++ doubled nextRest)))) := by
    rw [lex_symbol, tail]
    rfl
  refine ⟨decimal (critId scan.mapvec (trim body)) ++
    (front ++ (oper.symbol ++ (written ++ skeleton))), ?_, ?_⟩
  · rw [isSkeleton, strbuf]
    simp only [Scan.afterCrit, append_assoc]
  have head : ∀ char ∈ (front ++ (oper.symbol ++ (written ++ skeleton))).head?,
      isDigit char = false := by
    cases front with
    | nil =>
      cases oper <;> rintro _ ⟨⟩ <;> rfl
    | cons char front =>
      rintro _ ⟨⟩
      exact isDigit_of_closer (parens.chars _ mem_cons_self)
  rw [lex_crit _ (parens.lex_append (fun _ => isDigit_of_closer) operTail) head,
    same, doubled_append]
  simp only [numberTokens_append, numberTokens_atom, numberTokens_oper, numberTokens_doubled,
    parens.numbered, openParens.numbered, allCrits, numbered.1, append_assoc, cons_append]

lemma scanLoop_of_crit {fuel : Nat} (scan : Scan) (crit : CritAt text body rest more)
    (ends : ∀ char ∈ rest.getLast?, isSpaceTab char = false) (enough : text.length ≤ fuel) :
    ∃ final, scanLoop fuel scan text = .ok final ∧
      Written scan final text (trim body) more rest := by
  induction fuel generalizing scan text body rest more with
  | zero =>
    have long := crit.length
    omega
  | succ fuel ih =>
    have long := crit.length
    obtain ⟨front, closers, parens, parts⟩ := crit.spells.split_closers crit.follows
    rcases parts with ⟨rfl, rfl⟩ | ⟨behind, oper, next, tokens, rfl, rfl, operator⟩
    · exact scanLoop_last fuel crit ends parens
    obtain ⟨opens, openers, critText, nextBody, nextRest, nextMore, rfl, rfl, openParens,
      nextCrit⟩ := operator.spells.split_openers operator.follows
    refine scanLoop_next crit parens operator openParens nextCrit fun scan =>
      ih scan nextCrit ?_ ?_
    · obtain ⟨before, same⟩ := operator.append_eq front nextCrit
      intro char mem
      apply ends
      rw [same, List.getLast?_append, List.getLast?_cons, Option.mem_def.mp mem]
      rfl
    · obtain ⟨word, blank, rfl, -, -⟩ := operator.text_eq
      simp only [length_append, length_cons] at long
      omega

end Scanned

end Gyeeta.Filter
