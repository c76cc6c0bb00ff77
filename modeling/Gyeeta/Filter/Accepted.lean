import Gyeeta.Filter.Scanned

/-!
# Accepted filters

The filters of the grammar are accepted, within the limits, with a skeleton of the same tokens.
Conversely an accepted text with at least two criteria is a filter, if only blanks and
parentheses are left behind its last criterion.  Texts that end in two adjacent parentheses are
left out, since their skeleton gets one more.
-/

namespace Gyeeta.Filter

open List

/-! ## What is left behind the last criterion -/

/-- An operator without a criterion behind it. -/
def Dangling (text : Text) : Prop :=
  ∃ (oper : GroupOper) (word : Text) (blank : UInt8) (openers last : Text),
    text = word ++ blank :: (openers ++ last) ∧ word.map toLower = oper.word ∧
      isSpaceTab blank = true ∧ (∀ char ∈ openers, isOpener char = true) ∧ last.length ≤ 1

/-- A text that is left behind the last criterion and is not looked at: at most four
characters, or an operator without a criterion. -/
def LeftOver (text : Text) : Prop :=
  ∃ front closers rest, text = front ++ closeBrace :: (closers ++ rest) ∧
    (∀ char ∈ closers, isCloser char = true) ∧
    (∃ char ∈ rest.head?, isCloser char = false) ∧ (rest.length ≤ 4 ∨ Dangling rest)

lemma LeftOver.append {text : Text} (left : LeftOver text) (front : Text) :
    LeftOver (front ++ text) := by
  obtain ⟨before, closers, rest, rfl, areClosers, starts, short⟩ := left
  exact ⟨front ++ before, closers, rest, (append_assoc _ _ _).symm, areClosers, starts, short⟩

section Inversion

variable {scan final : Scan} {text rest : Text} {tokens : List (BoolToken Text)}

lemma spells_closers {front : Text} (closers : ∀ char ∈ front, isCloser char = true)
    (spells : Spells tokens rest) (follows : alternates false tokens = true) :
    ∃ more, Spells more (front ++ rest) ∧ alternates false more = true := by
  induction front with
  | nil => exact ⟨tokens, spells, follows⟩
  | cons char front ih =>
    rw [forall_mem_cons] at closers
    obtain ⟨more, spelled, alternating⟩ := ih closers.2
    cases isBlank : isSpaceTab char with
    | true => exact ⟨more, .blank isBlank spelled, alternating⟩
    | false =>
      have isParen := closers.1
      rw [isCloser, isBlank, Bool.false_or, decide_eq_true_eq] at isParen
      subst isParen
      exact ⟨.rparen :: more, .rparen spelled, alternating⟩

lemma spells_openers {front : Text} (openers : ∀ char ∈ front, isOpener char = true)
    (spells : Spells tokens rest) (follows : alternates true tokens = true) :
    ∃ more, Spells more (front ++ rest) ∧ alternates true more = true := by
  induction front with
  | nil => exact ⟨tokens, spells, follows⟩
  | cons char front ih =>
    rw [forall_mem_cons] at openers
    obtain ⟨more, spelled, alternating⟩ := ih openers.2
    cases isBlank : isSpaceTab char with
    | true => exact ⟨more, .blank isBlank spelled, alternating⟩
    | false =>
      have isParen := openers.1
      rw [isOpener, isBlank, Bool.or_false, decide_eq_true_eq] at isParen
      subst isParen
      exact ⟨.lparen :: more, .lparen spelled, alternating⟩

lemma takeOpeners_cases {next : Option Text} (taken : takeOpeners scan text = .ok (final, next)) :
    ∃ openers behind, text = openers ++ behind ∧ (∀ char ∈ openers, isOpener char = true) ∧
      ((next = none ∧ behind.length ≤ 1) ∨
        (next = some behind ∧ behind.head? = some openBrace ∧ 2 ≤ behind.length)) := by
  obtain ⟨blanks, start, rfl, isStart, areBlanks, -⟩ := skipTo_cases isSpaceTab text
  obtain ⟨openers, behind, rfl, isBehind, areOpeners, -⟩ := skipTo_cases isOpener start
  have allOpeners : ∀ char ∈ blanks ++ openers, isOpener char = true := by
    intro char mem
    cases mem_append.mp mem with
    | inl inBlanks => exact isOpener_blank (areBlanks char inBlanks)
    | inr inOpeners => exact areOpeners char inOpeners
  refine ⟨blanks ++ openers, behind, (append_assoc _ _ _).symm, allOpeners, ?_⟩
  rw [takeOpeners] at taken
  dsimp only at taken
  rw [isStart, isBehind, length_append] at taken
  split at taken
  next short =>
    cases taken
    exact .inl ⟨rfl, by omega⟩
  · split at taken
    next short =>
      cases taken
      exact .inl ⟨rfl, short⟩
    next long =>
    split at taken
    · cases taken
    next isBrace =>
      refine .inr ⟨?_, not_not.mp isBrace, by omega⟩
      split at taken <;> cases taken <;> rfl

lemma takeNext_cases {next : Option Text} (taken : takeNext scan text = .ok (final, next)) :
    (next = none ∧ (text.length ≤ 4 ∨ Dangling text)) ∨
      ∃ (oper : GroupOper) (word : Text) (blank : UInt8) (openers behind : Text),
        next = some behind ∧ text = word ++ blank :: (openers ++ behind) ∧
        word.map toLower = oper.word ∧ isSpaceTab blank = true ∧
        (∀ char ∈ openers, isOpener char = true) ∧ behind.head? = some openBrace ∧
        2 ≤ behind.length := by
  rw [takeNext] at taken
  split at taken
  next short =>
    cases taken
    exact .inl ⟨rfl, .inl (by omega)⟩
  · cases isOper : takeOper text with
    | error error =>
      rw [isOper] at taken
      cases taken
    | ok pair =>
      obtain ⟨oper, left⟩ := pair
      rw [isOper] at taken
      obtain ⟨word, blank, rfl, isWord, isBlank⟩ := takeOper_cases isOper
      obtain ⟨openers, behind, rfl, areOpeners, ends⟩ := takeOpeners_cases taken
      rcases ends with ⟨rfl, short⟩ | ⟨rfl, isBrace, long⟩
      · exact .inl ⟨rfl, .inr ⟨oper, word, blank, openers, behind, rfl, isWord, isBlank,
          areOpeners, short⟩⟩
      · exact .inr ⟨oper, word, blank, openers, behind, rfl, rfl, isWord, isBlank, areOpeners,
          isBrace, long⟩

lemma skipClosers_snd (body : Text) :
    (skipClosers (scan.afterCrit text body rest) rest).2 = skipTo isCloser rest := by
  rw [skipClosers_eq (scan.afterCrit text body rest) [] rest rfl, skipTo_eq]

lemma critAt_or_leftOver_of_end {body front left : Text}
    (text_eq : text = openBrace :: (body ++ closeBrace :: (front ++ left)))
    (isText : isBody false body = true) (long : 5 ≤ (trim body).length)
    (closers : ∀ char ∈ front, isCloser char = true)
    (stops : left.length ≤ 1 ∨ ∃ char next more, left = char :: next :: more ∧
      isCloser char = false) (short : left.length ≤ 4 ∨ Dangling left) :
    LeftOver text ∨ ∃ body rest more, CritAt text body rest more := by
  by_cases allClosers : ∀ char ∈ left, isCloser char = true
  · have areClosers : ∀ char ∈ front ++ left, isCloser char = true := fun char mem =>
      (mem_append.mp mem).elim (closers char) (allClosers char)
    have spelled := spells_closers areClosers .nil rfl
    rw [append_nil] at spelled
    obtain ⟨more, spells, follows⟩ := spelled
    exact .inr ⟨body, front ++ left, more, text_eq, isText, long, spells, follows⟩
  left
  refine ⟨openBrace :: body, front, left, text_eq, closers, ?_, short⟩
  match left with
  | [] => exact absurd nofun allClosers
  | [char] =>
    refine ⟨char, rfl, ?_⟩
    simpa using allClosers
  | char :: next :: more =>
    rcases stops with tooLong | ⟨_, _, _, same, notCloser⟩
    · simp at tooLong
    · cases same
      exact ⟨char, rfl, notCloser⟩

lemma scanLoop_cases {fuel : Nat} (scanned : scanLoop fuel scan text = .ok final)
    (isOpen : text.head? = some openBrace) (long : 2 ≤ text.length) (enough : text.length ≤ fuel) :
    LeftOver text ∨ ∃ body rest more, CritAt text body rest more := by
  induction fuel generalizing scan text with
  | zero => omega
  | succ fuel ih =>
    cases taken : takeCriterion scan text with
    | error error =>
      rw [scanLoop, if_neg (by omega), taken] at scanned
      cases scanned
    | ok pair =>
      obtain ⟨after, rest⟩ := pair
      obtain ⟨body, text_eq, isText, longBody, rfl⟩ := takeCriterion_cases isOpen taken
      rw [scanLoop_step fuel long taken, skipClosers_snd] at scanned
      obtain ⟨front, left, rfl, isLeft, closers, stops⟩ := skipTo_cases isCloser rest
      rw [isLeft] at scanned
      cases isNext : takeNext
          (skipClosers (scan.afterCrit text body (front ++ left)) (front ++ left)).1 left with
      | error error =>
        rw [isNext] at scanned
        cases scanned
      | ok pair =>
        rw [isNext] at scanned
        obtain ⟨nextScan, next⟩ := pair
        rcases takeNext_cases isNext with ⟨rfl, short⟩ | ⟨oper, word, blank, openers,
          behind, rfl, rfl, isWord, isBlank, areOpeners, isBrace, longBehind⟩
        · exact critAt_or_leftOver_of_end text_eq isText longBody closers stops short
        have shorter : behind.length ≤ fuel := by
          rw [text_eq] at enough
          simp only [length_cons, length_append] at enough
          omega
        rcases ih scanned isBrace longBehind shorter with
          left | ⟨nextBody, nextRest, nextMore, crit⟩
        · left
          rw [text_eq]
          have whole := left.append (openBrace :: (body ++ closeBrace :: (front ++
            (word ++ blank :: openers))))
          simpa using whole
        right
        have nextSpells : Spells (.atom (trim nextBody) :: nextMore) behind := by
          rw [crit.text_eq]
          exact .crit crit.isText crit.long crit.spells
        obtain ⟨opened, opensSpells, opensFollows⟩ :=
          spells_openers areOpeners nextSpells crit.follows
        have operFollows : alternates false (oper.toBool.token :: opened) = true := by
          cases oper <;> exact opensFollows
        obtain ⟨more, spells, follows⟩ := spells_closers closers
          (.oper oper isWord isBlank opensSpells) operFollows
        exact ⟨body, _, more, text_eq, isText, longBody, spells, follows⟩

end Inversion

/-! ## The skeleton -/

variable {replaced : Replaced}

section Skeleton

variable {text : Text} {tokens : List (BoolToken Text)}

lemma trim_ends (text : Text) : ∀ char ∈ (trim text).getLast?, isSpaceTab char = false := by
  intro char mem
  have present : trim text ≠ [] := by
    intro empty
    rw [empty] at mem
    cases mem
  have last := rdropWhile_last_not isSpaceTab (text.dropWhile isSpaceTab) present
  rw [List.getLast?_eq_getLast_of_ne_nil present] at mem
  cases mem
  exact Bool.eq_false_iff.mpr last

lemma span_openBrace {front behind : Text} (openers : ∀ char ∈ front, isOpener char = true)
    (isOpen : behind.head? = some openBrace) :
    ((front ++ behind).takeWhile fun char => char ≠ openBrace) = front ∧
      ((front ++ behind).dropWhile fun char => char ≠ openBrace) = behind := by
  have noBrace : ∀ char ∈ front, decide (char ≠ openBrace) = true := by
    intro char mem
    apply decide_eq_true
    rintro rfl
    cases openers _ mem
  rw [takeWhile_append_of_pos noBrace, dropWhile_append_of_pos noBrace, eq_cons_of_mem_head? isOpen]
  simp

lemma replaceExprCriteria_of_spells (spells : Spells tokens text)
    (alternating : alternates true tokens = true)
    (ends : ∀ char ∈ text.getLast?, isSpaceTab char = false) :
    ∃ replaced, replaceExprCriteria text = .ok replaced ∧
      replaced.mapvec = distinctCrits [] (critTexts tokens) ∧ replaced.mapvec ≠ [] ∧
      (∀ crit, replaced.mapvec = [crit] → replaced.firstcrit = crit) ∧ (2 ≤ replaced.mapvec.length →
        lex replaced.strbuf = some (numberTokens replaced.mapvec (tokens ++ doubled text))) := by
  obtain ⟨front, openers, behind, body, rest, more, rfl, rfl, parens, crit⟩ :=
    spells.split_openers alternating
  obtain ⟨isFront, isBehind⟩ := span_openBrace parens.chars crit.head
  have same : front ++ behind = (front ++ openBrace :: body) ++ closeBrace :: rest := by
    rw [crit.text_eq]
    simp
  have restEnds : ∀ char ∈ rest.getLast?, isSpaceTab char = false := by
    intro char mem
    apply ends
    rw [same, List.getLast?_append, List.getLast?_cons, Option.mem_def.mp mem]
    rfl
  have enough : behind.length ≤ (front ++ behind).length := by
    rw [length_append]
    exact Nat.le_add_left _ _
  obtain ⟨final, scanned, isMapvec, written, strbuf, lexed⟩ :=
    scanLoop_of_crit ⟨[], [], front ++ behind⟩ crit restEnds enough
  have crits : critTexts (openers ++ .atom (trim body) :: more) = trim body :: critTexts more := by
    rw [critTexts_append, parens.noCrits]
    rfl
  have known := (critId_distinctCrits [] (trim body) (critTexts more)).2
  rw [← isMapvec] at known
  have replaced : replaceExprCriteria (front ++ behind) = .ok (final.finish (front ++ behind)) := by
    have brace : openBrace ∈ front ++ behind := mem_append_right _ (mem_of_mem_head? crit.head)
    have noOther : ¬(front.any fun char => !isOpener char) = true := by
      rw [any_eq_true]
      rintro ⟨char, mem, notOpener⟩
      rw [parens.chars char mem] at notOpener
      cases notOpener
    rw [replaceExprCriteria, if_neg (not_not_intro brace), isFront, if_neg noOther, isBehind,
      scanned]
    rfl
  refine ⟨_, replaced, ?_⟩
  rw [Scan.finish]
  split
  next none =>
    rw [none] at known
    cases known
  next one isOne =>
    refine ⟨?_, nofun, ?_, ?_⟩
    · rw [← isOne, isMapvec, crits]
    · rintro _ ⟨⟩
      rfl
    · intro two
      simp at two
  next notNone notOne =>
  refine ⟨?_, ?_, ?_, ?_⟩
  · rw [isMapvec, crits]
  · exact notNone
  · intro crit isOne
    exact absurd isOne (notOne crit)
  intro _
  dsimp only
  rw [strbuf, Scan.flushTo_append _ front behind rfl, nil_append,
    parens.lex_append (fun _ => isDigit_of_opener) lexed, same, doubled_append,
    append_assoc, numberTokens_append, parens.numbered]
  rfl

lemma Scan.mapvec_finish (scan : Scan) (text : Text) :
    (scan.finish text).mapvec = scan.mapvec := by
  rw [finish]
  split
  next none =>
    exact none.symm
  next one isOne =>
    exact isOne.symm
  · rfl

lemma scanLoop_short {fuel : Nat} {scan : Scan} (short : text.length ≤ 1) :
    scanLoop fuel scan text = .ok scan := by
  cases fuel with
  | zero => rfl
  | succ fuel =>
    rw [scanLoop, if_pos short]
    rfl

lemma replaceExprCriteria_cases (isReplaced : replaceExprCriteria text = .ok replaced)
    (present : replaced.mapvec ≠ []) :
    LeftOver text ∨ ∃ tokens, Spells tokens text ∧ alternates true tokens = true := by
  rw [replaceExprCriteria] at isReplaced
  split at isReplaced
  · split at isReplaced
    · cases isReplaced
    · cases isReplaced
      exact absurd rfl present
  next brace =>
  split at isReplaced
  · cases isReplaced
  next openers =>
  have whole := (takeWhile_append_dropWhile
    (p := fun char : UInt8 => decide (char ≠ openBrace)) (l := text)).symm
  have areOpeners : ∀ char ∈ text.takeWhile (fun char => char ≠ openBrace),
      isOpener char = true := by
    intro char mem
    by_contra notOpener
    exact openers (any_eq_true.mpr ⟨char, mem, by simpa using notOpener⟩)
  have isOpen : (text.dropWhile fun char => char ≠ openBrace).head? = some openBrace := by
    have some : text.dropWhile (fun char => decide (char ≠ openBrace)) ≠ [] := by
      intro empty
      rw [empty, append_nil] at whole
      have notOpener := areOpeners openBrace (whole ▸ not_not.mp brace)
      cases notOpener
    rw [List.head?_eq_some_head some]
    have stops := head_dropWhile_not (fun char => decide (char ≠ openBrace)) some
    simpa using stops
  cases scanned : scanLoop text.length ⟨[], [], text⟩
      (text.dropWhile fun char => char ≠ openBrace) with
  | error error =>
    rw [scanned] at isReplaced
    cases isReplaced
  | ok final =>
    rw [scanned] at isReplaced
    cases isReplaced
    rw [Scan.mapvec_finish] at present
    have long : 2 ≤ (text.dropWhile fun char => char ≠ openBrace).length := by
      by_contra short
      rw [scanLoop_short (by omega)] at scanned
      cases scanned
      exact present rfl
    rcases scanLoop_cases scanned isOpen long (dropWhile_suffix _).length_le with
      left | ⟨body, rest, more, crit⟩
    · left
      rw [whole]
      exact left.append _
    right
    have spells : Spells (.atom (trim body) :: more)
        (text.dropWhile fun char => char ≠ openBrace) := by
      rw [crit.text_eq]
      exact .crit crit.isText crit.long crit.spells
    rw [whole]
    exact spells_openers areOpeners spells crit.follows

end Skeleton

/-! ## Acceptance -/

section Acceptance

variable {lib : Boolstuff} {text : Text} {tokens : List (BoolToken Text)}
  {expr : BoolExpr Text}

/-- The limits of the number of groups and of criteria. -/
def WithinLimits (terms : List (List Text × List Text)) : Prop :=
  terms.length ≤ maxOneGroupCriteria ∧ (∀ term ∈ terms, term.1.length ≤ maxOneGroupCriteria) ∧
    (terms.map fun term => term.1.length).sum ≤ maxQueryCriteria

instance (terms : List (List Text × List Text)) : Decidable (WithinLimits terms) :=
  inferInstanceAs (Decidable (_ ∧ _ ∧ _))

lemma critTexts_of_writes {level : BoolLevel} (writes : Writes level tokens expr) :
    critTexts tokens = expr.atoms := by
  induction writes with
  | atom name => rfl
  | paren _ inner =>
    rw [← singleton_append, critTexts_append, critTexts_append, inner]
    exact append_nil _
  | factor _ inner => exact inner
  | term _ inner => exact inner
  | and _ _ first second =>
    rw [critTexts_append, ← singleton_append, critTexts_append, first, second]
    rfl
  | or _ _ first second =>
    rw [critTexts_append, ← singleton_append, critTexts_append, first, second]
    rfl

lemma termIds_ok {ncrits : Nat} {positives : List Text}
    (known : ∀ name ∈ positives, ∃ id, stringToNumber name = some id ∧ id < ncrits) :
    ∃ ids, termIds ncrits positives = .ok ids := by
  induction positives with
  | nil => exact ⟨[], rfl⟩
  | cons name positives ih =>
    rw [forall_mem_cons] at known
    obtain ⟨⟨id, isId, small⟩, rest⟩ := known
    obtain ⟨ids, isIds⟩ := ih rest
    refine ⟨id :: ids, ?_⟩
    rw [termIds] at isIds ⊢
    rw [mapM_cons, isIds, isId]
    dsimp only
    rw [if_pos small]
    rfl

lemma addTerms_ok (ngroups : Nat) {terms : List (List Text × List Text)} (parse : BoolParse)
    (small : ∀ term ∈ terms, term.1.length ≤ maxOneGroupCriteria)
    (few : parse.totalCrit + (terms.map fun term => term.1.length).sum ≤ maxQueryCriteria)
    (known : ∀ term ∈ terms, (∀ name ∈ term.1, ∃ id, stringToNumber name = some id ∧
      id < parse.mapvec.length) ∧ term.2 = []) :
    ∃ result, addTerms ngroups terms parse = .ok result := by
  induction terms generalizing parse with
  | nil => exact ⟨parse, rfl⟩
  | cons term terms ih =>
    obtain ⟨positives, negatives⟩ := term
    rw [forall_mem_cons] at small known
    rw [map_cons, sum_cons] at few
    obtain ⟨⟨isKnown, rfl⟩, known⟩ := known
    obtain ⟨ids, isIds⟩ := termIds_ok isKnown
    rw [addTerms, if_neg (Nat.not_lt.mpr small.1), if_neg (not_not_intro rfl),
      if_neg (by dsimp only at few; omega), isIds]
    exact ih _ small.2 (by dsimp only at few ⊢; omega) known

lemma length_addCrit (mapvec : List Text) (crit : Text) :
    (addCrit mapvec crit).length ≤ mapvec.length + 1 := by
  rw [addCrit]
  split
  · exact Nat.le_succ _
  · rw [length_append]
    exact Nat.le_refl _

lemma length_distinctCrits (mapvec crits : List Text) :
    (distinctCrits mapvec crits).length ≤ mapvec.length + crits.length := by
  induction crits generalizing mapvec with
  | nil => exact Nat.le_refl _
  | cons crit crits ih =>
    have rest := ih (addCrit mapvec crit)
    have added := length_addCrit mapvec crit
    rw [distinctCrits, foldl_cons, ← distinctCrits, length_cons]
    omega

lemma Spells.length_critTexts (spells : Spells tokens text) :
    (critTexts tokens).length ≤ text.length := by
  induction spells with
  | nil => exact Nat.le_refl _
  | blank _ _ ih => exact Nat.le_succ_of_le ih
  | lparen _ ih => exact Nat.le_succ_of_le ih
  | rparen _ ih => exact Nat.le_succ_of_le ih
  | crit _ _ _ ih =>
    refine (Nat.succ_le_succ ih).trans ?_
    simp only [length_cons, length_append]
    omega
  | oper oper _ _ _ ih =>
    rw [length_append, length_cons]
    cases oper <;> exact ih.trans (by omega)

lemma critId_lt {crits : List Text} {crit : Text} (mem : crit ∈ crits) (mapvec : List Text) :
    critId (distinctCrits mapvec crits) crit < (distinctCrits mapvec crits).length := by
  induction crits generalizing mapvec with
  | nil => cases mem
  | cons first crits ih =>
    cases mem with
    | head =>
      obtain ⟨same, known⟩ := critId_distinctCrits mapvec crit crits
      rw [same]
      exact known
    | tail _ inRest => exact ih inRest (addCrit mapvec first)

lemma boolParse_eq (lib : Boolstuff) (fits : text.length ≤ 8 * 1024) (present : trim text ≠ []) :
    boolParse lib text = (replaceExprCriteria (trim text)).bind (parseSkeleton lib) := by
  have some : text ≠ [] := by
    rintro rfl
    exact present rfl
  rw [boolParse, if_neg some, if_neg (Nat.not_lt.mpr fits), if_neg present]

lemma trim_ne_nil (isReplaced : replaceExprCriteria (trim text) = .ok replaced)
    (present : replaced.mapvec ≠ []) : trim text ≠ [] := by
  intro empty
  rw [empty] at isReplaced
  cases isReplaced
  exact present rfl

lemma parseSkeleton_ok (writes : Writes .expr tokens expr)
    (crits : replaced.mapvec = distinctCrits [] (critTexts tokens))
    (few : (critTexts tokens).length ≤ 8 * 1024)
    (lexed : lex replaced.strbuf = some (numberTokens replaced.mapvec tokens))
    (fits : replaced.strbuf.length < 1023)
    (limits : ∀ tree, lib.parse replaced.strbuf = some tree → WithinLimits (lib.terms tree)) :
    ∃ parse, parseSkeleton lib replaced = .ok parse := by
  have numbered := writes.map fun crit => decimal (critId replaced.mapvec crit)
  obtain ⟨tree, isTree⟩ := Option.isSome_iff_exists.mp ((lib.parse_isSome lexed).mpr ⟨_, numbered⟩)
  obtain ⟨groups, small, total⟩ := limits tree isTree
  have count : replaced.mapvec.length ≤ 8 * 1024 := by
    rw [crits]
    exact (length_distinctCrits [] _).trans (by simpa using few)
  have known : ∀ term ∈ lib.terms tree, (∀ name ∈ term.1, ∃ id, stringToNumber name = some id ∧
      id < replaced.mapvec.length) ∧ term.2 = [] := by
    intro term mem
    obtain ⟨names, negatives⟩ := lib.terms_atoms lexed numbered isTree term mem
    refine ⟨?_, negatives⟩
    intro name inTerm
    have inAtoms := names name inTerm
    rw [BoolExpr.atoms_map, ← critTexts_of_writes writes] at inAtoms
    obtain ⟨crit, isCrit, rfl⟩ := mem_map.mp inAtoms
    have isKnown : critId replaced.mapvec crit < replaced.mapvec.length := by
      rw [crits]
      exact critId_lt isCrit []
    exact ⟨_, stringToNumber_decimal (by omega), isKnown⟩
  obtain ⟨parse, isParse⟩ := addTerms_ok (lib.terms tree).length
    { BoolParse.empty with mapvec := replaced.mapvec, ncritgroups := (lib.terms tree).length }
    small (by simpa [BoolParse.empty] using total) known
  rw [parseSkeleton]
  split
  · exact ⟨_, rfl⟩
  · rw [if_neg (Nat.not_le.mpr fits), isTree]
    dsimp only
    rw [parseTerms, if_neg (Nat.not_lt.mpr groups), isParse]
    exact ⟨_, rfl⟩

lemma parseSkeleton_tree {parse : BoolParse} (several : 2 ≤ replaced.mapvec.length)
    (parsed : parseSkeleton lib replaced = .ok parse) :
    ∃ tree, lib.parse replaced.strbuf = some tree ∧
      parseTerms replaced.mapvec (lib.terms tree) = .ok parse := by
  rw [parseSkeleton, if_neg (by omega)] at parsed
  split at parsed
  · cases parsed
  · split at parsed
    · cases parsed
    next tree isTree =>
      exact ⟨tree, isTree, parsed⟩

end Acceptance

/-- Filters are accepted, and accepted texts are filters, for texts that do not end in two
adjacent parentheses and have nothing left over behind the last criterion.  With a single
distinct criterion there is no skeleton and the parentheses are not looked at. -/
theorem boolparse_accepts_filters (lib : Boolstuff) (text : Text) (fits : text.length ≤ 8 * 1024) :
    (∀ tokens expr, IsFilter text tokens expr →
      ∃ replaced, replaceExprCriteria (trim text) = .ok replaced ∧
        replaced.mapvec = distinctCrits [] (critTexts tokens) ∧
        (∀ crit, replaced.mapvec = [crit] → boolParse lib text = .ok (.single crit)) ∧
        (2 ≤ replaced.mapvec.length → ¬[closeParen, closeParen] <:+ trim text →
          lex replaced.strbuf = some (numberTokens replaced.mapvec tokens) ∧
          (replaced.strbuf.length < 1023 →
            (∀ tree, lib.parse replaced.strbuf = some tree → WithinLimits (lib.terms tree)) →
            ∃ parse, boolParse lib text = .ok parse))) ∧
    ∀ replaced parse, replaceExprCriteria (trim text) = .ok replaced →
      2 ≤ replaced.mapvec.length → boolParse lib text = .ok parse →
      ¬[closeParen, closeParen] <:+ trim text → ¬LeftOver (trim text) →
      ∃ tokens expr, IsFilter text tokens expr := by
  constructor
  · rintro tokens expr ⟨writes, spells⟩
    obtain ⟨replaced, isReplaced, crits, present, first, lexed⟩ :=
      replaceExprCriteria_of_spells spells writes.alternates (trim_ends text)
    have parsed := boolParse_eq lib fits (trim_ne_nil isReplaced present)
    rw [isReplaced] at parsed
    refine ⟨replaced, isReplaced, crits, ?_, ?_⟩
    · intro crit single
      have few : replaced.mapvec.length ≤ 1 := by
        rw [single]
        exact Nat.le_refl _
      rw [parsed, ← first crit single]
      exact if_pos few
    intro several notDouble
    have same := lexed several
    rw [doubled, if_neg notDouble, append_nil] at same
    refine ⟨same, ?_⟩
    intro short limits
    have few := spells.length_critTexts.trans ((length_trim_le text).trans fits)
    obtain ⟨parse, isParse⟩ := parseSkeleton_ok writes crits few same short limits
    exact ⟨parse, by rw [parsed]; exact isParse⟩
  · intro replaced parse isReplaced several accepted notDouble nothingLeft
    have present : replaced.mapvec ≠ [] := by
      intro none
      rw [none] at several
      cases several
    rcases replaceExprCriteria_cases isReplaced present with left | ⟨tokens, spells, alternating⟩
    · exact absurd left nothingLeft
    obtain ⟨other, isOther, -, -, -, lexed⟩ :=
      replaceExprCriteria_of_spells spells alternating (trim_ends text)
    rw [isReplaced] at isOther
    cases isOther
    have same := lexed several
    rw [doubled, if_neg notDouble, append_nil] at same
    rw [boolParse_eq lib fits (trim_ne_nil isReplaced present), isReplaced] at accepted
    obtain ⟨tree, isTree, -⟩ := parseSkeleton_tree several accepted
    obtain ⟨numbered, isWritten⟩ :=
      (lib.parse_isSome same).mp (Option.isSome_iff_exists.mpr ⟨tree, isTree⟩)
    obtain ⟨expr, writes⟩ := isWritten.of_map
    exact ⟨tokens, expr, writes, spells⟩

lemma spells_two_criteria : Spells [.atom (ascii "aaaaa"), .or, .atom (ascii "bbbbb")]
      (trim (ascii "\x7baaaaa\x7d or \x7bbbbbb\x7d")) := by
  have text : trim (ascii "\x7baaaaa\x7d or \x7bbbbbb\x7d") =
      [123, 97, 97, 97, 97, 97, 125, 32, 111, 114, 32, 123, 98, 98, 98, 98, 98, 125] := by
    decide +kernel
  have first : ascii "aaaaa" = trim [97, 97, 97, 97, 97] := by decide +kernel
  have second : ascii "bbbbb" = trim [98, 98, 98, 98, 98] := by decide +kernel
  rw [text, first, second]
  exact @Spells.crit _ [97, 97, 97, 97, 97] _ (by decide) (by decide)
    (.blank (by decide) (@Spells.oper _ [111, 114] _ 32 .or (by decide +kernel) (by decide)
      (@Spells.crit _ [98, 98, 98, 98, 98] _ (by decide) (by decide) .nil)))

theorem two_criteria_accepted :
    ∃ parse, boolParse distributing (ascii "\x7baaaaa\x7d or \x7bbbbbb\x7d") = .ok parse := by
  have writes : Writes .expr [.atom (ascii "aaaaa"), .or, .atom (ascii "bbbbb")]
      (.or (.atom (ascii "aaaaa")) (.atom (ascii "bbbbb"))) :=
    parseTokens_iff.mp (by decide +kernel)
  obtain ⟨replaced, isReplaced, -, -, accepted⟩ := (boolparse_accepts_filters distributing
    (ascii "\x7baaaaa\x7d or \x7bbbbbb\x7d") (by decide +kernel)).1 _ _
    ⟨writes, spells_two_criteria⟩
  have run : replaceExprCriteria (trim (ascii "\x7baaaaa\x7d or \x7bbbbbb\x7d")) =
      .ok ⟨ascii "0  | 1", [ascii "aaaaa", ascii "bbbbb"], []⟩ := by
    decide +kernel
  rw [run] at isReplaced
  cases isReplaced
  refine (accepted (by decide) (by decide +kernel)).2 (by decide +kernel) ?_
  have parsed : (lex (ascii "0  | 1")).bind parseTokens =
      some (.or (.atom (ascii "0")) (.atom (ascii "1"))) := by
    decide +kernel
  intro tree isTree
  cases parsed.symm.trans isTree
  decide +kernel

/-- The filter `({aaaaa} and ({bbbbb} or {ccccc}))` is rejected, while a text without braces
and one with an operator of the skeleton behind the last criterion are accepted. -/
theorem filter_with_two_parens_rejected : (∃ tokens expr, IsFilter
        (ascii "(\x7baaaaa\x7d and (\x7bbbbbb\x7d or \x7bccccc\x7d))") tokens expr) ∧
      (∀ lib, boolParse lib (ascii "(\x7baaaaa\x7d and (\x7bbbbbb\x7d or \x7bccccc\x7d))") =
        .error .boolParser) ∧
      (∀ lib, boolParse lib (ascii "aaaaa") = .ok (.single (ascii "aaaaa"))) ∧
      ∃ parse, boolParse distributing (ascii "\x7baaaaa\x7d or \x7bbbbbb\x7d |0") = .ok parse := by
  refine ⟨?_, ?_, ?_, ?_⟩
  · refine ⟨[.lparen, .atom (trim [97, 97, 97, 97, 97]), .and, .lparen,
      .atom (trim [98, 98, 98, 98, 98]), .or, .atom (trim [99, 99, 99, 99, 99]), .rparen, .rparen],
      _, parseTokens_iff.mp (Option.some_get (by decide +kernel)).symm, ?_⟩
    have text : trim (ascii "(\x7baaaaa\x7d and (\x7bbbbbb\x7d or \x7bccccc\x7d))") =
        [40, 123, 97, 97, 97, 97, 97, 125, 32, 97, 110, 100, 32, 40, 123, 98, 98, 98, 98, 98, 125,
          32, 111, 114, 32, 123, 99, 99, 99, 99, 99, 125, 41, 41] := by
      decide +kernel
    rw [text]
    exact .lparen (@Spells.crit _ [97, 97, 97, 97, 97] _ (by decide) (by decide)
      (.blank (by decide) (@Spells.oper _ [97, 110, 100] _ 32 .and (by decide +kernel) (by decide)
        (.lparen (@Spells.crit _ [98, 98, 98, 98, 98] _ (by decide) (by decide)
          (.blank (by decide) (@Spells.oper _ [111, 114] _ 32 .or (by decide +kernel) (by decide)
            (@Spells.crit _ [99, 99, 99, 99, 99] _ (by decide) (by decide)
              (.rparen (.rparen .nil))))))))))
  · intro lib
    have run : replaceExprCriteria
        (trim (ascii "(\x7baaaaa\x7d and (\x7bbbbbb\x7d or \x7bccccc\x7d))")) =
        .ok ⟨ascii "(0  & (1  | 2)))", [ascii "aaaaa", ascii "bbbbb", ascii "ccccc"], []⟩ := by
      decide +kernel
    have lexed : lex (ascii "(0  & (1  | 2)))") = some [.lparen, .atom [48], .and, .lparen,
        .atom [49], .or, .atom [50], .rparen, .rparen, .rparen] := by
      decide +kernel
    have rejected : lib.parse (ascii "(0  & (1  | 2)))") = none := by
      rw [← Option.not_isSome_iff_eq_none, lib.parse_isSome lexed]
      rintro ⟨expr, writes⟩
      cases writes.nesting
    rw [boolParse_eq lib (by decide +kernel) (by decide +kernel), run]
    change parseSkeleton lib _ = _
    rw [parseSkeleton, if_neg (by decide), if_neg (by decide +kernel), rejected]
  · intro lib
    have run : replaceExprCriteria (trim (ascii "aaaaa")) = .ok ⟨[], [], ascii "aaaaa"⟩ := by
      decide +kernel
    rw [boolParse_eq lib (by decide +kernel) (by decide +kernel), run]
    rfl
  · exact ⟨⟨[ascii "aaaaa", ascii "bbbbb"], [], [[0], [1], [0]], 3, 0, 3, 1, 3, false⟩,
      by decide +kernel⟩

end Gyeeta.Filter
