import Gyeeta.Filter.BoolParse

/-!
# The texts of filters

The grammar of filters: a text is spelled by tokens, and the tokens are an expression.  The
skeleton has numbers for the criteria and otherwise the same tokens.
-/

namespace Gyeeta.Filter

open List

/-! ## The grammar -/

/-- The text of a criterion: strings are closed, and braces are in strings only. -/
def isBody : (inString : Bool) → Text → Bool
  | inString, [] => !inString
  | true, char :: rest => isBody (char ≠ quote) rest
  | false, char :: rest =>
    char ≠ closeBrace && char ≠ openBrace && isBody (char = quote) rest

def GroupOper.word : GroupOper → Text
  | or => ascii "or"
  | and => ascii "and"

/-- The tokens of a text: blanks are free, an operator is in any case and has a blank behind
it, and a criterion has at least five characters without the blanks around it. -/
inductive Spells : List (BoolToken Text) → Text → Prop where
  | nil : Spells [] []
  | blank {tokens : List (BoolToken Text)} {rest : Text} {char : UInt8} :
      isSpaceTab char = true → Spells tokens rest → Spells tokens (char :: rest)
  | lparen {tokens : List (BoolToken Text)} {rest : Text} :
      Spells tokens rest → Spells (.lparen :: tokens) (openParen :: rest)
  | rparen {tokens : List (BoolToken Text)} {rest : Text} :
      Spells tokens rest → Spells (.rparen :: tokens) (closeParen :: rest)
  | crit {tokens : List (BoolToken Text)} {body rest : Text} :
      isBody false body = true → 5 ≤ (trim body).length → Spells tokens rest →
      Spells (.atom (trim body) :: tokens) (openBrace :: (body ++ closeBrace :: rest))
  | oper {tokens : List (BoolToken Text)} {word rest : Text} {blank : UInt8}
      (oper : GroupOper) :
      word.map toLower = oper.word → isSpaceTab blank = true → Spells tokens rest →
      Spells (oper.toBool.token :: tokens) (word ++ blank :: rest)

/-- A filter: its text without the blanks around it spells an expression. -/
def IsFilter (text : Text) (tokens : List (BoolToken Text)) (expr : BoolExpr Text) : Prop :=
  Writes .expr tokens expr ∧ Spells tokens (trim text)

/-- The criteria of a filter, in their order. -/
def critTexts (tokens : List (BoolToken Text)) : List Text :=
  tokens.filterMap fun
    | .atom crit => some crit
    | _ => none

/-- The criteria with distinct hashes. -/
def distinctCrits (mapvec crits : List Text) : List Text :=
  crits.foldl addCrit mapvec

/-- The tokens of the skeleton. -/
def numberTokens (mapvec : List Text) (tokens : List (BoolToken Text)) : List (BoolToken Text) :=
  tokens.map (BoolToken.map fun crit => decimal (critId mapvec crit))

/-! ## Criteria -/

lemma length_trim_le (text : Text) : (trim text).length ≤ text.length := by
  have front := rdropWhile_prefix isSpaceTab (text.dropWhile isSpaceTab)
  exact front.length_le.trans (dropWhile_suffix _).length_le

variable {inString : Bool} {body rest : Text}

lemma findClose_of_isBody (isText : isBody inString body = true) :
    findClose (body ++ closeBrace :: rest) inString = .ok (body, rest) := by
  induction body generalizing inString with
  | nil =>
    cases inString with
    | true => cases isText
    | false => rfl
  | cons char body ih =>
    cases inString with
    | true =>
      rw [isBody] at isText
      rw [cons_append, findClose, ih isText]
      rfl
    | false =>
      simp only [isBody, Bool.and_eq_true, decide_eq_true_eq] at isText
      rw [cons_append, findClose, if_neg isText.1.1, if_neg isText.1.2, ih isText.2]
      rfl

lemma isBody_of_findClose {text : Text} (found : findClose text inString = .ok (body, rest)) :
    isBody inString body = true ∧ text = body ++ closeBrace :: rest := by
  induction text generalizing inString body with
  | nil => cases inString <;> cases found
  | cons char text ih =>
    cases inString with
    | true =>
      rw [findClose] at found
      cases inner : findClose text (char ≠ quote) with
      | error error =>
        rw [inner] at found
        cases found
      | ok pair =>
        rw [inner] at found
        cases found
        obtain ⟨isText, same⟩ := ih inner
        exact ⟨isText, by rw [same]; rfl⟩
    | false =>
      rw [findClose] at found
      split at found
      next closes =>
        cases found
        exact ⟨rfl, by rw [closes]; rfl⟩
      next opens =>
      split at found
      · cases found
      next noBrace =>
      cases inner : findClose text (char = quote) with
      | error error =>
        rw [inner] at found
        cases found
      | ok pair =>
        rw [inner] at found
        cases found
        obtain ⟨isText, same⟩ := ih inner
        refine ⟨?_, by rw [same]; rfl⟩
        rw [isBody, isText, decide_eq_true opens, decide_eq_true noBrace]
        rfl

/-! ## Skipped characters -/

lemma skipTo_eq (skipped : UInt8 → Bool) (text : Text) :
    skipTo skipped text = text.drop (text.dropLast.takeWhile skipped).length := by
  induction text with
  | nil => rfl
  | cons char rest ih =>
    cases rest with
    | nil => rfl
    | cons next rest =>
      rw [skipTo, dropLast_cons_cons, takeWhile_cons]
      split
      · exact ih
      · rfl

lemma skipClosers_eq (scan : Scan) (front rest : Text)
    (last : scan.unwritten = front.getLast?.toList ++ rest) : skipClosers scan rest = ({ scan with
          strbuf := scan.strbuf ++ rest.dropLast.takeWhile isCloser
          unwritten := (front ++ rest.dropLast.takeWhile isCloser).getLast?.toList ++
            rest.drop (rest.dropLast.takeWhile isCloser).length },
        rest.drop (rest.dropLast.takeWhile isCloser).length) := by
  induction rest generalizing scan front with
  | nil =>
    simp only [dropLast_nil, takeWhile_nil, append_nil, length_nil, drop_nil] at last ⊢
    rw [← last]
    rfl
  | cons char rest ih =>
    cases rest with
    | nil =>
      simp only [dropLast_singleton, takeWhile_nil, append_nil, length_nil, drop_zero]
      rw [← last]
      rfl
    | cons next rest =>
      rw [skipClosers, dropLast_cons_cons, takeWhile_cons]
      split
      · rw [ih _ (front ++ [char]) (by simp)]
        simp only [append_assoc, cons_append, nil_append, length_cons, drop_succ_cons]
      · rw [append_nil, append_nil, length_nil, drop_zero, ← last]

section

variable {skipped : UInt8 → Bool} {front rest : Text} (all : ∀ char ∈ front, skipped char = true)
  (long : 2 ≤ rest.length) (stops : ∀ char ∈ rest.head?, skipped char = false)
include all long stops

lemma takeWhile_dropLast : (front ++ rest).dropLast.takeWhile skipped = front := by
  match rest, long with
  | char :: next :: rest, _ =>
    rw [dropLast_append_of_ne_nil (by simp), dropLast_cons_cons,
      takeWhile_append_of_pos all, takeWhile_cons,
      if_neg (by rw [stops char rfl]; nofun), append_nil]

lemma skipTo_stops : skipTo skipped (front ++ rest) = rest := by
  rw [skipTo_eq, takeWhile_dropLast all long stops, drop_left]

end

lemma skipTo_cases (skipped : UInt8 → Bool) (text : Text) :
    ∃ front rest, text = front ++ rest ∧ skipTo skipped text = rest ∧
      (∀ char ∈ front, skipped char = true) ∧
      (rest.length ≤ 1 ∨ ∃ char next more, rest = char :: next :: more ∧ skipped char = false) := by
  induction text with
  | nil => exact ⟨[], [], rfl, rfl, nofun, .inl (Nat.zero_le _)⟩
  | cons char rest ih =>
    cases rest with
    | nil => exact ⟨[], [char], rfl, rfl, nofun, .inl (Nat.le_refl _)⟩
    | cons next rest =>
      rw [skipTo]
      cases isSkipped : skipped char with
      | true =>
        obtain ⟨front, left, same, skips, all, stops⟩ := ih
        exact ⟨char :: front, left, by rw [same]; rfl, skips,
          forall_mem_cons.mpr ⟨isSkipped, all⟩, stops⟩
      | false =>
        exact ⟨[], _, rfl, rfl, nofun, .inr ⟨char, next, rest, rfl, isSkipped⟩⟩

/-! ## Tokens of the skeleton -/

lemma lex_append {front : Text} {tokens : List (BoolToken Text)}
    (noDigits : ∀ char ∈ front, isDigit char = false) (lexed : lex front = some tokens)
    (rest : Text) : lex (front ++ rest) = (lex rest).map fun more => tokens ++ more := by
  induction front generalizing tokens with
  | nil =>
    cases lexed
    rw [nil_append]
    cases lex rest <;> rfl
  | cons char front ih =>
    rw [forall_mem_cons] at noDigits
    rw [lex_cons noDigits.1] at lexed
    rw [cons_append, lex_cons noDigits.1]
    obtain ⟨first, isFirst, more⟩ := Option.bind_eq_some_iff.mp lexed
    obtain ⟨second, isSecond, rfl⟩ := Option.map_eq_some_iff.mp more
    rw [isFirst, ih noDigits.2 isSecond, Option.bind_some, Option.map_map]
    congr 1
    funext last
    exact (append_assoc _ _ _).symm

variable {char : UInt8}

lemma isDigit_of_closer (closer : isCloser char = true) :
    isDigit char = false := by
  simp only [isCloser, isSpaceTab, Bool.or_eq_true, decide_eq_true_eq] at closer
  rcases closer with (rfl | rfl) | rfl <;> decide

lemma isDigit_of_opener (opener : isOpener char = true) :
    isDigit char = false := by
  simp only [isOpener, isSpaceTab, Bool.or_eq_true, decide_eq_true_eq] at opener
  rcases opener with rfl | rfl | rfl <;> decide

lemma symbolTokens_blank (blank : isSpaceTab char = true) :
    symbolTokens char = some [] := by
  rw [symbolTokens, if_pos blank]

lemma lex_blank (blank : isSpaceTab char = true) (rest : Text) :
    lex (char :: rest) = lex rest := by
  have closer : isCloser char = true := by rw [isCloser, blank]; rfl
  rw [lex_cons (isDigit_of_closer closer), symbolTokens_blank blank, Option.bind_some]
  cases lex rest <;> rfl

/-! ## Parts of a filter -/

section Parts

variable {tokens : List (BoolToken Text)} {text : Text}

lemma lex_symbol (oper : GroupOper) (rest : Text) :
    lex (oper.symbol ++ rest) = (lex rest).map fun more => oper.toBool.token :: more := by
  have symbols : ∀ char ∈ oper.symbol, isDigit char = false := by
    intro char mem
    cases oper <;>
      simp only [GroupOper.symbol, mem_cons, not_mem_nil, or_false] at mem <;>
      rcases mem with rfl | rfl | rfl <;>
      decide
  have lexed : lex oper.symbol = some [oper.toBool.token] := by
    cases oper <;> rfl
  exact lex_append symbols lexed rest

/-- A text of blanks and of parentheses of one kind, and its tokens. -/
structure Parens (isParen : UInt8 → Bool) (front : Text) (parens : List (BoolToken Text)) :
    Prop where
  chars : ∀ char ∈ front, isParen char = true
  lexed : lex front = some parens
  numbered : ∀ mapvec, numberTokens mapvec parens = parens
  noCrits : critTexts parens = []

namespace Parens

variable {isParen : UInt8 → Bool} {front : Text} {parens : List (BoolToken Text)} {char : UInt8}

lemma nil : Parens isParen [] [] :=
  ⟨nofun, rfl, fun _ => rfl, rfl⟩

lemma blank (isBlank : isSpaceTab char = true) (inClass : isParen char = true)
    (rest : Parens isParen front parens) : Parens isParen (char :: front) parens :=
  { rest with
    chars := forall_mem_cons.mpr ⟨inClass, rest.chars⟩
    lexed := by rw [lex_blank isBlank, rest.lexed] }

lemma openParen (rest : Parens isOpener front parens) :
    Parens isOpener (Filter.openParen :: front) (.lparen :: parens) where
  chars := forall_mem_cons.mpr ⟨rfl, rest.chars⟩
  lexed := by
    rw [lex_cons rfl, rest.lexed]
    rfl
  numbered mapvec := congrArg _ (rest.numbered mapvec)
  noCrits := rest.noCrits

lemma closeParen (rest : Parens isCloser front parens) :
    Parens isCloser (Filter.closeParen :: front) (.rparen :: parens) where
  chars := forall_mem_cons.mpr ⟨rfl, rest.chars⟩
  lexed := by
    rw [lex_cons rfl, rest.lexed]
    rfl
  numbered mapvec := congrArg _ (rest.numbered mapvec)
  noCrits := rest.noCrits

end Parens

lemma isOpener_blank (isBlank : isSpaceTab char = true) :
    isOpener char = true := by
  rw [isOpener, isBlank, Bool.or_true]

lemma isCloser_blank (isBlank : isSpaceTab char = true) :
    isCloser char = true := by
  rw [isCloser, isBlank, Bool.true_or]

/-- A criterion, and a text behind it whose tokens follow a criterion. -/
structure CritAt (text body rest : Text) (more : List (BoolToken Text)) : Prop where
  text_eq : text = openBrace :: (body ++ closeBrace :: rest)
  isText : isBody false body = true
  long : 5 ≤ (trim body).length
  spells : Spells more rest
  follows : alternates false more = true

/-- An operator, and a text behind it whose tokens follow an operator. -/
structure OperAt (text : Text) (oper : GroupOper) (rest : Text)
    (more : List (BoolToken Text)) : Prop where
  text_eq : ∃ word blank, text = word ++ blank :: rest ∧ word.map toLower = oper.word ∧
    isSpaceTab blank = true
  spells : Spells more rest
  follows : alternates true more = true

lemma Spells.split_openers (spells : Spells tokens text)
    (alternating : alternates true tokens = true) :
    ∃ front openers behind body rest more, text = front ++ behind ∧
      tokens = openers ++ .atom (trim body) :: more ∧ Parens isOpener front openers ∧
      CritAt behind body rest more := by
  induction spells with
  | nil => cases alternating
  | blank isBlank _ ih =>
    obtain ⟨front, openers, behind, body, rest, more, rfl, rfl, parens, crit⟩ := ih alternating
    exact ⟨_ :: front, openers, behind, body, rest, more, rfl, rfl,
      parens.blank isBlank (isOpener_blank isBlank), crit⟩
  | lparen _ ih =>
    rw [alternates] at alternating
    obtain ⟨front, openers, behind, body, rest, more, rfl, rfl, parens, crit⟩ := ih alternating
    exact ⟨_ :: front, .lparen :: openers, behind, body, rest, more, rfl, rfl,
      parens.openParen, crit⟩
  | rparen _ _ => cases alternating
  | crit isText long inner _ =>
    rw [alternates] at alternating
    exact ⟨[], [], _, _, _, _, rfl, rfl, .nil, rfl, isText, long, inner, alternating⟩
  | oper oper _ _ _ _ => cases oper <;> cases alternating

lemma Spells.split_closers (spells : Spells tokens text)
    (alternating : alternates false tokens = true) :
    ∃ front closers, Parens isCloser front closers ∧ ((text = front ∧ tokens = closers) ∨
        ∃ behind oper rest more, text = front ++ behind ∧
          tokens = closers ++ oper.toBool.token :: more ∧ OperAt behind oper rest more) := by
  induction spells with
  | nil => exact ⟨[], [], .nil, .inl ⟨rfl, rfl⟩⟩
  | @blank _ _ char isBlank _ ih =>
    obtain ⟨front, closers, parens, ends⟩ := ih alternating
    refine ⟨char :: front, closers, parens.blank isBlank (isCloser_blank isBlank), ?_⟩
    rcases ends with ⟨rfl, rfl⟩ | ⟨behind, oper, rest, more, rfl, rfl, operator⟩
    · exact .inl ⟨rfl, rfl⟩
    · exact .inr ⟨behind, oper, rest, more, rfl, rfl, operator⟩
  | rparen _ ih =>
    rw [alternates] at alternating
    obtain ⟨front, closers, parens, ends⟩ := ih alternating
    refine ⟨_ :: front, _ :: closers, parens.closeParen, ?_⟩
    rcases ends with ⟨rfl, rfl⟩ | ⟨behind, oper, rest, more, rfl, rfl, operator⟩
    · exact .inl ⟨rfl, rfl⟩
    · exact .inr ⟨behind, oper, rest, more, rfl, rfl, operator⟩
  | lparen _ _ => cases alternating
  | crit _ _ _ _ => cases alternating
  | @oper more word rest blank oper isWord isBlank inner _ =>
    refine ⟨[], [], .nil, .inr ⟨word ++ blank :: rest, oper, rest, more, rfl, rfl,
      ⟨word, blank, rfl, isWord, isBlank⟩, inner, ?_⟩⟩
    cases oper <;> exact alternating

end Parts

/-! ## Numbers of criteria -/

section Numbers

variable {mapvec : List Text} {crit : Text}

lemma critId_append (known : critId mapvec crit < mapvec.length) (more : List Text) :
    critId (mapvec ++ more) crit = critId mapvec crit := by
  rw [critId, findIdx_append]
  exact if_pos known

lemma critId_addCrit (mapvec : List Text) (crit : Text) :
    critId (addCrit mapvec crit) crit = critId mapvec crit ∧
      critId mapvec crit < (addCrit mapvec crit).length := by
  rw [addCrit]
  split
  next known =>
    exact ⟨rfl, known⟩
  next unknown =>
  have none : critId mapvec crit = mapvec.length :=
    Nat.le_antisymm findIdx_le_length (Nat.le_of_not_lt unknown)
  constructor
  · rw [none, critId, findIdx_append, ← critId, if_neg unknown]
    simp
  · rw [none, length_append]
    exact Nat.lt_succ_self _

lemma distinctCrits_append (mapvec crits : List Text) :
    ∃ more, distinctCrits mapvec crits = mapvec ++ more := by
  induction crits generalizing mapvec with
  | nil => exact ⟨[], (append_nil _).symm⟩
  | cons crit crits ih =>
    obtain ⟨more, same⟩ := ih (addCrit mapvec crit)
    rw [distinctCrits, foldl_cons, ← distinctCrits, same, addCrit]
    split
    · exact ⟨more, rfl⟩
    · exact ⟨crit :: more, by rw [append_assoc]; rfl⟩

lemma critId_distinctCrits (mapvec : List Text) (crit : Text) (crits : List Text) :
    critId (distinctCrits mapvec (crit :: crits)) crit = critId mapvec crit ∧
      critId mapvec crit < (distinctCrits mapvec (crit :: crits)).length := by
  obtain ⟨same, known⟩ := critId_addCrit mapvec crit
  obtain ⟨more, appended⟩ := distinctCrits_append (addCrit mapvec crit) crits
  rw [distinctCrits, foldl_cons, ← distinctCrits, appended]
  constructor
  · rw [critId_append (same.symm ▸ known), same]
  · rw [length_append]
    exact Nat.lt_add_right _ known

end Numbers

end Gyeeta.Filter
