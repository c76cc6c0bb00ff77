import Gyeeta.Lib.Heap
import Gyeeta.Lib.Reassembly

/-!
# Bounded reassembly

Messages have a header of a fixed length that gives the length of the body.  A message that
lies in one packet is handed on as it stands.  One that does not is collected, but only up to
a maximum; the bytes of its body beyond that are counted and skipped.
-/

namespace Gyeeta.Bounded

open List

open Reassembly

/-- The header, how much of a body is kept, and the headers whose body is kept as a whole. -/
structure Layout where
  hdrLen : Nat
  /-- The length of the body, if the header is valid. -/
  bodyLen : Bytes → Option Nat
  maxBody : Nat
  /-- How many of the bytes that are counted are copied. -/
  copied : Bytes → Nat → Nat
  hdrLen_pos : 0 < hdrLen
  copied_le : ∀ hdr count, copied hdr count ≤ count

/-- Where in a message the packets so far end. -/
inductive Stage where
  | start
  | header
  | body
  deriving DecidableEq, Repr

/-- The fragment state: the header or its first part, the number of body bytes that were kept
and of those that were skipped, and the buffer for the former. -/
structure Frag where
  stage : Stage
  hdr : Bytes
  nbytes : Nat
  skip : Nat
  buf : Bytes
  deriving DecidableEq, Repr

/-- The fragment state between messages. -/
def Frag.reset (frag : Frag) : Frag where
  stage := .start
  hdr := []
  nbytes := 0
  skip := 0
  buf := frag.buf

/-- A message as it is handed on. -/
structure Token where
  hdr : Bytes
  len : Nat
  /-- The body, or what was kept of it. -/
  payload : Bytes
  deriving DecidableEq, Repr

section Next

variable (layout : Layout) (tooMany : Frag → Bool)

/-- How many bytes of a packet are kept. -/
def ncopy (frag : Frag) (len : Nat) (packet : Bytes) : Nat :=
  if frag.nbytes < layout.maxBody then
    min (min (layout.maxBody - frag.nbytes) (len - frag.nbytes)) packet.length
  else 0

/-- The fragment state after bytes were kept. -/
def keep (frag : Frag) (count : Nat) (packet : Bytes) : Frag where
  stage := frag.stage
  hdr := frag.hdr
  nbytes := frag.nbytes + count
  skip := frag.skip
  buf := frag.buf.write frag.nbytes (packet.take (layout.copied frag.hdr count))

/-- Goes on with the body of a message that does not lie in one packet. -/
def nextBody (frag : Frag) (packet : Bytes) : Progress Frag Token :=
  if frag.hdr.length < layout.hdrLen then .error frag
  else
    match layout.bodyLen frag.hdr with
    | none => .error frag
    | some len =>
      if len < frag.nbytes ∨ tooMany frag = true then .error frag
      else
        let count := ncopy layout frag len packet
        let kept := keep layout frag count packet
        let rest := packet.drop count
        let totlen := kept.nbytes + kept.skip
        if len ≤ totlen + rest.length then
          .token kept.reset ⟨kept.hdr, len, kept.buf.take kept.nbytes⟩
            (if kept.nbytes = layout.maxBody then rest.drop (len - totlen) else rest)
        else .more { kept with skip := kept.skip + rest.length }

/-- A header is complete. -/
def nextHeader (frag : Frag) (hdr packet : Bytes) : Progress Frag Token :=
  match layout.bodyLen hdr with
  | none => .error frag
  | some len =>
    if packet.length < len then
      nextBody layout tooMany
        { stage := .body, hdr := hdr, nbytes := 0, skip := 0, buf := frag.buf } packet
    else .token frag.reset ⟨hdr, len, packet.take len⟩ (packet.drop len)

/-- The step of the loop over a packet. -/
def next (frag : Frag) (packet : Bytes) : Progress Frag Token :=
  match frag.stage with
  | .header =>
    if 0 < frag.hdr.length ∧ frag.hdr.length < layout.hdrLen then
      if layout.hdrLen ≤ packet.length + frag.hdr.length then
        let missing := layout.hdrLen - frag.hdr.length
        nextHeader layout tooMany frag (frag.hdr ++ packet.take missing) (packet.drop missing)
      else .more { frag with hdr := frag.hdr ++ packet }
    else .more frag
  | .start =>
    if packet.length < layout.hdrLen then
      .more { frag with stage := .header, hdr := packet }
    else
      nextHeader layout tooMany frag (packet.take layout.hdrLen) (packet.drop layout.hdrLen)
  | .body => nextBody layout tooMany frag packet

end Next

/-! ## What the fragment state stands for -/

variable {layout : Layout} {tooMany : Frag → Bool}

/-- The body of a message with this header is kept as a whole, up to the maximum. -/
def Layout.Copies (layout : Layout) (hdr : Bytes) : Prop :=
  ∀ count, layout.copied hdr count = count

/-- A header and a body of the length that it gives. -/
structure Layout.IsMessage (layout : Layout) (message : Bytes) : Prop where
  header : layout.hdrLen ≤ message.length
  body : layout.bodyLen (message.take layout.hdrLen) = some (message.length - layout.hdrLen)

/-- The header, the length and, where it is kept, the first part of the body. -/
structure Layout.IsToken (layout : Layout) (message : Bytes) (token : Token) : Prop where
  hdr : token.hdr = message.take layout.hdrLen
  len : token.len = message.length - layout.hdrLen
  payload : layout.Copies token.hdr →
    token.payload.take layout.maxBody = (message.drop layout.hdrLen).take layout.maxBody

/-- The body bytes so far: the first ones are kept and the others are counted. -/
structure Layout.RepBody (layout : Layout) (frag : Frag) (part : Bytes) : Prop where
  hdrLen : frag.hdr.length = layout.hdrLen
  nbytes : frag.nbytes = min part.length layout.maxBody
  skip : frag.nbytes + frag.skip = part.length
  kept : layout.Copies frag.hdr → frag.buf.take frag.nbytes = part.take frag.nbytes

/-- The bytes of the unfinished message. -/
structure Layout.Rep (layout : Layout) (frag : Frag) (pending : Bytes) : Prop where
  room : layout.maxBody ≤ frag.buf.length
  bytes : match frag.stage with
    | .start => pending = []
    | .header => pending = frag.hdr ∧ 0 < frag.hdr.length ∧ frag.hdr.length < layout.hdrLen
    | .body => ∃ part, pending = frag.hdr ++ part ∧ layout.RepBody frag part

variable {frag : Frag}

lemma Frag.rep_reset (room : layout.maxBody ≤ frag.buf.length) :
    layout.Rep frag.reset [] :=
  ⟨room, rfl⟩

/-- Messages, fragments and tokens of a layout. -/
def Layout.format (layout : Layout) : Format Frag Token where
  IsMessage := layout.IsMessage
  Rep := layout.Rep
  IsToken := layout.IsToken

/-! ## The body -/

section Body

variable {frag : Frag} {part packet : Bytes} {len : Nat}

lemma ncopy_le (layout : Layout) (frag : Frag) (len : Nat) (packet : Bytes) :
    ncopy layout frag len packet ≤ packet.length := by
  rw [ncopy]
  split
  · exact Nat.min_le_right _ _
  · exact Nat.zero_le _

lemma Layout.RepBody.nbytes_add_ncopy (rep : layout.RepBody frag part)
    (unfinished : part.length ≤ len) (packet : Bytes) : frag.nbytes + ncopy layout frag len packet =
      min (min len (part.length + packet.length)) layout.maxBody := by
  have nbytes := rep.nbytes
  rw [ncopy]
  split <;> omega

lemma Layout.RepBody.ncopy_cases (rep : layout.RepBody frag part) :
    ncopy layout frag len packet = 0 ∨ frag.nbytes = part.length := by
  have nbytes := rep.nbytes
  rw [ncopy]
  split
  · right
    omega
  · left
    rfl

lemma length_buf_keep {count : Nat} (room : frag.nbytes + count ≤ frag.buf.length) :
    (keep layout frag count packet).buf.length = frag.buf.length := by
  have short := layout.copied_le frag.hdr count
  rw [keep, Bytes.length_write]
  rw [length_take]
  omega

section

variable (rep : layout.RepBody frag part)
include rep

lemma Layout.RepBody.take_buf_keep {count : Nat}
    (available : count ≤ packet.length) (cases : count = 0 ∨ frag.nbytes = part.length)
    (room : frag.nbytes ≤ frag.buf.length) (copies : layout.Copies frag.hdr) :
    (keep layout frag count packet).buf.take (frag.nbytes + count) =
      (part ++ packet).take (frag.nbytes + count) := by
  have nbytes := rep.nbytes
  have written : (packet.take count).length = count := by
    rw [length_take, Nat.min_eq_left available]
  have read := Bytes.take_write (packet.take count) room
  rw [written, rep.kept copies] at read
  rw [keep, copies count, read]
  rcases cases with none | all
  · rw [none, take_zero, append_nil, Nat.add_zero, take_append_of_le_length (by omega)]
  · rw [all, take_length, take_length_add_append]

lemma nextBody_whole (known : layout.bodyLen frag.hdr = some len) (unfinished : part.length ≤ len)
    (enough : len ≤ part.length + packet.length) (room : layout.maxBody ≤ frag.buf.length)
    (few : tooMany frag = false) : ∃ after payload, nextBody layout tooMany frag packet =
        .token after ⟨frag.hdr, len, payload⟩ (packet.drop (len - part.length)) ∧
      layout.Rep after [] ∧ (layout.Copies frag.hdr → payload.take layout.maxBody =
        ((part ++ packet).take len).take layout.maxBody) := by
  have nbytes := rep.nbytes
  have skip := rep.skip
  have count := rep.nbytes_add_ncopy unfinished packet
  have available := ncopy_le layout frag len packet
  rw [nextBody, if_neg (by rw [rep.hdrLen]; exact Nat.lt_irrefl _), known]
  simp only [few, Bool.false_eq_true, or_false]
  rw [if_neg (by omega)]
  simp only [length_drop]
  rw [if_pos (by simp only [keep]; omega)]
  refine ⟨(keep layout frag (ncopy layout frag len packet) packet).reset,
    (keep layout frag (ncopy layout frag len packet) packet).buf.take
      (frag.nbytes + ncopy layout frag len packet), ?_, Frag.rep_reset ?_, ?_⟩
  · congr 1
    split
    next full =>
      rw [drop_drop]
      simp only [keep] at full ⊢
      congr 1
      omega
    next full =>
    simp only [keep] at full
    congr 1
    omega
  · rw [length_buf_keep (by omega)]
    exact room
  · intro copies
    have read := rep.take_buf_keep available rep.ncopy_cases (by omega) copies
    rw [read, take_take, take_take]
    congr 1
    omega

lemma nextBody_part (isBody : frag.stage = .body)
    (known : layout.bodyLen frag.hdr = some len) (short : part.length + packet.length < len)
    (room : layout.maxBody ≤ frag.buf.length) (few : tooMany frag = false) :
    ∃ after, nextBody layout tooMany frag packet = .more after ∧
      layout.Rep after (frag.hdr ++ (part ++ packet)) := by
  have nbytes := rep.nbytes
  have skip := rep.skip
  have unfinished : part.length ≤ len := by omega
  have count := rep.nbytes_add_ncopy unfinished packet
  have available := ncopy_le layout frag len packet
  rw [nextBody, if_neg (by rw [rep.hdrLen]; exact Nat.lt_irrefl _), known]
  simp only [few, Bool.false_eq_true, or_false]
  rw [if_neg (by omega)]
  simp only [keep, length_drop]
  rw [if_neg (by omega)]
  refine ⟨_, rfl, ?_, ?_⟩
  · change layout.maxBody ≤ (keep layout frag (ncopy layout frag len packet) packet).buf.length
    rw [length_buf_keep (by omega)]
    exact room
  simp only [isBody]
  refine ⟨part ++ packet, rfl, rep.hdrLen, ?_, ?_, ?_⟩
  · rw [count, length_append, Nat.min_eq_right (Nat.le_of_lt short)]
  · rw [length_append]
    simp only
    omega
  · intro copies
    have read := rep.take_buf_keep available rep.ncopy_cases (by omega) copies
    rw [keep] at read
    exact read

end

end Body

/-! ## The header -/

section Header

variable {frag : Frag} {hdr packet : Bytes} {len : Nat}

lemma nextHeader_whole (known : layout.bodyLen hdr = some len) (enough : len ≤ packet.length) :
    nextHeader layout tooMany frag hdr packet =
      .token frag.reset ⟨hdr, len, packet.take len⟩ (packet.drop len) := by
  rw [nextHeader, known]
  simp only
  rw [if_neg (Nat.not_lt.mpr enough)]

lemma nextHeader_part (known : layout.bodyLen hdr = some len) (isHdr : hdr.length = layout.hdrLen)
    (short : packet.length < len) (room : layout.maxBody ≤ frag.buf.length)
    (few : ∀ frag, frag.nbytes ≤ layout.maxBody → tooMany frag = false) :
    ∃ after, nextHeader layout tooMany frag hdr packet = .more after ∧
      layout.Rep after (hdr ++ packet) := by
  rw [nextHeader, known]
  simp only
  rw [if_pos short]
  have fresh : layout.RepBody
      { stage := .body, hdr := hdr, nbytes := 0, skip := 0, buf := frag.buf } [] :=
    ⟨isHdr, (Nat.zero_min _).symm, rfl, fun _ => rfl⟩
  exact nextBody_part fresh rfl known (by rw [length_nil, Nat.zero_add]; exact short) room
    (few _ (Nat.zero_le _))

end Header

/-! ## The loop -/

variable {pending packet : Bytes}

lemma Layout.Rep.next_eq_nextHeader (rep : layout.Rep frag pending) (noBody : frag.stage ≠ .body)
    (enough : layout.hdrLen ≤ (pending ++ packet).length) :
    next layout tooMany frag packet = nextHeader layout tooMany frag
      ((pending ++ packet).take layout.hdrLen) ((pending ++ packet).drop layout.hdrLen) := by
  have bytes := rep.bytes
  rw [length_append] at enough
  rw [next]
  cases stage : frag.stage with
  | start =>
    simp only [stage] at bytes ⊢
    subst bytes
    rw [length_nil, Nat.zero_add] at enough
    rw [if_neg (Nat.not_lt.mpr enough), nil_append]
  | header =>
    simp only [stage] at bytes ⊢
    obtain ⟨rfl, some, short⟩ := bytes
    rw [if_pos ⟨some, short⟩, if_pos (by omega), take_append,
      take_of_length_le (Nat.le_of_lt short), drop_append,
      drop_of_length_le (Nat.le_of_lt short), nil_append]
  | body => exact absurd stage noBody

lemma Layout.Rep.next_of_short
    (rep : layout.Rep frag pending) (noBody : frag.stage ≠ .body) (some : packet ≠ [])
    (short : (pending ++ packet).length < layout.hdrLen) :
    ∃ after, next layout tooMany frag packet = .more after ∧
      layout.Rep after (pending ++ packet) := by
  have bytes := rep.bytes
  have filled : 0 < packet.length := length_pos_iff.mpr some
  rw [length_append] at short
  rw [next]
  cases stage : frag.stage with
  | start =>
    simp only [stage] at bytes ⊢
    subst bytes
    rw [length_nil, Nat.zero_add] at short
    rw [if_pos short]
    exact ⟨_, rfl, rep.room, rfl, filled, short⟩
  | header =>
    simp only [stage] at bytes ⊢
    obtain ⟨rfl, some, -⟩ := bytes
    rw [if_pos (by omega), if_neg (by omega)]
    refine ⟨_, rfl, rep.room, ?_⟩
    simp only [length_append]
    exact ⟨trivial, by omega, short⟩
  | body => exact absurd stage noBody

variable {message bytes : Bytes}

lemma Layout.IsMessage.bodyLen_take (isMessage : layout.IsMessage message)
    (front : message <+: bytes ∨ bytes <+: message) (enough : layout.hdrLen ≤ bytes.length) :
    layout.bodyLen (bytes.take layout.hdrLen) = some (message.length - layout.hdrLen) := by
  have header := isMessage.header
  have same : bytes.take layout.hdrLen = message.take layout.hdrLen := by
    rcases front with ⟨rest, rfl⟩ | ⟨rest, rfl⟩
    · rw [take_append_of_le_length header]
    · rw [take_append_of_le_length enough]
  rw [same, isMessage.body]

lemma Layout.IsMessage.drop_eq_take (_ : layout.IsMessage message)
    (front : message <+: bytes) : message.drop layout.hdrLen =
      (bytes.drop layout.hdrLen).take (message.length - layout.hdrLen) := by
  rw [← drop_take, ← prefix_iff_eq_take.mp front]

lemma next_correct (few : ∀ frag, frag.nbytes ≤ layout.maxBody → tooMany frag = false) :
    Correct layout.format (next layout tooMany) where
  some := by
    intro message isMessage
    have header := isMessage.header
    have filled := layout.hdrLen_pos
    exact length_pos_iff.mp (by omega)
  whole := by
    intro frag pending packet message rep isMessage short contained
    have header := isMessage.header
    have long := contained.length_le
    have known := isMessage.bodyLen_take (.inl contained) (by omega)
    by_cases stage : frag.stage = .body
    · have bytes := rep.bytes
      simp only [stage] at bytes
      obtain ⟨part, rfl, repBody⟩ := bytes
      rw [append_assoc] at contained long known
      rw [take_left' repBody.hdrLen] at known
      rw [length_append, repBody.hdrLen] at short
      rw [length_append, length_append, repBody.hdrLen] at long
      have enough : message.length - layout.hdrLen ≤ part.length + packet.length := by omega
      obtain ⟨after, payload, step, repAfter, kept⟩ := nextBody_whole repBody known (by omega)
        enough rep.room (few _ (by rw [repBody.nbytes]; omega))
      have body := isMessage.drop_eq_take contained
      rw [drop_left' repBody.hdrLen] at body
      refine ⟨after, ⟨frag.hdr, message.length - layout.hdrLen, payload⟩, ?_, ⟨?_, rfl, ?_⟩,
        repAfter⟩
      · rw [next, stage]
        simp only
        rw [step]
        have before : (frag.hdr ++ part).length = layout.hdrLen + part.length := by
          rw [length_append, repBody.hdrLen]
        have gone : (frag.hdr ++ part).drop message.length = [] := by
          rw [drop_of_length_le]
          omega
        rw [drop_append, gone, before, nil_append, Nat.sub_sub]
      · have front := prefix_iff_eq_take.mp contained
        rw [front, take_take, Nat.min_eq_left header, take_left' repBody.hdrLen]
      · intro copies
        rw [kept copies, body]
    · rw [rep.next_eq_nextHeader stage (by omega), nextHeader_whole known (by
        rw [length_drop]
        omega)]
      have front := prefix_iff_eq_take.mp contained
      refine ⟨frag.reset, ⟨(pending ++ packet).take layout.hdrLen, message.length - layout.hdrLen,
        ((pending ++ packet).drop layout.hdrLen).take (message.length - layout.hdrLen)⟩, ?_,
        ⟨?_, rfl, ?_⟩, Frag.rep_reset rep.room⟩
      · congr 1
        rw [drop_drop]
        congr 1
        omega
      · rw [front, take_take, Nat.min_eq_left header]
      · intro _
        rw [isMessage.drop_eq_take contained]
  part := by
    intro frag pending packet message rep isMessage some inside more
    by_cases stage : frag.stage = .body
    · have bytes := rep.bytes
      simp only [stage] at bytes
      obtain ⟨part, rfl, repBody⟩ := bytes
      rw [append_assoc] at inside more ⊢
      have known := isMessage.bodyLen_take (.inr inside) (by
        rw [length_append, repBody.hdrLen]
        exact Nat.le_add_right _ _)
      rw [take_left' repBody.hdrLen] at known
      rw [length_append, length_append, repBody.hdrLen] at more
      rw [next, stage]
      exact nextBody_part repBody stage known (by omega) rep.room
        (few _ (by rw [repBody.nbytes]; omega))
    · by_cases short : (pending ++ packet).length < layout.hdrLen
      · exact rep.next_of_short stage some short
      have known := isMessage.bodyLen_take (.inr inside) (Nat.not_lt.mp short)
      rw [rep.next_eq_nextHeader stage (Nat.not_lt.mp short)]
      have isHdr : ((pending ++ packet).take layout.hdrLen).length = layout.hdrLen := by
        rw [length_take, Nat.min_eq_left (Nat.not_lt.mp short)]
      have shortBody : ((pending ++ packet).drop layout.hdrLen).length <
          message.length - layout.hdrLen := by
        rw [length_drop]
        omega
      obtain ⟨after, step, repAfter⟩ := nextHeader_part known isHdr shortBody rep.room few
      rw [take_append_drop] at repAfter
      exact ⟨after, step, repAfter⟩

/-! ## What a handler is told -/

/-- The kind of a message, the length of its body, and the body up to the maximum if that is
handed on. -/
structure Shown (Kind : Type) where
  kind : Kind
  len : Nat
  payload : Bytes
  deriving DecidableEq, Repr

section Shown

variable {Kind : Type} [DecidableEq Kind] (kindOf : Bytes → Kind) (excluded : List Kind)

/-- What a token tells; the body of an excluded kind is left out. -/
def Layout.showToken (layout : Layout) (token : Token) : Shown Kind where
  kind := kindOf token.hdr
  len := token.len
  payload :=
    if kindOf token.hdr ∈ excluded then [] else token.payload.take layout.maxBody

/-- What the token of a message is to tell. -/
def Layout.showMessage (layout : Layout) (message : Bytes) : Shown Kind :=
  layout.showToken kindOf excluded
    ⟨message.take layout.hdrLen, message.length - layout.hdrLen, message.drop layout.hdrLen⟩

variable {kindOf excluded}

lemma Layout.IsToken.showToken_eq {message : Bytes} {token : Token}
    (isToken : layout.IsToken message token)
    (copies : ∀ hdr, kindOf hdr ∉ excluded → layout.Copies hdr) :
    layout.showToken kindOf excluded token = layout.showMessage kindOf excluded message := by
  rw [showMessage, showToken, showToken, isToken.len, ← isToken.hdr]
  congr 1
  split
  · rfl
  · next handed => exact isToken.payload (copies token.hdr handed)

lemma Layout.map_showToken_eq {Message : Type} {bytes : Message → Bytes}
    {shown : Message → Shown Kind} {messages : List Message} {tokens : List Token}
    (handed : List.Forall₂ layout.IsToken (messages.map bytes) tokens)
    (copies : ∀ hdr, kindOf hdr ∉ excluded → layout.Copies hdr)
    (shows : ∀ message, layout.showMessage kindOf excluded (bytes message) = shown message) :
    tokens.map (layout.showToken kindOf excluded) = messages.map shown := by
  rw [forall₂_map_left_iff] at handed
  induction handed with
  | nil => rfl
  | cons isToken _ ih => rw [map_cons, map_cons, isToken.showToken_eq copies, shows, ih]

end Shown

end Gyeeta.Bounded
