import Gyeeta.Capture.Provenance

/-!
# Expected sequence numbers

A service records the packets that sessions are made from and the calls of the protocol parser.
The record of a client follows rules on the numbers that its session expects: a session is made
anew only after a `FIN` or `RST` or from a packet whose numbers lie too far from the expected ones,
no other packet from before the expected number of its direction is parsed, and the expected
numbers never move backwards while the session lasts.
-/

namespace Gyeeta.Capture

open List Serial PerSide View

/-! ## The rules -/

/-- The packet of a recorded act. -/
def SessAct.hdr : SessAct → ParsePktHdr
  | .made hdr => hdr
  | .call parsed => parsed.hdr

/-- What is recorded of one client. -/
def actsOf (key : IpPort) (acts : List SessAct) : List SessAct :=
  acts.filter (·.hdr.cli = key)

/-- The calls of the parser in the record. -/
def callsOf (acts : List SessAct) : List ParseCall :=
  acts.filterMap fun
    | .made _ => none
    | .call parsed => some parsed

/-- What the record tells of a session: the numbers it expects next, whether a packet with `FIN`
or `RST` has been parsed, and the packet it was made from, until one is parsed. -/
structure Expecting where
  nxtSeq : PerSide Seq
  ended : Bool
  maker : Option ParsePktHdr
  deriving DecidableEq, Repr

/-- The session after a packet is parsed. -/
def Expecting.after (state : Expecting) (call : ParseCall) : Expecting where
  nxtSeq := .mk' call.hdr.side (call.hdr.nxtSeq.get call.hdr.side)
    (if call.dropType.get call.hdr.side.other = .retransmit then
      state.nxtSeq.get call.hdr.side.other
    else call.hdr.nxtSeq.get call.hdr.side.other)
  ended := state.ended || call.hdr.tcpflags.isFinRst
  maker := none

/-- The session made from a packet. -/
def Expecting.new (hdr : ParsePktHdr) : Expecting :=
  ⟨hdr.nxtSeq, false, some hdr⟩

/-- The session of a client after an act. -/
def Expecting.step (state : Option Expecting) : SessAct → Option Expecting
  | .made hdr => some (.new hdr)
  | .call call => state.map (·.after call)

/-- The session that the record of a client leaves. -/
def expecting (key : IpPort) (acts : List SessAct) : Option Expecting :=
  Machine.run Expecting.step none (actsOf key acts)

/-- The packet does not start before the number expected in its direction, unless the session was
made from it, and neither of the expected numbers moves backwards. -/
structure Forward (state : Expecting) (call : ParseCall) : Prop where
  notBefore : state.maker ≠ some call.hdr → 0 ≤ diff (call.hdr.startSeq.get call.hdr.side)
    (state.nxtSeq.get call.hdr.side)
  onward : ∀ side, 0 ≤ diff ((state.after call).nxtSeq.get side)
    (state.nxtSeq.get side)

/-- The packet's numbers are those of another session. -/
def IsNewSess (state : Expecting) (hdr : ParsePktHdr) : Prop :=
  (isTcpDrop (state.nxtSeq.get hdr.side) (hdr.startSeq.get hdr.side)
    (state.nxtSeq.get hdr.side.other) (hdr.startSeq.get hdr.side.other)
    hdr.tcpflags.syn hdr.tcpflags.fin).1 = .dropNewSess

/-- The acts that the rules allow. -/
def Allowed (state : Option Expecting) : SessAct → Prop
  | .made hdr => ∀ running ∈ state, running.ended = true ∨ IsNewSess running hdr
  | .call call => ∃ running ∈ state, Forward running call

/-- The record of a client follows the rules, and its sessions are made from available packets. -/
structure Lawful (avail : ParsePktHdr → Prop) (key : IpPort) (acts : List SessAct) : Prop where
  guarded : Machine.Guarded Expecting.step Allowed none (actsOf key acts)
  made : ∀ hdr, .made hdr ∈ actsOf key acts → avail hdr

lemma actsOf_append {key : IpPort} {act : SessAct} (own : act.hdr.cli = key)
    (acts : List SessAct) : actsOf key (acts ++ [act]) = actsOf key acts ++ [act] := by
  simp [actsOf, own]

lemma expecting_append {key : IpPort} {act : SessAct} (own : act.hdr.cli = key)
    (acts : List SessAct) :
    expecting key (acts ++ [act]) = Expecting.step (expecting key acts) act := by
  rw [expecting, actsOf_append own, Machine.run, foldl_append]
  rfl

lemma Lawful.append {avail : ParsePktHdr → Prop} {key : IpPort} {acts : List SessAct}
    (lawful : Lawful avail key acts) {act : SessAct} (own : act.hdr.cli = key)
    (given : avail act.hdr) (allowed : Allowed (expecting key acts) act) :
    Lawful avail key (acts ++ [act]) where
  guarded := by
    rw [actsOf_append own, Machine.guarded_append]
    exact ⟨lawful.guarded, allowed, trivial⟩
  made := by
    intro hdr mem
    rw [actsOf_append own, mem_append, mem_singleton] at mem
    rcases mem with mem | rfl
    · exact lawful.made hdr mem
    · exact given

/-! ## A parsed packet moves the numbers onward -/

lemma isTcpDrop_ahead {expSeq actSeq expAck actAck : Seq} {isSyn isFinack : Bool}
    (fresh : (isTcpDrop expSeq actSeq expAck actAck isSyn isFinack).1 ≠ .retransmit)
    (running : (isTcpDrop expSeq actSeq expAck actAck isSyn isFinack).1 ≠ .dropNewSess) :
    diff expSeq actSeq ≤ 0 ∧ -100 * 1024 * 1024 ≤ diff expSeq actSeq ∧
      ((isTcpDrop expSeq actSeq expAck actAck isSyn isFinack).2 ≠ .retransmit →
        diff expAck actAck ≤ 0) := by
  simp only [isTcpDrop] at fresh running ⊢
  split_ifs at fresh running ⊢ <;> simp_all <;> omega

/-- The packets to work with come from the network, and no number that one of them
makes the session expect is half of the number range away from a number of another. -/
structure Captured (avail : ParsePktHdr → Prop) : Prop where
  network : ∀ hdr, avail hdr → FromNetwork hdr
  apart : ∀ first second, avail first → avail second → ∀ side,
    diff (first.nxtSeq.get side) (second.startSeq.get side) ≠ -2 ^ 31

lemma captured_of_span {avail : ParsePktHdr → Prop}
    (network : ∀ hdr, avail hdr → FromNetwork hdr) (base : PerSide Seq)
    (starts : ∀ hdr, avail hdr → ∀ side, ∃ offset < 2 ^ 31,
      hdr.startSeq.get side = base.get side + BitVec.ofNat 32 offset)
    (ends : ∀ hdr, avail hdr → ∀ side, ∃ offset < 2 ^ 31,
      hdr.nxtSeq.get side = base.get side + BitVec.ofNat 32 offset) : Captured avail where
  network := network
  apart := by
    intro first second firstGiven secondGiven side
    obtain ⟨left, leftSmall, leftEq⟩ := ends first firstGiven side
    obtain ⟨right, rightSmall, rightEq⟩ := starts second secondGiven side
    rw [leftEq, rightEq, diff_add_ofNat _ leftSmall rightSmall]
    omega

/-- A session in the state that the record tells. -/
structure Reached (avail : ParsePktHdr → Prop) (view : View) (state : Expecting) : Prop where
  nxtSeq : state.nxtSeq = view.common.nxtSeq
  ended : view.toDelete = true → state.ended = true
  known : ∀ side, ∃ hdr, avail hdr ∧ view.common.nxtSeq.get side = hdr.nxtSeq.get side

variable {avail : ParsePktHdr → Prop} {view before after : View} {hdr : ParsePktHdr}
  {state : Expecting}

/-- A packet that is neither a retransmit nor the start of a new session moves the numbers on. -/
lemma forward_of_noted (captured : Captured avail)
    (reached : Reached avail view state) (given : avail hdr)
    (noted : view.Noted hdr) : Forward state ⟨hdr, view.common.dropType⟩ := by
  obtain ⟨behind, near, ackBehind⟩ := isTcpDrop_ahead noted.fresh noted.running
  obtain ⟨-, ⟨span, short, spans⟩, acks⟩ := captured.network hdr given
  have notBefore : 0 ≤ diff (hdr.startSeq.get hdr.side)
      (view.common.nxtSeq.get hdr.side) := by
    rw [diff_swap (by omega)]
    omega
  have close : diff (hdr.startSeq.get hdr.side) (view.common.nxtSeq.get hdr.side) ≤
      100 * 1024 * 1024 := by
    rw [diff_swap (by omega)]
    omega
  refine ⟨fun _ => by rw [reached.nxtSeq]; exact notBefore, ?_⟩
  intro side
  rw [reached.nxtSeq, Expecting.after, reached.nxtSeq]
  dsimp only
  rcases Side.eq_or_eq_other side hdr.side with rfl | rfl
  · rw [get_mk'_self, spans, diff_add_of_nonneg notBefore (by omega)]
    omega
  rw [get_mk'_other]
  split
  · exact Int.le_of_eq (diff_self _).symm
  next moves =>
  obtain ⟨other, otherGiven, otherEq⟩ := reached.known hdr.side.other
  have apart := captured.apart other hdr otherGiven given hdr.side.other
  rw [← otherEq] at apart
  rw [noted.dropType, get_mk'_other] at moves
  have ackNotAhead := ackBehind moves
  rw [acks, diff_swap apart]
  omega

/-- The packet that a session was made from leaves its numbers as they are. -/
lemma forward_new (hdr : ParsePktHdr) :
    Forward (.new hdr) ⟨hdr, (CommonProto.new hdr).dropType⟩ := by
  refine ⟨fun other => absurd rfl other, fun side => ?_⟩
  have noDrop : (CommonProto.new hdr).dropType.get hdr.side.other = .noDrop := by
    cases hdr.side <;> rfl
  rw [Expecting.after, Expecting.new]
  dsimp only
  rw [noDrop, if_neg (by decide)]
  rcases Side.eq_or_eq_other side hdr.side with rfl | rfl
  · rw [get_mk'_self, diff_self]
  · rw [get_mk'_other, diff_self]

/-! ## Elementary steps keep the rules -/

lemma updStats_nxtSeq (common : CommonProto) (hdr : ParsePktHdr) : (common.updStats hdr).nxtSeq =
      .mk' hdr.side (hdr.nxtSeq.get hdr.side)
        (if common.dropType.get hdr.side.other = .retransmit then common.nxtSeq.get hdr.side.other
        else hdr.nxtSeq.get hdr.side.other) := rfl

lemma Reached.deliver (reached : Reached avail view state)
    (given : avail hdr) {ends : Bool} (finRst : ends = true → hdr.tcpflags.isFinRst = true) :
    Reached avail ((view.deliver hdr).endIf ends) (state.after ⟨hdr, view.common.dropType⟩) where
  nxtSeq := by
    rw [endIf_common, deliver_common, updStats_nxtSeq, Expecting.after, reached.nxtSeq]
  ended := by
    intro toDelete
    rw [endIf_toDelete, Bool.or_eq_true] at toDelete
    rw [Expecting.after, Bool.or_eq_true]
    exact toDelete.imp reached.ended finRst
  known := by
    intro side
    rw [endIf_common, deliver_common, updStats_nxtSeq]
    rcases Side.eq_or_eq_other side hdr.side with rfl | rfl
    · exact ⟨hdr, given, get_mk'_self _ _ _⟩
    · rw [get_mk'_other]
      split
      · exact reached.known _
      · exact ⟨hdr, given, rfl⟩

/-- The record of the client follows the rules and tells the state of the session. -/
structure Ruled (avail : ParsePktHdr → Prop) (key : IpPort) (view : View) (state : Expecting) :
    Prop where
  lawful : Lawful avail key view.acts
  isState : expecting key view.acts = some state
  reached : Reached avail view state

section

variable {key : IpPort}

lemma Ruled.quiet (ruled : Ruled avail key before state) (acts : after.acts = before.acts)
    (nxtSeq : after.common.nxtSeq = before.common.nxtSeq)
    (toDelete : after.toDelete = before.toDelete) : Ruled avail key after state where
  lawful := acts ▸ ruled.lawful
  isState := acts ▸ ruled.isState
  reached :=
    { nxtSeq := ruled.reached.nxtSeq.trans nxtSeq.symm
      ended := fun isEnd => ruled.reached.ended (toDelete.symm.trans isEnd)
      known := fun side => by rw [nxtSeq]; exact ruled.reached.known side }

variable (own : ∀ hdr, avail hdr → hdr.cli = key)
include own

lemma Ruled.deliver (ruled : Ruled avail key view state) (given : avail hdr)
    (forward : Forward state ⟨hdr, view.common.dropType⟩) {ends : Bool}
    (finRst : ends = true → hdr.tcpflags.isFinRst = true) :
    Ruled avail key ((view.deliver hdr).endIf ends)
      (state.after ⟨hdr, view.common.dropType⟩) where
  lawful := by
    rw [endIf_acts]
    exact ruled.lawful.append (own hdr given) given ⟨state, ruled.isState, forward⟩
  isState := by
    rw [endIf_acts]
    have isAfter := @expecting_append key (.call ⟨hdr, view.common.dropType⟩) (own hdr given)
    rw [View.deliver, isAfter, ruled.isState]
    rfl
  reached := ruled.reached.deliver given finRst

lemma Ruled.of_made {acts : List SessAct} (lawful : Lawful avail key acts) (given : avail hdr)
    (allowed : Allowed (expecting key acts) (.made hdr)) (isActs : view.acts = acts ++ [.made hdr])
    (common : view.common = .new hdr) (alive : view.toDelete = false) :
    Ruled avail key view (.new hdr) where
  lawful := isActs ▸ lawful.append (own hdr given) given allowed
  isState := by
    have isNew := @expecting_append key (.made hdr) (own hdr given)
    rw [isActs, isNew]
    rfl
  reached :=
    { nxtSeq := by
        rw [common]
        rfl
      ended := fun toDelete => absurd toDelete (by simp [alive])
      known := fun side => ⟨hdr, given, by rw [common]; rfl⟩ }

lemma Ruled.restart (ruled : Ruled avail key view state) (given : avail hdr)
    (newSess : (Ctx.pktDrops view.common hdr).1 = .dropNewSess) :
    Ruled avail key (view.restart hdr) (.new hdr) := by
  refine .of_made own ruled.lawful given ?_ (restart_acts view hdr) rfl rfl
  intro running isRunning
  rw [ruled.isState] at isRunning
  cases isRunning
  rw [IsNewSess, ruled.reached.nxtSeq]
  exact .inr newSess

lemma Step.ruled (captured : Captured avail) (step : Step avail before after)
    (ruled : Ruled avail key before state) : ∃ state', Ruled avail key after state' := by
  cases step with
  | note => exact ⟨_, ruled.quiet rfl rfl rfl⟩
  | @parse hdr given noted ends finRst =>
    exact ⟨_, ruled.deliver own given (forward_of_noted captured ruled.reached given noted) finRst⟩
  | @restart hdr given newSess => exact ⟨_, ruled.restart own given newSess⟩
  | @reparse hdr given newSess ends finRst =>
    exact ⟨_, (ruled.restart own given newSess).deliver own given (forward_new hdr) finRst⟩
  | hold => exact ⟨_, ruled.quiet rfl rfl rfl⟩
  | startHold => exact ⟨_, ruled.quiet rfl rfl rfl⟩
  | insert => exact ⟨_, ruled.quiet rfl rfl rfl⟩
  | pop => exact ⟨_, ruled.quiet rfl rfl rfl⟩
  | reorderEnd => exact ⟨_, ruled.quiet rfl rfl rfl⟩
  | stamp => exact ⟨_, ruled.quiet rfl rfl rfl⟩
  | srcChange given ssl =>
    -- the probe is no source of captured packets
    have src := (captured.network _ given).src
    rw [ssl] at src
    cases src

lemma Steps.ruled (captured : Captured avail) (steps : Steps avail before after)
    (ruled : Ruled avail key before state) : ∃ state', Ruled avail key after state' := by
  induction steps with
  | refl => exact ⟨state, ruled⟩
  | tail _ step ih =>
    obtain ⟨middle, ruled⟩ := ih
    exact step.ruled own captured ruled

end

/-- The record grows by acts of available packets, and the parsed packets by their calls. -/
def Grows (avail : ParsePktHdr → Prop) (acts acts' : List SessAct)
    (parsed parsed' : List ParseCall) : Prop :=
  ∃ more, acts' = acts ++ more ∧ parsed' = parsed ++ callsOf more ∧ ∀ act ∈ more, avail act.hdr

section

variable {acts acts' acts'' : List SessAct} {parsed parsed' parsed'' : List ParseCall}

lemma Grows.of_eq (sameActs : acts' = acts) (sameParsed : parsed' = parsed) :
    Grows avail acts acts' parsed parsed' :=
  ⟨[], by simp [sameActs], by simp [sameParsed, callsOf], by simp⟩

lemma Grows.made (given : avail hdr) : Grows avail acts (acts ++ [.made hdr]) parsed parsed :=
  ⟨[.made hdr], rfl, by simp [callsOf], by simpa [SessAct.hdr] using given⟩

lemma Grows.call {call : ParseCall} (given : avail call.hdr) :
    Grows avail acts (acts ++ [.call call]) parsed (parsed ++ [call]) :=
  ⟨[.call call], rfl, by simp [callsOf], by simpa [SessAct.hdr] using given⟩

lemma Grows.trans (first : Grows avail acts acts' parsed parsed')
    (second : Grows avail acts' acts'' parsed' parsed'') :
    Grows avail acts acts'' parsed parsed'' := by
  obtain ⟨more, rfl, rfl, moreAvail⟩ := first
  obtain ⟨later, rfl, rfl, laterAvail⟩ := second
  refine ⟨more ++ later, append_assoc .., ?_, forall_mem_append.mpr ⟨moreAvail, laterAvail⟩⟩
  rw [callsOf, callsOf, callsOf, filterMap_append, append_assoc]

end

lemma Step.grows (step : Step avail before after) :
    Grows avail before.acts after.acts before.parsed after.parsed := by
  cases step with
  | @parse hdr given noted ends finRst =>
    rw [endIf_acts, endIf_parsed]
    exact .call given
  | @restart hdr given newSess =>
    rw [restart_acts, restart_parsed]
    exact .made given
  | @reparse hdr given newSess ends finRst =>
    rw [endIf_acts, endIf_parsed, View.deliver, restart_acts, restart_parsed]
    exact (Grows.made given).trans (.call given)
  | srcChange => exact .of_eq (srcChange_acts ..) (srcChange_parsed ..)
  | _ => exact .of_eq rfl rfl

lemma Steps.grows (steps : Steps avail before after) :
    Grows avail before.acts after.acts before.parsed after.parsed := by
  induction steps with
  | refl => exact .of_eq rfl rfl
  | tail _ step ih => exact ih.trans step.grows

/-! ## The parser thread keeps the rules -/

namespace SvcInfoCap

variable {σ : Type} {ops : ProtoOps σ} {key : IpPort} {svc svc' : SvcInfoCap σ}

lemma Worked.grows (worked : Worked ops avail key svc svc') :
    Grows avail svc.acts svc'.acts svc.parsed svc'.parsed := by
  cases worked with
  | idle _ acts parsed => exact .of_eq acts parsed
  | work entered steps =>
    have growing := steps.grows
    rw [acts_leaveSess, parsed_leaveSess]
    rcases entered.sess with ⟨-, acts⟩ | ⟨-, hdr, given, -, -, -, acts⟩
    · exact (Grows.of_eq acts entered.parsed).trans growing
    · exact ((Grows.made given).trans (.of_eq acts entered.parsed)).trans growing

/-- The record of the client explains its session. -/
structure Explained (avail : ParsePktHdr → Prop) (key : IpPort) (svc : SvcInfoCap σ) : Prop where
  lawful : Lawful avail key svc.acts
  recorded : svc.parsed = callsOf svc.acts
  absent : svc.findSess key = none → ∀ running ∈ expecting key svc.acts, running.ended = true
  present : ∀ sess, svc.findSess key = some sess →
    ∃ state, Ruled avail key (Ctx.mk svc key sess).view state
  holds : svc.HoldsOnly key avail
  others : ∀ other, other ≠ key → svc.HoldsOnly other (·.cli = other)

lemma Explained.enter (own : ∀ hdr, avail hdr → hdr.cli = key)
    (explained : Explained avail key svc) {ctx : Ctx σ} (entered : Entered avail key svc ctx) :
    ∃ state, Ruled avail key ctx.view state := by
  rcases entered.sess with ⟨found, acts⟩ | ⟨absent, hdr, given, common, -, alive, acts⟩
  · obtain ⟨state, ruled⟩ := explained.present ctx.sess found
    exact ⟨state, ruled.quiet acts rfl rfl⟩
  · refine ⟨_, .of_made own explained.lawful given ?_ acts common alive⟩
    intro running isRunning
    exact .inl (explained.absent absent running isRunning)

lemma recorded_of_grows (recorded : svc.parsed = callsOf svc.acts)
    (grows : Grows avail svc.acts svc'.acts svc.parsed svc'.parsed) :
    svc'.parsed = callsOf svc'.acts := by
  obtain ⟨more, actsEq, parsedEq, -⟩ := grows
  rw [parsedEq, actsEq, recorded, callsOf, callsOf, callsOf, filterMap_append]

/-- Work on the session of the client keeps the rules. -/
lemma Explained.worked (captured : Captured avail) (own : ∀ hdr, avail hdr → hdr.cli = key)
    (explained : Explained avail key svc) (worked : Worked ops avail key svc svc') :
    Explained avail key svc' := by
  have recorded := recorded_of_grows explained.recorded worked.grows
  have holds := worked.holdsOnly explained.holds
  have others : ∀ other, other ≠ key → svc'.HoldsOnly other (·.cli = other) := by
    intro other ne sess found
    rw [worked.findSess_ne ne] at found
    exact explained.others other ne sess found
  cases worked with
  | idle sessmap acts parsed =>
    have same := findSess_eq_of_sessmap sessmap key
    refine ⟨acts ▸ explained.lawful, recorded, ?_, fun sess found => ?_, holds, others⟩
    · rw [same, acts]
      exact explained.absent
    · rw [same] at found
      obtain ⟨state, ruled⟩ := explained.present sess found
      exact ⟨state, ruled.quiet acts rfl rfl⟩
  | @work ctx after entered steps =>
    obtain ⟨_, entering⟩ := explained.enter own entered
    obtain ⟨state, leaving⟩ := Steps.ruled own captured steps entering
    obtain ⟨afterKey, -⟩ := entered.left steps
    have acts := acts_leaveSess ops after
    have found := findSess_leaveSess ops after
    rw [afterKey] at found
    refine ⟨acts ▸ leaving.lawful, recorded, fun absent running isRunning => ?_,
      fun sess present => ?_, holds, others⟩
    · rw [acts] at isRunning
      have same := Option.some.inj (leaving.isState.symm.trans isRunning)
      by_cases ended : after.sess.toDelete = true
      · rw [← same]
        exact leaving.reached.ended ended
      · rw [found, if_neg ended] at absent
        cases absent
    · rw [found] at present
      split at present
      · cases present
      · cases present
        exact ⟨state, leaving.quiet acts rfl rfl⟩

/-- Work on the session of another client leaves the record of the client as it is. -/
lemma Explained.worked_other (explained : Explained avail key svc)
    {other : IpPort} (ne : other ≠ key) (worked : Worked ops (·.cli = other) other svc svc') :
    Explained avail key svc' := by
  obtain ⟨more, moreEq, -, moreOther⟩ := worked.grows
  have none : more.filter (·.hdr.cli = key) = [] := by
    rw [filter_eq_nil_iff]
    intro act mem
    rw [moreOther act mem]
    simpa using ne
  have acts : actsOf key svc'.acts = actsOf key svc.acts := by
    rw [moreEq, actsOf, filter_append, none, append_nil]
    rfl
  have lawful : Lawful avail key svc'.acts :=
    ⟨acts ▸ explained.lawful.guarded, acts ▸ explained.lawful.made⟩
  have same := worked.findSess_ne ne.symm
  refine ⟨lawful, recorded_of_grows explained.recorded worked.grows, ?_, fun sess found => ?_,
    fun sess found => ?_, fun third thirdNe => ?_⟩
  · rw [same, expecting, acts]
    exact explained.absent
  · rw [same] at found
    obtain ⟨state, ruled⟩ := explained.present sess found
    refine ⟨state, lawful, ?_, { ruled.reached with }⟩
    have isState : expecting key svc.acts = some state := ruled.isState
    rw [expecting, ← acts] at isState
    exact isState
  · rw [same] at found
    exact explained.holds sess found
  · by_cases isOther : third = other
    · subst isOther
      exact worked.holdsOnly (explained.others third thirdNe)
    · intro sess found
      rw [worked.findSess_ne isOther] at found
      exact explained.others third thirdNe sess found

section

variable (captured : Captured avail) (own : ∀ hdr, avail hdr → hdr.cli = key)
include captured own

lemma Explained.chkReorders (tcurrusec : Nat) (keys : List IpPort)
    (explained : Explained avail key svc) :
    Explained avail key (keys.foldl (chkReorder ops tcurrusec) svc) := by
  induction keys generalizing svc with
  | nil => exact explained
  | cons any keys ih =>
    by_cases same : any = key
    · subst same
      exact ih (explained.worked captured own
        (worked_chkReorder ops tcurrusec svc explained.holds))
    · exact ih (explained.worked_other same
        (worked_chkReorder ops tcurrusec svc (explained.others any same)))

/-- Every event keeps the session explained by its record. -/
lemma Explained.handle (explained : Explained avail key svc) {event : SvcEvent}
    (given : ∀ hdr, event = .pkt hdr → hdr.cli = key → avail hdr) :
    Explained avail key (svc.handle ops event) := by
  cases event with
  | pkt hdr =>
    by_cases same : hdr.cli = key
    · subst same
      exact explained.worked captured own
        (worked_parsePkt ops svc (given hdr rfl rfl) explained.holds)
    · exact explained.worked_other same
        (worked_parsePkt ops svc rfl (explained.others hdr.cli same))
  | timer tcurrusec =>
    rw [SvcInfoCap.handle, chkSvcReorders]
    split
    · exact explained.chkReorders captured own tcurrusec _
    · exact explained

end

/-- Whatever packets of a client are captured, in whatever order among those of other clients,
and whenever the timer fires: the calls of the parser are those in the record, the record of the
client follows the rules, its sessions are made from its packets, and a session that is left
expects what the record tells.  So no call but that
for the packet a session is made from is for a packet from before the expected number of its
direction, and from one session to the next neither expected number moves backwards. -/
theorem expected_numbers_move_onward (ops : ProtoOps σ) (svc : SvcInfoCap σ)
    (noSession : svc.sessmap = []) (noActs : svc.acts = []) (noCalls : svc.parsed = [])
    (key : IpPort) (events : List SvcEvent)
    (captured : Captured fun hdr => .pkt hdr ∈ events ∧ hdr.cli = key) :
    let svc' := Machine.run (SvcInfoCap.handle ops) svc events
    svc'.parsed = callsOf svc'.acts ∧
      Machine.Guarded Expecting.step Allowed none (actsOf key svc'.acts) ∧
      (∀ hdr, .made hdr ∈ actsOf key svc'.acts → .pkt hdr ∈ events) ∧
      ∀ sess, svc'.findSess key = some sess →
        (expecting key svc'.acts).map (·.nxtSeq) = some sess.common.nxtSeq := by
  have absent : ∀ other, svc.findSess other = none := by
    intro other
    rw [findSess, noSession]
    rfl
  have nothingHeld : ∀ other avail, svc.HoldsOnly other avail := by
    intro other avail sess found
    rw [absent other] at found
    cases found
  have start : Explained (fun hdr => .pkt hdr ∈ events ∧ hdr.cli = key) key svc :=
    { lawful := by
        rw [noActs]
        exact ⟨trivial, by simp [actsOf]⟩
      recorded := by rw [noCalls, noActs]; rfl
      absent := fun _ => by simp [noActs, expecting, actsOf]
      present := by
        intro sess found
        rw [absent key] at found
        cases found
      holds := nothingHeld key _
      others := fun other _ => nothingHeld other _ }
  have given : ∀ event ∈ events, ∀ hdr, event = .pkt hdr → hdr.cli = key →
      .pkt hdr ∈ events ∧ hdr.cli = key := by
    rintro event mem hdr rfl own
    exact ⟨mem, own⟩
  have explained := ((@Machine.Guarded.of_forall _ _ (SvcInfoCap.handle ops) (fun _ _ => True)
      (fun _ _ => trivial) svc events).and_forall given).invariant
    (fun _ _ explained allowed => explained.handle captured (fun _ given => given.2) allowed.2)
    start
  refine ⟨explained.recorded, explained.lawful.guarded,
    fun hdr made => (explained.lawful.made hdr made).1, ?_⟩
  intro sess found
  obtain ⟨state, ruled⟩ := explained.present sess found
  have isState : expecting key _ = some state := ruled.isState
  exact (congrArg (Option.map _) isState).trans (congrArg some ruled.reached.nxtSeq)

/-! ## A packet that the timer takes out of the list -/

/-- The server opens the connection, the second request arrives before the first, and
the timer fires before the first one arrives. -/
def timedOutEvents : List SvcEvent :=
  [.pkt (capturedPkt .outbound 500 1000 true 0), .pkt (capturedPkt .inbound 1010 501 false 10),
    .timer 3000000, .pkt (capturedPkt .inbound 1000 501 false 10)]

lemma captured_timedOutEvents :
    Captured fun hdr => .pkt hdr ∈ timedOutEvents ∧ hdr.cli = ⟨1, 2⟩ := by
  have each : ∀ hdr, .pkt hdr ∈ timedOutEvents ∧ hdr.cli = ⟨1, 2⟩ →
      hdr = capturedPkt .outbound 500 1000 true 0 ∨
        hdr = capturedPkt .inbound 1010 501 false 10 ∨
        hdr = capturedPkt .inbound 1000 501 false 10 := by
    rintro hdr ⟨mem, -⟩
    simpa [timedOutEvents] using mem
  refine captured_of_span ?_ ⟨1000, 500⟩ ?_ ?_
  · intro hdr given
    rcases each hdr given with rfl | rfl | rfl
    · exact fromNetwork_setApiMsghdr _ _ (by decide) _ _
    · exact fromNetwork_setApiMsghdr _ _ (by decide) _ _
    · exact fromNetwork_setApiMsghdr _ _ (by decide) _ _
  · intro hdr given side
    rcases each hdr given with rfl | rfl | rfl
    · exact ⟨0, by decide, by cases side <;> rfl⟩
    · cases side with
      | cli => exact ⟨10, by decide, rfl⟩
      | ser => exact ⟨1, by decide, rfl⟩
    · cases side with
      | cli => exact ⟨0, by decide, rfl⟩
      | ser => exact ⟨1, by decide, rfl⟩
  · intro hdr given side
    rcases each hdr given with rfl | rfl | rfl
    · cases side with
      | cli => exact ⟨0, by decide, rfl⟩
      | ser => exact ⟨1, by decide, rfl⟩
    · cases side with
      | cli => exact ⟨20, by decide, rfl⟩
      | ser => exact ⟨1, by decide, rfl⟩
    · cases side with
      | cli => exact ⟨10, by decide, rfl⟩
      | ser => exact ⟨1, by decide, rfl⟩

/-- The second request is parsed when the timer fires, and the first one comes too late
to be parsed. -/
theorem late_request_not_parsed :
    let svc' := Machine.run (SvcInfoCap.handle passiveOps) newService timedOutEvents
    (svc'.parsed = callsOf svc'.acts ∧
      Machine.Guarded Expecting.step Allowed none (actsOf ⟨1, 2⟩ svc'.acts) ∧
      (∀ hdr, .made hdr ∈ actsOf ⟨1, 2⟩ svc'.acts → .pkt hdr ∈ timedOutEvents) ∧
      ∀ sess, svc'.findSess ⟨1, 2⟩ = some sess →
        (expecting ⟨1, 2⟩ svc'.acts).map (·.nxtSeq) = some sess.common.nxtSeq) ∧
      svc'.parsed.map (·.hdr) = [capturedPkt .inbound 1010 501 false 10] :=
  ⟨expected_numbers_move_onward passiveOps newService rfl rfl rfl ⟨1, 2⟩ timedOutEvents
    captured_timedOutEvents, by decide⟩

end SvcInfoCap

end Gyeeta.Capture
