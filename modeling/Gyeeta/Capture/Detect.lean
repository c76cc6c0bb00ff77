import Gyeeta.Capture.Packet
import Gyeeta.Lib.Run

/-!
# Protocol detection

Until the protocol of a service is known its packets go to a detector, which follows up to 64
sessions and counts those whose start was seen and the others, where a session is constructed and
destroyed.
-/

namespace Gyeeta.Capture

open List

variable {Extra : Type}

/-- `PROTO_DETECT::SessInfo`.  The fields that only the analysis of the data reads and
writes are in `extra`. -/
structure DetectSess (Extra : Type) where
  tfirstreq : Nat
  tfirstresp : Nat
  tlastpkt : Nat
  nxtSeq : PerSide Seq
  /-- `apistat_.nconfirm_`. -/
  nconfirm : Nat
  /-- `apistat_.proto_ == PROTO_UNKNOWN`. -/
  isProtoUnknown : Bool
  npktsData : Nat
  ndrops : Nat
  synSeen : Bool
  skipToReqAfterResp : Nat
  isSsl : Bool
  extra : Extra
  deriving DecidableEq, Repr

/-- The parts of the detector behind the drop check: the fields of a new session, the last packet
snippet, and the analysis of the data, which never touches `syn_seen_`. -/
structure DetectParts (Extra : Type) where
  fresh : Extra
  resetSnippet : Extra → Extra
  emptySnippet : Extra → Extra
  leave : DetectSess Extra → ParsePktHdr → List UInt8 → Extra
  analyze : DetectSess Extra → ParsePktHdr → List UInt8 → DetectSess Extra × Bool
  keepsStart : ∀ sess hdr data, (analyze sess hdr data).1.synSeen = sess.synSeen

/-- `PROTO_DETECT`: the tracked sessions, and the 8-bit counters of those whose start was
seen and of the others. -/
structure ProtoDetect (Extra : Type) where
  smap : List (IpPort × DetectSess Extra)
  tlastInactiveSec : Nat
  nsynsess : Nat
  nmidsess : Nat

def maxSessEntries : Nat := 64

namespace ProtoDetect

def init : ProtoDetect Extra where
  smap := []
  tlastInactiveSec := 0
  nsynsess := 0
  nmidsess := 0

/-- The counters when a session is constructed. -/
def countNew (detect : ProtoDetect Extra) (synSeen : Bool) : ProtoDetect Extra :=
  if synSeen then { detect with nsynsess := (detect.nsynsess + 1) % 256 }
  else { detect with nmidsess := (detect.nmidsess + 1) % 256 }

/-- The counters when a session is destroyed. -/
def countGone (detect : ProtoDetect Extra) (synSeen : Bool) : ProtoDetect Extra :=
  if synSeen then { detect with nsynsess := (detect.nsynsess + 255) % 256 }
  else { detect with nmidsess := (detect.nmidsess + 255) % 256 }

/-- A loop over the sessions that erases those of a kind. -/
def eraseWhere (which : DetectSess Extra → Bool) :
    List (IpPort × DetectSess Extra) → ProtoDetect Extra → ProtoDetect Extra
  | [], detect => { detect with smap := [] }
  | entry :: rest, detect =>
    if which entry.2 then eraseWhere which rest (detect.countGone entry.2.synSeen)
    else
      let detect := eraseWhere which rest detect
      { detect with smap := entry :: detect.smap }

/-- No packet of the session came in the last 300 seconds, and its protocol was not
confirmed. -/
def isInactive (tcur : Nat) (sess : DetectSess Extra) : Bool :=
  sess.tlastpkt + 300 < tcur && sess.nconfirm == 0

def cleanupInactiveSess (detect : ProtoDetect Extra) (tcur : Nat) : ProtoDetect Extra :=
  let ndel := detect.smap.countP fun entry => isInactive tcur entry.2 && entry.2.isProtoUnknown
  let ntime := detect.smap.countP fun entry =>
    isInactive tcur entry.2 && !entry.2.isProtoUnknown
  let detect := { detect with tlastInactiveSec := tcur }
  let detect := eraseWhere (fun sess => isInactive tcur sess && sess.isProtoUnknown) detect.smap
    detect
  if ndel < 3 ∧ ntime > 10 then eraseWhere (isInactive tcur) detect.smap detect else detect

/-- `smap_.find`. -/
def findSess (detect : ProtoDetect Extra) (key : IpPort) : Option (IpPort × DetectSess Extra) :=
  detect.smap.find? fun entry => entry.1 == key

/-- `smap_.erase` at an iterator, which destroys the session. -/
def delSess (detect : ProtoDetect Extra) (key : IpPort) (sess : DetectSess Extra) :
    ProtoDetect Extra :=
  { detect.countGone sess.synSeen with smap := detect.smap.eraseP fun entry => entry.1 == key }

/-- The session of a key as it was changed. -/
def replaceSess (key : IpPort) (sess : DetectSess Extra) :
    List (IpPort × DetectSess Extra) → List (IpPort × DetectSess Extra)
  | [] => []
  | entry :: rest =>
    if entry.1 = key then (key, sess) :: rest else entry :: replaceSess key sess rest

def setSess (detect : ProtoDetect Extra) (key : IpPort) (sess : DetectSess Extra) :
    ProtoDetect Extra :=
  { detect with smap := replaceSess key sess detect.smap }

/-- `SessInfo::SessInfo` for a packet. -/
def newSess (parts : DetectParts Extra) (hdr : ParsePktHdr) : DetectSess Extra where
  tfirstreq := 0
  tfirstresp := 0
  tlastpkt := hdr.tvUsec / 1000000
  nxtSeq := if hdr.datalen = 0 then hdr.nxtSeq else hdr.startSeq
  nconfirm := 0
  isProtoUnknown := true
  npktsData := 0
  ndrops := 0
  synSeen := hdr.tcpflags.syn
  skipToReqAfterResp := 0
  isSsl := false
  extra := parts.fresh

/-- The session of the packet, new or not, or the end of the call. -/
def findOrAdd (parts : DetectParts Extra) (detect : ProtoDetect Extra) (hdr : ParsePktHdr) :
    ProtoDetect Extra × Option (DetectSess Extra × Bool) :=
  match detect.findSess hdr.cli with
  | some entry => (detect, some (entry.2, false))
  | none =>
    if hdr.tcpflags.isFinRst = true then
      (detect, none)
    else if hdr.datalen = 0 ∧ (hdr.tcpflags.syn = false ∨
        (hdr.startSeq.cli ≠ 0 ∧ hdr.nxtSeq.ser = 0)) then
      (detect, none)
    else
      let tsec := hdr.tvUsec / 1000000
      let detect :=
        if detect.smap.length ≥ maxSessEntries / 2 ∧ detect.tlastInactiveSec + 100 < tsec then
          detect.cleanupInactiveSess tsec
        else detect
      if detect.smap.length < maxSessEntries then
        if hdr.tcpflags.syn = false ∧ detect.nmidsess ≥ maxSessEntries / 2 then
          (detect, none)
        else
          let sess := newSess parts hdr
          ({ detect.countNew hdr.tcpflags.syn with smap := (hdr.cli, sess) :: detect.smap },
            some (sess, true))
      else
        (detect, none)

/-- The session is destroyed and constructed anew in its place. -/
def restartSess (parts : DetectParts Extra) (detect : ProtoDetect Extra) (hdr : ParsePktHdr)
    (sess : DetectSess Extra) : ProtoDetect Extra × DetectSess Extra :=
  ((detect.countGone sess.synSeen).countNew hdr.tcpflags.syn, newSess parts hdr)

/-- The first packet of a session from the SSL probe. -/
def startSsl (parts : DetectParts Extra) (detect : ProtoDetect Extra) (hdr : ParsePktHdr)
    (sess : DetectSess Extra) : ProtoDetect Extra × DetectSess Extra :=
  if hdr.src = .uprobeSsl ∧ sess.isSsl = false then
    if hdr.tcpflags.syn = false then
      let (detect, sess) := restartSess parts detect hdr sess
      (detect, { sess with isSsl := true })
    else
      (detect, { sess with isSsl := true, extra := parts.resetSnippet sess.extra })
  else
    (detect, sess)

/-- The drop status of the packet for its session. -/
def dropType (sess : DetectSess Extra) (hdr : ParsePktHdr) : DropTypes :=
  (isTcpDrop (sess.nxtSeq.get hdr.side) (hdr.startSeq.get hdr.side)
    (sess.nxtSeq.get hdr.side.other) (hdr.startSeq.get hdr.side.other) hdr.tcpflags.syn
    hdr.tcpflags.fin).1

/-- A packet with data. -/
def detectData (parts : DetectParts Extra) (detect : ProtoDetect Extra) (hdr : ParsePktHdr)
    (data : List UInt8) (sess : DetectSess Extra) : ProtoDetect Extra × Bool :=
  match dropType sess hdr with
  | .dropNewSess => (detect.delSess hdr.cli sess, false)
  | .retransmit =>
    (detect.setSess hdr.cli { sess with extra := parts.emptySnippet sess.extra }, false)
  | .dropSeen =>
    let sess :=
      { sess with
        tlastpkt := hdr.tvUsec / 1000000
        nxtSeq := hdr.nxtSeq
        npktsData := sess.npktsData + 1
        synSeen := if sess.tfirstreq = 0 ∨ sess.tfirstresp = 0 then false else sess.synSeen
        ndrops := sess.ndrops + 1
        skipToReqAfterResp := 1 }
    (detect.setSess hdr.cli { sess with extra := parts.leave sess hdr data }, true)
  | .noDrop =>
    let (sess, isDetected) := parts.analyze
      { sess with
        tlastpkt := hdr.tvUsec / 1000000
        nxtSeq := hdr.nxtSeq
        npktsData := sess.npktsData + 1 } hdr data
    (detect.setSess hdr.cli { sess with extra := parts.leave sess hdr data }, isDetected)

def detectSvcReqResp (parts : DetectParts Extra) (detect : ProtoDetect Extra)
    (hdr : ParsePktHdr) (data : List UInt8) : ProtoDetect Extra × Bool :=
  match findOrAdd parts detect hdr with
  | (detect, none) => (detect, false)
  | (detect, some (sess, isNew)) =>
    if hdr.tcpflags.isFinRst = true then
      (detect.delSess hdr.cli sess, true)
    else if sess.isSsl = true ∧ hdr.src ≠ .uprobeSsl then
      (detect, false)
    else
      let (detect, sess) := startSsl parts detect hdr sess
      if hdr.datalen = 0 then
        if hdr.tcpflags.syn = true ∧ isNew = false then
          let (detect, sess) := restartSess parts detect hdr sess
          (detect.setSess hdr.cli sess, true)
        else
          (detect.setSess hdr.cli sess, true)
      else
        detectData parts detect hdr data sess

/-! ## The counters -/

/-- The number of tracked sessions whose start was seen or not. -/
def numSess (smap : List (IpPort × DetectSess Extra)) (synSeen : Bool) : Nat :=
  smap.countP fun entry => entry.2.synSeen == synSeen

lemma numSess_add (smap : List (IpPort × DetectSess Extra)) :
    numSess smap true + numSess smap false = smap.length := by
  rw [length_eq_countP_add_countP fun entry => entry.2.synSeen == true]
  congr 1
  apply countP_congr
  intro entry _
  cases entry.2.synSeen <;> decide

/-- The counters of a detector for a list of sessions. -/
structure CountsOf (detect : ProtoDetect Extra) (smap : List (IpPort × DetectSess Extra)) :
    Prop where
  syn : detect.nsynsess = numSess smap true
  mid : detect.nmidsess = numSess smap false
  size : smap.length ≤ maxSessEntries

/-- The counters are those of the tracked sessions. -/
def Counted (detect : ProtoDetect Extra) : Prop :=
  CountsOf detect detect.smap

variable {detect : ProtoDetect Extra} {smap : List (IpPort × DetectSess Extra)}

lemma numSess_cons (entry : IpPort × DetectSess Extra) (synSeen : Bool) :
    numSess (entry :: smap) synSeen =
      numSess smap synSeen + if entry.2.synSeen = synSeen then 1 else 0 := by
  rw [numSess, countP_cons]
  simp only [numSess, beq_iff_eq]

variable {entry : IpPort × DetectSess Extra}

lemma CountsOf.countGone (counts : CountsOf detect (entry :: smap)) :
    CountsOf (detect.countGone entry.2.synSeen) smap := by
  obtain ⟨syn, mid, size⟩ := counts
  have total := numSess_add (entry :: smap)
  simp only [numSess_cons] at syn mid total
  rw [length_cons] at size total
  have small : maxSessEntries = 64 := rfl
  cases isSeen : entry.2.synSeen with
  | true =>
    simp only [isSeen, if_true, Bool.true_eq_false, if_false] at syn mid total
    refine ⟨?_, ?_, by omega⟩
    · simp only [ProtoDetect.countGone, if_true]
      omega
    · simp only [ProtoDetect.countGone, if_true]
      omega
  | false =>
    simp only [isSeen, if_true, Bool.false_eq_true, if_false] at syn mid total
    refine ⟨?_, ?_, by omega⟩
    · simp only [ProtoDetect.countGone, Bool.false_eq_true, if_false]
      omega
    · simp only [ProtoDetect.countGone, Bool.false_eq_true, if_false]
      omega

lemma CountsOf.countNew (counts : CountsOf detect smap) (room : smap.length < maxSessEntries)
    (entry : IpPort × DetectSess Extra) :
    CountsOf (detect.countNew entry.2.synSeen) (entry :: smap) := by
  obtain ⟨syn, mid, size⟩ := counts
  have total := numSess_add smap
  have small : maxSessEntries = 64 := rfl
  have length : (entry :: smap).length ≤ maxSessEntries := by
    rw [length_cons]
    omega
  cases isSeen : entry.2.synSeen with
  | true =>
    refine ⟨?_, ?_, length⟩ <;>
      simp only [numSess_cons, isSeen, ProtoDetect.countNew, if_true, Bool.true_eq_false,
        if_false] <;>
      omega
  | false =>
    refine ⟨?_, ?_, length⟩ <;>
      simp only [numSess_cons, isSeen, ProtoDetect.countNew, if_true, Bool.false_eq_true,
        if_false] <;>
      omega

lemma CountsOf.perm {other : List (IpPort × DetectSess Extra)}
    (counts : CountsOf detect smap) (perm : smap.Perm other) : CountsOf detect other :=
  ⟨counts.syn.trans (perm.countP_eq _), counts.mid.trans (perm.countP_eq _),
    perm.length_eq ▸ counts.size⟩

lemma CountsOf.of_counters {other : ProtoDetect Extra} (counts : CountsOf detect smap)
    (syn : other.nsynsess = detect.nsynsess) (mid : other.nmidsess = detect.nmidsess) :
    CountsOf other smap :=
  ⟨syn.trans counts.syn, mid.trans counts.mid, counts.size⟩

lemma counted_eraseWhere (which : DetectSess Extra → Bool)
    (kept rest : List (IpPort × DetectSess Extra)) (detect : ProtoDetect Extra)
    (counts : CountsOf detect (rest ++ kept)) :
    CountsOf (eraseWhere which rest detect) ((eraseWhere which rest detect).smap ++ kept) := by
  induction rest generalizing detect kept with
  | nil => exact counts.of_counters rfl rfl
  | cons entry rest ih =>
    rw [eraseWhere]
    split
    · exact ih kept _ (CountsOf.countGone counts)
    · have moved : CountsOf detect (rest ++ entry :: kept) :=
        counts.perm (perm_middle.symm)
      have after := ih (entry :: kept) detect moved
      exact (after.perm perm_middle).of_counters rfl rfl

lemma Counted.eraseWhere (counted : Counted detect) (which : DetectSess Extra → Bool) :
    Counted (eraseWhere which detect.smap detect) := by
  have erased := counted_eraseWhere which [] detect.smap detect (by rw [append_nil]; exact counted)
  rw [append_nil] at erased
  exact erased

lemma Counted.cleanupInactiveSess (counted : Counted detect) (tcur : Nat) :
    Counted (detect.cleanupInactiveSess tcur) := by
  have started : Counted { detect with tlastInactiveSec := tcur } :=
    CountsOf.of_counters counted rfl rfl
  have first := started.eraseWhere fun sess => isInactive tcur sess && sess.isProtoUnknown
  rw [ProtoDetect.cleanupInactiveSess]
  split
  · exact first.eraseWhere _
  · exact first

lemma split_of_find {key : IpPort}
    (found : (smap.find? fun entry => entry.1 == key) = some entry) :
    ∃ front back, smap = front ++ entry :: back ∧
      (smap.eraseP fun entry => entry.1 == key) = front ++ back ∧
      ∀ sess, replaceSess key sess smap = front ++ (key, sess) :: back := by
  induction smap with
  | nil => contradiction
  | cons first rest ih =>
    by_cases isKey : first.1 = key
    · rw [List.find?_cons_of_pos (by simpa using isKey)] at found
      obtain rfl := Option.some.inj found
      refine ⟨[], rest, rfl, ?_, ?_⟩
      · rw [eraseP_cons_of_pos (by simpa using isKey)]
        rfl
      · intro sess
        rw [replaceSess, if_pos isKey]
        rfl
    · rw [List.find?_cons_of_neg (by simpa using isKey)] at found
      obtain ⟨front, back, split, erased, replaced⟩ := ih found
      refine ⟨first :: front, back, congrArg (first :: ·) split, ?_, ?_⟩
      · rw [eraseP_cons_of_neg (by simpa using isKey), erased]
        rfl
      · intro sess
        rw [replaceSess, if_neg isKey, replaced sess]
        rfl

/-- The session that the call works on: it is in the list, and the counters are right if
its place is taken by a session whose start was seen or not as in the one at hand. -/
def CountsWith (detect : ProtoDetect Extra) (key : IpPort) (sess : DetectSess Extra) : Prop :=
  ∃ front back, CountsOf detect ((key, sess) :: (front ++ back)) ∧
    (detect.smap.eraseP fun entry => entry.1 == key) = front ++ back ∧
    ∀ other, replaceSess key other detect.smap = front ++ (key, other) :: back

variable {key : IpPort} {sess : DetectSess Extra}

variable (parts : DetectParts Extra)

section

variable (counts : CountsWith detect key sess)
include counts

lemma CountsWith.delSess : Counted (detect.delSess key sess) := by
  obtain ⟨front, back, countsOf, erased, -⟩ := counts
  rw [Counted, ProtoDetect.delSess]
  simp only [erased]
  exact countsOf.countGone.of_counters rfl rfl

lemma CountsWith.setSess {other : DetectSess Extra}
    (same : other.synSeen = sess.synSeen) : Counted (detect.setSess key other) := by
  obtain ⟨front, back, countsOf, -, replaced⟩ := counts
  rw [Counted, ProtoDetect.setSess]
  simp only [replaced]
  have kept : CountsOf detect ((key, other) :: (front ++ back)) := by
    refine ⟨?_, ?_, countsOf.size⟩
    · rw [countsOf.syn, numSess_cons, numSess_cons, same]
    · rw [countsOf.mid, numSess_cons, numSess_cons, same]
  exact (kept.perm perm_middle.symm).of_counters rfl rfl

lemma CountsWith.restartSess (hdr : ParsePktHdr) :
    CountsWith (restartSess parts detect hdr sess).1 key (restartSess parts detect hdr sess).2 := by
  obtain ⟨front, back, countsOf, erased, replaced⟩ := counts
  have gone := CountsOf.countGone countsOf
  have room : (front ++ back).length < maxSessEntries := by
    have := countsOf.size
    rw [length_cons] at this
    omega
  have sameSmap : (ProtoDetect.restartSess parts detect hdr sess).1.smap = detect.smap := by
    simp only [ProtoDetect.restartSess, countNew, countGone]
    split <;> split <;> rfl
  refine ⟨front, back, gone.countNew room (key, newSess parts hdr), ?_, ?_⟩
  · rw [sameSmap]
    exact erased
  · rw [sameSmap]
    exact replaced

lemma CountsWith.of_synSeen {other : DetectSess Extra}
    (same : other.synSeen = sess.synSeen) : CountsWith detect key other := by
  obtain ⟨front, back, countsOf, erased, replaced⟩ := counts
  refine ⟨front, back, ⟨?_, ?_, countsOf.size⟩, erased, replaced⟩
  · rw [countsOf.syn, numSess_cons, numSess_cons, same]
  · rw [countsOf.mid, numSess_cons, numSess_cons, same]

end

lemma Counted.with (counted : Counted detect)
    (found : detect.findSess key = some entry) : CountsWith detect key entry.2 := by
  obtain ⟨front, back, split, erased, replaced⟩ := split_of_find found
  have isKey : entry.1 = key := by simpa using List.find?_some found
  refine ⟨front, back, ?_, erased, replaced⟩
  have listed : CountsOf detect (front ++ entry :: back) := split ▸ counted
  rw [← isKey]
  exact listed.perm perm_middle

lemma counted_findOrAdd (counted : Counted detect) (hdr : ParsePktHdr) :
    match findOrAdd parts detect hdr with
    | (after, none) => Counted after
    | (after, some (sess, isNew)) => Counted after ∧ CountsWith after hdr.cli sess ∧
      (isNew = true → sess = newSess parts hdr) ∧
      (isNew = false → detect.findSess hdr.cli = some (hdr.cli, sess)) := by
  rw [findOrAdd]
  cases found : detect.findSess hdr.cli with
  | some entry =>
    have isKey : entry.1 = hdr.cli := by simpa using List.find?_some found
    refine ⟨counted, counted.with found, fun isNew => absurd isNew (by decide), fun _ => ?_⟩
    rw [← isKey]
  | none =>
    by_cases isEnd : hdr.tcpflags.isFinRst = true
    · simp only [if_pos isEnd]
      exact counted
    by_cases isBare : hdr.datalen = 0 ∧ (hdr.tcpflags.syn = false ∨
        (hdr.startSeq.cli ≠ 0 ∧ hdr.nxtSeq.ser = 0))
    · simp only [if_neg isEnd, if_pos isBare]
      exact counted
    simp only [if_neg isEnd, if_neg isBare]
    generalize isCleaned : (if detect.smap.length ≥ maxSessEntries / 2 ∧
      detect.tlastInactiveSec + 100 < hdr.tvUsec / 1000000 then
        detect.cleanupInactiveSess (hdr.tvUsec / 1000000) else detect) = cleaned
    have counted : Counted cleaned := by
      rw [← isCleaned]
      split
      · exact counted.cleanupInactiveSess _
      · exact counted
    by_cases room : cleaned.smap.length < maxSessEntries
    · by_cases isFull : hdr.tcpflags.syn = false ∧ cleaned.nmidsess ≥ maxSessEntries / 2
      · simp only [if_pos room, if_pos isFull]
        exact counted
      simp only [if_pos room, if_neg isFull]
      have added := CountsOf.countNew counted room (hdr.cli, newSess parts hdr)
      have isKey : (hdr.cli == hdr.cli) = true := beq_self_eq_true _
      refine ⟨added.of_counters rfl rfl, ⟨[], cleaned.smap, added.of_counters rfl rfl, ?_, ?_⟩,
        by simp, by simp⟩
      · exact eraseP_cons_of_pos isKey
      · intro other
        rw [replaceSess, if_pos rfl]
        rfl
    · simp only [if_neg room]
      exact counted

/-! ## Runs -/

/-- The condition on a packet, in the state before it: no loss is seen in a session whose
start was seen, before its first request and its first response. -/
def Allowed (detect : ProtoDetect Extra) (packet : ParsePktHdr × List UInt8) : Prop :=
  ∀ sess, detect.findSess packet.1.cli = some (packet.1.cli, sess) →
    packet.1.datalen ≠ 0 → sess.synSeen = true → dropType sess packet.1 = .dropSeen →
    sess.tfirstreq ≠ 0 ∧ sess.tfirstresp ≠ 0

lemma dropType_newSess {hdr : ParsePktHdr} (hasData : hdr.datalen ≠ 0) (isSsl : Bool) :
    dropType { newSess parts hdr with isSsl := isSsl } hdr = .noDrop := by
  have same : (newSess parts hdr).nxtSeq = hdr.startSeq := if_neg hasData
  simp only [dropType, same, isTcpDrop, Serial.diff_self, if_true]
  split
  · rfl
  split <;> rfl

lemma CountsWith.detectData (counts : CountsWith detect key sess) (parts : DetectParts Extra)
    {hdr : ParsePktHdr} (isKey : hdr.cli = key) (data : List UInt8)
    (keeps : dropType sess hdr = .dropSeen → sess.synSeen = true →
      sess.tfirstreq ≠ 0 ∧ sess.tfirstresp ≠ 0) :
    Counted (detectData parts detect hdr data sess).1 := by
  rw [ProtoDetect.detectData, isKey]
  cases isDrop : dropType sess hdr with
  | dropNewSess => exact counts.delSess
  | retransmit => exact counts.setSess rfl
  | noDrop => exact counts.setSess (parts.keepsStart _ hdr data)
  | dropSeen =>
    apply counts.setSess
    simp only
    split
    next early =>
      cases isSeen : sess.synSeen with
      | false => rfl
      | true =>
        obtain ⟨hadReq, hadResp⟩ := keeps isDrop isSeen
        rcases early with noReq | noResp
        · exact absurd noReq hadReq
        · exact absurd noResp hadResp
    · rfl

lemma startSsl_cases (hdr : ParsePktHdr) (counts : CountsWith detect key sess) :
    CountsWith (startSsl parts detect hdr sess).1 key (startSsl parts detect hdr sess).2 ∧
      ((∃ isSsl extra, (startSsl parts detect hdr sess).2 =
          { sess with isSsl := isSsl, extra := extra }) ∨
        (startSsl parts detect hdr sess).2 = { newSess parts hdr with isSsl := true }) := by
  rw [startSsl]
  split
  · split
    · exact ⟨(counts.restartSess parts hdr).of_synSeen rfl, .inr rfl⟩
    · exact ⟨counts.of_synSeen rfl, .inl ⟨_, _, rfl⟩⟩
  · exact ⟨counts, .inl ⟨sess.isSsl, sess.extra, rfl⟩⟩

/-- One packet keeps the counters equal to the tracked sessions. -/
lemma Counted.step (counted : Counted detect) (parts : DetectParts Extra)
    {packet : ParsePktHdr × List UInt8} (allowed : Allowed detect packet) :
    Counted (detectSvcReqResp parts detect packet.1 packet.2).1 := by
  obtain ⟨hdr, data⟩ := packet
  have found := counted_findOrAdd parts counted hdr
  rw [detectSvcReqResp]
  split
  next after isFound =>
    rw [isFound] at found
    exact found
  next after sess isNew isFound =>
  rw [isFound] at found
  obtain ⟨counted, counts, isNewSess, isOld⟩ := found
  split
  · exact counts.delSess
  split
  · exact counted
  obtain ⟨counts, started⟩ := startSsl_cases parts hdr counts
  generalize startSsl parts after hdr sess = begun at counts started
  simp only
  split
  · split
    · exact (counts.restartSess parts hdr).setSess rfl
    · exact counts.setSess rfl
  next hasData =>
  apply counts.detectData parts rfl data
  intro isDrop isSeen
  -- a new session has no drop, and the others meet the condition
  rcases started with ⟨isSsl, extra, same⟩ | restarted
  · rw [same] at isDrop isSeen ⊢
    cases isNew with
    | true =>
      rw [isNewSess rfl] at isDrop
      have none : dropType { newSess parts hdr with isSsl := isSsl, extra := extra } hdr =
          .noDrop := dropType_newSess parts hasData isSsl
      exact absurd (none.symm.trans isDrop) (by decide)
    | false => exact allowed sess (isOld rfl) hasData isSeen isDrop
  · rw [restarted] at isDrop
    exact absurd ((dropType_newSess parts hasData true).symm.trans isDrop) (by decide)

/-- In every run whose packets meet the condition the counters are those of the tracked
sessions, which are at most 64. -/
theorem counters_match_sessions (parts : DetectParts Extra)
    (packets : List (ParsePktHdr × List UInt8)) (allowed : Machine.Guarded (fun detect packet =>
      (detectSvcReqResp parts detect packet.1 packet.2).1) Allowed init packets) :
    let detect := Machine.run (fun detect packet =>
      (detectSvcReqResp parts detect packet.1 packet.2).1) init packets
    detect.nsynsess = detect.smap.countP (fun entry => entry.2.synSeen) ∧
      detect.nmidsess = detect.smap.countP (fun entry => !entry.2.synSeen) ∧
      detect.nsynsess + detect.nmidsess = detect.smap.length ∧
      detect.smap.length ≤ maxSessEntries := by
  have counted : Counted (Machine.run (fun detect packet =>
      (detectSvcReqResp parts detect packet.1 packet.2).1) init packets) :=
    allowed.invariant (fun _ _ counted allowed => counted.step parts allowed)
      ⟨rfl, rfl, Nat.zero_le _⟩
  obtain ⟨syn, mid, size⟩ := counted
  refine ⟨?_, ?_, ?_, size⟩
  · rw [syn, numSess]
    simp only [beq_true]
  · rw [mid, numSess]
    simp only [beq_false]
  · rw [syn, mid, numSess_add]

/-- A detector without an analysis of the data. -/
def plainParts : DetectParts Unit where
  fresh := ()
  resetSnippet := id
  emptySnippet := id
  leave := fun _ _ _ => ()
  analyze := fun sess _ _ => (sess, true)
  keepsStart := fun _ _ _ => rfl

/-- The SYN of a client, and a segment of 100 bytes from it at a number. -/
def synPacket : ParsePktHdr :=
  ⟨1000000, ⟨1, 5000⟩, 0, ⟨1, 1⟩, ⟨0, 0⟩, ⟨true, false, false⟩, .inbound, .pcap⟩

def dataPacket (start : Seq) : ParsePktHdr :=
  ⟨2000000, ⟨1, 5000⟩, 100, ⟨start + 100, 1⟩, ⟨start, 1⟩, ⟨false, false, false⟩, .inbound, .pcap⟩

/-- A session whose first segment follows its SYN. -/
theorem started_session_counted :
    let packets := [(synPacket, []), (dataPacket 1, [])]
    let step := fun detect (packet : ParsePktHdr × List UInt8) =>
      (detectSvcReqResp plainParts detect packet.1 packet.2).1
    Machine.Guarded step Allowed init packets ∧ (Machine.run step init packets).nsynsess = 1 := by
  intro packets step
  have noDrop : dropType (newSess plainParts synPacket) (dataPacket 1) ≠ .dropSeen := by decide
  have allowed : Machine.Guarded step Allowed init packets := by
    refine ⟨?_, ?_, trivial⟩
    · intro sess found
      exact absurd found (by simp [init, findSess])
    intro sess found _ _ isDrop
    have isSess : newSess plainParts synPacket = sess :=
      congrArg Prod.snd (Option.some.inj found)
    rw [← isSess] at isDrop
    exact absurd isDrop noDrop
  refine ⟨allowed, ?_⟩
  obtain ⟨syn, -⟩ := counters_match_sessions plainParts packets allowed
  exact syn.trans (by decide)

/-- A segment that shows a loss behind the SYN marks the session as one without its start,
but it stays in the counter of the others, and its end makes the other counter wrap. -/
theorem lost_start_miscounted :
    let step := fun detect (packet : ParsePktHdr × List UInt8) =>
      (detectSvcReqResp plainParts detect packet.1 packet.2).1
    let lost := Machine.run step init [(synPacket, []), (dataPacket 500, [])]
    (lost.nsynsess = 1 ∧ lost.nmidsess = 0 ∧
      lost.smap.map (fun entry => entry.2.synSeen) = [false]) ∧
    let gone := step lost ({ dataPacket 600 with tcpflags := ⟨false, true, false⟩ }, [])
    gone.smap.length = 0 ∧ gone.nsynsess = 1 ∧ gone.nmidsess = 255 := by
  decide

end ProtoDetect

end Gyeeta.Capture
