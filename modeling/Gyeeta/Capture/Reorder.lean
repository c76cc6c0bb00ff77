import Gyeeta.Capture.Session

/-!
# Packet reordering

`parse_pkt` gives each packet of a session to its protocol parser.  A packet ahead of its
predecessors is held in the reorder list until the hole in front of it is filled, the list is
full or a second has passed.  The functions follow the source one by one; their results are the
flag that it returns and the changed context.
-/

namespace Gyeeta.Capture

open Serial

/-- `GY_USEC_PER_SEC`. -/
def usecPerSec : Nat := 1000000

def maxParseConcSess : Nat := 16 * 1024

namespace Ctx

variable {σ : Type}

/-- `is_tcp_drop` of a packet against the next expected numbers of the session. -/
def pktDrops (common : CommonProto) (hdr : ParsePktHdr) : DropTypes × DropTypes :=
  isTcpDrop (common.nxtSeq.get hdr.side) (hdr.startSeq.get hdr.side)
    (common.nxtSeq.get hdr.side.other) (hdr.startSeq.get hdr.side.other)
    hdr.tcpflags.syn hdr.tcpflags.fin

/-- Note the drop types of a packet in the session. -/
def noteDrops (ctx : Ctx σ) (hdr : ParsePktHdr) : Ctx σ :=
  let drops := pktDrops ctx.sess.common hdr
  ctx.modifyCommon fun common => { common with dropType := .mk' hdr.side drops.1 drops.2 }

/-- `SVC_INFO_CAP::set_pkt_drops`: false for a retransmit. -/
def setPktDrops (ctx : Ctx σ) (hdr : ParsePktHdr) : Bool × Ctx σ :=
  if (pktDrops ctx.sess.common hdr).1 = .retransmit then
    (false, ctx)
  else
    (true, ctx.noteDrops hdr)

def allocReorder (ops : ProtoOps σ) (ctx : Ctx σ) (hdr : ParsePktHdr) :
    Option ReorderPktHdr × Ctx σ :=
  match ops.reorderMalloc ctx.svc.api with
  | (true, api) => (some (.new hdr), ctx.setApi api)
  | (false, api) =>
    (none, (ctx.setApi api).modifyStats fun stats =>
      { stats with nrdrAllocFails := stats.nrdrAllocFails + 1 })

/-- `reorder_list_.push_front` followed by `set_head_info`. -/
def pushFront (ctx : Ctx σ) (pkt : ReorderPktHdr) (hdr : ParsePktHdr) : Ctx σ :=
  (ctx.modifyList (pkt :: ·)).modifyReorder (·.setHeadInfo ctx.sess.common hdr)

def startReorder (ops : ProtoOps σ) (ctx : Ctx σ) (hdr : ParsePktHdr) : Bool × Ctx σ :=
  if !ctx.sess.common.isPktDrop then
    ctx.doProtoParse ops hdr
  else
    match ctx.allocReorder ops hdr with
    | (none, ctx) => ctx.doProtoParse ops hdr
    | (some pkt, ctx) =>
      let ctx := ctx.pushFront pkt hdr
      (true, { ctx with
        svc := { ctx.svc with
          sessrdrmap := (ctx.key, pkt.tpktusec) ::
            ctx.svc.sessrdrmap.filter (·.1 ≠ ctx.key)
          inReordermap := true }
        sess := { ctx.sess with isrdrmap := true } })

/-- One of the two drop types of the session is `DT_DROP_NEW_SESS`. -/
def isDropNewSess (ctx : Ctx σ) : Bool :=
  ctx.sess.common.dropType.cli = .dropNewSess || ctx.sess.common.dropType.ser = .dropNewSess

/-- `nsess_drop_new_++`. -/
def countDropNew (ctx : Ctx σ) : Ctx σ :=
  ctx.modifyStats fun stats => { stats with nsessDropNew := stats.nsessDropNew + 1 }

/-- The session is counted, destroyed and made anew from the packet. -/
def restartSession (ops : ProtoOps σ) (ctx : Ctx σ) (hdr : ParsePktHdr) : Ctx σ :=
  (ctx.countDropNew.destroySession ops).newSession hdr

def chkDropsAndParse (ops : ProtoOps σ) (ctx : Ctx σ) (hdr : ParsePktHdr)
    (ignReorder : Bool) : Bool × Ctx σ :=
  match ctx.setPktDrops hdr with
  | (false, ctx) =>
    (true, if hdr.tcpflags.syn then
        ctx.modifyCommon fun common => { common with tconnectUsec := hdr.tvUsec }
      else ctx)
  | (true, ctx) =>
    if ctx.isDropNewSess then
      (false, ((ctx.restartSession ops hdr).doProtoParse ops hdr).2)
    else if !ctx.sess.common.isPktDrop then
      ctx.doProtoParse ops hdr
    else if ignReorder || hdr.src ≠ .pcap || ctx.sess.reorderActive then
      ctx.doProtoParse ops hdr
    else
      (true, (ctx.startReorder ops hdr).2)

/-- The loop of `send_reorder_to_parser`.  The packet at the front stays in the list while it is
handled, and is popped when the loop goes on.  The flag tells that the function returned inside
the loop. -/
def sendReorderLoop (ops : ProtoOps σ) (tcurrusec : Nat) (clearAll : Bool)
    (minpkts : Nat) : List ReorderPktHdr → Nat → Ctx σ → Bool × Ctx σ
  | [], _, ctx => (false, ctx)
  | pkt :: rest, npkts, ctx =>
    if ctx.sess.toDelete then (false, ctx)
    else
      match pkt.pooluniq with
      | none =>
        sendReorderLoop ops tcurrusec clearAll minpkts rest (npkts + 1)
          (ctx.modifyList List.tail)
      | some hdr =>
        match ctx.setPktDrops hdr with
        | (false, ctx) =>
          sendReorderLoop ops tcurrusec clearAll minpkts rest (npkts + 1)
            (ctx.modifyList List.tail)
        | (true, ctx) =>
          if ctx.isDropNewSess then
            (true, ctx.restartSession ops hdr)
          else if ctx.sess.common.isPktDrop ∧ !clearAll ∧
              (minpkts < npkts + 1 ∨ tcurrusec < hdr.tvUsec + usecPerSec) then
            (false, ctx)
          else
            sendReorderLoop ops tcurrusec clearAll minpkts rest (npkts + 1)
              ((ctx.doProtoParse ops hdr).2.modifyList List.tail)

/-- `minpkts` of `send_reorder_to_parser`. -/
def minPkts (rlist : List ReorderPktHdr) : Nat :=
  if ReorderInfo.maxSessReorderPkts ≤ rlist.length then rlist.length / 4 else 1

/-- `SVC_INFO_CAP::send_reorder_to_parser`.  It always returns true. -/
def sendReorderToParser (ops : ProtoOps σ) (ctx : Ctx σ) (tcurrusec : Nat)
    (clearAll : Bool) : Ctx σ :=
  let rlist := ctx.sess.reorder.reorderList
  match sendReorderLoop ops tcurrusec clearAll (minPkts rlist) rlist 0 ctx with
  | (true, ctx) => ctx
  | (false, ctx) => if ctx.sess.reorder.reorderList.isEmpty then ctx.setReorderEnd else ctx

/-- `seqdiff` of `add_to_reorder_list`: how far a held packet reaches beyond the
start of the new one. -/
def overlap (held new : ReorderPktHdr) : Int :=
  if held.dir = new.dir then
    diff (held.startPktSeq + BitVec.ofNat 32 held.datalen) new.startPktSeq
  else
    diff held.ackSeq new.startPktSeq

/-- The reverse walk of `add_to_reorder_list`: put the new packet behind the last
held packet that ends before it.  The second component tells whether that packet
was the last of the list. -/
def insertBehind (rlist : List ReorderPktHdr) (new : ReorderPktHdr) :
    Option (List ReorderPktHdr × Bool) :=
  match rlist with
  | [] => none
  | held :: rest =>
    match insertBehind rest new with
    | some (rest, last) => some (held :: rest, last)
    | none =>
      if overlap held new ≤ 0 then some (held :: new :: rest, rest.isEmpty) else none

/-- `nrdrpkts_` and `nrdrbytes_`. -/
def countReorder (ctx : Ctx σ) (datalen : Nat) : Ctx σ :=
  ctx.modifyStats fun stats =>
    { stats with nrdrpkts := stats.nrdrpkts + 1, nrdrbytes := stats.nrdrbytes + datalen }

def addToReorderList (ops : ProtoOps σ) (ctx : Ctx σ) (new : ReorderPktHdr)
    (hdr : ParsePktHdr) : Bool × Ctx σ :=
  match insertBehind ctx.sess.reorder.reorderList new with
  | some (rlist, last) =>
    let ctx := ctx.modifyList fun _ => rlist
    -- `rit` compares equal to `rbegin()` exactly if the walk stopped at once
    (true, if last then ctx else ctx.countReorder new.datalen)
  | none =>
    let side := new.dir.side
    let dtype := (isTcpDrop (ctx.sess.common.nxtSeq.get side) new.startPktSeq
      (ctx.sess.common.nxtSeq.get side.other) new.ackSeq hdr.tcpflags.syn hdr.tcpflags.fin).1
    match dtype with
    | .retransmit => (false, ctx)
    | .dropNewSess =>
      (ctx.countDropNew.sendReorderToParser ops hdr.tvUsec true).chkDropsAndParse ops
        hdr true
    | .noDrop | .dropSeen =>
      (true, (ctx.pushFront new hdr).countReorder new.datalen)

/-- `reorder_list_.size() >= MAX_SESS_REORDER_PKTS`. -/
def isListFull (ctx : Ctx σ) : Bool :=
  ReorderInfo.maxSessReorderPkts ≤ ctx.sess.reorder.reorderList.length

/-- `nrdr_sess_max_++` or `nrdr_timeout_++`. -/
def countSkip (ctx : Ctx σ) : Ctx σ :=
  ctx.modifyStats fun stats =>
    if ctx.isListFull then { stats with nrdrSessMax := stats.nrdrSessMax + 1 }
    else { stats with nrdrTimeout := stats.nrdrTimeout + 1 }

/-- The end of `addelem`: wrap the packet and insert it. -/
def allocAndAdd (ops : ProtoOps σ) (ctx : Ctx σ) (hdr : ParsePktHdr) : Bool × Ctx σ :=
  match ctx.allocReorder ops hdr with
  | (none, ctx) =>
    (ctx.sendReorderToParser ops hdr.tvUsec true).chkDropsAndParse ops hdr true
  | (some pkt, ctx) => ctx.addToReorderList ops pkt hdr

/-- `addelem` of `handle_reorder`. -/
def addElem (ops : ProtoOps σ) (ctx : Ctx σ) (hdr : ParsePktHdr) : Bool × Ctx σ :=
  if ctx.isListFull ∨ ctx.sess.reorder.tfirstusec + usecPerSec < hdr.tvUsec then
    let ctx := ctx.countSkip.sendReorderToParser ops hdr.tvUsec false
    if ctx.sess.reorder.reorderList.isEmpty then
      ctx.chkDropsAndParse ops hdr false
    else
      ctx.allocAndAdd ops hdr
  else
    ctx.allocAndAdd ops hdr

/-- `addfirst` of `handle_reorder`. -/
def addFirst (ops : ProtoOps σ) (ctx : Ctx σ) (hdr : ParsePktHdr) : Bool × Ctx σ :=
  match ctx.allocReorder ops hdr with
  | (none, ctx) =>
    match ctx.chkDropsAndParse ops hdr true with
    | (true, ctx) => (true, ctx.sendReorderToParser ops hdr.tvUsec true)
    | (false, ctx) => (false, ctx)
  | (some pkt, ctx) => (true, ctx.pushFront pkt hdr)

/-- The packet fills the hole: parse it and, if that returns true, go on with the
held packets. -/
def parseAndDrain (ops : ProtoOps σ) (ctx : Ctx σ) (hdr : ParsePktHdr) : Bool × Ctx σ :=
  match ctx.chkDropsAndParse ops hdr true with
  | (true, ctx) => (true, ctx.sendReorderToParser ops hdr.tvUsec false)
  | (false, ctx) => (false, ctx)

/-- `SVC_INFO_CAP::handle_reorder`: a packet arrives while others are held. -/
def handleReorder (ops : ProtoOps σ) (ctx : Ctx σ) (hdr : ParsePktHdr) : Bool × Ctx σ :=
  let rdr := ctx.sess.reorder
  let mine := hdr.side
  let theirs := mine.other
  if rdr.expSeqStart.get mine ≠ 0 then
    let mydiff := diff (rdr.expSeqStart.get mine) (hdr.startSeq.get mine)
    if mydiff = 0 then
      let ctx := ctx.countReorder hdr.datalen
      if rdr.expSeqStart.get theirs ≠ 0 then
        if 0 ≤ diff (rdr.expSeqStart.get theirs) (hdr.startSeq.get theirs) then
          ctx.parseAndDrain ops hdr
        else
          ctx.addFirst ops hdr
      else
        ctx.parseAndDrain ops hdr
    else
      let seendiff := diff (rdr.seenSeq.get mine) (hdr.startSeq.get mine)
      if 0 < seendiff ∧ mydiff < 0 then
        (ctx.countReorder hdr.datalen).addFirst ops hdr
      else
        ctx.addElem ops hdr
  else if rdr.expSeqStart.get theirs ≠ 0 then
    ctx.addElem ops hdr
  else
    (ctx.sendReorderToParser ops hdr.tvUsec true).chkDropsAndParse ops hdr true

/-- The end of `parse_pkt`, for a packet of an existing session. -/
def parseSessPkt (ops : ProtoOps σ) (ctx : Ctx σ) (hdr : ParsePktHdr) : Bool × Ctx σ :=
  let ctx :=
    if hdr.src = .uprobeSsl ∧ !ctx.sess.common.isSsl then
      let ctx := if ctx.sess.reorderActive then ctx.setReorderEnd else ctx
      let ctx := (ctx.modifyReorder fun _ => .init).modifyCommon (·.setSrcChg hdr)
      let ctx := ctx.modifyStats fun stats => { stats with nsrcChg := stats.nsrcChg + 1 }
      if ctx.sess.proto.isHandled ∧ ctx.sess.pvarproto = .sess ctx.sess.proto true then
        ctx.setApi (ops.handleSslChange ctx.sess.proto ctx.sess hdr ctx.svc.api)
      else ctx
    else ctx
  if ctx.sess.reorderActive then
    ctx.handleReorder ops hdr
  else
    ctx.chkDropsAndParse ops hdr false

end Ctx

namespace SvcInfoCap

variable {σ : Type}

/-- `sessmap_.find`. -/
def findSess (svc : SvcInfoCap σ) (key : IpPort) : Option SvcSession :=
  (svc.sessmap.find? (·.1 = key)).map (·.2)

/-- Store a session under its client. -/
def putSess (svc : SvcInfoCap σ) (key : IpPort) (sess : SvcSession) : SvcInfoCap σ :=
  { svc with sessmap := (key, sess) :: svc.sessmap.filter (·.1 ≠ key) }

/-- `sessmap_.erase`, which runs the destructor of the session. -/
def eraseSess (ops : ProtoOps σ) (ctx : Ctx σ) : SvcInfoCap σ :=
  let ctx := ctx.destroySession ops
  { ctx.svc with sessmap := ctx.svc.sessmap.filter (·.1 ≠ ctx.key) }

/-- The part of `parse_pkt` that makes a session for a client that has none. -/
def openSess (svc : SvcInfoCap σ) (hdr : ParsePktHdr) : Option (Ctx σ) × SvcInfoCap σ :=
  if svc.svcSsl = .only ∧ hdr.src ≠ .uprobeSsl then (none, svc)
  else if hdr.tcpflags.isFinRst then (none, svc)
  else if hdr.datalen = 0 ∧
      (!hdr.tcpflags.syn ∨ (hdr.startSeq.cli ≠ 0 ∧ hdr.nxtSeq.ser = 0)) then (none, svc)
  else if hdr.datalen ≠ 0 ∧ hdr.dir = .outbound ∧ !hdr.tcpflags.syn then (none, svc)
  else if maxParseConcSess ≤ svc.sessmap.length then
    (none, { svc with stats :=
      { svc.stats with nskipConcSess := svc.stats.nskipConcSess + 1 } })
  else
    let blank : SvcSession :=
      { pvarproto := .monostate
        common := .new hdr
        proto := svc.proto
        reorder := .init
        toDelete := false
        isrdrmap := false }
    let ctx := (Ctx.mk svc hdr.cli blank).newSession hdr
    (some ctx, ctx.svc)

/-- The end of the scope of `parse_pkt`: the session is erased if it is to be
deleted. -/
def leaveSess (ops : ProtoOps σ) (ctx : Ctx σ) : SvcInfoCap σ :=
  if ctx.sess.toDelete then eraseSess ops ctx else ctx.svc.putSess ctx.key ctx.sess

/-- The rest of `parse_pkt`, once there is a session for the packet. -/
def parseIn (ops : ProtoOps σ) (ctx : Ctx σ) (hdr : ParsePktHdr) : Bool × SvcInfoCap σ :=
  if ctx.sess.toDelete then
    (false, eraseSess ops ctx)
  else
    let ctx :=
      if hdr.tcpflags.isFinRst then
        ctx.modifyCommon fun common => { common with tcloseUsec := hdr.tvUsec }
      else ctx
    if ctx.sess.common.isSsl ∧ hdr.src ≠ .uprobeSsl then
      (false, ctx.svc.putSess ctx.key ctx.sess)
    else if hdr.datalen = 0 ∧ !hdr.tcpflags.syn ∧ !hdr.tcpflags.isFinRst then
      (false, ctx.svc.putSess ctx.key ctx.sess)
    else
      let handled := ctx.parseSessPkt ops hdr
      (handled.1, leaveSess ops handled.2)

def parsePkt (ops : ProtoOps σ) (svc : SvcInfoCap σ) (hdr : ParsePktHdr) : Bool × SvcInfoCap σ :=
  match svc.findSess hdr.cli with
  | some sess => parseIn ops (Ctx.mk svc hdr.cli sess) hdr
  | none =>
    match svc.openSess hdr with
    | (none, svc) => (false, svc)
    | (some ctx, _) => parseIn ops ctx hdr

/-- Packets given to `parse_pkt` one after the other. -/
def parsePkts (ops : ProtoOps σ) (svc : SvcInfoCap σ) (hdrs : List ParsePktHdr) : SvcInfoCap σ :=
  hdrs.foldl (fun svc hdr => (svc.parsePkt ops hdr).2) svc

@[simp] lemma parsePkts_cons (ops : ProtoOps σ) (svc : SvcInfoCap σ) (hdr : ParsePktHdr)
    (hdrs : List ParsePktHdr) :
    svc.parsePkts ops (hdr :: hdrs) = (svc.parsePkt ops hdr).2.parsePkts ops hdrs := rfl

end SvcInfoCap

end Gyeeta.Capture
