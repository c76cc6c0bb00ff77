import Gyeeta.Capture.Reorder

/-!
# What the reorder code sees

The protocol parsers and the counters of a service have no influence on which packets are held
and which are parsed.  A `View` is the part of a context that has; the later modules reason about
views only.
-/

namespace Gyeeta.Capture

/-- The part of a context that decides what happens to a packet. -/
structure View where
  key : IpPort
  sessmap : List (IpPort × SvcSession)
  parsed : List ParseCall
  acts : List SessAct
  sessrdrmap : List (IpPort × Nat)
  inReordermap : Bool
  common : CommonProto
  reorder : ReorderInfo
  toDelete : Bool
  isrdrmap : Bool

namespace Ctx

variable {σ : Type}

/-- The view of a context. -/
def view (ctx : Ctx σ) : View where
  key := ctx.key
  sessmap := ctx.svc.sessmap
  parsed := ctx.svc.parsed
  acts := ctx.svc.acts
  sessrdrmap := ctx.svc.sessrdrmap
  inReordermap := ctx.svc.inReordermap
  common := ctx.sess.common
  reorder := ctx.sess.reorder
  toDelete := ctx.sess.toDelete
  isrdrmap := ctx.sess.isrdrmap

section

variable (ctx : Ctx σ)
include ctx

@[simp] lemma view_countReorder (datalen : Nat) :
    (ctx.countReorder datalen).view = ctx.view := rfl

@[simp] lemma view_countDropNew : ctx.countDropNew.view = ctx.view := rfl

@[simp] lemma view_countSkip : ctx.countSkip.view = ctx.view := rfl

@[simp] lemma view_countDrops : ctx.countDrops.view = ctx.view := by
  rw [countDrops]
  split <;> rfl

end

section

variable (ops : ProtoOps σ) (ctx : Ctx σ) (hdr : ParsePktHdr)
include ops ctx hdr

@[simp] lemma view_allocProtoSess : (ctx.allocProtoSess ops hdr).2.view = ctx.view := by
  rw [allocProtoSess]
  split <;> rfl

@[simp] lemma view_handleProtoPkt : (ctx.handleProtoPkt ops hdr).2.view = ctx.view := by
  rw [handleProtoPkt]
  split
  · split
    · rfl
    · split
      · rw [view_allocProtoSess]
        rfl
      · rfl
  · rfl

@[simp] lemma view_handleFinRst :
    (ctx.handleFinRst ops hdr).view = { ctx.view with toDelete := true } := by
  rw [handleFinRst]
  dsimp only
  split <;> rfl

end

end Ctx

/-! ## Delivery to the protocol parser -/

/-- The effect of `do_proto_parse`, up to the end of the session. -/
def View.deliver (view : View) (hdr : ParsePktHdr) : View :=
  let common := view.common.updStats hdr
  { view with
    parsed := view.parsed ++ [⟨hdr, view.common.dropType⟩]
    acts := view.acts ++ [.call ⟨hdr, view.common.dropType⟩]
    common := common
    reorder :=
      if !view.toDelete && view.reorder.isActive then view.reorder.setHeadInfo common hdr
      else view.reorder }

@[simp] lemma View.deliver_reorderList (view : View) (hdr : ParsePktHdr) :
    (view.deliver hdr).reorder.reorderList = view.reorder.reorderList := by
  simp only [View.deliver]
  split <;> rfl

/-- The effect of `set_pkt_drops` on a packet that is no retransmit. -/
def View.noteDrops (view : View) (hdr : ParsePktHdr) : View :=
  let drops := Ctx.pktDrops view.common hdr
  { view with common := { view.common with dropType := .mk' hdr.side drops.1 drops.2 } }

/-- The effect of putting a packet in front of the held ones. -/
def View.pushFront (view : View) (hdr : ParsePktHdr) : View :=
  { view with
    reorder := { view.reorder with
      reorderList := .new hdr :: view.reorder.reorderList }.setHeadInfo view.common hdr }

namespace Ctx

variable {σ : Type}

lemma view_noteDrops (ctx : Ctx σ) (hdr : ParsePktHdr) :
    (ctx.noteDrops hdr).view = ctx.view.noteDrops hdr := rfl

lemma view_updStats (ctx : Ctx σ) (hdr : ParsePktHdr) :
    (ctx.updStats hdr).view = ctx.view.deliver hdr := by
  simp only [updStats, View.deliver]
  split <;> simp_all [view, modifyCommon, recordCall, modifyReorder, SvcSession.reorderActive]

section

variable (ops : ProtoOps σ) (ctx : Ctx σ)
include ops ctx

@[simp] lemma view_openProto (hdr : ParsePktHdr) : (ctx.openProto ops hdr).2.view = ctx.view := by
  rw [openProto]
  split
  · exact view_allocProtoSess ops ctx hdr
  · rfl

@[simp] lemma view_parseData (hdr : ParsePktHdr) : (ctx.parseData ops hdr).2.view = ctx.view := by
  rw [parseData]
  split <;> simp

lemma view_callProto (hdr : ParsePktHdr) : (ctx.callProto ops hdr).2.view = ctx.view ∨
      hdr.tcpflags.isFinRst ∧
        (ctx.callProto ops hdr).2.view = { ctx.view with toDelete := true } := by
  have opened := view_openProto ops ctx hdr
  rw [callProto]
  split
  · split
    · exact .inr ⟨by assumption, rfl⟩
    · exact .inl rfl
  split
  · rename_i sess eq
    exact .inl (by simpa [eq] using opened)
  rename_i sess eq
  have parsed := view_parseData ops sess hdr
  rw [eq] at opened
  split
  · rename_i done eq'
    exact .inl (by simpa [eq', opened] using parsed)
  rename_i done eq'
  have same : done.view = ctx.view := by simpa [eq', opened] using parsed
  split
  · exact .inr ⟨by assumption, by simp [same]⟩
  · exact .inl same

lemma callProto_fst {hdr : ParsePktHdr}
    (nonempty : 0 < hdr.datalen) : (ctx.callProto ops hdr).1 = false := by
  rw [callProto]
  rw [if_neg (by omega)]
  split
  · rfl
  · split <;> rfl

lemma view_doProtoParse (hdr : ParsePktHdr) :
    (ctx.doProtoParse ops hdr).2.view = ctx.view.deliver hdr ∨ hdr.tcpflags.isFinRst ∧
        (ctx.doProtoParse ops hdr).2.view = { ctx.view.deliver hdr with toDelete := true } := by
  simp only [doProtoParse]
  split
  · exact .inl (view_updStats ctx hdr)
  · rw [← view_updStats]
    exact view_callProto ops (ctx.updStats hdr) hdr

end

lemma doProtoParse_fst (ops : ProtoOps σ) {ctx : Ctx σ} {hdr : ParsePktHdr}
    (alive : ctx.sess.toDelete = false) (nonempty : 0 < hdr.datalen) :
    (ctx.doProtoParse ops hdr).1 = false := by
  have stillAlive : (ctx.updStats hdr).sess.toDelete = false := by
    have := congrArg View.toDelete (view_updStats ctx hdr)
    exact this.trans alive
  simp only [doProtoParse, stillAlive, Bool.false_eq_true, if_false]
  exact callProto_fst ops _ nonempty

end Ctx

end Gyeeta.Capture
