import Gyeeta.Capture.Service

/-!
# Registration of sessions that hold packets

So that the timer of its parser thread finds a session with held packets, it is registered in the
`sessrdrmap_` of its service, and the service in the `reordermap_` of the thread.  Whatever
packets and timer do to the sessions of any number of services, the two maps and the mark in the
session agree.
-/

namespace Gyeeta.Capture

open List

/-! ## One session -/

/-- A client has an entry in a session-reorder map. -/
def HasEntry (sessrdrmap : List (IpPort × Nat)) (key : IpPort) : Prop :=
  ∃ entry ∈ sessrdrmap, entry.1 = key

/-- The registration of the session that is worked on. -/
structure View.Registered (view : View) : Prop where
  held : view.reorder.reorderList ≠ [] → HasEntry view.sessrdrmap view.key
  marked : HasEntry view.sessrdrmap view.key → view.isrdrmap = true
  listed : view.inReordermap = true ↔ view.sessrdrmap ≠ []

/-- What work on a session leaves alone: the other sessions and their entries. -/
structure View.SameElsewhere (before after : View) : Prop where
  key : after.key = before.key
  sessmap : after.sessmap = before.sessmap
  others : after.sessrdrmap.filter (·.1 ≠ before.key) =
    before.sessrdrmap.filter (·.1 ≠ before.key)

lemma not_hasEntry_filter (sessrdrmap : List (IpPort × Nat)) (key : IpPort) :
    ¬ HasEntry (sessrdrmap.filter (·.1 ≠ key)) key := by
  rintro ⟨entry, mem, isKey⟩
  have ne := (mem_filter.mp mem).2
  rw [decide_eq_true_eq] at ne
  exact ne isKey

lemma hasEntry_of_others {before after : List (IpPort × Nat)} {key other : IpPort}
    (others : after.filter (·.1 ≠ key) = before.filter (·.1 ≠ key)) (ne : other ≠ key)
    (present : HasEntry before other) : HasEntry after other := by
  obtain ⟨entry, mem, isOther⟩ := present
  have kept : entry ∈ before.filter (·.1 ≠ key) :=
    mem_filter.mpr ⟨mem, decide_eq_true (isOther ▸ ne)⟩
  rw [← others] at kept
  exact ⟨entry, (mem_filter.mp kept).1, isOther⟩

lemma View.SameElsewhere.refl (view : View) : view.SameElsewhere view :=
  ⟨rfl, rfl, rfl⟩

lemma View.SameElsewhere.trans {first second third : View}
    (one : first.SameElsewhere second) (two : second.SameElsewhere third) :
    first.SameElsewhere third := by
  refine ⟨two.key.trans one.key, two.sessmap.trans one.sessmap, ?_⟩
  have others := two.others
  rw [one.key] at others
  exact others.trans one.others

variable {view : View}

lemma View.listed_reorderEnd (listed : view.inReordermap = true ↔ view.sessrdrmap ≠ []) :
    view.reorderEnd.inReordermap = true ↔ view.reorderEnd.sessrdrmap ≠ [] := by
  rw [View.reorderEnd]
  simp only [Bool.and_eq_true, Bool.not_eq_true', Bool.and_eq_false_iff, listed]
  constructor
  · rintro ⟨nonempty, absent | others⟩ empty
    · have same : view.sessrdrmap.filter (·.1 ≠ view.key) = view.sessrdrmap := by
        apply List.filter_eq_self.mpr
        intro entry mem
        have isOther := any_eq_false.mp absent entry mem
        rw [decide_eq_true_eq] at isOther
        exact decide_eq_true isOther
      rw [same] at empty
      exact nonempty empty
    · rw [empty] at others
      contradiction
  · intro nonempty
    refine ⟨fun empty => nonempty (by rw [empty]; rfl), .inr ?_⟩
    rw [isEmpty_eq_false_iff]
    exact nonempty

lemma View.sameElsewhere_reorderEnd (view : View) : view.SameElsewhere view.reorderEnd := by
  refine ⟨rfl, rfl, ?_⟩
  rw [View.reorderEnd, filter_filter]
  simp only [Bool.and_self]

lemma View.registered_ended (listed : view.inReordermap = true ↔
    view.sessrdrmap ≠ []) (absent : ¬ HasEntry view.sessrdrmap view.key)
    (empty : view.reorder.reorderList = []) : view.Registered where
  held := fun nonempty => absurd empty nonempty
  marked := fun present => absurd present absent
  listed := listed

variable {avail : ParsePktHdr → Prop}

section

variable (registered : view.Registered)
include registered

lemma View.Registered.ended :
    let ended := if view.reorder.isActive || view.isrdrmap then view.reorderEnd else view
    (ended.inReordermap = true ↔ ended.sessrdrmap ≠ []) ∧
      ¬ HasEntry ended.sessrdrmap view.key ∧ view.SameElsewhere ended := by
  dsimp only
  split
  · exact ⟨View.listed_reorderEnd registered.listed, not_hasEntry_filter _ _,
      view.sameElsewhere_reorderEnd⟩
  next quiet =>
  refine ⟨registered.listed, ?_, .refl view⟩
  intro present
  rw [registered.marked present, Bool.or_true] at quiet
  exact quiet rfl

lemma View.Registered.restart (hdr : ParsePktHdr) :
    (view.restart hdr).Registered ∧ view.SameElsewhere (view.restart hdr) := by
  obtain ⟨listed, absent, elsewhere⟩ := registered.ended
  rw [View.restart]
  refine ⟨View.registered_ended listed ?_ rfl, elsewhere.key, elsewhere.sessmap, elsewhere.others⟩
  rw [View.make, elsewhere.key]
  exact absent

lemma View.Registered.deliver
    (hdr : ParsePktHdr) (ends : Bool) : ((view.deliver hdr).endIf ends).Registered ∧
      view.SameElsewhere ((view.deliver hdr).endIf ends) := by
  cases ends with
  | false =>
    refine ⟨⟨fun nonempty => registered.held ?_, registered.marked, registered.listed⟩,
      rfl, rfl, rfl⟩
    rw [View.endIf_reorder, View.deliver_reorderList] at nonempty
    exact nonempty
  | true =>
    refine ⟨⟨fun nonempty => registered.held ?_, registered.marked, registered.listed⟩,
      rfl, rfl, rfl⟩
    rw [View.endIf_reorder, View.deliver_reorderList] at nonempty
    exact nonempty

lemma View.Registered.srcChange (hdr : ParsePktHdr) :
    (view.srcChange hdr).Registered ∧ view.SameElsewhere (view.srcChange hdr) := by
  have ended := view.sameElsewhere_reorderEnd
  rw [View.srcChange]
  split
  · exact ⟨View.registered_ended (View.listed_reorderEnd registered.listed)
      (not_hasEntry_filter _ _) rfl, ended.key, ended.sessmap, ended.others⟩
  · exact ⟨⟨fun nonempty => absurd rfl nonempty, registered.marked, registered.listed⟩,
      rfl, rfl, rfl⟩

end

lemma View.registered_startHold (view : View) (hdr : ParsePktHdr) :
    (view.startHold hdr).Registered ∧ view.SameElsewhere (view.startHold hdr) := by
  refine ⟨⟨fun _ => ⟨_, mem_cons_self, rfl⟩, fun _ => rfl, ?_⟩, rfl, rfl, ?_⟩
  · exact ⟨fun _ => cons_ne_nil _ _, fun _ => rfl⟩
  · rw [View.startHold, filter_cons_of_neg (by simp), filter_filter]
    simp only [Bool.and_self]

lemma insertBehind_ne_nil {rlist inserted : List ReorderPktHdr} {new : ReorderPktHdr}
    {last : Bool} (found : Ctx.insertBehind rlist new = some (inserted, last)) : rlist ≠ [] := by
  rintro rfl
  rw [Ctx.insertBehind] at found
  contradiction

variable {before after : View}

lemma Step.registered (step : Step avail before after)
    (registered : before.Registered) : after.Registered ∧ before.SameElsewhere after := by
  have same : ∀ {reorder : ReorderInfo}, (reorder.reorderList ≠ [] →
      before.reorder.reorderList ≠ []) →
      ({ before with reorder := reorder }).Registered ∧
        before.SameElsewhere { before with reorder := reorder } := fun held =>
    ⟨⟨fun nonempty => registered.held (held nonempty), registered.marked, registered.listed⟩,
      rfl, rfl, rfl⟩
  cases step with
  | note => exact ⟨{ registered with }, rfl, rfl, rfl⟩
  | parse given noted ends finRst => exact registered.deliver _ ends
  | restart given newSess => exact registered.restart _
  | reparse given newSess ends finRst =>
    obtain ⟨restarted, elsewhere⟩ := registered.restart _
    obtain ⟨parsed, further⟩ := restarted.deliver _ ends
    exact ⟨parsed, elsewhere.trans further⟩
  | hold given active => exact same fun _ => active
  | startHold given => exact before.registered_startHold _
  | insert given found => exact same fun _ => insertBehind_ne_nil found
  | pop =>
    apply same
    intro nonempty empty
    rw [show before.reorder.reorderList.tail = [] by rw [empty]; rfl] at nonempty
    exact nonempty rfl
  | reorderEnd empty =>
    exact ⟨View.registered_ended (View.listed_reorderEnd registered.listed)
      (not_hasEntry_filter _ _) empty, before.sameElsewhere_reorderEnd⟩
  | stamp => exact ⟨{ registered with }, rfl, rfl, rfl⟩
  | srcChange given ssl => exact registered.srcChange _

lemma Steps.registered (steps : Steps avail before after)
    (registered : before.Registered) : after.Registered ∧ before.SameElsewhere after := by
  induction steps with
  | refl => exact ⟨registered, .refl before⟩
  | tail _ step ih =>
    obtain ⟨still, elsewhere⟩ := ih
    obtain ⟨now, further⟩ := step.registered still
    exact ⟨now, elsewhere.trans further⟩

/-! ## One service -/

namespace SvcInfoCap

variable {σ : Type} {svc : SvcInfoCap σ} {hdr : ParsePktHdr}

/-- A session that holds packets is registered, with its service, an entry belongs to a session
of the service that is marked, and the service is registered exactly if a session is. -/
structure Bookkept (svc : SvcInfoCap σ) : Prop where
  held : ∀ key sess, svc.findSess key = some sess → sess.reorder.reorderList ≠ [] →
    HasEntry svc.sessrdrmap key ∧ svc.inReordermap = true
  marked : ∀ entry ∈ svc.sessrdrmap,
    ∃ sess, svc.findSess entry.1 = some sess ∧ sess.isrdrmap = true
  listed : svc.inReordermap = true ↔ svc.sessrdrmap ≠ []

lemma bookkept_of_entries
    (held : ∀ key sess, svc.findSess key = some sess → sess.reorder.reorderList ≠ [] →
      HasEntry svc.sessrdrmap key) (marked : ∀ entry ∈ svc.sessrdrmap,
      ∃ sess, svc.findSess entry.1 = some sess ∧ sess.isrdrmap = true)
    (listed : svc.inReordermap = true ↔ svc.sessrdrmap ≠ []) : svc.Bookkept where
  held := by
    intro key sess found nonempty
    obtain ⟨entry, mem, isKey⟩ := held key sess found nonempty
    exact ⟨⟨entry, mem, isKey⟩, listed.mpr (ne_nil_of_mem mem)⟩
  marked := marked
  listed := listed

/-- A context whose session is the service's, or a new one. -/
structure Enters (svc : SvcInfoCap σ) (ctx : Ctx σ) : Prop where
  sessmap : ctx.svc.sessmap = svc.sessmap
  sessrdrmap : ctx.svc.sessrdrmap = svc.sessrdrmap
  inReordermap : ctx.svc.inReordermap = svc.inReordermap
  sess : svc.findSess ctx.key = some ctx.sess ∨
    svc.findSess ctx.key = none ∧ ctx.sess.reorder.reorderList = []

lemma Enters.registered {ctx : Ctx σ} (enters : svc.Enters ctx) (kept : svc.Bookkept) :
    ctx.view.Registered := by
  have listed : ctx.view.inReordermap = true ↔ ctx.view.sessrdrmap ≠ [] := by
    rw [show ctx.view.inReordermap = _ from enters.inReordermap,
      show ctx.view.sessrdrmap = _ from enters.sessrdrmap]
    exact kept.listed
  rcases enters.sess with found | ⟨absent, empty⟩
  · refine ⟨?_, ?_, listed⟩
    · intro nonempty
      have present := (kept.held _ _ found nonempty).1
      rw [← enters.sessrdrmap] at present
      exact present
    rintro ⟨entry, mem, isKey⟩
    rw [show ctx.view.sessrdrmap = _ from enters.sessrdrmap] at mem
    obtain ⟨sess, isSess, isMarked⟩ := kept.marked entry mem
    rw [isKey, show svc.findSess ctx.view.key = _ from found, Option.some.injEq] at isSess
    rw [← isSess] at isMarked
    exact isMarked
  · apply View.registered_ended listed _ empty
    rintro ⟨entry, mem, isKey⟩
    rw [show ctx.view.sessrdrmap = _ from enters.sessrdrmap] at mem
    obtain ⟨sess, isSess, -⟩ := kept.marked entry mem
    rw [isKey, show svc.findSess ctx.view.key = _ from absent] at isSess
    contradiction

variable {after : SvcInfoCap σ}

lemma Bookkept.replace (kept : svc.Bookkept) {key : IpPort}
    (found : ∀ other, other ≠ key → after.findSess other = svc.findSess other)
    (others : after.sessrdrmap.filter (·.1 ≠ key) = svc.sessrdrmap.filter (·.1 ≠ key))
    (held : ∀ sess, after.findSess key = some sess → sess.reorder.reorderList ≠ [] →
      HasEntry after.sessrdrmap key) (marked : HasEntry after.sessrdrmap key →
      ∃ sess, after.findSess key = some sess ∧ sess.isrdrmap = true)
    (listed : after.inReordermap = true ↔ after.sessrdrmap ≠ []) : after.Bookkept := by
  apply bookkept_of_entries _ _ listed
  · intro other sess isSess nonempty
    by_cases isKey : other = key
    · rw [isKey] at isSess ⊢
      exact held sess isSess nonempty
    · rw [found other isKey] at isSess
      exact hasEntry_of_others others isKey (kept.held other sess isSess nonempty).1
  intro entry mem
  by_cases isKey : entry.1 = key
  · rw [isKey]
    exact marked ⟨entry, mem, isKey⟩
  have kept' : entry ∈ after.sessrdrmap.filter (·.1 ≠ key) :=
    mem_filter.mpr ⟨mem, decide_eq_true isKey⟩
  rw [others] at kept'
  rw [found entry.1 isKey]
  exact kept.marked entry (mem_filter.mp kept').1

lemma Bookkept.leaveSess (kept : svc.Bookkept) (ops : ProtoOps σ) {ctx after : Ctx σ}
    (enters : svc.Enters ctx) (steps : Steps (fun _ => True) ctx.view after.view) :
    (leaveSess ops after).Bookkept := by
  obtain ⟨registered, elsewhere⟩ := steps.registered (enters.registered kept)
  have sameKey : after.key = ctx.key := elsewhere.key
  have found : ∀ other, other ≠ after.key →
      (SvcInfoCap.leaveSess ops after).findSess other = svc.findSess other := by
    intro other ne
    rw [findSess_leaveSess_ne ops after ne]
    exact findSess_eq_of_sessmap (elsewhere.sessmap.trans enters.sessmap) other
  have others : after.svc.sessrdrmap.filter (·.1 ≠ after.key) =
      svc.sessrdrmap.filter (·.1 ≠ after.key) := by
    rw [sameKey, ← enters.sessrdrmap]
    exact elsewhere.others
  have atKey := findSess_leaveSess ops after
  by_cases ended : after.sess.toDelete = true
  · have left : (SvcInfoCap.leaveSess ops after).sessrdrmap =
        (after.destroySession ops).view.sessrdrmap ∧
        (SvcInfoCap.leaveSess ops after).inReordermap =
          (after.destroySession ops).view.inReordermap := by
      rw [SvcInfoCap.leaveSess, if_pos ended]
      exact ⟨rfl, rfl⟩
    obtain ⟨listed, absent, further⟩ := registered.ended
    rw [if_pos ended] at atKey
    rw [after.view_destroySession ops] at left
    refine kept.replace found ?_ ?_ ?_ ?_
    · rw [left.1]
      exact further.others.trans others
    · intro sess isSess
      rw [atKey] at isSess
      contradiction
    · rw [left.1]
      exact fun present => absurd present absent
    · rw [left.1, left.2]
      exact listed
  · have left : (SvcInfoCap.leaveSess ops after).sessrdrmap = after.svc.sessrdrmap ∧
        (SvcInfoCap.leaveSess ops after).inReordermap = after.svc.inReordermap := by
      rw [SvcInfoCap.leaveSess, if_neg ended]
      exact ⟨rfl, rfl⟩
    rw [if_neg ended] at atKey
    refine kept.replace found ?_ ?_ ?_ ?_
    · rw [left.1]
      exact others
    · intro sess isSess nonempty
      rw [atKey, Option.some.injEq] at isSess
      rw [← isSess] at nonempty
      rw [left.1]
      exact registered.held nonempty
    · intro present
      rw [left.1] at present
      exact ⟨after.sess, atKey, registered.marked present⟩
    · rw [left.1, left.2]
      exact registered.listed

lemma Bookkept.of_same (kept : svc.Bookkept)
    (sessmap : after.sessmap = svc.sessmap) (sessrdrmap : after.sessrdrmap = svc.sessrdrmap)
    (inReordermap : after.inReordermap = svc.inReordermap) : after.Bookkept := by
  have found := findSess_eq_of_sessmap sessmap
  refine ⟨?_, ?_, ?_⟩
  · intro key sess isSess nonempty
    rw [found] at isSess
    rw [sessrdrmap, inReordermap]
    exact kept.held key sess isSess nonempty
  · intro entry mem
    rw [sessrdrmap] at mem
    rw [found]
    exact kept.marked entry mem
  · rw [sessrdrmap, inReordermap]
    exact kept.listed

lemma holdsOnly_any (view : View) : view.HoldsOnly fun _ => True :=
  fun _ _ _ _ => trivial

lemma Bookkept.parseIn (kept : svc.Bookkept) (ops : ProtoOps σ) {ctx : Ctx σ}
    (enters : svc.Enters ctx) (hdr : ParsePktHdr) : (parseIn ops ctx hdr).2.Bookkept := by
  obtain ⟨after, steps, eq⟩ :=
    parseIn_leaves ops (show (fun _ => True) hdr from trivial) (holdsOnly_any ctx.view)
  rw [eq]
  exact kept.leaveSess ops enters steps

lemma openSess_enters (absent : svc.findSess hdr.cli = none) :
    (∃ after, svc.openSess hdr = (none, after) ∧ after.sessmap = svc.sessmap ∧
        after.sessrdrmap = svc.sessrdrmap ∧ after.inReordermap = svc.inReordermap) ∨
      ∃ ctx : Ctx σ, svc.openSess hdr = (some ctx, ctx.svc) ∧ svc.Enters ctx := by
  rw [openSess]
  split_ifs
  · exact .inl ⟨svc, rfl, rfl, rfl, rfl⟩
  · exact .inl ⟨svc, rfl, rfl, rfl, rfl⟩
  · exact .inl ⟨svc, rfl, rfl, rfl, rfl⟩
  · exact .inl ⟨svc, rfl, rfl, rfl, rfl⟩
  · exact .inl ⟨_, rfl, rfl, rfl, rfl⟩
  · exact .inr ⟨_, rfl, rfl, rfl, rfl, .inr ⟨absent, rfl⟩⟩

section

variable (kept : svc.Bookkept) (ops : ProtoOps σ)
include kept ops

lemma Bookkept.parsePkt (hdr : ParsePktHdr) :
    (svc.parsePkt ops hdr).2.Bookkept := by
  cases found : svc.findSess hdr.cli with
  | some sess =>
    rw [parsePkt_found ops found]
    exact kept.parseIn ops ⟨rfl, rfl, rfl, .inl found⟩ hdr
  | none =>
    rcases openSess_enters found with
      ⟨after, ignored, sessmap, sessrdrmap, inReordermap⟩ | ⟨ctx, opened, enters⟩
    · rw [parsePkt_ignored ops found ignored]
      exact kept.of_same sessmap sessrdrmap inReordermap
    · rw [parsePkt_opened ops found opened]
      exact kept.parseIn ops enters hdr

lemma Bookkept.chkReorder (tcurrusec : Nat)
    (key : IpPort) : (svc.chkReorder ops tcurrusec key).Bookkept := by
  rw [SvcInfoCap.chkReorder]
  split
  · exact kept
  next sess found =>
  split
  · exact kept.leaveSess ops ⟨rfl, rfl, rfl, .inl found⟩
      (Ctx.steps_sendReorderToParser ops (Ctx.mk svc key sess) tcurrusec false (holdsOnly_any _))
  · exact kept

lemma Bookkept.chkSvcReorders (tcurrusec : Nat) :
    (svc.chkSvcReorders ops tcurrusec).Bookkept := by
  have visits : ∀ (keys : List IpPort) (svc : SvcInfoCap σ), svc.Bookkept →
      (keys.foldl (SvcInfoCap.chkReorder ops tcurrusec) svc).Bookkept := by
    intro keys
    induction keys with
    | nil => exact fun _ kept => kept
    | cons key keys ih =>
      exact fun svc kept => ih _ (kept.chkReorder ops tcurrusec key)
  rw [SvcInfoCap.chkSvcReorders]
  split
  · exact visits _ svc kept
  · exact kept

end

/-- A service as its parser thread gets it. -/
def start (proto : ProtoTypes) (svcSsl : SslSvc) (api : σ) : SvcInfoCap σ where
  proto := proto
  svcSsl := svcSsl
  stats := {}
  sessmap := []
  sessrdrmap := []
  inReordermap := false
  api := api
  parsed := []

lemma bookkept_start (proto : ProtoTypes) (svcSsl : SslSvc) (api : σ) :
    (start proto svcSsl api).Bookkept where
  held := fun _ _ found => by
    rw [findSess, start, List.find?_nil, Option.map_none] at found
    contradiction
  marked := fun _ mem => absurd mem not_mem_nil
  listed := ⟨fun listed => Bool.noConfusion listed, fun nonempty => absurd rfl nonempty⟩

end SvcInfoCap

/-! ## All services of a parser thread -/

/-- `API_PARSE_HDLR`: the services by their identifier, and the state of the protocol parsers
and pools that they share. -/
structure ApiParseHdlr (σ : Type) where
  api : σ
  svcinfomap : Nat → Option (SvcInfoCap σ)

/-- What the parser thread does.  The timer walks over `reordermap_` in some order. -/
inductive ParserEvent where
  | pkt (globId : Nat) (hdr : ParsePktHdr)
  | timer (order : List Nat) (tcurrusec : Nat)

namespace ApiParseHdlr

variable {σ : Type}

/-- Work on one service. -/
def onSvc (hdlr : ApiParseHdlr σ) (globId : Nat) (work : SvcInfoCap σ → SvcInfoCap σ) :
    ApiParseHdlr σ :=
  match hdlr.svcinfomap globId with
  | none => hdlr
  | some svc =>
    let after := work { svc with api := hdlr.api }
    { api := after.api
      svcinfomap := fun other =>
        if other = globId then some after else hdlr.svcinfomap other }

/-- `API_PARSE_HDLR::handle_proto_pkt` and `API_PARSE_HDLR::chk_svc_reorders`. -/
def handle (ops : ProtoOps σ) (hdlr : ApiParseHdlr σ) : ParserEvent → ApiParseHdlr σ
  | .pkt globId hdr => hdlr.onSvc globId fun svc => (svc.parsePkt ops hdr).2
  | .timer order tcurrusec =>
    order.foldl (fun hdlr globId => hdlr.onSvc globId (·.chkSvcReorders ops tcurrusec)) hdlr

/-- A parser thread with its services, before the first packet. -/
def start (api : σ) (svcs : Nat → Option (ProtoTypes × SslSvc)) : ApiParseHdlr σ where
  api := api
  svcinfomap := fun globId =>
    (svcs globId).map fun svc => SvcInfoCap.start svc.1 svc.2 api

/-- The bookkeeping of every service. -/
def Bookkept (hdlr : ApiParseHdlr σ) : Prop :=
  ∀ globId svc, hdlr.svcinfomap globId = some svc → svc.Bookkept

variable {hdlr : ApiParseHdlr σ}

lemma Bookkept.onSvc (kept : hdlr.Bookkept) (globId : Nat) {work : SvcInfoCap σ → SvcInfoCap σ}
    (keeps : ∀ svc : SvcInfoCap σ, svc.Bookkept → (work svc).Bookkept) :
    (hdlr.onSvc globId work).Bookkept := by
  rw [ApiParseHdlr.onSvc]
  split
  · exact kept
  next svc found =>
  intro other after isAfter
  dsimp only at isAfter
  by_cases isGlobId : other = globId
  · rw [if_pos isGlobId, Option.some.injEq] at isAfter
    rw [← isAfter]
    exact keeps _ ((kept globId svc found).of_same rfl rfl rfl)
  · rw [if_neg isGlobId] at isAfter
    exact kept other after isAfter

/-- Every event keeps the bookkeeping of all services. -/
lemma Bookkept.handle (kept : hdlr.Bookkept) (ops : ProtoOps σ)
    (event : ParserEvent) : (hdlr.handle ops event).Bookkept := by
  cases event with
  | pkt globId hdr => exact kept.onSvc globId fun _ svcKept => svcKept.parsePkt ops hdr
  | timer order tcurrusec =>
    rw [ApiParseHdlr.handle]
    induction order generalizing hdlr with
    | nil => exact kept
    | cons globId order ih =>
      exact ih (kept.onSvc globId fun _ svcKept => svcKept.chkSvcReorders ops tcurrusec)

/-- After any packets and timeouts, over any number of services, the sessions that hold
packets, the session-reorder maps and the global reorder map agree. -/
theorem run_bookkept (ops : ProtoOps σ) (api : σ) (svcs : Nat → Option (ProtoTypes × SslSvc))
    (events : List ParserEvent) : (Machine.run (handle ops) (start api svcs) events).Bookkept := by
  have started : (start api svcs).Bookkept := by
    intro globId svc isSvc
    obtain ⟨kind, -, made⟩ := Option.map_eq_some_iff.mp isSvc
    rw [← made]
    exact SvcInfoCap.bookkept_start kind.1 kind.2 api
  have guarded := @Machine.Guarded.of_forall _ _ (handle ops) (fun _ _ => True)
    (fun _ _ => trivial) (start api svcs) events
  exact guarded.invariant (fun _ event kept _ => kept.handle ops event) started

/-- The data of a client arrives behind a hole. -/
def holeInData : List ParserEvent :=
  [.pkt 7 (SvcInfoCap.capturedPkt .inbound 99 0 true 0),
    .pkt 7 (SvcInfoCap.capturedPkt .inbound 100 50 false 10),
    .pkt 7 (SvcInfoCap.capturedPkt .inbound 120 50 false 10)]

example : ((Machine.run (handle passiveOps) (start () fun _ => some (.http1, .no))
    holeInData).svcinfomap 7).map (fun svc => (svc.sessrdrmap.length, svc.inReordermap)) =
    some (1, true) := by
  decide +kernel

end ApiParseHdlr

end Gyeeta.Capture
