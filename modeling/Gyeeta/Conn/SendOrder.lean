import Mathlib.Algebra.Order.BigOperators.Group.Finset
import Gyeeta.Conn.Send

/-!
# Sockets accept the scheduled messages in order

What a socket has accepted, followed by what the connection still holds for it, is what was
scheduled.  Shared buffers stay allocated because their references are counted.  They keep their
bytes as long as no write stops inside a buffer that others still have to send, since `gy_writev`
then moves its bytes.
-/

namespace Gyeeta.Conn

open List Function IovecArray RefMem

/-! ## References of buffers -/

/-- The references to a block that buffers hold. -/
def refsTo (name : Nat) (iovs : List Iovec) : Nat :=
  iovs.countP fun iov => iov.freeFp && decide (iov.base.block = some name)

lemma refsTo_cons (name : Nat) (iov : Iovec) (iovs : List Iovec) : refsTo name (iov :: iovs) =
      (if iov.freeFp = true ∧ iov.base.block = some name then 1 else 0) + refsTo name iovs := by
  rw [refsTo, countP_cons, refsTo, Nat.add_comm]
  congr 1
  simp only [Bool.and_eq_true, decide_eq_true_eq]

@[simp] lemma refsTo_append (name : Nat) (front back : List Iovec) :
    refsTo name (front ++ back) = refsTo name front + refsTo name back :=
  countP_append

variable {iov : Iovec}

lemma refsTo_pos {name : Nat} {iovs : List Iovec} (member : iov ∈ iovs)
    (owned : iov.freeFp = true) (block : iov.base.block = some name) : 0 < refsTo name iovs := by
  rw [refsTo, countP_pos_iff]
  exact ⟨iov, member, by simp [owned, block]⟩

lemma refsTo_map (name : Nat) (iovs : List Iovec) (change : Iovec → Iovec)
    (same : ∀ iov, (change iov).freeFp = iov.freeFp ∧ (change iov).base.block = iov.base.block) :
    refsTo name (iovs.map change) = refsTo name iovs := by
  rw [refsTo, countP_map, refsTo]
  congr 1
  funext iov
  simp only [comp_apply, (same iov).1, (same iov).2]

section

variable (mem : RefMem) (iovs : List Iovec)
include mem iovs

lemma refs_deallocIovs (name : Nat) :
    ((deallocIovs mem iovs).blocks name).refs = (mem.blocks name).refs - refsTo name iovs := by
  induction iovs generalizing mem with
  | nil => rfl
  | cons iov iovs ih =>
    rw [deallocIovs, ih, refsTo_cons, ← Nat.sub_sub]
    congr 1
    cases iov.freeFp with
    | false => simp
    | true => simp only [if_true, refs_subRef, true_and]

@[simp] lemma next_deallocIovs : (deallocIovs mem iovs).next = mem.next := by
  induction iovs generalizing mem with
  | nil => rfl
  | cons iov iovs ih =>
    rw [deallocIovs, ih]
    split
    · rw [next_subRef]
    · rfl

lemma bytesOf_deallocIovs {name : Nat} (left : 0 < ((deallocIovs mem iovs).blocks name).refs) :
    (deallocIovs mem iovs).bytesOf (some name) = mem.bytesOf (some name) := by
  induction iovs generalizing mem with
  | nil => rfl
  | cons iov iovs ih =>
    rw [deallocIovs] at left ⊢
    rw [ih _ left]
    split
    next owned =>
      rw [refs_deallocIovs, if_pos owned] at left
      exact bytesOf_subRef _ _ (by omega)
    · rfl

lemma refs_addRefs (name : Nat) :
    ((addRefs mem iovs).blocks name).refs = (mem.blocks name).refs + refsTo name iovs := by
  induction iovs generalizing mem with
  | nil => rfl
  | cons iov iovs ih =>
    rw [addRefs, ih, refsTo_cons, ← Nat.add_assoc]
    congr 1
    cases iov.freeFp with
    | false => simp
    | true => simp only [if_true, refs_addRef, true_and]

@[simp] lemma next_addRefs : (addRefs mem iovs).next = mem.next := by
  induction iovs generalizing mem with
  | nil => rfl
  | cons iov iovs ih =>
    rw [addRefs, ih]
    split
    · rw [next_addRef]
    · rfl

@[simp] lemma bytesOf_addRefs (block : Option Nat) :
    (addRefs mem iovs).bytesOf block = mem.bytesOf block := by
  induction iovs generalizing mem with
  | nil => rfl
  | cons iov iovs ih =>
    rw [addRefs, ih]
    split
    · rw [bytesOf_addRef]
    · rfl

end

/-! ## What a connection holds -/

/-- The buffers of the message that is being sent, without the bytes already sent. -/
def WrStat.pendingIovs (wrstat : WrStat) : List Iovec :=
  if wrstat.dataSz = 0 then []
  else
    match wrstat.buf with
    | .direct pdirbuf freeFp =>
      [⟨pdirbuf.add wrstat.currProcessedSz, wrstat.dataSz - wrstat.currProcessedSz, freeFp⟩]
    | .iovec iovarr => iovarr

namespace Conntrack

/-- The buffers that wait in the pipeline. -/
def queued (conn : Conntrack) : List Iovec :=
  conn.wrPipeline.flatMap iovs

/-- Everything that the socket has not accepted yet. -/
def unsent (conn : Conntrack) : List Iovec :=
  conn.wrstat.pendingIovs ++ conn.queued

/-- All buffers of the connection, those of a message already sent included. -/
def heldIovs (conn : Conntrack) : List Iovec :=
  conn.wrstat.held ++ conn.queued

/-- The message being sent fits its counters, calls wait only for a message, and calls that
returned without error and not blocked had sent everything. -/
structure Shape (conn : Conntrack) : Prop where
  idle : conn.wrstat.dataSz = 0 → conn.wrstat.currProcessedSz = 0
  direct : ∀ pdirbuf freeFp, conn.wrstat.buf = .direct pdirbuf freeFp →
    0 < conn.wrstat.dataSz →
      pdirbuf.block ≠ none ∧ conn.wrstat.currProcessedSz < conn.wrstat.dataSz
  iovec : ∀ iovarr, conn.wrstat.buf = .iovec iovarr → 0 < conn.wrstat.dataSz →
    iovarr.length ≤ maxIovecArr ∧ conn.wrstat.dataSz = iovecBytes iovarr
  small : conn.wrstat.dataSz < sizeWord
  calling : conn.call.isSome → 0 < conn.wrstat.dataSz
  waiting : ∀ message ∈ conn.wrPipeline,
    0 < iovecBytes message.iovs ∧ iovecBytes message.iovs < sizeWord
  returned : ∀ ret ∈ conn.returns, ret.nsent.isSome → ret.isBlocked = false →
    ret.accepted = ret.scheduled

end Conntrack

lemma contentOf_append (mem : RefMem) (front back : List Iovec) :
    contentOf mem (front ++ back) = contentOf mem front ++ contentOf mem back :=
  flatMap_append

lemma contentOf_cons (mem : RefMem) (iov : Iovec) (iovs : List Iovec) :
    contentOf mem (iov :: iovs) = mem.read iov.base iov.len ++ contentOf mem iovs :=
  flatMap_cons

variable {mem after : RefMem}

lemma contentOf_congr {iovs : List Iovec}
    (same : ∀ iov ∈ iovs, after.read iov.base iov.len = mem.read iov.base iov.len) :
    contentOf after iovs = contentOf mem iovs := by
  induction iovs with
  | nil => rfl
  | cons iov iovs ih =>
    rw [forall_mem_cons] at same
    rw [contentOf_cons, contentOf_cons, same.1, ih same.2]

lemma iovecBytes_cons (iov : Iovec) (iovs : List Iovec) :
    iovecBytes (iov :: iovs) = iov.len + iovecBytes iovs := by
  rw [iovecBytes, map_cons, sum_cons, iovecBytes]

lemma iovecBytes_append (front back : List Iovec) :
    iovecBytes (front ++ back) = iovecBytes front + iovecBytes back := by
  rw [iovecBytes, map_append, sum_append, iovecBytes, iovecBytes]

lemma length_contentOf {iovs : List Iovec} (inside : ∀ iov ∈ iovs, mem.Inside iov.base iov.len) :
    (contentOf mem iovs).length = iovecBytes iovs := by
  induction iovs with
  | nil => rfl
  | cons iov iovs ih =>
    rw [forall_mem_cons] at inside
    rw [contentOf_cons, length_append, length_read inside.1, ih inside.2, iovecBytes_cons]

/-- A buffer lies in its block, and the creator of the block of a buffer that has no free
function keeps the block. -/
structure Iovec.Holds (iov : Iovec) (mem : RefMem) (handles : Nat → Bool) : Prop where
  known : ∀ name, iov.base.block = some name → name < mem.next
  inside : mem.Inside iov.base iov.len
  kept : iov.freeFp = false → ∀ name, iov.base.block = some name → handles name = true

variable {conn : Conntrack}

lemma Conntrack.exists_held (member : iov ∈ conn.unsent) :
    ∃ whole ∈ conn.heldIovs, whole.base.block = iov.base.block ∧ whole.freeFp = iov.freeFp := by
  rw [unsent, mem_append] at member
  rcases member with pending | queued
  · rw [WrStat.pendingIovs] at pending
    split at pending
    · exact absurd pending not_mem_nil
    cases buf : conn.wrstat.buf with
    | direct pdirbuf freeFp =>
      simp only [buf, mem_singleton] at pending
      subst pending
      exact ⟨⟨pdirbuf, conn.wrstat.dataSz, freeFp⟩, by simp [heldIovs, WrStat.held, buf],
        rfl, rfl⟩
    | iovec iovarr =>
      simp only [buf] at pending
      exact ⟨iov, by simp [heldIovs, WrStat.held, buf, pending], rfl, rfl⟩
  · exact ⟨iov, mem_append_right _ queued, rfl, rfl⟩

lemma contentOf_unsent (bytes : ∀ iov ∈ conn.heldIovs,
      after.bytesOf iov.base.block = mem.bytesOf iov.base.block) :
    contentOf after conn.unsent = contentOf mem conn.unsent := by
  refine contentOf_congr fun iov member => ?_
  obtain ⟨whole, wholeMem, sameBlock, -⟩ := Conntrack.exists_held member
  rw [RefMem.read, RefMem.read, ← sameBlock, bytes whole wholeMem]

/-! ## The connections together -/

namespace Sends

variable {n : Nat}

/-- Every block has as many references as its creator and the buffers hold; every
connection has accepted the front of what was scheduled and holds the rest. -/
structure Ok (state : Sends n) : Prop where
  fresh : ∀ name, state.mem.next ≤ name → (state.mem.blocks name).refs = 0
  counted : ∀ name, (state.mem.blocks name).refs =
    (if state.handles name then 1 else 0) + ∑ conn, refsTo name (state.conns conn).heldIovs
  held : ∀ conn, ∀ iov ∈ (state.conns conn).heldIovs, iov.Holds state.mem state.handles
  shape : ∀ conn, (state.conns conn).Shape
  content : ∀ conn, (state.conns conn).scheduled =
    (state.conns conn).accepted ++ contentOf state.mem (state.conns conn).unsent

variable {state : Sends n}

lemma refsTo_le_sum (conns : Fin n → Conntrack) (conn : Fin n) (name : Nat) :
    refsTo name (conns conn).heldIovs ≤ ∑ other, refsTo name (conns other).heldIovs :=
  Finset.single_le_sum (fun other _ => Nat.zero_le (refsTo name (conns other).heldIovs))
    (Finset.mem_univ conn)

lemma Ok.refsTo_le (ok : state.Ok) (conn : Fin n) (name : Nat) :
    refsTo name (state.conns conn).heldIovs ≤ (state.mem.blocks name).refs := by
  have single := refsTo_le_sum state.conns conn name
  have counted := ok.counted name
  omega

/-- The block of a buffer is allocated: the buffer has a reference to it, or its creator. -/
lemma refs_pos_of_held {refs name : Nat} {handles : Nat → Bool} {conns : Fin n → Conntrack}
    (counted : refs = (if handles name then 1 else 0) + ∑ conn, refsTo name (conns conn).heldIovs)
    {conn : Fin n} (member : iov ∈ (conns conn).heldIovs)
    (kept : iov.freeFp = false → handles name = true) (block : iov.base.block = some name) :
    0 < refs := by
  cases owned : iov.freeFp with
  | false =>
    rw [kept owned, if_pos rfl] at counted
    omega
  | true =>
    have single := refsTo_le_sum conns conn name
    have pos := refsTo_pos member owned block
    omega

/-- The invariant depends on the memory only through the references and the bytes of the
buffers. -/
lemma Ok.setMem (ok : state.Ok) {handles : Nat → Bool} (next : state.mem.next ≤ mem.next)
    (fresh : ∀ name, mem.next ≤ name → (mem.blocks name).refs = 0)
    (counted : ∀ name, (mem.blocks name).refs =
      (if handles name then 1 else 0) + ∑ conn, refsTo name (state.conns conn).heldIovs)
    (kept : ∀ conn, ∀ iov ∈ (state.conns conn).heldIovs, iov.freeFp = false →
      ∀ name, iov.base.block = some name → handles name = true)
    (bytes : ∀ conn, ∀ iov ∈ (state.conns conn).heldIovs,
      mem.bytesOf iov.base.block = state.mem.bytesOf iov.base.block) :
    Ok { state with mem := mem, handles := handles } where
  fresh := fresh
  counted := counted
  held := by
    intro conn iov member
    have holds := ok.held conn iov member
    refine ⟨fun name block => (holds.known name block).trans_le next, ?_, kept conn iov member⟩
    have inside := holds.inside
    rw [RefMem.Inside] at inside ⊢
    rw [bytes conn iov member]
    exact inside
  shape := ok.shape
  content := fun conn =>
    (ok.content conn).trans (congrArg _ (contentOf_unsent (bytes conn)).symm)

lemma sum_update (conns : Fin n → Conntrack) (conn : Fin n) (after : Conntrack)
    (count : Conntrack → Nat) :
    (∑ other, count (update conns conn after other)) + count (conns conn) =
      (∑ other, count (conns other)) + count after := by
  rw [← Finset.add_sum_erase _ _ (Finset.mem_univ conn),
    ← Finset.add_sum_erase _ (fun other => count (conns other)) (Finset.mem_univ conn), update_self]
  have rest : ∑ other ∈ Finset.univ.erase conn, count (update conns conn after other) =
      ∑ other ∈ Finset.univ.erase conn, count (conns other) :=
    Finset.sum_congr rfl fun other member => by
      rw [update_of_ne (Finset.ne_of_mem_erase member)]
  rw [rest]
  omega

/-- A step of one connection keeps the invariant if it accounts for the references it adds
and drops, and leaves the bytes that others have to send. -/
lemma Ok.setConn (ok : state.Ok) (conn : Fin n) {after : Conntrack}
    (next : mem.next = state.mem.next) (balance : ∀ name,
      (mem.blocks name).refs + refsTo name (state.conns conn).heldIovs =
        (state.mem.blocks name).refs + refsTo name after.heldIovs)
    (lengths : ∀ name, 0 < (mem.blocks name).refs →
      (mem.bytesOf (some name)).length = (state.mem.bytesOf (some name)).length)
    (reads : ∀ other ≠ conn, ∀ iov ∈ (state.conns other).unsent,
      (∀ name, iov.base.block = some name → 0 < (mem.blocks name).refs) →
        mem.read iov.base iov.len = state.mem.read iov.base iov.len)
    (held : ∀ iov ∈ after.heldIovs, iov.Holds state.mem state.handles) (shape : after.Shape)
    (content : (∀ iov ∈ after.heldIovs, ∀ name, iov.base.block = some name →
        0 < (mem.blocks name).refs) →
      after.scheduled = after.accepted ++ contentOf mem after.unsent) :
    Ok { state with mem := mem, conns := update state.conns conn after } := by
  have counted : ∀ name, (mem.blocks name).refs =
      (if state.handles name then 1 else 0) +
        ∑ other, refsTo name (update state.conns conn after other).heldIovs := by
    intro name
    have total := sum_update state.conns conn after fun conn => refsTo name conn.heldIovs
    have before := ok.counted name
    have change := balance name
    omega
  -- Blocks of held buffers are allocated after the step, so they kept their bytes.
  have live : ∀ other, ∀ iov ∈ (update state.conns conn after other).heldIovs,
      iov.Holds state.mem state.handles → ∀ name, iov.base.block = some name →
        0 < (mem.blocks name).refs := by
    intro other iov member holds name block
    exact refs_pos_of_held (counted name) member (fun owned => holds.kept owned name block) block
  have holds := (forall_update_iff (a := conn) state.conns fun _ conn =>
    ∀ iov ∈ conn.heldIovs, iov.Holds state.mem state.handles).mpr
      ⟨held, fun other _ => ok.held other⟩
  have inside : ∀ other, ∀ iov ∈ (update state.conns conn after other).heldIovs,
      mem.Inside iov.base iov.len := by
    intro other iov member
    have before := (holds other iov member).inside
    rw [RefMem.Inside] at before ⊢
    cases block : iov.base.block with
    | none =>
      rw [block] at before
      exact before
    | some name =>
      rw [lengths name (live other iov member (holds other iov member) name block), ← block]
      exact before
  have shapes := (forall_update_iff (a := conn) state.conns fun _ conn => conn.Shape).mpr
    ⟨shape, fun other _ => ok.shape other⟩
  have contents := (forall_update_iff (a := conn) state.conns fun _ conn =>
    conn.scheduled = conn.accepted ++ contentOf mem conn.unsent).mpr
      ⟨content fun iov member => live conn iov (by rwa [update_self]) (held iov member),
        fun other same => by
          rw [ok.content other]
          congr 1
          refine (contentOf_congr fun iov member => reads other same iov member ?_).symm
          intro name block
          obtain ⟨whole, wholeMem, sameBlock, -⟩ := Conntrack.exists_held member
          exact live other whole (by rwa [update_of_ne same]) (ok.held other whole wholeMem) name
            (sameBlock.trans block)⟩
  have fresh : ∀ name, mem.next ≤ name → (mem.blocks name).refs = 0 := by
    intro name unused
    rw [next] at unused
    have unheld : refsTo name after.heldIovs = 0 := by
      rw [refsTo, countP_eq_zero]
      intro iov member
      rw [Bool.and_eq_true, decide_eq_true_eq]
      exact fun owned => Nat.not_lt_of_le unused ((held iov member).known name owned.2)
    have change := balance name
    have before := ok.fresh name unused
    omega
  exact ⟨fresh, counted,
    fun other iov member =>
      ⟨next ▸ (holds other iov member).known, inside other iov member,
        (holds other iov member).kept⟩, shapes, contents⟩

end Sends

/-! ## Steps that keep the memory of others -/

/-- What is known of one connection. -/
structure ConnOk (mem : RefMem) (handles : Nat → Bool) (conn : Conntrack) : Prop where
  covered : ∀ name, refsTo name conn.heldIovs ≤ (mem.blocks name).refs
  held : ∀ iov ∈ conn.heldIovs, iov.Holds mem handles
  shape : conn.Shape
  content : conn.scheduled = conn.accepted ++ contentOf mem conn.unsent

/-- A step of a connection that accounts for its references and changes no byte of the
blocks that stay allocated. -/
structure Stepped (mem : RefMem) (handles : Nat → Bool) (conn : Conntrack)
    (result : RefMem × Conntrack) : Prop where
  next : result.1.next = mem.next
  balance : ∀ name, (result.1.blocks name).refs + refsTo name conn.heldIovs =
    (mem.blocks name).refs + refsTo name result.2.heldIovs
  keeps : ∀ name, 0 < (result.1.blocks name).refs →
    result.1.bytesOf (some name) = mem.bytesOf (some name)
  held : ∀ iov ∈ result.2.heldIovs, iov.Holds mem handles
  shape : result.2.Shape
  content : result.2.scheduled = result.2.accepted ++ contentOf mem result.2.unsent

section

variable (keeps : ∀ name, 0 < (after.blocks name).refs →
    after.bytesOf (some name) = mem.bytesOf (some name))
  (live : ∀ name, iov.base.block = some name → 0 < (after.blocks name).refs)
include keeps live

lemma bytesOf_of_keeps : after.bytesOf iov.base.block = mem.bytesOf iov.base.block := by
  cases block : iov.base.block with
  | none => rfl
  | some name => exact keeps name (live name block)

lemma read_of_keeps : after.read iov.base iov.len = mem.read iov.base iov.len := by
  rw [RefMem.read, RefMem.read, bytesOf_of_keeps keeps live]

end

namespace Sends

variable {n : Nat} {state : Sends n}

lemma Ok.connOk (ok : state.Ok) (conn : Fin n) :
    ConnOk state.mem state.handles (state.conns conn) where
  covered := ok.refsTo_le conn
  held := ok.held conn
  shape := ok.shape conn
  content := ok.content conn

/-- A step of one connection that changes no byte others have to send. -/
lemma Ok.stepConn (ok : state.Ok) (conn : Fin n)
    {action : RefMem → Conntrack → RefMem × Conntrack}
    (stepped : Stepped state.mem state.handles (state.conns conn)
      (action state.mem (state.conns conn))) : (state.stepConn conn action).Ok := by
  refine ok.setConn conn stepped.next stepped.balance ?_ ?_ stepped.held stepped.shape ?_
  · intro name left
    rw [stepped.keeps name left]
  · intro other ne iov member live
    exact read_of_keeps stepped.keeps live
  intro live
  rw [stepped.content]
  congr 1
  exact (contentOf_unsent fun iov member =>
    bytesOf_of_keeps stepped.keeps (live iov member)).symm

end Sends

variable {handles : Nat → Bool}

lemma Stepped.ofSame {after : Conntrack}
    (refs : ∀ name, refsTo name after.heldIovs = refsTo name conn.heldIovs)
    (held : ∀ iov ∈ after.heldIovs, iov.Holds mem handles) (shape : after.Shape)
    (content : after.scheduled = after.accepted ++ contentOf mem after.unsent) :
    Stepped mem handles conn (mem, after) where
  next := rfl
  balance := fun name => by rw [refs]
  keeps := fun _ _ => rfl
  held := held
  shape := shape
  content := content

lemma ConnOk.refl (ok : ConnOk mem handles conn) : Stepped mem handles conn (mem, conn) :=
  .ofSame (fun _ => rfl) ok.held ok.shape ok.content

/-! ## Returning from a call -/

namespace Conntrack

variable {nsent : Option Nat} {isBlocked : Bool}

@[simp] lemma unsent_finish : (conn.finish nsent isBlocked).unsent = conn.unsent := rfl

lemma Shape.finish (shape : { conn with call := none }.Shape)
    (all : nsent.isSome → isBlocked = false → conn.accepted = conn.scheduled) :
    (conn.finish nsent isBlocked).Shape :=
  { shape with
    calling := fun some => absurd some Bool.false_ne_true
    returned := by
      intro ret member
      rcases mem_append.mp member with before | now
      · exact shape.returned ret before
      · rw [mem_singleton] at now
        subst now
        exact all }

lemma Shape.setCall (shape : conn.Shape) : { conn with call := none }.Shape :=
  { shape with
    calling := fun some => absurd some Bool.false_ne_true }

lemma Shape.setOpen (shape : conn.Shape) (isOpen : Bool) : { conn with isOpen := isOpen }.Shape :=
  { shape with }

end Conntrack

lemma ConnOk.finish (ok : ConnOk mem handles conn) {nsent : Option Nat} {isBlocked : Bool}
    (all : nsent.isSome → isBlocked = false → conn.accepted = conn.scheduled) :
    Stepped mem handles conn (mem, conn.finish nsent isBlocked) :=
  .ofSame (fun _ => rfl) ok.held (ok.shape.setCall.finish all) ok.content

lemma ConnOk.closeConn (ok : ConnOk mem handles conn) :
    Stepped mem handles conn (mem, conn.closeConn) :=
  .ofSame (fun _ => rfl) ok.held
    ((ok.shape.setCall.setOpen false).finish fun none => absurd none Bool.false_ne_true) ok.content

/-! ## Taking over a message -/

lemma Ptr.add_zero (ptr : Ptr) : ptr.add 0 = ptr := rfl

lemma Ptr.add_add (ptr : Ptr) (first second : Nat) :
    (ptr.add first).add second = ptr.add (first + second) := by
  rw [Ptr.add, Ptr.add, Ptr.add, Nat.add_assoc]

namespace WrStat

variable {message : IovecArray} (wrstat : WrStat)

section

variable (small : iovecBytes message.iovs < sizeWord)
include small

lemma setBuf_cases : (∃ iov, message.iovs = [iov] ∧ wrstat.setBuf message = { wrstat with
          buf := .direct iov.base iov.freeFp
          maxBufSz := iov.len
          dataSz := iov.len }) ∨ wrstat.setBuf message = { wrstat with
        buf := .iovec message.iovs
        maxBufSz := iovecBytes message.iovs
        dataSz := iovecBytes message.iovs } := by
  rw [setBuf]
  split
  next iov single =>
    rw [single, iovecBytes_cons] at small
    have fits : iov.len % sizeWord = iov.len := Nat.mod_eq_of_lt (by omega)
    exact .inl ⟨iov, single, by rw [fits]⟩
  · exact .inr (by rw [Nat.mod_eq_of_lt small])

lemma dataSz_setBuf : (wrstat.setBuf message).dataSz = iovecBytes message.iovs := by
  rcases wrstat.setBuf_cases small with ⟨iov, single, set⟩ | set
  · rw [set, single]
    rfl
  · rw [set]

lemma held_setBuf : (wrstat.setBuf message).held = message.iovs := by
  rcases wrstat.setBuf_cases small with ⟨iov, single, set⟩ | set
  · rw [set, single]
    rfl
  · rw [set]
    rfl

lemma pendingIovs_setBuf
    (some : 0 < iovecBytes message.iovs) (start : wrstat.currProcessedSz = 0) :
    (wrstat.setBuf message).pendingIovs = message.iovs := by
  have size := wrstat.dataSz_setBuf small
  rw [pendingIovs, if_neg (by omega)]
  rcases wrstat.setBuf_cases small with ⟨iov, single, set⟩ | set
  · rw [set, single]
    simp only [start, Ptr.add_zero, Nat.sub_zero]
  · rw [set]

end

end WrStat

section NextMessage

variable {mid : Conntrack} {messages : List IovecArray} {message : IovecArray}

lemma Conntrack.queued_cons (pipeline : conn.wrPipeline = message :: messages) :
    conn.queued = message.iovs ++ messages.flatMap iovs := by
  rw [Conntrack.queued, pipeline, flatMap_cons]

lemma Conntrack.Shape.setBuf
    (shape : { mid with call := none }.Shape) (done : mid.wrstat.dataSz = 0)
    (pipeline : mid.wrPipeline = message :: messages)
    (held : ∀ iov ∈ message.iovs, iov.Holds mem handles) (call : Option Nat) : { mid with
      wrstat := mid.wrstat.setBuf message
      wrPipeline := messages
      call := call }.Shape := by
  have waiting : ∀ other ∈ message :: messages,
      0 < iovecBytes other.iovs ∧ iovecBytes other.iovs < sizeWord := by
    rw [← pipeline]
    exact shape.waiting
  rw [forall_mem_cons] at waiting
  obtain ⟨⟨some, small⟩, later⟩ := waiting
  have size := mid.wrstat.dataSz_setBuf small
  have start : mid.wrstat.currProcessedSz = 0 := shape.idle done
  constructor
  · intro empty
    change (mid.wrstat.setBuf message).dataSz = 0 at empty
    omega
  · intro pdirbuf freeFp direct pos
    change (mid.wrstat.setBuf message).buf = _ at direct
    change _ ∧ (mid.wrstat.setBuf message).currProcessedSz < (mid.wrstat.setBuf message).dataSz
    rcases mid.wrstat.setBuf_cases small with ⟨iov, single, set⟩ | set
    · rw [set] at direct ⊢
      injection direct with base
      rw [single, iovecBytes_cons] at some
      change _ ∧ mid.wrstat.currProcessedSz < iov.len
      refine ⟨fun null => ?_, by rw [start]; exact some⟩
      have inside := (held iov (single ▸ mem_singleton_self iov)).inside
      rw [RefMem.Inside, base, null, bytesOf, length_nil] at inside
      change 0 < iov.len + 0 at some
      omega
    · rw [set] at direct
      cases direct
  · intro iovarr several pos
    change (mid.wrstat.setBuf message).buf = _ at several
    change _ ∧ (mid.wrstat.setBuf message).dataSz = _
    rcases mid.wrstat.setBuf_cases small with ⟨iov, single, set⟩ | set
    · rw [set] at several
      cases several
    · rw [set] at several
      injection several with same
      rw [← same, size]
      exact ⟨message.bound, rfl⟩
  · change (mid.wrstat.setBuf message).dataSz < sizeWord
    rw [size]
    exact small
  · intro _
    change 0 < (mid.wrstat.setBuf message).dataSz
    rw [size]
    exact some
  · exact later
  · exact shape.returned

lemma nextMessage_nil (pipeline : mid.wrPipeline = []) (done : mid.wrstat.dataSz = 0)
    (totalSent : Nat) : nextMessage mem mid totalSent = (mem, { mid with
        isOpen := mid.isOpen && !(0 < totalSent && mid.closeConnOnWrComplete) }.finish
          (some totalSent) false) := by
  cases mid
  cases pipeline
  exact if_pos done

lemma Stepped.nextMessage (totalSent : Nat)
    (refs : ∀ name, refsTo name mid.heldIovs = refsTo name conn.heldIovs)
    (covered : ∀ name, refsTo name conn.heldIovs ≤ (mem.blocks name).refs)
    (held : ∀ iov ∈ mid.heldIovs, iov.Holds mem handles)
    (shape : { mid with call := none }.Shape) (done : mid.wrstat.dataSz = 0)
    (content : mid.scheduled = mid.accepted ++ contentOf mem mid.queued) :
    Stepped mem handles conn (nextMessage mem mid totalSent) := by
  have pending : mid.wrstat.pendingIovs = [] := by rw [WrStat.pendingIovs, if_pos done]
  cases pipeline : mid.wrPipeline with
  | nil =>
    have empty : mid.queued = [] := by rw [Conntrack.queued, pipeline, flatMap_nil]
    rw [nextMessage_nil pipeline done]
    refine .ofSame refs held (Conntrack.Shape.finish (shape.setOpen _) fun _ _ => ?_) ?_
    · rw [content, empty, contentOf, flatMap_nil, append_nil]
    · rw [Conntrack.unsent_finish, Conntrack.unsent]
      change mid.scheduled = mid.accepted ++ contentOf mem (mid.wrstat.pendingIovs ++ mid.queued)
      rw [pending, nil_append]
      exact content
  | cons message messages =>
    have fits := shape.waiting message (by
      change message ∈ mid.wrPipeline
      rw [pipeline]
      exact mem_cons_self)
    have size := mid.wrstat.dataSz_setBuf fits.2
    have queued := Conntrack.queued_cons pipeline
    have messageHeld : ∀ iov ∈ message.iovs, iov.Holds mem handles := fun iov member =>
      held iov (by rw [Conntrack.heldIovs, queued]; simp [member])
    simp only [Conn.nextMessage, pipeline, size, if_neg (show iovecBytes message.iovs ≠ 0 by omega)]
    constructor
    · exact next_deallocIovs _ _
    · intro name
      have before := covered name
      rw [← refs name, Conntrack.heldIovs, queued] at before ⊢
      simp only [Conntrack.heldIovs, Conntrack.queued, mid.wrstat.held_setBuf fits.2,
        refsTo_append, refs_deallocIovs] at before ⊢
      omega
    · intro name left
      exact bytesOf_deallocIovs _ _ left
    · intro iov member
      refine held iov ?_
      rw [Conntrack.heldIovs, queued]
      rw [Conntrack.heldIovs, mid.wrstat.held_setBuf fits.2] at member
      exact mem_append_right _ member
    · exact shape.setBuf done pipeline messageHeld _
    · change mid.scheduled = mid.accepted ++ contentOf mem
        ((mid.wrstat.setBuf message).pendingIovs ++ messages.flatMap iovs)
      rw [mid.wrstat.pendingIovs_setBuf fits.2 fits.1 (shape.idle done), ← queued]
      exact content

end NextMessage

/-! ## Calls and their system calls -/

section Sending

lemma ConnOk.content_of_done (ok : ConnOk mem handles conn) (done : conn.wrstat.dataSz = 0) :
    conn.scheduled = conn.accepted ++ contentOf mem conn.queued := by
  have content := ok.content
  rwa [Conntrack.unsent, WrStat.pendingIovs, if_pos done, nil_append] at content

lemma ConnOk.sendData (ok : ConnOk mem handles conn) :
    Stepped mem handles conn (sendData mem conn) := by
  rw [Conn.sendData]
  split
  · exact ok.refl
  split
  · exact ok.finish fun none => absurd none Bool.false_ne_true
  split
  next some =>
    have shape := ok.shape
    refine .ofSame (fun _ => rfl) ok.held ?_ ok.content
    exact { shape with calling := fun _ => some }
  next empty =>
  have done : conn.wrstat.dataSz = 0 := by omega
  exact .nextMessage 0 (fun _ => rfl) ok.covered ok.held ok.shape.setCall done
    (ok.content_of_done done)

variable {pdirbuf : Ptr} {freeFp : Bool} {iovarr : List Iovec} {totalSent : Nat}
  {wrstat : WrStat}

lemma WrStat.pendingIovs_direct (direct : wrstat.buf = .direct pdirbuf freeFp)
    (some : 0 < wrstat.dataSz) : wrstat.pendingIovs =
      [⟨pdirbuf.add wrstat.currProcessedSz, wrstat.dataSz - wrstat.currProcessedSz, freeFp⟩] := by
  rw [pendingIovs, if_neg (by omega), direct]

lemma WrStat.pendingIovs_iovec (several : wrstat.buf = .iovec iovarr) (some : 0 < wrstat.dataSz) :
    wrstat.pendingIovs = iovarr := by
  rw [pendingIovs, if_neg (by omega), several]

lemma WrStat.held_direct (direct : wrstat.buf = .direct pdirbuf freeFp) :
    wrstat.held = [⟨pdirbuf, wrstat.dataSz, freeFp⟩] := by
  rw [held, direct]

lemma WrStat.held_iovec (several : wrstat.buf = .iovec iovarr) : wrstat.held = iovarr := by
  rw [held, several]

lemma Conntrack.Shape.complete {accepted : Bytes} (shape : conn.Shape) (done : wrstat.dataSz = 0)
    (start : wrstat.currProcessedSz = 0) :
    { conn with wrstat := wrstat, accepted := accepted, call := none }.Shape :=
  { shape with
    idle := fun _ => start
    direct := fun _ _ _ some => absurd done (by
      change 0 < wrstat.dataSz at some
      omega)
    iovec := fun _ _ some => absurd done (by
      change 0 < wrstat.dataSz at some
      omega)
    small := by
      change wrstat.dataSz < sizeWord
      rw [done]
      decide
    calling := fun some => absurd some Bool.false_ne_true }

section

variable (ok : ConnOk mem handles conn) (call : conn.call = some totalSent)
include ok call

lemma ConnOk.sendDataBuf
    (direct : conn.wrstat.buf = .direct pdirbuf freeFp) (result : WriteResult) :
    Stepped mem handles conn (sendDataBuf mem conn totalSent pdirbuf result) := by
  have some : 0 < conn.wrstat.dataSz := ok.shape.calling (by rw [call]; rfl)
  obtain ⟨named, room⟩ := ok.shape.direct pdirbuf freeFp direct some
  have content := ok.content
  rw [Conntrack.unsent, WrStat.pendingIovs_direct direct some, singleton_append,
    contentOf_cons] at content
  have held := ok.held
  rw [Conntrack.heldIovs, WrStat.held_direct direct, singleton_append, forall_mem_cons] at held
  simp only [Conn.sendDataBuf, if_neg named,
    if_neg (show conn.wrstat.dataSz - conn.wrstat.currProcessedSz ≠ 0 by omega)]
  cases result with
  | accept more =>
    simp only
    split
    next all =>
      rw [all]
      refine .nextMessage _ ?_ ok.covered ?_ (ok.shape.complete rfl rfl) rfl ?_
      · intro name
        simp only [Conntrack.heldIovs, WrStat.held, WrStat.setWrComplete, WrStat.resetStats, direct]
        rfl
      · intro iov member
        simp only [Conntrack.heldIovs, WrStat.held, WrStat.setWrComplete, WrStat.resetStats,
          direct, singleton_append, mem_cons] at member
        rcases member with rfl | queued
        · refine ⟨held.1.known, ?_, held.1.kept⟩
          have inside := held.1.inside
          rw [RefMem.Inside] at inside ⊢
          simp only at inside ⊢
          omega
        · exact held.2 iov queued
      · change conn.scheduled = (conn.accepted ++ _) ++ contentOf mem conn.queued
        rw [content, append_assoc]
    next part =>
    have less := Nat.lt_of_le_of_ne (Nat.min_le_right (more + 1) _) part
    refine .ofSame (fun _ => ?_) ?_ (Conntrack.Shape.finish ?_ fun _ blocked =>
      absurd blocked (by decide)) ?_
    · rfl
    · exact ok.held
    · exact { ok.shape with
        idle := fun empty => absurd some (by
          change conn.wrstat.dataSz = 0 at empty
          omega)
        direct := fun other freeFp same _ => by
          refine ⟨(ok.shape.direct other freeFp same some).1, ?_⟩
          change conn.wrstat.currProcessedSz + _ < conn.wrstat.dataSz
          omega
        calling := fun none => absurd none Bool.false_ne_true }
    · generalize min (more + 1) (conn.wrstat.dataSz - conn.wrstat.currProcessedSz) = sret
        at less
      have pending : WrStat.pendingIovs
          { conn.wrstat with currProcessedSz := conn.wrstat.currProcessedSz + sret } =
          [⟨pdirbuf.add (conn.wrstat.currProcessedSz + sret),
            conn.wrstat.dataSz - (conn.wrstat.currProcessedSz + sret), freeFp⟩] :=
        WrStat.pendingIovs_direct direct some
      change conn.scheduled = (conn.accepted ++ _) ++
        contentOf mem (WrStat.pendingIovs { conn.wrstat with
          currProcessedSz := conn.wrstat.currProcessedSz + sret } ++ conn.queued)
      rw [pending, content, mem.read_add _ (Nat.le_of_lt less), Ptr.add_add, Nat.sub_sub,
        singleton_append, contentOf_cons]
      simp only [append_assoc]
  | eintr => exact ok.refl
  | eagain => exact ok.finish fun _ blocked => absurd blocked (by decide)
  | error => exact ok.closeConn

lemma ConnOk.iovec_ready (several : conn.wrstat.buf = .iovec iovarr) :
    0 < conn.wrstat.dataSz ∧ conn.wrstat.dataSz = iovecBytes iovarr ∧
      ¬ (iovarr = [] ∨ maxIovecArr < iovarr.length) := by
  have some : 0 < conn.wrstat.dataSz := ok.shape.calling (by rw [call]; rfl)
  obtain ⟨bound, size⟩ := ok.shape.iovec iovarr several some
  refine ⟨some, size, ?_⟩
  rintro (rfl | long)
  · rw [size] at some
    exact Nat.lt_irrefl 0 some
  · omega

lemma ConnOk.sendDataIovec (several : conn.wrstat.buf = .iovec iovarr) (result : WriteResult)
    (whole : ∀ more, result = .accept more → iovecBytes iovarr ≤ more + 1) :
    Stepped mem handles conn (sendDataIovec mem conn totalSent iovarr result) := by
  obtain ⟨some, size, valid⟩ := ok.iovec_ready call several
  have content := ok.content
  rw [Conntrack.unsent, WrStat.pendingIovs_iovec several some, contentOf_append] at content
  simp only [Conn.sendDataIovec, if_neg valid, if_neg (show iovecBytes iovarr ≠ 0 by omega)]
  cases result with
  | accept more =>
    have all := Nat.min_eq_right (whole more rfl)
    simp only [all, if_true]
    have same : conn.wrstat.setWrComplete.held = conn.wrstat.held := by
      rw [WrStat.held_iovec several]
      exact WrStat.held_iovec several
    refine .nextMessage _ (fun name => ?_) ok.covered (fun iov member => ok.held iov ?_)
      (ok.shape.complete rfl rfl) rfl ?_
    · change refsTo name (conn.wrstat.setWrComplete.held ++ conn.queued) = _
      rw [same]
      rfl
    · change iov ∈ conn.wrstat.setWrComplete.held ++ conn.queued at member
      rw [same] at member
      exact member
    have inside : ∀ iov ∈ iovarr, mem.Inside iov.base iov.len := fun iov member =>
      (ok.held iov (by
        rw [Conntrack.heldIovs, WrStat.held_iovec several]
        exact mem_append_left _ member)).inside
    change conn.scheduled = (conn.accepted ++ _) ++ contentOf mem conn.queued
    rw [content, take_of_length_le (by rw [length_contentOf inside]), append_assoc]
  | eintr => exact ok.refl
  | eagain =>
    have same : iovecBytes iovarr % sizeWord = conn.wrstat.dataSz := by
      rw [← size, Nat.mod_eq_of_lt ok.shape.small]
    simp only [same]
    refine .ofSame (fun _ => rfl) ok.held (Conntrack.Shape.finish ?_ fun _ blocked =>
      absurd blocked (by decide)) ok.content
    exact { ok.shape with
      calling := fun none => absurd none Bool.false_ne_true }
  | error => exact ok.closeConn

end

end Sending

/-! ## Writes that stop inside a message -/

lemma skipWritten_eq {written : Nat} {iovs : List Iovec} (less : written < iovecBytes iovs) :
    ∃ done left iov rest, skipWritten written iovs = (done, left, iov :: rest) ∧
      iovs = done ++ iov :: rest ∧ written = iovecBytes done + left ∧ left < iov.len := by
  induction iovs generalizing written with
  | nil => exact absurd less (Nat.not_lt_zero _)
  | cons iov iovs ih =>
    rw [iovecBytes_cons] at less
    by_cases whole : iov.len ≤ written
    · obtain ⟨done, left, next, rest, skipped, split, count, inside⟩ :=
        ih (show written - iov.len < iovecBytes iovs by omega)
      refine ⟨iov :: done, left, next, rest, ?_, ?_, ?_, inside⟩
      · rw [skipWritten, if_pos whole, skipped]
      · rw [split, cons_append]
      · rw [iovecBytes_cons]
        omega
    · refine ⟨[], written, iov, iovs, ?_, rfl, ?_, by omega⟩
      · rw [skipWritten, if_neg whole]
      · exact (Nat.zero_add written).symm

/-- A buffer does not overlap a range of memory. -/
def Iovec.Apart (iov : Iovec) (target : Ptr) (length : Nat) : Prop :=
  iov.base.block = target.block → iov.len = 0 ∨ target.off + length ≤ iov.base.off ∨
    iov.base.off + iov.len ≤ target.off

instance (iov : Iovec) (target : Ptr) (length : Nat) : Decidable (iov.Apart target length) :=
  inferInstanceAs (Decidable (_ → _))

/-- Where `gy_writev` moves the bytes left of a buffer in which a write ended, their number,
and the buffers of the message behind that buffer. -/
def movedBytes (written : Nat) (iovarr : List Iovec) : Option (Ptr × Nat × List Iovec) :=
  match skipWritten written iovarr with
  | (_, left, iov :: rest) =>
    if left ≠ 0 ∧ iov.freeFp = true then some (iov.base, iov.len - left, rest) else none
  | _ => none

/-- The bytes that `gy_writev` overwrites belong neither to a later buffer of the message
nor to one of the given buffers. -/
def MovesApart (written : Nat) (iovarr others : List Iovec) : Prop :=
  ∀ moved ∈ movedBytes written iovarr, ∀ other ∈ moved.2.2 ++ others,
    other.Apart moved.1 moved.2.1

instance (written : Nat) (iovarr others : List Iovec) :
    Decidable (MovesApart written iovarr others) :=
  inferInstanceAs (Decidable (∀ moved ∈ _, _))

/-- What the rewriting of a message's buffers leaves and changes. -/
structure Rewritten (mem : RefMem) (written : Nat) (iovarr : List Iovec)
    (result : RefMem × List Iovec) : Prop where
  next : result.1.next = mem.next
  refs : ∀ name, (result.1.blocks name).refs = (mem.blocks name).refs
  lengths : ∀ block, (result.1.bytesOf block).length = (mem.bytesOf block).length
  reads : ∀ other : Iovec,
    (∀ moved ∈ movedBytes written iovarr, other.Apart moved.1 moved.2.1) →
      result.1.read other.base other.len = mem.read other.base other.len
  refsTo : ∀ name, refsTo name result.2 = refsTo name iovarr
  bytes : iovecBytes result.2 + written = iovecBytes iovarr
  length : result.2.length = iovarr.length
  part : ∀ iov ∈ result.2, ∃ whole ∈ iovarr, iov.base.block = whole.base.block ∧
    iov.freeFp = whole.freeFp ∧ iov.base.off + iov.len ≤ whole.base.off + whole.len
  content : MovesApart written iovarr [] →
    contentOf mem iovarr = (contentOf mem iovarr).take written ++ contentOf result.1 result.2

lemma iovecBytes_done (iovs : List Iovec) :
    iovecBytes (iovs.map fun iov => { iov with len := 0 }) = 0 := by
  induction iovs with
  | nil => rfl
  | cons iov iovs ih =>
    rw [map_cons, iovecBytes_cons, ih]

lemma contentOf_done (mem : RefMem) (iovs : List Iovec) :
    contentOf mem (iovs.map fun iov => { iov with len := 0 }) = [] := by
  induction iovs with
  | nil => rfl
  | cons iov iovs ih =>
    rw [map_cons, contentOf_cons, ih, read_zero]
    rfl

lemma Rewritten.ofCut {done rest : List Iovec} {cut : Iovec} {left : Nat} (less : left < iov.len)
    (skipped : skipWritten (iovecBytes done + left) (done ++ iov :: rest) =
      (done, left, iov :: rest))
    (inside : ∀ whole ∈ done ++ iov :: rest, mem.Inside whole.base whole.len)
    (next : after.next = mem.next)
    (refs : ∀ name, (after.blocks name).refs = (mem.blocks name).refs)
    (lengths : ∀ block, (after.bytesOf block).length = (mem.bytesOf block).length)
    (reads : ∀ other : Iovec,
      (left ≠ 0 → iov.freeFp = true → other.Apart iov.base (iov.len - left)) →
        after.read other.base other.len = mem.read other.base other.len)
    (block : cut.base.block = iov.base.block) (freeFp : cut.freeFp = iov.freeFp)
    (len : cut.len = iov.len - left) (bound : cut.base.off + cut.len ≤ iov.base.off + iov.len)
    (read : after.read cut.base cut.len = mem.read (iov.base.add left) (iov.len - left)) :
    Rewritten mem (iovecBytes done + left) (done ++ iov :: rest)
      (after, done.map (fun iov => { iov with len := 0 }) ++ cut :: rest) where
  next := next
  refs := refs
  lengths := lengths
  reads := by
    intro other apart
    refine reads other fun some owned => ?_
    refine apart (iov.base, iov.len - left, rest) ?_
    rw [movedBytes, skipped]
    exact if_pos ⟨some, owned⟩
  refsTo := by
    intro name
    rw [refsTo_append, refsTo_append, refsTo_cons, refsTo_cons, block, freeFp,
      refsTo_map name done (fun iov => { iov with len := 0 }) fun _ => ⟨rfl, rfl⟩]
  bytes := by
    rw [iovecBytes_append, iovecBytes_append, iovecBytes_cons, iovecBytes_cons, iovecBytes_done,
      len]
    omega
  length := by
    rw [length_append, length_append, length_map, length_cons, length_cons]
  part := by
    intro part member
    rcases mem_append.mp member with before | now
    · obtain ⟨whole, wholeMem, rfl⟩ := mem_map.mp before
      exact ⟨whole, mem_append_left _ wholeMem, rfl, rfl, by simp⟩
    · rcases mem_cons.mp now with rfl | later
      · exact ⟨iov, mem_append_right _ mem_cons_self, block, freeFp, bound⟩
      · exact ⟨part, mem_append_right _ (mem_cons_of_mem _ later), rfl, rfl, Nat.le_refl _⟩
  content := by
    intro apart
    rw [forall_mem_append, forall_mem_cons] at inside
    have front := length_contentOf inside.1
    have back : contentOf after rest = contentOf mem rest := by
      refine contentOf_congr fun other member => reads other fun some owned => ?_
      refine apart (iov.base, iov.len - left, rest) ?_ other ?_
      · rw [movedBytes, skipped]
        exact if_pos ⟨some, owned⟩
      · exact mem_append_left _ member
    have first : (mem.read iov.base left).length = left := by
      have whole := inside.2.1
      rw [RefMem.Inside] at whole
      exact length_read (by rw [RefMem.Inside]; omega)
    rw [contentOf_append, contentOf_cons, contentOf_append, contentOf_done, nil_append,
      contentOf_cons, back, read, mem.read_add iov.base (Nat.le_of_lt less), ← front,
      take_length_add_append, append_assoc (mem.read iov.base left), ← first]
    simp only [first, take_left' first, append_assoc]

lemma rewritten_writevPending {written : Nat} {iovarr : List Iovec}
    (less : written < iovecBytes iovarr) (inside : ∀ iov ∈ iovarr, mem.Inside iov.base iov.len) :
    Rewritten mem written iovarr (writevPending mem written iovarr) := by
  obtain ⟨done, left, iov, rest, skipped, rfl, rfl, within⟩ := skipWritten_eq less
  have whole := inside iov (mem_append_right _ mem_cons_self)
  simp only [writevPending, skipped]
  split
  next none =>
    subst none
    refine .ofCut within skipped inside rfl (fun _ => rfl) (fun _ => rfl) (fun _ _ => rfl) rfl
      rfl rfl (Nat.le_refl _) rfl
  split
  next some owned =>
    have moved : mem.Inside iov.base (left + (iov.len - left)) := by
      rw [Nat.add_sub_cancel' (Nat.le_of_lt within)]
      exact whole
    refine .ofCut within skipped inside (next_move _ _ _ _) (refs_move _ _ _ _)
      (length_move moved) ?_ rfl rfl rfl ?_ (read_move_self moved)
    · exact fun other apart => read_move_apart moved (apart some owned)
    · simp only
      omega
  next some owned =>
  refine .ofCut within skipped inside rfl (fun _ => rfl) (fun _ => rfl) (fun _ _ => rfl) rfl
    rfl rfl ?_ rfl
  simp only [Ptr.add_off]
  omega

/-! ## Scheduling a message -/

lemma contentOf_addRefs (mem : RefMem) (iovs others : List Iovec) :
    contentOf (addRefs mem iovs) others = contentOf mem others :=
  contentOf_congr fun iov _ => by rw [RefMem.read, RefMem.read, bytesOf_addRefs]

lemma ConnOk.schedule
    (ok : ConnOk mem handles conn) {message : IovecArray} (some : 0 < iovecBytes message.iovs)
    (small : iovecBytes message.iovs < sizeWord)
    (held : ∀ iov ∈ message.iovs, iov.Holds mem handles) :
    Stepped mem handles conn (scheduleExtSend (addRefs mem message.iovs) conn message) := by
  have notEmpty : message.iovs ≠ [] := by
    intro empty
    rw [empty] at some
    exact Nat.lt_irrefl 0 some
  rw [scheduleExtSend, if_neg notEmpty]
  split
  · have queued : (conn.wrPipeline ++ [message]).flatMap iovs =
        conn.queued ++ message.iovs := by
      rw [flatMap_append, flatMap_singleton]
      rfl
    constructor
    · exact next_addRefs _ _
    · intro name
      change _ = _ + refsTo name
        (conn.wrstat.held ++ (conn.wrPipeline ++ [message]).flatMap iovs)
      simp only [queued, Conntrack.heldIovs, refsTo_append, refs_addRefs]
      omega
    · exact fun name _ => bytesOf_addRefs _ _ _
    · intro iov member
      change iov ∈ conn.wrstat.held ++ (conn.wrPipeline ++ [message]).flatMap _ at member
      rw [queued, ← append_assoc, mem_append] at member
      rcases member with before | new
      · exact ok.held iov before
      · exact held iov new
    · have waiting : ∀ other ∈ conn.wrPipeline ++ [message],
          0 < iovecBytes other.iovs ∧ iovecBytes other.iovs < sizeWord := by
        intro other member
        rcases mem_append.mp member with before | new
        · exact ok.shape.waiting other before
        · rw [mem_singleton.mp new]
          exact ⟨some, small⟩
      exact { ok.shape with
        waiting := waiting }
    · change conn.scheduled ++ _ = conn.accepted ++ contentOf mem
        (conn.wrstat.pendingIovs ++ (conn.wrPipeline ++ [message]).flatMap iovs)
      rw [queued, ← append_assoc, contentOf_append, contentOf_addRefs, ok.content, append_assoc]
      rfl
  · constructor
    · rw [next_deallocIovs, next_addRefs]
    · intro name
      rw [refs_deallocIovs, refs_addRefs, Nat.add_sub_cancel]
    · intro name left
      rw [bytesOf_deallocIovs _ _ left, bytesOf_addRefs]
    · exact ok.held
    · exact ok.shape
    · exact ok.content

/-! ## Steps of the connections -/

namespace Sends

variable {n : Nat} {state : Sends n}

/-- What callers keep to: a message is not empty, its buffers lie in blocks that the caller
holds, and the creator of a block keeps it while buffers without a free function use it. -/
def Legal (state : Sends n) : SendEvent n → Prop
  | .release name => ∀ conn, ∀ iov ∈ (state.conns conn).heldIovs,
    iov.freeFp = false → iov.base.block ≠ some name
  | .schedule _ message => 0 < iovecBytes message.iovs ∧
    ∀ iov ∈ message.iovs, state.mem.Inside iov.base iov.len ∧
      ∀ name ∈ iov.base.block, state.handles name = true
  | _ => True

instance (state : Sends n) : (event : SendEvent n) → Decidable (state.Legal event)
  | .release _ => inferInstanceAs (Decidable (∀ _, ∀ iov ∈ _, _))
  | .schedule _ _ => inferInstanceAs (Decidable (_ ∧ ∀ iov ∈ _, _))
  | .alloc _ => isTrue trivial
  | .sendData _ => isTrue trivial
  | .writeReturns _ _ => isTrue trivial

/-- Messages are smaller than 4 GB, and where a write stops inside a buffer the bytes that
are moved are not those that another message still has to send. -/
def WritesApart (state : Sends n) : SendEvent n → Prop
  | .schedule _ message => iovecBytes message.iovs < sizeWord
  | .writeReturns conn (.accept more) =>
    match (state.conns conn).call, (state.conns conn).wrstat.buf with
    | some _, .iovec iovarr =>
      let written := min (more + 1) (iovecBytes iovarr)
      MovesApart written iovarr (state.conns conn).queued ∧
        ∀ other, other ≠ conn → MovesApart written iovarr (state.conns other).unsent
    | _, _ => True
  | _ => True

instance (state : Sends n) : (event : SendEvent n) → Decidable (state.WritesApart event)
  | .schedule _ _ => inferInstanceAs (Decidable (_ < _))
  | .writeReturns conn (.accept more) =>
    match call : (state.conns conn).call, buf : (state.conns conn).wrstat.buf with
    | some _, .iovec iovarr => decidable_of_iff
      (let written := min (more + 1) (iovecBytes iovarr)
      MovesApart written iovarr (state.conns conn).queued ∧
        ∀ other, other ≠ conn → MovesApart written iovarr (state.conns other).unsent)
      (by simp only [WritesApart, call, buf])
    | some _, .direct _ _ => isTrue (by simp only [WritesApart, call, buf])
    | none, _ => isTrue (by simp only [WritesApart, call])
  | .writeReturns _ .eintr => isTrue trivial
  | .writeReturns _ .eagain => isTrue trivial
  | .writeReturns _ .error => isTrue trivial
  | .release _ => isTrue trivial
  | .alloc _ => isTrue trivial
  | .sendData _ => isTrue trivial

/-- A write that stops inside a message of several buffers. -/
lemma Ok.partialWrite (ok : state.Ok) {conn : Fin n} {totalSent more : Nat}
    (call : (state.conns conn).call = some totalSent) {iovarr : List Iovec}
    (several : (state.conns conn).wrstat.buf = .iovec iovarr) (less : more + 1 < iovecBytes iovarr)
    (own : MovesApart (more + 1) iovarr (state.conns conn).queued) (others : ∀ other, other ≠ conn →
      MovesApart (more + 1) iovarr (state.conns other).unsent) :
    (state.stepConn conn fun mem conn =>
      sendDataIovec mem conn totalSent iovarr (.accept more)).Ok := by
  have connOk := ok.connOk conn
  obtain ⟨notEmpty, size, valid⟩ := connOk.iovec_ready call several
  have held := connOk.held
  rw [Conntrack.heldIovs, WrStat.held_iovec several, forall_mem_append] at held
  have rewritten : Rewritten state.mem (more + 1) iovarr _ :=
    rewritten_writevPending less fun iov member => (held.1 iov member).inside
  have cut : min (more + 1) (iovecBytes iovarr) = more + 1 := Nat.min_eq_left (by omega)
  have content := connOk.content
  rw [Conntrack.unsent, WrStat.pendingIovs_iovec several notEmpty, contentOf_append] at content
  have fits : (iovecBytes iovarr - (more + 1)) % sizeWord = iovecBytes iovarr - (more + 1) := by
    have small := connOk.shape.small
    exact Nat.mod_eq_of_lt (by omega)
  obtain ⟨mem, iovPending, result⟩ : ∃ mem iovPending,
      writevPending state.mem (more + 1) iovarr = (mem, iovPending) := ⟨_, _, rfl⟩
  rw [result] at rewritten
  simp only [Sends.stepConn, sendDataIovec, if_neg valid, cut, fits, result,
    if_neg (show iovecBytes iovarr ≠ 0 by omega),
    if_neg (show more + 1 ≠ iovecBytes iovarr by omega)]
  have left := rewritten.bytes
  simp only at left
  have some : iovecBytes iovarr - (more + 1) ≠ 0 := by omega
  refine ok.setConn conn rewritten.next ?_ (fun name _ => rewritten.lengths _) ?_ ?_
    (Conntrack.Shape.finish ?_ fun _ blocked => absurd blocked (by decide)) ?_
  · intro name
    change _ + _ = _ + refsTo name (iovPending ++ (state.conns conn).queued)
    rw [Conntrack.heldIovs, WrStat.held_iovec several, refsTo_append, refsTo_append,
      rewritten.refs, rewritten.refsTo]
  · intro other ne iov member _
    exact rewritten.reads iov fun moved isMoved =>
      others other ne moved isMoved iov (mem_append_right _ member)
  · intro iov member
    rcases mem_append.mp member with pending | queued
    · obtain ⟨whole, wholeMem, block, freeFp, bound⟩ := rewritten.part iov pending
      have holds := held.1 whole wholeMem
      refine ⟨block ▸ holds.known, ?_, block ▸ freeFp ▸ holds.kept⟩
      have inside := holds.inside
      rw [RefMem.Inside] at inside ⊢
      rw [block]
      omega
    · exact held.2 iov queued
  · exact { connOk.shape with
      idle := fun empty => absurd empty some
      direct := by rintro _ _ ⟨⟩
      iovec := by
        intro other same _
        injection same with same
        subst same
        have bound := (connOk.shape.iovec iovarr several notEmpty).1
        refine ⟨rewritten.length.trans_le bound, ?_⟩
        change iovecBytes iovarr - (more + 1) = iovecBytes iovPending
        omega
      small := by
        have small := connOk.shape.small
        change iovecBytes iovarr - (more + 1) < sizeWord
        omega
      calling := fun none => absurd none Bool.false_ne_true }
  · intro _
    have queued : contentOf mem (state.conns conn).queued =
        contentOf state.mem (state.conns conn).queued :=
      contentOf_congr fun iov member => rewritten.reads iov fun moved isMoved =>
        own moved isMoved iov (mem_append_right _ member)
    have message := rewritten.content fun moved isMoved iov member =>
      own moved isMoved iov (by
        rw [append_nil] at member
        exact mem_append_left _ member)
    change (state.conns conn).scheduled = ((state.conns conn).accepted ++ _) ++ contentOf mem
      (WrStat.pendingIovs { (state.conns conn).wrstat with
        buf := .iovec iovPending
        dataSz := iovecBytes iovarr - (more + 1)
        maxBufSz := iovecBytes iovarr - (more + 1) } ++ (state.conns conn).queued)
    rw [WrStat.pendingIovs, if_neg some, contentOf_append, queued, content, append_assoc,
      ← append_assoc (List.take _ _), ← message]

lemma Ok.alloc (ok : state.Ok) (content : Bytes) : (state.step (.alloc content)).Ok := by
  have known : ∀ conn, ∀ iov ∈ (state.conns conn).heldIovs, ∀ name,
      iov.base.block = some name → name ≠ state.mem.next := fun conn iov member name block =>
    Nat.ne_of_lt ((ok.held conn iov member).known name block)
  have unused := ok.counted state.mem.next
  rw [ok.fresh _ (Nat.le_refl _)] at unused
  refine ok.setMem (Nat.le_succ _) ?_ ?_ ?_ ?_
  · intro name later
    change state.mem.next + 1 ≤ name at later
    rw [refs_alloc, if_neg (by omega)]
    exact ok.fresh name (by omega)
  · intro name
    rw [refs_alloc, update_apply]
    split
    next new =>
      subst new
      rw [if_pos rfl]
      omega
    · exact ok.counted name
  · intro conn iov member owned name block
    rw [update_of_ne (known conn iov member name block)]
    exact (ok.held conn iov member).kept owned name block
  · intro conn iov member
    cases block : iov.base.block with
    | none => rfl
    | some name => exact bytesOf_alloc _ _ (known conn iov member name block)

lemma Ok.release (ok : state.Ok) {name : Nat} (legal : state.Legal (.release name)) :
    (state.step (.release name)).Ok := by
  rw [step]
  split
  next handle =>
    have counted : ∀ other, ((state.mem.subRef (some name)).blocks other).refs =
        (if update state.handles name false other then 1 else 0) +
          ∑ conn, refsTo other (state.conns conn).heldIovs := by
      intro other
      rw [refs_subRef, ok.counted other, update_apply]
      by_cases same : other = name
      · subst same
        simp [handle]
      · rw [if_neg same, if_neg fun equal => same (Option.some.inj equal).symm]
        rfl
    have kept : ∀ conn, ∀ iov ∈ (state.conns conn).heldIovs, iov.freeFp = false →
        ∀ other, iov.base.block = some other →
          update state.handles name false other = true := by
      intro conn iov member owned other block
      rw [update_of_ne fun same =>
        legal conn iov member owned (block.trans (congrArg some same))]
      exact (ok.held conn iov member).kept owned other block
    refine ok.setMem (Nat.le_of_eq (next_subRef _ _).symm) ?_ counted kept ?_
    · intro other unused
      rw [next_subRef] at unused
      rw [refs_subRef, ok.fresh other unused, Nat.zero_sub]
    · intro conn iov member
      refine bytesOf_of_keeps (fun other left => bytesOf_subRef _ _ left) ?_
      intro other block
      exact refs_pos_of_held (counted other) member
        (fun owned => kept conn iov member owned other block) block
  · exact ok

/-- Every legal event that moves only bytes of its own keeps the invariant. -/
lemma Ok.step (ok : state.Ok) {event : SendEvent n} (legal : state.Legal event)
    (apart : state.WritesApart event) : (state.step event).Ok := by
  cases event with
  | alloc content => exact ok.alloc content
  | release name => exact ok.release legal
  | schedule conn message =>
    change (Sends.stepConn state conn fun mem conn =>
      scheduleExtSend (addRefs mem message.iovs) conn message).Ok
    refine ok.stepConn conn ((ok.connOk conn).schedule legal.1 apart fun iov member => ?_)
    obtain ⟨inside, handles⟩ := legal.2 iov member
    refine ⟨fun name block => ?_, inside, fun _ name block => handles name block⟩
    by_contra unknown
    have counted := ok.counted name
    rw [ok.fresh name (by omega), handles name block, if_pos rfl] at counted
    omega
  | sendData conn => exact ok.stepConn conn (ok.connOk conn).sendData
  | writeReturns conn result =>
    change (Sends.stepConn state conn fun mem conn => writeReturns mem conn result).Ok
    cases call : (state.conns conn).call with
    | none =>
      refine ok.stepConn conn ?_
      rw [writeReturns, call]
      exact (ok.connOk conn).refl
    | some totalSent =>
      cases buf : (state.conns conn).wrstat.buf with
      | direct pdirbuf freeFp =>
        refine ok.stepConn conn ?_
        simp only [writeReturns, call, buf]
        exact (ok.connOk conn).sendDataBuf call buf result
      | iovec iovarr =>
        have same : (Sends.stepConn state conn fun mem conn => writeReturns mem conn result) =
            Sends.stepConn state conn fun mem conn =>
              sendDataIovec mem conn totalSent iovarr result := by
          simp only [Sends.stepConn, writeReturns, call, buf]
        rw [same]
        by_cases whole : ∀ more, result = .accept more → iovecBytes iovarr ≤ more + 1
        · exact ok.stepConn conn ((ok.connOk conn).sendDataIovec call buf result whole)
        · simp only [not_forall, Nat.not_le] at whole
          obtain ⟨more, rfl, less⟩ := whole
          simp only [WritesApart, call, buf, Nat.min_eq_left (Nat.le_of_lt less)] at apart
          exact ok.partialWrite call buf less apart.1 apart.2

lemma ok_init (closes : Fin n → Bool) (limits : Fin n → Nat) :
    (init fun conn => .init (closes conn) (limits conn)).Ok where
  fresh := fun _ _ => rfl
  counted := fun name => by
    simp [init, Conntrack.init, Conntrack.heldIovs, Conntrack.queued, WrStat.init, WrStat.held,
      empty, refsTo]
  held := by
    intro conn iov member
    simp only [init, Conntrack.init, Conntrack.heldIovs, Conntrack.queued, WrStat.init,
      WrStat.held, flatMap_nil, append_nil, mem_singleton] at member
    subst member
    exact {
      known := fun _ block => nomatch block
      inside := Nat.le_refl 0
      kept := fun _ _ block => nomatch block }
  shape := fun conn => {
    idle := fun _ => rfl
    direct := fun _ _ _ some => absurd some (Nat.lt_irrefl 0)
    iovec := fun _ _ some => absurd some (Nat.lt_irrefl 0)
    small := by
      change 0 < sizeWord
      decide
    calling := fun some => absurd some Bool.false_ne_true
    waiting := fun _ member => absurd member not_mem_nil
    returned := fun _ member => absurd member not_mem_nil }
  content := fun _ => rfl

/-- In every run, whatever the sockets accept and however calls and schedulers are interleaved,
every socket has accepted the front of what was scheduled, and calls that returned without error
and not blocked had sent everything scheduled. -/
theorem accepted_in_order (closes : Fin n → Bool) (limits : Fin n → Nat)
    (events : List (SendEvent n)) (guarded : Machine.Guarded Sends.step
      (fun state event => state.Legal event ∧ state.WritesApart event)
      (init fun conn => .init (closes conn) (limits conn)) events) (conn : Fin n) :
    let after := (Machine.run Sends.step
      (init fun conn => .init (closes conn) (limits conn)) events).conns conn
    after.accepted <+: after.scheduled ∧
      ∀ ret ∈ after.returns, ret.nsent.isSome → ret.isBlocked = false →
        ret.accepted = ret.scheduled := by
  have ok := guarded.invariant (fun _ _ ok guard => ok.step guard.1 guard.2) (ok_init closes limits)
  refine ⟨?_, (ok.shape conn).returned⟩
  rw [ok.content conn]
  exact prefix_append _ _

/-- Two connections that are sent the same message of 9 bytes and 7 bytes of padding. -/
def sharedMessage : List (SendEvent 2) :=
  [.alloc [0, 0, 0, 0, 0, 0, 0], .alloc [1, 2, 3, 4, 5, 6, 7, 8, 9]] ++
    sendAllMadhavaEvent 1 0 9 7 [0, 1]

/-- The first socket takes the message in two parts that end at the ends of its buffers. -/
theorem shared_message_in_order :
    let events := sharedMessage ++
      [.sendData 0, .writeReturns 0 (.accept 8), .sendData 1, .writeReturns 1 (.accept 15),
        .sendData 0, .writeReturns 0 (.accept 6)]
    let after := Machine.run Sends.step (init fun _ => .init false 4) events
    (after.conns 0).accepted <+: (after.conns 0).scheduled ∧
      ∀ ret ∈ (after.conns 0).returns, ret.nsent.isSome → ret.isBlocked = false →
        ret.accepted = ret.scheduled :=
  accepted_in_order (fun _ => false) (fun _ => 4) _ (by decide) 0

/-- The first socket takes three bytes; the bytes left are moved to the start of the buffer
that the second connection is to send too. -/
theorem shared_message_moved :
    let events := sharedMessage ++
      [.sendData 0, .writeReturns 0 (.accept 2), .sendData 1, .writeReturns 1 (.accept 15)]
    let after := Machine.run Sends.step (init fun _ => .init false 4) events
    Machine.Guarded Sends.step Legal (init fun _ => .init false 4) events ∧
      (after.conns 1).accepted = [4, 5, 6, 7, 8, 9, 7, 8, 9, 0, 0, 0, 0, 0, 0, 0] ∧
      ¬ (after.conns 1).accepted <+: (after.conns 1).scheduled := by
  decide

end Sends

end Gyeeta.Conn
