import Gyeeta.Lib.Bytes

/-!
# Cursors of a session

A session keeps the texts of its cursors in a map of bounded size.  Adding a cursor to a full
map first evicts the ones that were not used for some time, in a loop over the map whose
iterator is only moved by the evictions.
-/

namespace Gyeeta.Mongo

open List

/-- `MG_MAX_SESS_CURSORS`. -/
def maxSessCursors : Nat := 128

structure MgCursor where
  dynSql : Bytes
  dynPrepReqnum : Nat
  dynPrepTime : Int
  tlastsec : Int
  deriving DecidableEq, Repr

/-- The constructor, which cuts a long text. -/
def MgCursor.new (sql : Bytes) (reqnum : Nat) (preptime : Int) : MgCursor :=
  ⟨sql.take 126, reqnum, preptime, preptime⟩

/-- `dsql_map_` in the order of its iteration. -/
abbrev CursorMap := List (Nat × MgCursor)

/-- The calls, each with what it reads of the session: the text, number and time of the
request, and the time of the last packet. -/
inductive CursorCall where
  | add (curid : Nat) (sql : Bytes) (reqnum : Nat) (preptime : Int)
  | get (curid : Nat) (tlastpkt : Int)
  | close (curid : Nat)
  deriving DecidableEq, Repr

/-- The loop of the eviction.  Its other branch increments `it` in place of `cit`, so the
next round looks at the same cursor. -/
def evictLoop (tmin : Int) : Nat → CursorMap → Nat → Option (CursorMap × Nat)
  | 0, _, _ => none
  | _ + 1, [], ndel => some ([], ndel)
  | fuel + 1, entry :: rest, ndel =>
    if entry.2.tlastsec < tmin then evictLoop tmin fuel rest (ndel + 1)
    else evictLoop tmin fuel (entry :: rest) ndel

/-- The order of the hash map after an insertion, which may have moved all entries. -/
structure HashOrder where
  rehash : CursorMap → CursorMap
  perm : ∀ map, (rehash map).Perm map

section Calls

variable (order : HashOrder)

/-- `try_emplace` of a new key. -/
def tryEmplace (curid : Nat) (cursor : MgCursor) (map : CursorMap) : CursorMap :=
  order.rehash ((curid, cursor) :: map)

/-- `add_cursor`, with the fuel of its loop. -/
def addCursor (fuel curid : Nat) (sql : Bytes) (reqnum : Nat) (preptime : Int)
    (map : CursorMap) : Option CursorMap :=
  let cursor := MgCursor.new sql reqnum preptime
  if curid ∈ map.map Prod.fst then
    some (map.map fun entry => if entry.1 = curid then (curid, cursor) else entry)
  else if map.length < maxSessCursors then some (tryEmplace order curid cursor map)
  else
    (evictLoop (preptime - 300) fuel map 0).map fun (map, ndel) =>
      if 0 < ndel then tryEmplace order curid cursor map else map

/-- `get_cursor_text`, `add_cursor` and `close_cursor` on the map. -/
def cursorStep (fuel : Nat) (map : CursorMap) : CursorCall → Option CursorMap
  | .add curid sql reqnum preptime => addCursor order fuel curid sql reqnum preptime map
  | .get curid tlastpkt => some (map.map fun entry =>
    if entry.1 = curid then (curid, { entry.2 with tlastsec := tlastpkt }) else entry)
  | .close curid => some (if curid = 0 then map else map.filter (·.1 ≠ curid))

/-- What a call has to do: the map stays within its size, and an eviction removes the cursors
that were last used more than 300 seconds before the request, and no others. -/
structure Exact (map after : CursorMap) (call : CursorCall) : Prop where
  size : after.length ≤ maxSessCursors
  evicts : ∀ {curid sql reqnum preptime}, call = .add curid sql reqnum preptime →
    curid ∉ map.map Prod.fst → maxSessCursors ≤ map.length →
    ∀ entry ∈ map, entry ∈ after ↔ ¬preptime - entry.2.tlastsec > 300

/-- Every call of a sequence terminates and does what it has to do. -/
def AllExact : CursorMap → List CursorCall → Prop
  | _, [] => True
  | map, call :: calls => ∃ fuel after, cursorStep order fuel map call = some after ∧
    Exact map after call ∧ AllExact after calls

/-- A cursor that is new and finds the map full finds only cursors that were last used more
than 300 seconds before. -/
def Allowed (map : CursorMap) : CursorCall → Prop
  | .add curid _ _ preptime => curid ∈ map.map Prod.fst ∨ map.length < maxSessCursors ∨
    ∀ entry ∈ map, preptime - entry.2.tlastsec > 300
  | _ => True

/-- Every call of a sequence is allowed in the map before it. -/
def AllAllowed : CursorMap → List CursorCall → Prop
  | _, [] => True
  | map, call :: calls => Allowed map call ∧
    ∀ fuel after, cursorStep order fuel map call = some after → AllAllowed after calls

/-! ## The eviction -/

variable {order}

variable {fuel : Nat} {map : CursorMap} {call : CursorCall}

lemma evictLoop_eq_some {tmin : Int} {ndel : Nat}
    {result : CursorMap × Nat} (ends : evictLoop tmin fuel map ndel = some result) :
    (∀ entry ∈ map, entry.2.tlastsec < tmin) ∧ result = ([], ndel + map.length) := by
  induction fuel generalizing map ndel with
  | zero => contradiction
  | succ fuel ih =>
    cases map with
    | nil =>
      refine ⟨fun _ mem => ?_, (Option.some.inj ends).symm⟩
      contradiction
    | cons entry rest =>
      rw [evictLoop] at ends
      split at ends
      next old =>
        obtain ⟨allOld, isResult⟩ := ih ends
        refine ⟨forall_mem_cons.mpr ⟨old, allOld⟩, isResult.trans ?_⟩
        rw [length_cons, Nat.add_right_comm, Nat.add_assoc]
      · next recent => exact absurd ((ih ends).1 entry mem_cons_self) recent

lemma evictLoop_of_old {tmin : Int} (old : ∀ entry ∈ map, entry.2.tlastsec < tmin) (ndel : Nat) :
    evictLoop tmin (map.length + 1) map ndel = some ([], ndel + map.length) := by
  induction map generalizing ndel with
  | nil => rfl
  | cons entry rest ih =>
    rw [forall_mem_cons] at old
    rw [length_cons, evictLoop, if_pos old.1, ih old.2, Nat.add_right_comm, Nat.add_assoc]

lemma length_tryEmplace (curid : Nat) (cursor : MgCursor) (map : CursorMap) :
    (tryEmplace order curid cursor map).length = map.length + 1 :=
  (order.perm _).length_eq

lemma exact_of_allowed (size : map.length ≤ maxSessCursors) (allowed : Allowed map call) :
    (∃ fuel after, cursorStep order fuel map call = some after) ∧
      ∀ fuel after, cursorStep order fuel map call = some after → Exact map after call := by
  cases call with
  | get curid tlastpkt =>
    refine ⟨⟨0, _, rfl⟩, fun _ after isAfter => ?_⟩
    cases isAfter
    exact ⟨by rw [length_map]; exact size, nofun⟩
  | close curid =>
    refine ⟨⟨0, _, rfl⟩, fun _ after isAfter => ?_⟩
    cases isAfter
    refine ⟨?_, nofun⟩
    split
    · exact size
    · exact Nat.le_trans (length_filter_le _ _) size
  | add curid sql reqnum preptime =>
    simp only [cursorStep, addCursor]
    by_cases known : curid ∈ map.map Prod.fst
    · simp only [if_pos known]
      refine ⟨⟨0, _, rfl⟩, fun _ after isAfter => ?_⟩
      cases isAfter
      refine ⟨by rw [length_map]; exact size, ?_⟩
      intro _ _ _ _ isCall isNew
      cases isCall
      exact absurd known isNew
    simp only [if_neg known]
    by_cases room : map.length < maxSessCursors
    · simp only [if_pos room]
      refine ⟨⟨0, _, rfl⟩, fun _ after isAfter => ?_⟩
      cases isAfter
      exact ⟨by rw [length_tryEmplace]; omega, fun _ _ full => absurd room (by omega)⟩
    simp only [if_neg room]
    have old : ∀ entry ∈ map, entry.2.tlastsec < preptime - 300 := by
      rcases allowed with isKnown | isRoom | old
      · exact absurd isKnown known
      · exact absurd isRoom room
      · intro entry mem
        have := old entry mem
        omega
    refine ⟨⟨map.length + 1, _, by rw [evictLoop_of_old old]; rfl⟩, fun fuel after isAfter => ?_⟩
    obtain ⟨result, ends, isResult⟩ := Option.map_eq_some_iff.mp isAfter
    have isEmpty := (evictLoop_eq_some ends).2
    subst isEmpty
    have : 0 < maxSessCursors := by decide
    rw [if_pos (show 0 < 0 + map.length by omega)] at isResult
    subst isResult
    constructor
    · rw [length_tryEmplace]
      show 0 + 1 ≤ maxSessCursors
      decide
    intro _ _ _ _ isCall _ _ entry mem
    cases isCall
    have isOld := old entry mem
    have gone : entry ∉ tryEmplace order curid (.new sql reqnum preptime) [] := by
      intro isNew
      have isOnly := mem_singleton.mp ((order.perm _).mem_iff.mp isNew)
      rw [isOnly] at mem
      exact known (mem_map_of_mem mem)
    exact ⟨fun isNew => absurd isNew gone, fun recent => absurd recent (by omega)⟩

lemma allowed_of_ends {after : CursorMap}
    (ends : cursorStep order fuel map call = some after) : Allowed map call := by
  cases call with
  | get | close => trivial
  | add curid sql reqnum preptime =>
    simp only [cursorStep, addCursor] at ends
    by_cases known : curid ∈ map.map Prod.fst
    · exact .inl known
    by_cases room : map.length < maxSessCursors
    · exact .inr (.inl room)
    rw [if_neg known, if_neg room] at ends
    obtain ⟨result, evicted, -⟩ := Option.map_eq_some_iff.mp ends
    refine .inr (.inr fun entry mem => ?_)
    have := (evictLoop_eq_some evicted).1 entry mem
    omega

lemma cursorStep_unique {first second : CursorMap} {more : Nat}
    (isFirst : cursorStep order fuel map call = some first)
    (isSecond : cursorStep order more map call = some second) : first = second := by
  cases call with
  | get | close => exact Option.some.inj (isFirst.symm.trans isSecond)
  | add curid sql reqnum preptime =>
    simp only [cursorStep, addCursor] at isFirst isSecond
    split at isFirst
    next known =>
      rw [if_pos known] at isSecond
      exact Option.some.inj (isFirst.symm.trans isSecond)
    next new =>
    rw [if_neg new] at isSecond
    split at isFirst
    next room =>
      rw [if_pos room] at isSecond
      exact Option.some.inj (isFirst.symm.trans isSecond)
    next full =>
    rw [if_neg full] at isSecond
    obtain ⟨_, ends, rfl⟩ := Option.map_eq_some_iff.mp isFirst
    obtain ⟨_, endsToo, rfl⟩ := Option.map_eq_some_iff.mp isSecond
    rw [(evictLoop_eq_some ends).2, (evictLoop_eq_some endsToo).2]

lemma allExact_iff (calls : List CursorCall) (size : map.length ≤ maxSessCursors) :
    AllExact order map calls ↔ AllAllowed order map calls := by
  induction calls generalizing map with
  | nil => exact Iff.rfl
  | cons call calls ih =>
    constructor
    · rintro ⟨fuel, after, ends, exact, later⟩
      refine ⟨allowed_of_ends ends, fun more other endsToo => ?_⟩
      rw [← cursorStep_unique ends endsToo]
      exact (ih exact.size).mp later
    · rintro ⟨allowed, later⟩
      obtain ⟨⟨fuel, after, ends⟩, exact⟩ := exact_of_allowed size allowed
      have isExact := exact fuel after ends
      exact ⟨fuel, after, ends, isExact, (ih isExact.size).mpr (later fuel after ends)⟩

/-- In every sequence of calls of a session, all calls end and do what they have to, exactly
when each of them is allowed. -/
theorem cursors_exact_iff (order : HashOrder) (calls : List CursorCall) :
    AllExact order [] calls ↔ AllAllowed order [] calls :=
  allExact_iff calls (Nat.zero_le _)

end Calls

/-- After 128 cursors at second 1000, the call for another one at that second does not end. -/
theorem eviction_never_ends :
    let order : HashOrder := ⟨id, .refl⟩
    let map := (List.range 128).reverse.map fun curid => (curid, MgCursor.new [] 0 1000)
    (List.range 128).foldlM (fun map curid => cursorStep order 0 map (.add curid [] 0 1000)) [] =
        some map ∧
      ¬∃ fuel after, cursorStep order fuel map (.add 128 [] 0 1000) = some after := by
  refine ⟨by decide +kernel, ?_⟩
  rintro ⟨fuel, after, ends⟩
  rcases allowed_of_ends ends with known | room | old
  · exact absurd known (by decide +kernel)
  · exact absurd room (by decide +kernel)
  · exact absurd (old (0, MgCursor.new [] 0 1000) (by decide +kernel)) (by decide)

end Gyeeta.Mongo
