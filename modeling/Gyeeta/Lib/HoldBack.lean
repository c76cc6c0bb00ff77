import Mathlib.Data.List.Sort

/-!
# Hold-back delivery

Items of a stream are to be delivered in the order of their positions.  The machine holds back
what arrives too early.  When the missing item arrives it is delivered alone; the held items
leave the buffer only on the next arrival, all together and followed by the item that just
arrived.

`Accepts` describes the arrival orders after which such a machine has delivered every item in
order, and `InTime` the same orders without a machine.
-/

namespace Gyeeta.HoldBack

open List

variable {α : Type}

/-- What the machine is waiting for. -/
inductive Mode (α : Type) where
  /-- Nothing is held. -/
  | idle
  /-- The next item is missing and later ones are held. -/
  | hole (held : List α)
  /-- The missing item has been delivered, the held ones have not. -/
  | filled (held : List α)

/-- The items held in a mode. -/
def Mode.held : Mode α → List α
  | .idle => []
  | .hole held | .filled held => held

/-- Insert an item into the held ones, ordered by position. -/
def place (pos : α → Nat) (item : α) (held : List α) : List α :=
  held.orderedInsert (fun left right => pos left ≤ pos right) item

lemma place_perm (pos : α → Nat) (item : α) (held : List α) :
    (place pos item held).Perm (item :: held) :=
  perm_orderedInsert _ item held

lemma place_sorted (pos : α → Nat) (item : α) {held : List α}
    (sorted : held.Pairwise fun left right => pos left ≤ pos right) :
    (place pos item held).Pairwise fun left right => pos left ≤ pos right := by
  exact sorted.orderedInsert item held

lemma place_increasing (pos : α → Nat) {item : α} {held : List α}
    (increasing : held.Pairwise fun left right => pos left < pos right)
    (new : ∀ other ∈ held, pos item ≠ pos other) :
    (place pos item held).Pairwise fun left right => pos left < pos right := by
  have sorted := place_sorted pos item (increasing.imp Nat.le_of_lt)
  have distinct : ((item :: held).map pos).Nodup := by
    refine nodup_cons.mpr ⟨?_, pairwise_map.mpr (increasing.imp Nat.ne_of_lt)⟩
    intro mem
    obtain ⟨other, otherHeld, equal⟩ := mem_map.mp mem
    exact new other otherHeld equal.symm
  have placedDistinct := ((place_perm pos item held).map pos).nodup_iff.mpr distinct
  exact (sorted.and (pairwise_map.mp placedDistinct)).imp
    fun both => Nat.lt_of_le_of_ne both.1 both.2

/-- From this mode, with `todo` still to be delivered in this order, the arrivals
lead to the delivery of all of `todo`.  `mayHold next item` tells whether `item` can
be held while `next` is missing. -/
def Accepts (pos : α → Nat) (mayHold : α → α → Prop) : Mode α → List α → List α → Prop
  | .idle, todo, [] => todo = []
  | .hole _, _, [] => False
  | .filled _, _, [] => False
  | .idle, todo, item :: arrivals =>
    (∃ rest, todo = item :: rest ∧ Accepts pos mayHold .idle rest arrivals) ∨
    (∃ next rest, todo = next :: rest ∧ item ≠ next ∧ mayHold next item ∧
      Accepts pos mayHold (.hole [item]) todo arrivals)
  | .hole held, todo, item :: arrivals =>
    (∃ rest, todo = item :: rest ∧ Accepts pos mayHold (.filled held) rest arrivals) ∨
    (∃ next rest, todo = next :: rest ∧ item ≠ next ∧
      Accepts pos mayHold (.hole (place pos item held)) todo arrivals)
  | .filled held, todo, item :: arrivals =>
    ∃ rest, todo = held ++ item :: rest ∧ Accepts pos mayHold .idle rest arrivals

/-- The arrival orders that a hold-back machine delivers completely: at each time
the next item arrives, or some items arrive before it that may be held, which are
exactly those right behind it, and then the next item and the one behind the held
items arrive, one immediately after the other. -/
inductive InTime (mayHold : α → α → Prop) : List α → List α → Prop where
  | nil : InTime mayHold [] []
  | next {item : α} {items arrivals : List α} (later : InTime mayHold items arrivals) :
      InTime mayHold (item :: items) (item :: arrivals)
  | early {next first behind : α} {held block items arrivals : List α}
      (hold : mayHold next first) (fits : (first :: held).Perm block)
      (later : InTime mayHold items arrivals) :
      InTime mayHold (next :: (block ++ behind :: items))
        (first :: (held ++ next :: behind :: arrivals))

section

variable {pos : α → Nat} {mayHold : α → α → Prop}

/-! ## Single arrivals -/

variable {item next : α} {rest arrivals held : List α}

lemma accepts_idle_next : Accepts pos mayHold .idle (item :: rest) (item :: arrivals) ↔
      Accepts pos mayHold .idle rest arrivals := by
  constructor
  · rintro (⟨rest', equal, idle⟩ | ⟨next, rest', equal, ne, -⟩)
    · rwa [(List.cons.inj equal).2]
    · exact absurd (List.cons.inj equal).1 ne
  · intro idle
    exact .inl ⟨rest, rfl, idle⟩

lemma accepts_idle_early (ne : item ≠ next) :
    Accepts pos mayHold .idle (next :: rest) (item :: arrivals) ↔
      mayHold next item ∧ Accepts pos mayHold (.hole [item]) (next :: rest) arrivals := by
  constructor
  · rintro (⟨rest', equal, -⟩ | ⟨next', rest', equal, -, hold, holding⟩)
    · exact absurd (List.cons.inj equal).1.symm ne
    · obtain ⟨rfl, rfl⟩ := List.cons.inj equal
      exact ⟨hold, holding⟩
  · rintro ⟨hold, holding⟩
    exact .inr ⟨next, rest, rfl, ne, hold, holding⟩

lemma accepts_hole_next : Accepts pos mayHold (.hole held) (item :: rest) (item :: arrivals) ↔
      Accepts pos mayHold (.filled held) rest arrivals := by
  constructor
  · rintro (⟨rest', equal, filled⟩ | ⟨next, rest', equal, ne, -⟩)
    · rwa [(List.cons.inj equal).2]
    · exact absurd (List.cons.inj equal).1 ne
  · intro filled
    exact .inl ⟨rest, rfl, filled⟩

lemma accepts_hole_early (ne : item ≠ next) :
    Accepts pos mayHold (.hole held) (next :: rest) (item :: arrivals) ↔
      Accepts pos mayHold (.hole (place pos item held)) (next :: rest) arrivals := by
  constructor
  · rintro (⟨rest', equal, -⟩ | ⟨-, -, -, -, holding⟩)
    · exact absurd (List.cons.inj equal).1.symm ne
    · exact holding
  · intro holding
    exact .inr ⟨next, rest, rfl, ne, holding⟩

variable {todo : List α}

lemma Accepts.filled_split (accepts : Accepts pos mayHold (.filled held) todo arrivals) :
    ∃ item rest later, arrivals = item :: later ∧ todo = held ++ item :: rest := by
  cases arrivals with
  | nil => exact accepts.elim
  | cons item arrivals =>
    obtain ⟨rest, equal, -⟩ := accepts
    exact ⟨item, rest, arrivals, rfl, equal⟩

/-! ## Hold phases -/

lemma Accepts.hole_split (accepts : Accepts pos mayHold (.hole held) todo arrivals) :
    ∃ next more behind block items rest, arrivals = more ++ next :: behind :: rest ∧
      todo = next :: (block ++ behind :: items) ∧ (held ++ more).Perm block ∧
      Accepts pos mayHold .idle items rest := by
  induction arrivals generalizing held with
  | nil => exact accepts.elim
  | cons item arrivals ih =>
    rcases accepts with ⟨rest, rfl, filled⟩ | ⟨next, rest, rfl, -, holding⟩
    · cases arrivals with
      | nil => exact filled.elim
      | cons behind arrivals =>
        obtain ⟨items, rfl, idle⟩ := filled
        exact ⟨item, [], behind, held, items, arrivals, rfl, rfl, by simp, idle⟩
    · obtain ⟨next', more, behind, block, items, rest', rfl, same, fits, idle⟩ := ih holding
      refine ⟨next', item :: more, behind, block, items, rest', rfl, same, ?_, idle⟩
      have moved := perm_middle.trans ((place_perm pos item held).symm.append_right more)
      exact moved.trans fits

lemma accepts_hole_append {more : List α} (held : List α)
    (missing : next ∉ more) : Accepts pos mayHold (.hole held) (next :: rest) (more ++ arrivals) ↔
      Accepts pos mayHold (.hole (more.foldl (fun held item => place pos item held) held))
        (next :: rest) arrivals := by
  induction more generalizing held with
  | nil => rfl
  | cons item more ih =>
    have ne : item ≠ next := fun equal => missing (by simp [equal])
    have restMissing : next ∉ more := fun mem => missing (by simp [mem])
    rw [cons_append, foldl_cons, ← ih _ restMissing]
    exact accepts_hole_early ne

lemma foldl_place_perm (held more : List α) :
    (more.foldl (fun held item => place pos item held) held).Perm (held ++ more) := by
  induction more generalizing held with
  | nil => simp
  | cons item more ih =>
    have moved := ((place_perm pos item held).append_right more).trans perm_middle.symm
    exact (ih _).trans moved

lemma foldl_place_sorted (more : List α)
    (sorted : held.Pairwise fun left right => pos left ≤ pos right) :
    (more.foldl (fun held item => place pos item held) held).Pairwise
      fun left right => pos left ≤ pos right := by
  induction more generalizing held with
  | nil => exact sorted
  | cons item more ih =>
    exact ih (place_sorted pos item sorted)

lemma foldl_place_eq {first : α} {block : List α} (fits : (first :: held).Perm block)
    (increasing : block.Pairwise fun left right => pos left < pos right) :
    held.foldl (fun held item => place pos item held) [first] = block := by
  have permuted : (held.foldl (fun held item => place pos item held) [first]).Perm block :=
    (foldl_place_perm [first] held).trans fits
  have sorted := foldl_place_sorted held
    (pairwise_singleton (fun left right => pos left ≤ pos right) first)
  have distinct : (block.map pos).Nodup :=
    pairwise_map.mpr (increasing.imp Nat.ne_of_lt)
  refine permuted.eq_of_pairwise ?_ sorted (increasing.imp Nat.le_of_lt)
  intro left right leftMem rightMem leftLe rightLe
  exact inj_on_of_nodup_map distinct (permuted.subset leftMem) rightMem
    (Nat.le_antisymm leftLe rightLe)

end

variable {arrivals items : List α}

lemma Accepts.inTime {pos : α → Nat} {mayHold : α → α → Prop}
    (accepts : Accepts pos mayHold .idle items arrivals) : InTime mayHold items arrivals := by
  -- A hold phase consumes several arrivals, so the induction is on their number.
  induction lengthEq : arrivals.length using Nat.strong_induction_on
    generalizing items arrivals with
  | _ length ih =>
    subst lengthEq
    cases arrivals with
    | nil =>
      cases (show items = [] from accepts)
      exact .nil
    | cons item arrivals =>
      rcases accepts with ⟨rest, rfl, idle⟩ | ⟨next, rest, rfl, -, hold, holding⟩
      · exact .next (ih _ (by simp) idle rfl)
      · obtain ⟨next', more, behind, block, items, rest', rfl, same, fits, idle⟩ :=
          Accepts.hole_split holding
        obtain ⟨rfl, rfl⟩ := List.cons.inj same
        exact .early hold fits (ih _ (by simp; omega) idle rfl)

lemma accepts_iff_inTime (pos : α → Nat) (mayHold : α → α → Prop)
    (increasing : items.Pairwise fun left right => pos left < pos right) :
    Accepts pos mayHold .idle items arrivals ↔ InTime mayHold items arrivals := by
  refine ⟨Accepts.inTime, fun inTime => ?_⟩
  induction inTime with
  | nil => rfl
  | next later ih =>
    exact accepts_idle_next.mpr (ih (pairwise_cons.mp increasing).2)
  | @early next first behind held block items arrivals hold fits later
      ih =>
      obtain ⟨behindNext, restIncreasing⟩ := pairwise_cons.mp increasing
      obtain ⟨blockIncreasing, itemsIncreasing, -⟩ := pairwise_append.mp restIncreasing
      have notHeld : ∀ item ∈ first :: held, item ≠ next := by
        intro item mem equal
        have less := behindNext item (by simp [fits.subset mem])
        exact absurd less (by simp [equal])
      have missing : next ∉ held := fun mem => notHeld next (by simp [mem]) rfl
      refine (accepts_idle_early (notHeld first (by simp))).mpr ⟨hold, ?_⟩
      rw [accepts_hole_append [first] missing, foldl_place_eq fits blockIncreasing,
        accepts_hole_next]
      exact ⟨items, rfl, ih (pairwise_cons.mp itemsIncreasing).2⟩

end Gyeeta.HoldBack
