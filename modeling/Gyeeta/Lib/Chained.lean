import Mathlib.Data.List.Nodup
import Mathlib.Data.List.Perm.Basic
import Mathlib.Logic.Function.Basic

/-!
# Tables of chains

A table keeps pairs of a key and a value in chains.  The chain of a key is computed outside of
the table.  A new pair goes behind the first one of its chain, and a key is searched for from
the start of its chain.
-/

namespace Gyeeta.Chained

open List Function

variable {Key Val Image Other : Type} [BEq Key] [LawfulBEq Key] [BEq Image] [LawfulBEq Image]

/-! ## Pairs with distinct keys -/

variable {key : Key}

section

variable {pairs : List (Key × Val)}

lemma lookup_eq_some_iff (distinct : (pairs.map Prod.fst).Nodup) {val : Val} :
    pairs.lookup key = some val ↔ (key, val) ∈ pairs := by
  induction pairs with
  | nil => simp
  | cons pair pairs ih =>
    obtain ⟨other, value⟩ := pair
    rw [map_cons, nodup_cons] at distinct
    by_cases same : key = other
    · subst same
      have absent : (key, val) ∉ pairs := fun mem =>
        distinct.1 (mem_map.mpr ⟨_, mem, rfl⟩)
      rw [lookup_cons_self, mem_cons, or_iff_left absent, Option.some_inj,
        Prod.mk.injEq, and_iff_right rfl, eq_comm]
    · rw [lookup_cons, beq_false_of_ne same, mem_cons, Prod.mk.injEq]
      simp only [same, false_and, false_or]
      exact ih distinct.2

lemma lookup_eq_none_iff : pairs.lookup key = none ↔ key ∉ pairs.map Prod.fst := by
  rw [List.lookup_eq_none_iff]
  simp only [mem_map, not_exists, not_and, bne_iff_ne, ne_eq]
  exact ⟨fun none pair mem same => none pair mem same.symm,
    fun none pair mem same => none pair mem same.symm⟩

lemma filter_eq_self (none : pairs.lookup key = none) : pairs.filter (·.1 != key) = pairs := by
  rw [lookup_eq_none_iff] at none
  apply List.filter_eq_self.mpr
  intro pair mem
  apply bne_iff_ne.mpr
  rintro rfl
  exact none (mem_map_of_mem mem)

lemma perm_cons_filter (distinct : (pairs.map Prod.fst).Nodup) {val : Val}
    (mem : (key, val) ∈ pairs) : pairs.Perm ((key, val) :: pairs.filter (·.1 != key)) := by
  have nodup : pairs.Nodup := distinct.of_map _
  refine (perm_ext_iff_of_nodup nodup (nodup_cons.mpr ⟨by simp, nodup.filter _⟩)).mpr fun pair => ?_
  rw [mem_cons, mem_filter, bne_iff_ne]
  refine ⟨fun inPairs => ?_, ?_⟩
  · by_cases same : pair.1 = key
    · have isVal := (lookup_eq_some_iff distinct).mpr
        (show (key, pair.2) ∈ pairs from same ▸ inPairs)
      rw [(lookup_eq_some_iff distinct).mpr mem] at isVal
      exact .inl (Prod.ext same (Option.some.inj isVal).symm)
    · exact .inr ⟨inPairs, same⟩
  · rintro (rfl | ⟨inPairs, -⟩)
    · exact mem
    · exact inPairs

lemma eraseP_eq_filter (distinct : (pairs.map Prod.fst).Nodup)
    (key : Key) : pairs.eraseP (·.1 == key) = pairs.filter (·.1 != key) := by
  induction pairs with
  | nil => rfl
  | cons pair pairs ih =>
    rw [map_cons, nodup_cons] at distinct
    by_cases same : pair.1 = key
    · have others : ∀ other ∈ pairs, other.1 ≠ key := fun other mem isKey =>
        distinct.1 (same ▸ isKey ▸ mem_map_of_mem mem)
      rw [eraseP_cons_of_pos (by simpa using same), filter_cons_of_neg (by simpa using same),
        List.filter_eq_self.mpr fun other mem => bne_iff_ne.mpr (others other mem)]
    · rw [eraseP_cons_of_neg (by simpa using same),
        filter_cons_of_pos (by simpa using same), ih distinct.2]

end

omit [LawfulBEq Key] in
lemma lookup_map_val (pairs : List (Key × Val)) (image : Val → Other) (key : Key) :
    (pairs.map fun pair => (pair.1, image pair.2)).lookup key = (pairs.lookup key).map image := by
  induction pairs with
  | nil => rfl
  | cons pair pairs ih =>
    rw [map_cons, lookup_cons, lookup_cons, ih]
    cases key == pair.1 <;> rfl

lemma lookup_map_key (pairs : List (Key × Val)) (encode : Key → Image)
    (injective : ∀ pair ∈ pairs, encode pair.1 = encode key → pair.1 = key) :
    (pairs.map fun pair => (encode pair.1, pair.2)).lookup (encode key) = pairs.lookup key := by
  induction pairs with
  | nil => rfl
  | cons pair pairs ih =>
    rw [forall_mem_cons] at injective
    rw [map_cons, lookup_cons, lookup_cons, ih injective.2]
    by_cases same : key = pair.1
    · rw [same, beq_self_eq_true, beq_self_eq_true]
    · have apart : encode key ≠ encode pair.1 := fun isSame =>
        same (injective.1 isSame.symm).symm
      rw [beq_false_of_ne same, beq_false_of_ne apart]

/-! ## Chains -/

/-- A new pair goes behind the first one. -/
def insert (entry : Key × Val) : List (Key × Val) → List (Key × Val)
  | [] => [entry]
  | head :: rest => head :: entry :: rest

omit [BEq Key] [LawfulBEq Key] in
lemma insert_perm (entry : Key × Val) (chain : List (Key × Val)) :
    (insert entry chain).Perm (entry :: chain) := by
  cases chain with
  | nil => exact .refl _
  | cons head rest => exact .swap _ _ _

/-- The chains have the pairs, each in the chain of its key. -/
structure Represents (place : Key → Nat) (table : Nat → List (Key × Val))
    (pairs : List (Key × Val)) : Prop where
  distinct : (pairs.map Prod.fst).Nodup
  chain_distinct : ∀ slot, ((table slot).map Prod.fst).Nodup
  mem_iff : ∀ slot entry, entry ∈ table slot ↔ entry ∈ pairs ∧ place entry.1 = slot

namespace Represents

variable {place : Key → Nat} {table : Nat → List (Key × Val)} {pairs : List (Key × Val)}

omit [BEq Key] [LawfulBEq Key] in
lemma empty : Represents place (fun _ => ([] : List (Key × Val))) [] where
  distinct := .nil
  chain_distinct _ := .nil
  mem_iff _ _ := by simp

lemma lookup (represents : Represents place table pairs) (key : Key) :
    (table (place key)).lookup key = pairs.lookup key := by
  refine Option.ext fun val => ?_
  rw [lookup_eq_some_iff (represents.chain_distinct _), lookup_eq_some_iff represents.distinct,
    represents.mem_iff]
  exact and_iff_left rfl

omit [BEq Key] [LawfulBEq Key] in
lemma insert (represents : Represents place table pairs) (fresh : key ∉ pairs.map Prod.fst)
    (val : Val) : Represents place
      (update table (place key) (Chained.insert (key, val) (table (place key))))
      ((key, val) :: pairs) where
  distinct := nodup_cons.mpr ⟨fresh, represents.distinct⟩
  chain_distinct slot := by
    by_cases same : slot = place key
    · subst same
      rw [update_self, ((insert_perm _ _).map _).nodup_iff, map_cons, nodup_cons]
      refine ⟨fun mem => fresh ?_, represents.chain_distinct _⟩
      obtain ⟨entry, inChain, isKey⟩ := mem_map.mp mem
      exact mem_map.mpr ⟨entry, ((represents.mem_iff _ _).mp inChain).1, isKey⟩
    · rw [update_of_ne same]
      exact represents.chain_distinct slot
  mem_iff slot entry := by
    by_cases same : slot = place key
    · subst same
      rw [update_self, (insert_perm _ _).mem_iff, mem_cons, mem_cons, represents.mem_iff]
      constructor
      · rintro (rfl | ⟨mem, placed⟩)
        · exact ⟨.inl rfl, rfl⟩
        · exact ⟨.inr mem, placed⟩
      · rintro ⟨isNew | mem, placed⟩
        · exact .inl isNew
        · exact .inr ⟨mem, placed⟩
    · rw [update_of_ne same, mem_cons, represents.mem_iff]
      constructor
      · rintro ⟨mem, placed⟩
        exact ⟨.inr mem, placed⟩
      · rintro ⟨rfl | mem, placed⟩
        · exact absurd placed.symm same
        · exact ⟨mem, placed⟩

lemma erase (represents : Represents place table pairs) (key : Key) : Represents place
      (update table (place key) ((table (place key)).eraseP (·.1 == key)))
      (pairs.filter (·.1 != key)) where
  distinct := represents.distinct.sublist (filter_sublist.map _)
  chain_distinct slot := by
    by_cases same : slot = place key
    · subst same
      rw [update_self]
      exact (represents.chain_distinct _).sublist (eraseP_sublist.map _)
    · rw [update_of_ne same]
      exact represents.chain_distinct slot
  mem_iff slot entry := by
    by_cases same : slot = place key
    · subst same
      rw [update_self, eraseP_eq_filter (represents.chain_distinct _), mem_filter,
        mem_filter, represents.mem_iff, and_right_comm]
    rw [update_of_ne same, mem_filter, represents.mem_iff, bne_iff_ne]
    constructor
    · rintro ⟨mem, placed⟩
      exact ⟨⟨mem, fun isKey => same (isKey ▸ placed.symm)⟩, placed⟩
    · rintro ⟨⟨mem, -⟩, placed⟩
      exact ⟨mem, placed⟩

end Represents

end Gyeeta.Chained
