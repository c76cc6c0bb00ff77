import Mathlib.Data.List.Forall2

/-!
# Traversals that can fail

A traversal of a list succeeds if and only if each of its elements does, and relates the
elements of the list to those of its result.
-/

namespace Gyeeta

open List

variable {Item Result Error : Type} {function : Item → Except Error Result}

lemma bind_eq_ok {result : Except Error Item} {next : Item → Except Error Result}
    {value : Result} :
    result.bind next = .ok value ↔ ∃ item, result = .ok item ∧ next item = .ok value := by
  cases result with
  | error error => exact ⟨nofun, nofun⟩
  | ok item =>
    constructor
    · intro same
      exact ⟨item, rfl, same⟩
    · rintro ⟨_, ⟨⟩, same⟩
      exact same

lemma mapM_eq_ok {items : List Item} {results : List Result} : items.mapM function = .ok results ↔
      List.Forall₂ (fun item result => function item = .ok result) items results := by
  induction items generalizing results with
  | nil =>
    rw [List.forall₂_nil_left_iff]
    constructor
    · rintro ⟨⟩
      rfl
    · rintro rfl
      rfl
  | cons item items ih =>
    rw [List.forall₂_cons_left_iff, mapM_cons]
    change (function item).bind (fun result =>
      (items.mapM function).bind fun rest => .ok (result :: rest)) = _ ↔ _
    rw [bind_eq_ok]
    constructor
    · rintro ⟨result, first, others⟩
      obtain ⟨rest, isRest, ⟨⟩⟩ := bind_eq_ok.mp others
      exact ⟨result, rest, first, ih.mp isRest, rfl⟩
    · rintro ⟨result, rest, first, isRest, rfl⟩
      exact ⟨result, first, bind_eq_ok.mpr ⟨rest, ih.mpr isRest, rfl⟩⟩

variable {relation : Item → Result → Prop} {items : List Item} {results : List Result}

lemma exists_of_forall₂ (related : List.Forall₂ relation items results) {result : Result}
    (mem : result ∈ results) : ∃ item ∈ items, relation item result := by
  induction related with
  | nil => cases mem
  | cons first _ ih =>
    cases mem with
    | head => exact ⟨_, mem_cons_self, first⟩
    | tail _ inRest =>
      obtain ⟨item, inItems, isRelated⟩ := ih inRest
      exact ⟨item, mem_cons_of_mem _ inItems, isRelated⟩

section

variable {first : Item → Bool} {second : Result → Bool}
  (related : List.Forall₂ (fun item result => first item = second result) items results)
include related

lemma any_eq_of_forall₂ : items.any first = results.any second := by
  induction related with
  | nil => rfl
  | cons same _ ih => rw [any_cons, any_cons, same, ih]

lemma all_eq_of_forall₂ : items.all first = results.all second := by
  induction related with
  | nil => rfl
  | cons same _ ih => rw [all_cons, all_cons, same, ih]

end

lemma forall₂_range {indexed : Nat → Item → Prop}
    (holds : ∀ position item, items[position]? = some item → indexed position item) :
    List.Forall₂ indexed (List.range items.length) items := by
  rw [List.forall₂_iff_get]
  refine ⟨length_range, ?_⟩
  intro position inRange inItems
  apply holds
  rw [get_eq_getElem, getElem_range, List.getElem?_eq_getElem inItems]
  rfl

end Gyeeta
