import Mathlib.Data.List.Infix
import Mathlib.Tactic.Ring

/-!
# Characters in buffers

`string_delete_char` and `string_replace_char`.  Behind a deleted character the search goes on
after the one that took its place, and both loops end when only one character is left to look at.
-/

namespace Gyeeta.Misc

open List

/-- The loop of `string_delete_char` over the bytes from `ptmp` to `pend`. -/
def stringDeleteChar (delchar : UInt8) : List UInt8 → List UInt8
  | [] => []
  | char :: rest =>
    if char = delchar then
      match rest with
      | [] => []
      -- the next byte is moved to the place of the deleted one, and `ptmp++` passes it
      | next :: more => next :: if 1 < more.length then stringDeleteChar delchar more else more
    else char :: stringDeleteChar delchar rest

/-- The loop of `string_replace_char` over the bytes from `ptmp` to `pend`. -/
def stringReplaceChar (replacec replaceWith : UInt8) : List UInt8 → List UInt8
  | [] => []
  | char :: rest =>
    if char = replacec then
      replaceWith :: if 1 < rest.length then stringReplaceChar replacec replaceWith rest else rest
    else char :: stringReplaceChar replacec replaceWith rest

variable {char other delchar : UInt8} {rest : List UInt8}

/-- No two neighbours are the character, and it is not the last and the last but two. -/
def Separate (delchar : UInt8) (text : List UInt8) : Prop :=
  ¬[delchar, delchar] <:+: text ∧ ∀ between, ¬[delchar, between, delchar] <:+ text

lemma separate_cons (ne : char ≠ delchar) :
    Separate delchar (char :: rest) ↔ Separate delchar rest := by
  simp [Separate, infix_cons_iff, suffix_cons_iff, ne.symm]

lemma separate_deleted (ne : other ≠ delchar) : Separate delchar (delchar :: other :: rest) ↔
    Separate delchar rest ∧ rest ≠ [delchar] := by
  simp only [Separate, infix_cons_iff, suffix_cons_iff]
  simp [ne.symm]
  grind

lemma deleted_iff (text : List UInt8) :
    stringDeleteChar delchar text = text.filter (· ≠ delchar) ↔ Separate delchar text := by
  fun_induction stringDeleteChar delchar text with
  | case1 => simp [Separate]
  | case2 => simp [Separate, infix_cons_iff, suffix_cons_iff]
  | case3 next more ih =>
    by_cases same : next = delchar
    · subst same
      have adjacent : ¬Separate next (next :: next :: more) := fun separate =>
        separate.1 ⟨[], more, rfl⟩
      refine iff_of_false (fun deleted => ?_) adjacent
      have kept : next ∈ filter (· ≠ next) (next :: next :: more) := deleted ▸ mem_cons_self
      simp at kept
    · rw [separate_deleted same]
      match more with
      | [] => simp [same, Separate]
      | [last] =>
        by_cases isLast : last = delchar <;>
          simp [same, isLast, Separate, infix_cons_iff, suffix_cons_iff]
      | second :: third :: more => simpa [same] using ih
  | case4 char rest ne ih => simpa [ne, separate_cons ne] using ih

lemma replaced_iff {replacec replaceWith : UInt8} (text : List UInt8) :
    stringReplaceChar replacec replaceWith text =
        text.map (fun char => if char = replacec then replaceWith else char) ↔
      replacec = replaceWith ∨ ¬[replacec, replacec] <:+ text := by
  fun_induction stringReplaceChar replacec replaceWith text with
  | case1 => simp
  | case2 rest ih =>
    match rest with
    | [] => simp [suffix_cons_iff]
    | [last] => simp [suffix_cons_iff]; grind
    | second :: third :: more => simpa [suffix_cons_iff] using ih
  | case3 char rest ne ih => simpa [ne, suffix_cons_iff, Ne.symm ne] using ih

/-- All occurrences are deleted exactly when they are not neighbours and the last two are not at
the end with one character between them; all are replaced exactly when the text does not end with
two of them, unless nothing is to be changed. -/
theorem characters_edited_iff (text : List UInt8) (char replaceWith : UInt8) :
    (stringDeleteChar char text = text.filter (· ≠ char) ↔ Separate char text) ∧
      (stringReplaceChar char replaceWith text =
          text.map (fun other => if other = char then replaceWith else other) ↔
        char = replaceWith ∨ ¬[char, char] <:+ text) :=
  ⟨deleted_iff text, replaced_iff text⟩

/-- Two neighbours, of which one is left. -/
theorem second_character_left :
    stringDeleteChar 97 [97, 97] = [97] ∧ stringReplaceChar 97 98 [97, 97] = [98, 97] := by
  decide

end Gyeeta.Misc
