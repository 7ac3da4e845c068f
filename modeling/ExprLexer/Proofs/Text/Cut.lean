import ExprLexer.Text
import Mathlib.Data.List.Chain

/-!
Texts cut into parts.

The parts make up the text, each of them is as it should be, and so is every pair of neighbours.
A cut is taken apart from the front: the first part, what may stand right after it, and a cut of
the rest. It can also be taken apart between any two of its parts, and two cuts are put together
where the parts that meet may do so.
-/

namespace ExprLexer

/-- The values of the parts make up the text, all are `Part`s, and neighbours may stand `Beside`
each other. -/
structure Cut {α : Type} (value : α → Text) (Part : α → Prop) (Beside : α → α → Prop) (s : Text)
    (xs : List α) : Prop where
  concat : xs.flatMap value = s
  part : ∀ x ∈ xs, Part x
  beside : xs.IsChain Beside

namespace Cut

variable {α : Type} {value : α → Text} {Part : α → Prop} {Beside : α → α → Prop} {s : Text}
  {x : α} {xs ys : List α}

lemma nil_iff : Cut value Part Beside s [] ↔ s = [] :=
  ⟨fun h => h.concat.symm, fun h => ⟨h.symm, by simp, .nil⟩⟩

lemma cons_iff :
    Cut value Part Beside s (x :: xs) ↔ ∃ rest, value x ++ rest = s ∧ Part x ∧
      Cut value Part Beside rest xs ∧ ∀ y ∈ xs.head?, Beside x y := by
  constructor
  · rintro ⟨hs, hpart, hchain⟩
    obtain ⟨hx, hxs⟩ := List.forall_mem_cons.mp hpart
    obtain ⟨hy, hchain⟩ := List.isChain_cons.mp hchain
    exact ⟨_, hs, hx, ⟨rfl, hxs, hchain⟩, hy⟩
  · rintro ⟨rest, rfl, hx, ⟨rfl, hxs, hchain⟩, hy⟩
    exact ⟨rfl, List.forall_mem_cons.mpr ⟨hx, hxs⟩, List.isChain_cons.mpr ⟨hy, hchain⟩⟩

lemma append_iff :
    Cut value Part Beside s (xs ++ ys) ↔ ∃ u v, u ++ v = s ∧ Cut value Part Beside u xs ∧
      Cut value Part Beside v ys ∧ ∀ x ∈ xs.getLast?, ∀ y ∈ ys.head?, Beside x y := by
  constructor
  · rintro ⟨hs, hpart, hchain⟩
    obtain ⟨hxs, hys⟩ := List.forall_mem_append.mp hpart
    obtain ⟨hx, hy, hmeet⟩ := List.isChain_append.mp hchain
    exact ⟨_, _, List.flatMap_append.symm.trans hs, ⟨rfl, hxs, hx⟩, ⟨rfl, hys, hy⟩, hmeet⟩
  · rintro ⟨-, -, rfl, ⟨rfl, hxs, hx⟩, ⟨rfl, hys, hy⟩, hmeet⟩
    exact ⟨List.flatMap_append, List.forall_mem_append.mpr ⟨hxs, hys⟩,
      List.isChain_append.mpr ⟨hx, hy, hmeet⟩⟩

end Cut

end ExprLexer
