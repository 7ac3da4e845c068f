import ExprLexer.Report
import Mathlib.Tactic.Lemma
import Mathlib.Tactic.SplitIfs

/-!
The lines of a difference, as an alignment.

The left sides of the lines are the one list and the right sides the other, in order. As long as
both lists go on, a line has a text on either side and is marked as changed only if they differ;
behind that, what is left of the longer list stands alone. No other lines have these properties: the
lists can be read back from them, and so can the place where the shorter one ends.
-/

namespace ExprLexer

namespace Diff

namespace Line

/-- There is a text on either side. -/
def isPaired : Line → Bool
  | same _ => true
  | changed _ _ => true
  | _ => false

@[simp] lemma left?_same (v : Text) : (same v).left? = some v := rfl
@[simp] lemma left?_changed (l r : Text) : (changed l r).left? = some l := rfl
@[simp] lemma left?_onlyLeft (v : Text) : (onlyLeft v).left? = some v := rfl
@[simp] lemma left?_onlyRight (v : Text) : (onlyRight v).left? = none := rfl
@[simp] lemma right?_same (v : Text) : (same v).right? = some v := rfl
@[simp] lemma right?_changed (l r : Text) : (changed l r).right? = some r := rfl
@[simp] lemma right?_onlyLeft (v : Text) : (onlyLeft v).right? = none := rfl
@[simp] lemma right?_onlyRight (v : Text) : (onlyRight v).right? = some v := rfl

end Line

/-- There are as many lines as the longer list has texts, their sides are the lists, the sides of a
changed line differ, and the lines with one side come last and all have the same one. -/
structure Alignment (ls rs : List Text) (xs : List Line) : Prop where
  length : xs.length = max ls.length rs.length
  left : xs.filterMap Line.left? = ls
  right : xs.filterMap Line.right? = rs
  changed : ∀ l r, .changed l r ∈ xs → l ≠ r
  alone : ∃ both rest, both ++ rest = xs ∧ (∀ x ∈ both, x.isPaired = true) ∧
    ((∃ vs : List Text, rest = vs.map .onlyLeft) ∨ ∃ vs : List Text, rest = vs.map .onlyRight)

variable {ls rs : List Text} {l r v : Text} {both xs : List Line}

lemma lines_nil_left (rs : List Text) : lines [] rs = rs.map .onlyRight := by
  unfold lines
  rfl

lemma lines_nil_right (ls : List Text) : lines ls [] = ls.map .onlyLeft := by
  cases ls <;> rfl

namespace Alignment

/-! ### The lines are an alignment -/

lemma onlyLeft (ls : List Text) : Alignment ls [] (ls.map .onlyLeft) where
  length := by simp
  left := by simp [Function.comp_def]
  right := by simp [Function.comp_def]
  changed := by simp
  alone := ⟨[], _, rfl, by simp, .inl ⟨ls, rfl⟩⟩

lemma onlyRight (rs : List Text) : Alignment [] rs (rs.map .onlyRight) where
  length := by simp
  left := by simp [Function.comp_def]
  right := by simp [Function.comp_def]
  changed := by simp
  alone := ⟨[], _, rfl, by simp, .inr ⟨rs, rfl⟩⟩

/-- A line with two sides goes in front. -/
lemma cons {x : Line} (h : Alignment ls rs xs) (hleft : x.left? = some l)
    (hright : x.right? = some r) (hpaired : x.isPaired = true)
    (hchanged : ∀ l r, x = .changed l r → l ≠ r) : Alignment (l :: ls) (r :: rs) (x :: xs) where
  length := by simp [h.length, Nat.succ_max_succ]
  left := by rw [List.filterMap_cons_some hleft, h.left]
  right := by rw [List.filterMap_cons_some hright, h.right]
  changed := by
    intro l r hmem
    rcases List.mem_cons.mp hmem with hx | hmem
    · exact hchanged l r hx.symm
    · exact h.changed l r hmem
  alone := by
    obtain ⟨both, rest, rfl, hboth, hrest⟩ := h.alone
    exact ⟨x :: both, rest, rfl, List.forall_mem_cons.mpr ⟨hpaired, hboth⟩, hrest⟩

lemma of_lines (ls rs : List Text) : Alignment ls rs (lines ls rs) := by
  fun_induction lines ls rs with
  | case1 rs => exact onlyRight rs
  | case2 ls _ => exact onlyLeft ls
  | case3 l ls r rs ih =>
    split_ifs with hlr
    · subst hlr
      exact ih.cons rfl rfl rfl (by simp)
    · refine ih.cons rfl rfl rfl ?_
      rintro l' r' ⟨⟩
      exact hlr

end Alignment

/-! ### No other lines are -/

/-- Lines with two sides are the lines of their sides, whatever comes behind. -/
lemma lines_append (hpaired : ∀ x ∈ both, x.isPaired = true)
    (hchanged : ∀ l r, .changed l r ∈ both → l ≠ r) (ls rs : List Text) :
    lines (both.filterMap Line.left? ++ ls) (both.filterMap Line.right? ++ rs) =
      both ++ lines ls rs := by
  induction both with
  | nil => rfl
  | cons x both ih =>
    obtain ⟨hx, hboth⟩ := List.forall_mem_cons.mp hpaired
    have ih := ih hboth fun l r h => hchanged l r (List.mem_cons_of_mem x h)
    cases x with
    | same v => simp [lines, ih]
    | changed l r =>
      have hne : l ≠ r := hchanged l r List.mem_cons_self
      simp [lines, hne, ih]
    | onlyLeft v => cases hx
    | onlyRight v => cases hx

lemma Alignment.eq_lines (h : Alignment ls rs xs) : xs = lines ls rs := by
  obtain ⟨-, rfl, rfl, hchanged, both, rest, rfl, hpaired, hrest⟩ := h
  rw [List.filterMap_append, List.filterMap_append, lines_append hpaired fun l r hmem =>
    hchanged l r (List.mem_append_left rest hmem)]
  rcases hrest with ⟨vs, rfl⟩ | ⟨vs, rfl⟩
  · rw [(Alignment.onlyLeft vs).left, (Alignment.onlyLeft vs).right, lines_nil_right]
  · rw [(Alignment.onlyRight vs).left, (Alignment.onlyRight vs).right, lines_nil_left]

end Diff

namespace Report

/-- **The lines of a report are the one alignment** of its pieces and its token values, in any
report: whatever pieces and reading it holds, and whether or not it says that they agree. -/
theorem lines_eq_iff_alignment (r : Report) (xs : List Diff.Line) :
    r.lines = xs ↔ Diff.Alignment r.pieces r.tokenValues xs := by
  constructor
  · rintro rfl
    exact Diff.Alignment.of_lines r.pieces r.tokenValues
  · intro h
    exact h.eq_lines.symm

example : Diff.lines [['1'], ['+'], ['a']] [['1'], ['-']] =
    [.same ['1'], .changed ['+'] ['-'], .onlyLeft ['a']] := by decide

end Report

end ExprLexer
