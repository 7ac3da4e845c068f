import ExprLexer.Regex.Basic
import Mathlib.Logic.Relation
import Mathlib.Tactic.Lemma

/-!
What an expression matches.

A match takes a text from one spot to a later one. So an expression means a relation on the spots
of a text: a sequence composes the relations of its parts, an alternation unites those of its
branches, and a repetition iterates that of its body. Greed and the order of branches say which
match is preferred, not which there are; they do not occur here.
-/

namespace ExprLexer

/-- A spot in a text: what stands before it, and what is still to come. -/
structure Spot where
  before : Text
  after : Text

namespace Spot

/-- The spot at the front of a text. -/
def front (t : Text) : Spot := ⟨[], t⟩

/-- The characters on either side. -/
def context (p : Spot) : Context := ⟨p.before.getLast?, p.after.head?⟩

/-- `m` stands between the two spots. -/
def Passes (m : Text) (p q : Spot) : Prop := q.before = p.before ++ m ∧ p.after = m ++ q.after

variable {m m' : Text} {p q q' : Spot}

lemma Passes.refl (p : Spot) : Passes [] p p := by simp [Passes]

lemma Passes.trans (h : Passes m p q) (h' : Passes m' q q') : Passes (m ++ m') p q' := by
  obtain ⟨hb, ha⟩ := h
  obtain ⟨hb', ha'⟩ := h'
  exact ⟨by rw [hb', hb, List.append_assoc], by rw [ha, ha', List.append_assoc]⟩

end Spot

/-- A number of rounds of a relation, one after the other. -/
def Rounds (R : Spot → Spot → Prop) : Nat → Spot → Spot → Prop
  | 0 => Eq
  | n + 1 => Relation.Comp R (Rounds R n)

lemma Rounds.append {R : Spot → Spot → Prop} {m n : Nat} {p q q' : Spot} (h : Rounds R m p q)
    (h' : Rounds R n q q') : Rounds R (m + n) p q' := by
  induction m generalizing p with
  | zero =>
    cases h
    rwa [Nat.zero_add]
  | succ m ih =>
    obtain ⟨u, hu, h⟩ := h
    rw [Nat.succ_add]
    exact ⟨u, hu, ih h⟩

lemma Rounds.one {R : Spot → Spot → Prop} {p q : Spot} (h : R p q) : Rounds R 1 p q := ⟨q, h, rfl⟩

lemma Rounds.exists_passes {R : Spot → Spot → Prop}
    (hR : ∀ p q, R p q → ∃ m, Spot.Passes m p q) {n : Nat} {p q : Spot} (h : Rounds R n p q) :
    ∃ m, Spot.Passes m p q := by
  induction n generalizing p with
  | zero =>
    cases h
    exact ⟨[], .refl _⟩
  | succ n ih =>
    obtain ⟨u, hu, h⟩ := h
    obtain ⟨m, hm⟩ := hR p u hu
    obtain ⟨m', hm'⟩ := ih h
    exact ⟨m ++ m', hm.trans hm'⟩

namespace Regex

/-- The expression matches what stands between two spots. -/
def Matches : Regex → Spot → Spot → Prop
  | empty => Eq
  | literal t => Spot.Passes t
  | set s _ => fun p q => ∃ c, s.contains c = true ∧ Spot.Passes [c] p q
  | look a => fun p q => a.holds p.context = true ∧ p = q
  | capture _ r => Matches r
  | rep r least extra _ => fun p q =>
    ∃ n, least ≤ n ∧ (∀ k ∈ extra, n ≤ least + k) ∧ Rounds (Matches r) n p q
  | seq a b => Relation.Comp (Matches a) (Matches b)
  | alt a b => fun p q => Matches a p q ∨ Matches b p q

/-- **A match is a text**: it leads forward, over some part of what is still to come. -/
lemma Matches.exists_passes {r : Regex} {p q : Spot} (h : r.Matches p q) :
    ∃ m, Spot.Passes m p q := by
  induction r generalizing p q with
  | empty =>
    cases h
    exact ⟨[], .refl p⟩
  | literal t => exact ⟨t, h⟩
  | set s bytes =>
    obtain ⟨c, -, hc⟩ := h
    exact ⟨[c], hc⟩
  | look a =>
    obtain ⟨-, rfl⟩ := h
    exact ⟨[], .refl p⟩
  | capture i r ih => exact ih h
  | rep r least extra greedy ih =>
    obtain ⟨n, -, -, h⟩ := h
    exact h.exists_passes fun p q => ih
  | seq a b iha ihb =>
    obtain ⟨u, ha, hb⟩ := h
    obtain ⟨m, hm⟩ := iha ha
    obtain ⟨m', hm'⟩ := ihb hb
    exact ⟨m ++ m', hm.trans hm'⟩
  | alt a b iha ihb => exact h.elim iha ihb

end Regex

end ExprLexer
