import ExprLexer.Proofs.Regex.Meaning
import ExprLexer.Regex.Match
import Mathlib.Tactic.SplitIfs

/-!
What the search of a program finds.

A program takes one way at a time as well: an operation leads from a place in the program and a spot
in the text to the next. The search follows all ways at once, and every place it keeps is one that
some way comes to. So the end that it finds is the end of a way from the entry, at the front of the
text, to an operation that is done.
-/

namespace ExprLexer

namespace Program

/-- A place in the program and a spot in the text. -/
abbrev Point := Nat × Spot

/-- What one operation does. -/
inductive Step (ops : Array Op) : Point → Point → Prop
  | read {i next : Nat} {s : CharSet} {c : Char} {p q : Spot} (op : ops[i]? = some (.read s next))
      (mem : s.contains c = true) (passes : Spot.Passes [c] p q) : Step ops (i, p) (next, q)
  | look {i next : Nat} {a : Assertion} {p : Spot} (op : ops[i]? = some (.look a next))
      (holds : a.holds p.context = true) : Step ops (i, p) (next, p)
  | first {i j k : Nat} {p : Spot} (op : ops[i]? = some (.split j k)) : Step ops (i, p) (j, p)
  | second {i j k : Nat} {p : Spot} (op : ops[i]? = some (.split j k)) : Step ops (i, p) (k, p)

/-- What a number of operations do. -/
inductive Path (ops : Array Op) : Nat → Point → Point → Prop
  | stop (x : Point) : Path ops 0 x x
  | step {n : Nat} {x y z : Point} (step : Step ops x y) (path : Path ops n y z) :
      Path ops (n + 1) x z

lemma Path.snoc {ops : Array Op} {n : Nat} {x y z : Point} (h : Path ops n x y)
    (h' : Step ops y z) : Path ops (n + 1) x z := by
  induction h with
  | stop x => exact .step h' (.stop z)
  | step s _ ih => exact .step s (ih h')

/-- Some way leads from one point to the other. -/
def Reaches (ops : Array Op) (x y : Point) : Prop := ∃ n, Path ops n x y

lemma Reaches.snoc {ops : Array Op} {x y z : Point} (h : Reaches ops x y) (h' : Step ops y z) :
    Reaches ops x z := h.imp' Nat.succ fun _ hn => hn.snoc h'

/-! ### Following what reads nothing -/

/-- What holds of the places at the start, and is kept by the operations that read nothing, holds
of the places that are found. -/
lemma closeFrom_induction {ops : Array Op} {x : Context} {P : Nat → Prop}
    (hsplit : ∀ i j k, ops[i]? = some (.split j k) → P i → P j ∧ P k)
    (hlook : ∀ i a next, ops[i]? = some (.look a next) → a.holds x = true → P i → P next)
    {seen : Array Bool} {out todo : List Nat} (hout : ∀ i ∈ out, P i) (htodo : ∀ i ∈ todo, P i) :
    ∀ i ∈ closeFrom ops x seen out todo, P i := by
  fun_induction closeFrom ops x seen out todo with
  | case1 => simpa using hout
  | case2 seen out i todo _ seen' j k hop ih =>
    obtain ⟨hi, htodo⟩ := List.forall_mem_cons.mp htodo
    obtain ⟨hj, hk⟩ := hsplit i j k hop hi
    exact ih hout (List.forall_mem_cons.mpr ⟨hj, List.forall_mem_cons.mpr ⟨hk, htodo⟩⟩)
  | case3 seen out i todo _ seen' a next hop ih =>
    obtain ⟨hi, htodo⟩ := List.forall_mem_cons.mp htodo
    refine ih hout ?_
    split_ifs with ha
    · exact List.forall_mem_cons.mpr ⟨hlook i a next hop ha hi, htodo⟩
    · exact htodo
  | case4 seen out i todo _ seen' _ _ ih =>
    obtain ⟨hi, htodo⟩ := List.forall_mem_cons.mp htodo
    exact ih (List.forall_mem_cons.mpr ⟨hi, hout⟩) htodo
  | case5 seen out i todo _ ih => exact ih hout (List.forall_mem_cons.mp htodo).2

variable {p : Program} {start : Point}

lemma reaches_of_mem_close {u : Spot} {places : List Nat}
    (h : ∀ i ∈ places, Reaches p.ops start (i, u)) :
    ∀ i ∈ p.close u.context places, Reaches p.ops start (i, u) := by
  refine closeFrom_induction (fun i j k hop hi => ⟨hi.snoc (.first hop), hi.snoc (.second hop)⟩)
    (fun i a next hop ha hi => hi.snoc (.look hop ha)) (by simp) h

/-! ### Reading -/

lemma reaches_of_mem_reads {b a : Text} {c : Char} {places : List Nat}
    (h : ∀ i ∈ places, Reaches p.ops start (i, ⟨b, c :: a⟩)) :
    ∀ i ∈ p.reads c places, Reaches p.ops start (i, ⟨b ++ [c], a⟩) := by
  intro next hnext
  obtain ⟨i, hi, hread⟩ := List.mem_filterMap.mp hnext
  have hi := h i ((List.takeWhile_sublist _).subset hi)
  unfold readAt? at hread
  split at hread
  · rename_i s next' hop
    split at hread
    · rename_i hc
      cases hread
      exact hi.snoc (.read hop hc ⟨rfl, rfl⟩)
    · cases hread
  · cases hread

/-- Some way from `start` ends `n` bytes into the text. -/
def EndsAt (p : Program) (start : Point) (n : Nat) : Prop :=
  ∃ i u, p.isDone i = true ∧ Reaches p.ops start (i, u) ∧ Text.byteLength u.before = n

lemma endsAt_of_any {u : Spot} {places : List Nat}
    (h : ∀ i ∈ places, Reaches p.ops start (i, u))
    (hany : (p.close u.context places).any p.isDone = true) :
    p.EndsAt start (Text.byteLength u.before) := by
  obtain ⟨i, hi, hdone⟩ := List.any_eq_true.mp hany
  exact ⟨i, u, hdone, reaches_of_mem_close h i hi, rfl⟩

/-- **The search, from any place in the text**: if every place it has come to can be reached, and
what it has found is the end of some way, then so is what it finds. -/
lemma endsAt_of_run {b : Text} {places : List Nat} {found : Option Nat} {t : Text} {n : Nat}
    (hplaces : ∀ i ∈ places, Reaches p.ops start (i, ⟨b, t⟩))
    (hfound : ∀ m ∈ found, p.EndsAt start m)
    (h : p.run b.getLast? places (Text.byteLength b) found t = some n) : p.EndsAt start n := by
  induction t generalizing b places found with
  | nil =>
    unfold run at h
    split_ifs at h with hany
    · cases h
      exact endsAt_of_any hplaces hany
    · exact hfound n h
  | cons c t ih =>
    unfold run at h
    split_ifs at h with hempty
    · exact hfound n h
    · have hreached := reaches_of_mem_close hplaces
      have hfound' : ∀ m ∈ if (p.close (Spot.mk b (c :: t)).context places).any p.isDone then
          some (Text.byteLength b) else found, p.EndsAt start m := by
        intro m hm
        split_ifs at hm with hany
        · cases hm
          exact endsAt_of_any hplaces hany
        · exact hfound m hm
      have hlen : Text.byteLength (b ++ [c]) = Text.byteLength b + c.utf8Size := by
        simp [Text.byteLength_append]
      refine ih (reaches_of_mem_reads hreached) hfound' ?_
      rw [List.getLast?_concat, hlen]
      exact h

/-- **What is found is the end of a way** from the entry, at the front of the text. -/
theorem endsAt_of_find? {t : Text} {n : Nat} (h : p.find? t = some n) :
    p.EndsAt (p.entry, .front t) n := by
  have hplaces : ∀ i ∈ [p.entry], Reaches p.ops (p.entry, .front t) (i, ⟨[], t⟩) := fun i hi => by
    rw [List.mem_singleton.mp hi]
    exact ⟨0, .stop _⟩
  exact endsAt_of_run hplaces (by simp) h

end Program

end ExprLexer
