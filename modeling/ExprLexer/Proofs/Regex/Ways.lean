import ExprLexer.Proofs.Regex.Search
import Mathlib.Data.Finset.Card
import Mathlib.Data.Finset.Range

/-!
The ways through a program, in order of preference.

Tried one at a time, the ways from a place come in an order: where an operation goes on in two ways,
all ways through the first come before those through the second. No way comes back to a place
between the same two characters, as it could go round without end. No end is missed for that: a way
that comes back can be cut short.
-/

namespace ExprLexer

namespace Spot

/-- The spot behind a character of the set, if one comes next. -/
def read? (s : CharSet) (u : Spot) : Option Spot :=
  match u.after with
  | c :: t => if s.contains c then some ⟨u.before ++ [c], t⟩ else none
  | [] => none

@[simp] lemma read?_nil (s : CharSet) (b : Text) : read? s ⟨b, []⟩ = none := rfl

@[simp] lemma read?_cons (s : CharSet) (b t : Text) (c : Char) :
    read? s ⟨b, c :: t⟩ = if s.contains c then some ⟨b ++ [c], t⟩ else none := rfl

lemma read?_eq_some_iff {s : CharSet} {u v : Spot} :
    u.read? s = some v ↔ ∃ c, s.contains c = true ∧ Passes [c] u v := by
  obtain ⟨b, a⟩ := u
  obtain ⟨b', a'⟩ := v
  cases a with
  | nil => simp [read?, Passes]
  | cons c t => grind [read?, Passes]

lemma length_lt_of_read? {s : CharSet} {u v : Spot} (h : u.read? s = some v) :
    v.after.length < u.after.length := by
  obtain ⟨c, -, -, h⟩ := read?_eq_some_iff.mp h
  simp [h]

end Spot

namespace Program

/-- The places in a program. -/
def places (ops : Array Op) : Finset Nat := Finset.range ops.size

/-- The ends of all ways from a place, most preferred first. Between two characters a way goes to
`fresh` places only, and to each of them once. -/
def ends (ops : Array Op) (fresh : Finset Nat) (i : Nat) (u : Spot) : List Spot :=
  if _h : i ∈ fresh then
    match ops[i]? with
    | some .done => [u]
    | some (.split j k) => ends ops (fresh.erase i) j u ++ ends ops (fresh.erase i) k u
    | some (.look a next) => if a.holds u.context then ends ops (fresh.erase i) next u else []
    | some (.read s next) =>
      match _hread : u.read? s with
      | some v => ends ops (places ops) next v
      | none => []
    | none => []
  else []
termination_by (u.after.length, fresh.card)
decreasing_by
  · exact Prod.Lex.right _ (Finset.card_erase_lt_of_mem _h)
  · exact Prod.Lex.right _ (Finset.card_erase_lt_of_mem _h)
  · exact Prod.Lex.right _ (Finset.card_erase_lt_of_mem _h)
  · exact Prod.Lex.left _ _ (Spot.length_lt_of_read? _hread)

/-- Where an operation goes on that reads nothing, most preferred first. -/
def onward (ops : Array Op) (x : Context) (i : Nat) : List Nat :=
  match ops[i]? with
  | some (.split j k) => [j, k]
  | some (.look a next) => if a.holds x then [next] else []
  | _ => []

/-- The ends behind an operation that reads or is done. -/
def gains (ops : Array Op) (i : Nat) (u : Spot) : List Spot :=
  match ops[i]? with
  | some .done => [u]
  | some (.read s next) => (u.read? s).toList.flatMap (ends ops (places ops) next)
  | _ => []

variable {ops : Array Op} {fresh : Finset Nat} {i j : Nat} {u v : Spot}

lemma ends_of_mem (h : i ∈ fresh) (u : Spot) :
    ends ops fresh i u =
      gains ops i u ++ (onward ops u.context i).flatMap (ends ops (fresh.erase i) · u) := by
  rw [ends, dif_pos h]
  unfold gains onward
  rcases hop : ops[i]? with _ | _ | _ | _ | _
  · simp
  · rename_i s next
    simp only
    split <;> simp_all
  · rename_i a next
    simp only
    split <;> simp
  · simp
  · simp

lemma ends_of_not_mem (h : i ∉ fresh) (u : Spot) : ends ops fresh i u = [] := by
  rw [ends, dif_neg h]

lemma mem_ends_iff_of_mem (h : i ∈ fresh) :
    v ∈ ends ops fresh i u ↔
      v ∈ gains ops i u ∨ ∃ j ∈ onward ops u.context i, v ∈ ends ops (fresh.erase i) j u := by
  rw [ends_of_mem h, List.mem_append, List.mem_flatMap]

/-! ### Ways that come back -/

lemma mem_of_mem_ends (h : v ∈ ends ops fresh i u) : i ∈ fresh := by
  by_contra hi
  simp [ends_of_not_mem hi] at h

/-- More fresh places, more ways. -/
lemma ends_mono {fresh' : Finset Nat} (hsub : fresh ⊆ fresh') (h : v ∈ ends ops fresh i u) :
    v ∈ ends ops fresh' i u := by
  induction fresh using Finset.strongInduction generalizing fresh' i with
  | H fresh ih =>
    have hi := mem_of_mem_ends h
    rw [mem_ends_iff_of_mem hi] at h
    rw [mem_ends_iff_of_mem (hsub hi)]
    exact h.imp_right fun ⟨j, hj, h⟩ =>
      ⟨j, hj, ih _ (Finset.erase_ssubset hi) (Finset.erase_subset_erase i hsub) h⟩

/-- A way that comes to `i` can begin there. -/
lemma mem_ends_erase_or (h : v ∈ ends ops fresh j u) :
    v ∈ ends ops (fresh.erase i) j u ∨ v ∈ ends ops fresh i u := by
  induction fresh using Finset.strongInduction generalizing j with
  | H fresh ih =>
    by_cases hij : j = i
    · exact .inr (hij ▸ h)
    · have hj := mem_of_mem_ends h
      rw [mem_ends_iff_of_mem hj] at h
      obtain h | ⟨k, hk, h⟩ := h
      · exact .inl ((mem_ends_iff_of_mem (Finset.mem_erase.mpr ⟨hij, hj⟩)).mpr (.inl h))
      · obtain h | h := ih _ (Finset.erase_ssubset hj) h
        · rw [Finset.erase_right_comm] at h
          exact .inl ((mem_ends_iff_of_mem (Finset.mem_erase.mpr ⟨hij, hj⟩)).mpr (.inr ⟨k, hk, h⟩))
        · exact .inr (ends_mono (Finset.erase_subset j fresh) h)

lemma mem_places_of_getElem? {op : Op} (h : ops[i]? = some op) : i ∈ places ops :=
  Finset.mem_range.mpr (Array.getElem?_eq_some_iff.mp h).1

/-- Where a step leads without reading. -/
lemma mem_ends_of_onward (hi : i ∈ places ops) (hj : j ∈ onward ops u.context i)
    (h : v ∈ ends ops (places ops) j u) : v ∈ ends ops (places ops) i u :=
  (mem_ends_erase_or h).elim (fun h => (mem_ends_iff_of_mem hi).mpr (.inr ⟨j, hj, h⟩)) id

/-- What can be reached behind a step can be reached in front of it. -/
lemma mem_ends_of_step {q : Spot} (step : Step ops (i, u) (j, q))
    (h : v ∈ ends ops (places ops) j q) : v ∈ ends ops (places ops) i u := by
  cases step with
  | @read _ _ s c _ _ op mem passes =>
    refine (mem_ends_iff_of_mem (mem_places_of_getElem? op)).mpr (.inl ?_)
    simpa [gains, op, Spot.read?_eq_some_iff.mpr ⟨c, mem, passes⟩] using h
  | look op holds =>
    exact mem_ends_of_onward (mem_places_of_getElem? op) (by simp [onward, op, holds]) h
  | first op => exact mem_ends_of_onward (mem_places_of_getElem? op) (by simp [onward, op]) h
  | second op => exact mem_ends_of_onward (mem_places_of_getElem? op) (by simp [onward, op]) h

lemma mem_ends_of_path {n d : Nat} (hd : ops[d]? = some .done)
    (path : Path ops n (i, u) (d, v)) : v ∈ ends ops (places ops) i u := by
  generalize hx : (i, u) = x at path
  generalize hy : (d, v) = y at path
  induction path generalizing i u with
  | stop x =>
    cases hx.trans hy.symm
    refine (mem_ends_iff_of_mem (mem_places_of_getElem? hd)).mpr (.inl ?_)
    simp [gains, hd]
  | @step n x z _ step path ih =>
    subst hx
    exact mem_ends_of_step step (ih rfl hy)

lemma step_of_onward (h : j ∈ onward ops u.context i) : Step ops (i, u) (j, u) := by
  unfold onward at h
  split at h
  · rename_i j' k' op
    rcases List.mem_pair.mp h with rfl | rfl
    · exact .first op
    · exact .second op
  · rename_i a next op
    split at h
    · rename_i holds
      cases List.mem_singleton.mp h
      exact .look op holds
    · cases h
  · cases h

lemma Reaches.cons {x y z : Point} (h : Step ops x y) (h' : Reaches ops y z) : Reaches ops x z :=
  h'.imp' Nat.succ fun _ path => .step h path

lemma exists_reaches_of_mem_ends {fresh : Finset Nat} {i : Nat} {u : Spot}
    (h : v ∈ ends ops fresh i u) : ∃ d, ops[d]? = some .done ∧ Reaches ops (i, u) (d, v) := by
  have hi := mem_of_mem_ends h
  rcases (mem_ends_iff_of_mem hi).mp h with hgain | ⟨j, hj, h⟩
  · unfold gains at hgain
    split at hgain
    · rename_i op
      cases List.mem_singleton.mp hgain
      exact ⟨i, op, 0, .stop _⟩
    · rename_i s next op
      obtain ⟨w, hw, h⟩ := List.mem_flatMap.mp hgain
      have hread := Option.mem_toList.mp hw
      obtain ⟨c, mem, passes⟩ := Spot.read?_eq_some_iff.mp hread
      obtain ⟨d, hd, hreach⟩ := exists_reaches_of_mem_ends h
      exact ⟨d, hd, hreach.cons (.read op mem passes)⟩
    · cases hgain
  · obtain ⟨d, hd, hreach⟩ := exists_reaches_of_mem_ends h
    exact ⟨d, hd, hreach.cons (step_of_onward hj)⟩
termination_by (u.after.length, fresh.card)
decreasing_by
  · exact Prod.Lex.left _ _ (Spot.length_lt_of_read? hread)
  · exact Prod.Lex.right _ (Finset.card_erase_lt_of_mem hi)

/-- **No end is missed**: those in the list are the spots where some way is done. -/
theorem mem_ends_iff :
    v ∈ ends ops (places ops) i u ↔ ∃ d, ops[d]? = some .done ∧ Reaches ops (i, u) (d, v) :=
  ⟨exists_reaches_of_mem_ends, fun ⟨_, hd, _, path⟩ => mem_ends_of_path hd path⟩

/-! ### Programs that agree -/

lemma mem_places_iff : i ∈ places ops ↔ ops[i]?.isSome = true := by
  rw [places, Finset.mem_range, isSome_getElem?]

/-- **Only the operations that can be reached matter.** -/
lemma ends_congr {ops' : Array Op} {P : Point → Prop}
    (hstep : ∀ {x y}, P x → Step ops x y → P y)
    (hops : ∀ {k w}, P (k, w) → ops'[k]? = ops[k]?) {fresh fresh' : Finset Nat} {i : Nat}
    {u : Spot} (hfresh : ∀ k, P (k, u) → (k ∈ fresh ↔ k ∈ fresh')) (hi : P (i, u)) :
    ends ops fresh i u = ends ops' fresh' i u := by
  by_cases hmem : i ∈ fresh
  · have hop := hops hi
    have honward : onward ops' u.context i = onward ops u.context i := by simp [onward, hop]
    have hgains : gains ops i u = gains ops' i u := by
      unfold gains
      rw [hop]
      split
      · rfl
      · rename_i s next op
        refine List.flatMap_congr fun w hw => ?_
        have hread := Option.mem_toList.mp hw
        obtain ⟨c, mem, passes⟩ := Spot.read?_eq_some_iff.mp hread
        refine ends_congr hstep hops (fun k hk => ?_) (hstep hi (.read op mem passes))
        rw [mem_places_iff, mem_places_iff, hops hk]
      · rfl
    rw [ends_of_mem hmem, ends_of_mem ((hfresh i hi).mp hmem), honward, hgains]
    refine congrArg _ (List.flatMap_congr fun j hj => ?_)
    refine ends_congr hstep hops (fun k hk => ?_) (hstep hi (step_of_onward hj))
    rw [Finset.mem_erase, Finset.mem_erase, hfresh k hk]
  · rw [ends_of_not_mem hmem, ends_of_not_mem ((hfresh i hi).not.mp hmem)]
termination_by (u.after.length, fresh.card)
decreasing_by
  · exact Prod.Lex.left _ _ (Spot.length_lt_of_read? hread)
  · exact Prod.Lex.right _ (Finset.card_erase_lt_of_mem hmem)

end Program

end ExprLexer
