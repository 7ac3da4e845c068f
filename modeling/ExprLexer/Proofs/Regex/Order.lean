import ExprLexer.Proofs.Regex.Ways
import Mathlib.Logic.Function.Iterate

/-!
The order in which an expression prefers its matches.

An expression orders its matches by itself: those of the first branch come before those of the
second, and a greedy repetition prefers one more round to none. An unlimited repetition lists no
more rounds than there are characters, which are all if no round can be empty.
-/

namespace ExprLexer

namespace Regex

/-! ### Preference -/

section Rounds

variable (w : Spot → List Spot) (greedy : Bool)

/-- One more round in front of the rest, or none. -/
def oneMore (rest : Spot → List Spot) (u : Spot) : List Spot :=
  if greedy then (w u).flatMap rest ++ [u] else u :: (w u).flatMap rest

/-- Up to `n` rounds. -/
def upTo (n : Nat) : Spot → List Spot := (oneMore w greedy)^[n] fun u => [u]

/-- Just `n` rounds. -/
def exactly : Nat → Spot → List Spot
  | 0, u => [u]
  | n + 1, u => (exactly n u).flatMap w

end Rounds

/-- The ends of the matches from a spot, most preferred first. An unlimited repetition has no more
rounds than there are characters. -/
def ways : Regex → Spot → List Spot
  | empty => fun u => [u]
  | literal t => t.foldr (fun c rest u => (u.read? (.single c)).toList.flatMap rest) fun u => [u]
  | set s _ => fun u => (u.read? s).toList
  | look a => fun u => if a.holds u.context then [u] else []
  | capture _ r => ways r
  | rep r least extra greedy => fun u =>
    (exactly (ways r) least u).flatMap fun v =>
      upTo (ways r) greedy (extra.getD v.after.length) v
  | seq a b => fun u => (ways a u).flatMap (ways b)
  | alt a b => fun u => ways a u ++ ways b u

/-- No round of an unlimited repetition can be empty. -/
def loopsRead : Regex → Bool
  | capture _ r => loopsRead r
  | rep r _ extra _ => loopsRead r && (extra.isSome || r.isPositive)
  | seq a b | alt a b => loopsRead a && loopsRead b
  | _ => true

lemma upTo_zero (w : Spot → List Spot) (greedy : Bool) (u : Spot) : upTo w greedy 0 u = [u] := rfl

lemma upTo_succ (w : Spot → List Spot) (greedy : Bool) (n : Nat) :
    upTo w greedy (n + 1) = oneMore w greedy (upTo w greedy n) :=
  Function.iterate_succ_apply' _ _ _

lemma mem_oneMore {w rest : Spot → List Spot} {greedy : Bool} {u v : Spot} :
    v ∈ oneMore w greedy rest u ↔ v = u ∨ ∃ q ∈ w u, v ∈ rest q := by
  cases greedy <;> simp [oneMore, or_comm]

lemma mem_upTo_self {w : Spot → List Spot} {greedy : Bool} {n : Nat} {u : Spot} :
    u ∈ upTo w greedy n u := by
  cases n with
  | zero => exact List.mem_singleton_self u
  | succ n =>
    rw [upTo_succ]
    exact mem_oneMore.mpr (.inl rfl)

/-! ### Only matches -/

lemma rounds_of_mem_exactly {w : Spot → List Spot} {M : Spot → Spot → Prop}
    (h : ∀ u, ∀ v ∈ w u, M u v) {n : Nat} {u v : Spot} (hv : v ∈ exactly w n u) :
    Rounds M n u v := by
  induction n generalizing v with
  | zero => exact (List.mem_singleton.mp hv).symm
  | succ n ih =>
    obtain ⟨q, hq, hv⟩ := List.mem_flatMap.mp hv
    exact (ih hq).append (.one (h q v hv))

lemma rounds_of_mem_upTo {w : Spot → List Spot} {M : Spot → Spot → Prop} {greedy : Bool}
    (h : ∀ u, ∀ v ∈ w u, M u v) {n : Nat} {u v : Spot} (hv : v ∈ upTo w greedy n u) :
    ∃ i ≤ n, Rounds M i u v := by
  induction n generalizing u with
  | zero => exact ⟨0, le_rfl, (List.mem_singleton.mp hv).symm⟩
  | succ n ih =>
    rw [upTo_succ] at hv
    obtain rfl | ⟨q, hq, hv⟩ := mem_oneMore.mp hv
    · exact ⟨0, Nat.zero_le _, rfl⟩
    · obtain ⟨i, hi, hr⟩ := ih hv
      exact ⟨i + 1, Nat.succ_le_succ hi, q, h u q hq, hr⟩

/-- What is listed is matched. -/
lemma matches_of_mem_ways {r : Regex} {u v : Spot} (h : v ∈ r.ways u) : r.Matches u v := by
  induction r generalizing u v with
  | empty => exact (List.mem_singleton.mp h).symm
  | literal t =>
    induction t generalizing u with
    | nil =>
      cases List.mem_singleton.mp h
      exact .refl _
    | cons c t ih =>
      obtain ⟨q, hq, hrest⟩ := List.mem_flatMap.mp h
      obtain ⟨d, hd, hpass⟩ := Spot.read?_eq_some_iff.mp (Option.mem_toList.mp hq)
      obtain rfl : d = c := by simpa using hd
      exact hpass.trans (ih hrest)
  | set s bytes => exact Spot.read?_eq_some_iff.mp (Option.mem_toList.mp h)
  | look a =>
    by_cases ha : a.holds u.context = true
    · exact ⟨ha, by simpa [ways, ha, eq_comm] using h⟩
    · simp [ways, ha] at h
  | capture i r ih => exact ih h
  | rep r least extra greedy ih =>
    obtain ⟨q, hq, h⟩ := List.mem_flatMap.mp h
    obtain ⟨i, hi, hr⟩ := rounds_of_mem_upTo (fun _ _ => ih) h
    have hleast := rounds_of_mem_exactly (fun _ _ => ih) hq
    refine ⟨least + i, Nat.le_add_right _ _, ?_, hleast.append hr⟩
    rintro k rfl
    exact Nat.add_le_add_left hi least
  | seq a b iha ihb =>
    obtain ⟨q, hq, h⟩ := List.mem_flatMap.mp h
    exact ⟨q, iha hq, ihb h⟩
  | alt a b iha ihb => exact (List.mem_append.mp h).imp iha ihb

lemma Matches.length_le {r : Regex} {u v : Spot} (h : r.Matches u v) :
    v.after.length ≤ u.after.length := by
  obtain ⟨m, -, h⟩ := h.exists_passes
  simp [h]

lemma of_isPositive_rep {r : Regex} {least : Nat} {extra : Option Nat} {greedy : Bool}
    (h : (rep r least extra greedy).isPositive = true) : 0 < least ∧ r.isPositive = true := by
  cases hr : r.minLength? with
  | none => simp [isPositive, minLength?, hr] at h
  | some n => simpa [isPositive, minLength?, hr, Nat.pos_iff_ne_zero, Nat.mul_eq_zero] using h

lemma of_isPositive_seq {a b : Regex} (h : (seq a b).isPositive = true) :
    a.isPositive = true ∨ b.isPositive = true := by
  cases ha : a.minLength? with
  | none => simp [isPositive, minLength?, ha] at h
  | some m =>
    cases hb : b.minLength? with
    | none => simp [isPositive, minLength?, ha, hb] at h
    | some n =>
      have hsum : 0 < m + n := by simpa [isPositive, minLength?, ha, hb] using h
      simpa [isPositive, ha, hb] using Nat.add_pos_iff_pos_or_pos.mp hsum

lemma of_isPositive_alt {a b : Regex} (h : (alt a b).isPositive = true) :
    a.isPositive = true ∧ b.isPositive = true := by
  cases ha : a.minLength? <;> cases hb : b.minLength? <;> simp_all [isPositive, minLength?]

/-- A match that takes a byte takes a character. -/
lemma Matches.length_lt {r : Regex} (hr : r.isPositive = true) {u v : Spot} (h : r.Matches u v) :
    v.after.length < u.after.length := by
  induction r generalizing u v with
  | empty => simp [isPositive, minLength?] at hr
  | literal t =>
    have ht : t ≠ [] := by
      rintro rfl
      simp [isPositive, minLength?] at hr
    rw [h.2, List.length_append]
    have := List.length_pos_iff.mpr ht
    omega
  | set s bytes =>
    obtain ⟨c, -, -, h⟩ := h
    simp [h]
  | look a => simp [isPositive, minLength?] at hr
  | capture i r ih => exact ih hr h
  | rep r least extra greedy ih =>
    obtain ⟨n, hn, -, h⟩ := h
    have hpos := of_isPositive_rep hr
    obtain ⟨n, rfl⟩ : ∃ k, n = k + 1 := ⟨n - 1, by omega⟩
    obtain ⟨q, hq, h⟩ := h
    obtain ⟨m, hm⟩ := Rounds.exists_passes (fun _ _ => Matches.exists_passes) h
    have hlt := ih hpos.2 hq
    rw [hm.2, List.length_append] at hlt
    omega
  | seq a b iha ihb =>
    obtain ⟨q, hq, h⟩ := h
    rcases of_isPositive_seq hr with ha | hb
    · exact h.length_le.trans_lt (iha ha hq)
    · exact (ihb hb h).trans_le hq.length_le
  | alt a b iha ihb =>
    obtain ⟨ha, hb⟩ := of_isPositive_alt hr
    exact h.elim (iha ha) (ihb hb)

/-! ### Unlimited rounds -/

/-- As many rounds as there are characters, at most. -/
def unlimited (w : Spot → List Spot) (greedy : Bool) (u : Spot) : List Spot :=
  upTo w greedy u.after.length u

section Unlimited

variable {w : Spot → List Spot} {greedy : Bool}

lemma oneMore_congr {rest rest' : Spot → List Spot} {u : Spot} (h : ∀ v ∈ w u, rest v = rest' v) :
    oneMore w greedy rest u = oneMore w greedy rest' u := by
  rw [oneMore, oneMore, List.flatMap_congr h]

/-- Further rounds would be empty. -/
lemma upTo_eq_unlimited (hw : ∀ u, ∀ v ∈ w u, v.after.length < u.after.length) {n : Nat} {u : Spot}
    (hn : u.after.length ≤ n) : upTo w greedy n u = unlimited w greedy u := by
  induction n using Nat.strongRecOn generalizing u with
  | _ n ih =>
    cases n with
    | zero => rw [unlimited, Nat.le_zero.mp hn]
    | succ n =>
      cases hu : u.after.length with
      | zero =>
        have hnil : w u = [] := List.eq_nil_iff_forall_not_mem.mpr fun v hv => by
          have := hw u v hv
          omega
        simp [unlimited, hu, upTo_succ, upTo_zero, oneMore, hnil]
      | succ m =>
        rw [unlimited, hu, upTo_succ, upTo_succ]
        refine oneMore_congr fun v hv => ?_
        have hlt := hw u v hv
        rw [ih n (by omega) (by omega), ih m (by omega) (by omega)]

/-- A choice between one more round, with the same choice behind it, and none. -/
lemma unlimited_eq_oneMore (hw : ∀ u, ∀ v ∈ w u, v.after.length < u.after.length) (u : Spot) :
    unlimited w greedy u = oneMore w greedy (unlimited w greedy) u := by
  rw [← upTo_eq_unlimited hw (Nat.le_succ _), upTo_succ]
  exact oneMore_congr fun v hv => upTo_eq_unlimited hw (hw u v hv).le

end Unlimited

end Regex

end ExprLexer
