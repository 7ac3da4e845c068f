import ExprLexer.Proofs.Regex.Coverage
import ExprLexer.Proofs.Regex.Order

/-!
The order in which a program tries its ways.

The program of an expression tries its ways in the order in which the expression lists its matches,
if no round of an unlimited repetition can be empty: then a way comes back to a place only behind a
character, and no way has to be cut short. Where rounds can be empty the program is not so simple,
and its own order counts.
-/

namespace ExprLexer

open Relation (ReflTransGen TransGen)

namespace Program

variable {ops : Array Op} {fresh : Finset Nat} {i j : Nat} {u : Spot}

/-! ### Ways that do not come back -/

/-- Without reading, no way goes on from a place for ever. -/
def Settles (ops : Array Op) (i : Nat) (u : Spot) : Prop :=
  Acc (fun j k => j ∈ onward ops u.context k) i

lemma Settles.of_onward (h : ∀ j ∈ onward ops u.context i, Settles ops j u) : Settles ops i u :=
  .intro i h

lemma not_transGen_of_acc {α : Type} {r : α → α → Prop} {a : α} (h : Acc r a) :
    ¬ TransGen r a a := by
  induction h with
  | intro a _ ih =>
    intro hloop
    obtain ⟨b, hab, hba⟩ := TransGen.tail'_iff.mp hloop
    exact ih b hba (.head' hba hab)

/-- Only the places on the way matter. -/
lemma ends_congr_fresh {fresh' : Finset Nat}
    (h : ∀ k, ReflTransGen (fun j k => j ∈ onward ops u.context k) k i → (k ∈ fresh ↔ k ∈ fresh')) :
    ends ops fresh i u = ends ops fresh' i u := by
  induction fresh using Finset.strongInduction generalizing fresh' i with
  | H fresh ih =>
    by_cases hi : i ∈ fresh
    · rw [ends_of_mem hi, ends_of_mem ((h i .refl).mp hi)]
      refine congrArg _ (List.flatMap_congr fun j hj => ?_)
      refine ih _ (Finset.erase_ssubset hi) fun k hk => ?_
      rw [Finset.mem_erase, Finset.mem_erase, h k (hk.tail hj)]
    · rw [ends_of_not_mem hi, ends_of_not_mem ((h i .refl).not.mp hi)]

/-- **A way that does not come back is not cut short.** -/
lemma Settles.ends_eq (h : Settles ops i u) (hi : i ∈ places ops) :
    ends ops (places ops) i u =
      gains ops i u ++ (onward ops u.context i).flatMap (ends ops (places ops) · u) := by
  rw [ends_of_mem hi]
  refine congrArg _ (List.flatMap_congr fun j hj => ends_congr_fresh fun k hk => ?_)
  -- a place behind `i` is not `i` again
  have hne : k ≠ i := by
    rintro rfl
    exact not_transGen_of_acc h (.tail' hk hj)
  simp [hne]

end Program

namespace Emitter

open Program (Settles ends places onward gains)
open Regex (oneMore upTo exactly unlimited)

variable {e e' : Emitter} {greedy : Bool} {M M' : Spot → Spot → Prop} {w w' : Spot → List Spot}

/-! ### The order of the ways through operations -/

/-- The ways through the operations are those of `w`, in the same order, if all ways settle behind
them. To settle, a way need not leave the operations, unless it can leave them without reading. -/
structure Orders (e : Emitter) (w : Spot → List Spot) : Prop where
  settles {next : Nat} {ops all : Array Op} (hall : Within ops (e next ops).2 all) {u : Spot}
    (h : u ∈ w u → Settles all next u) : Settles all (e next ops).1 u
  ends_eq {next : Nat} {ops all : Array Op} (hall : Within ops (e next ops).2 all)
    (h : ∀ u, Settles all next u) (u : Spot) :
    ends all (places all) (e next ops).1 u = (w u).flatMap (ends all (places all) next)

lemma orders_skip : Orders (fun next ops => (next, ops)) fun u => [u] where
  settles _ _ h := h (List.mem_singleton_self _)
  ends_eq _ _ u := by simp

lemma orders_read (s : CharSet) : Orders (add (.read s)) fun u => (u.read? s).toList where
  settles hall u _ := .of_onward (by simp [add, onward, getElem?_add hall])
  ends_eq {next ops all} hall _ u := by
    have hop := getElem?_add hall
    have hsettles : Settles all ops.size u := .of_onward (by simp [onward, hop])
    refine (hsettles.ends_eq (Program.mem_places_of_getElem? hop)).trans ?_
    simp [gains, onward, hop]

lemma settles_look {all : Array Op} {a : Assertion} {i x : Nat} {u : Spot}
    (hop : all[i]? = some (.look a x)) (h : a.holds u.context = true → Settles all x u) :
    Settles all i u := by
  refine .of_onward fun j hj => ?_
  by_cases ha : a.holds u.context = true
  · obtain rfl : j = x := by simpa [onward, hop, ha] using hj
    exact h ha
  · simp [onward, hop, ha] at hj

lemma orders_look (a : Assertion) :
    Orders (add (.look a)) fun u => if a.holds u.context then [u] else [] where
  settles hall _ h := settles_look (getElem?_add hall) fun ha => h (by simp [ha])
  ends_eq hall h u := by
    have hop := getElem?_add hall
    have hsettles := settles_look hop fun _ => h u
    refine (hsettles.ends_eq (Program.mem_places_of_getElem? hop)).trans ?_
    by_cases ha : a.holds u.context = true <;> simp [gains, onward, hop, ha]

lemma settles_split {all : Array Op} {i x y : Nat} {u : Spot}
    (hop : all[i]? = some (split greedy x y)) (hx : Settles all x u) (hy : Settles all y u) :
    Settles all i u := by
  refine .of_onward fun j hj => ?_
  cases greedy <;> simp [onward, hop, split] at hj <;> rcases hj with rfl | rfl <;> assumption

/-- A choice puts what is preferred in front. -/
lemma ends_split {all : Array Op} {i x y : Nat} {u : Spot}
    (hop : all[i]? = some (split greedy x y)) (hx : Settles all x u) (hy : Settles all y u) :
    ends all (places all) i u =
      if greedy then ends all (places all) x u ++ ends all (places all) y u
      else ends all (places all) y u ++ ends all (places all) x u := by
  rw [(settles_split hop hx hy).ends_eq (Program.mem_places_of_getElem? hop)]
  cases greedy <;> simp [gains, onward, hop, split]

lemma Orders.after (h : Orders e w) (h' : Orders e' w') (grows : Grows e) (grows' : Grows e') :
    Orders (after e e') fun u => (w u).flatMap w' where
  settles {next ops all} hall u hnext := by
    refine h.settles (hall.mono (grows'.size_le next ops)) fun hu => ?_
    refine h'.settles (hall.first grows) fun hu' => hnext ?_
    exact List.mem_flatMap.mpr ⟨u, hu, hu'⟩
  ends_eq {next ops all} hall hnext u := by
    have hall' := hall.first grows
    have hsettles (u : Spot) : Settles all (e' next ops).1 u := h'.settles hall' fun _ => hnext u
    change ends all (places all) (e (e' next ops).1 (e' next ops).2).1 u = _
    rw [h.ends_eq (hall.mono (grows'.size_le next ops)) hsettles u, List.flatMap_assoc]
    exact List.flatMap_congr fun v _ => h'.ends_eq hall' hnext v

/-! ### Rounds -/

lemma orders_times (hr : Realizes e M) (h : Orders e w) (n : Nat) :
    Orders (times e n) (exactly w n) := by
  induction n with
  | zero => exact orders_skip
  | succ n ih =>
    rw [times_succ]
    exact ih.after h ((realizes_times hr n 0).toGrows) (hr 0).toGrows

/-- The first operations of up to `n + 1` rounds are those of the last round; a choice leads to it,
and the other rounds stand behind that. -/
lemma of_within_optional (hr : Realizes e M) {exit n next : Nat} {ops all : Array Op}
    (hall : Within ops (optional e greedy exit (n + 1) next ops).2 all) :
    Within ops (e next ops).2 all ∧
      all[(e next ops).2.size]? = some (split greedy (e next ops).1 exit) ∧
        let choice := add (split greedy · exit) (e next ops).1 (e next ops).2
        Within choice.2 (optional e greedy exit n choice.1 choice.2).2 all := by
  have grows := (hr 0).toGrows
  have growsSplit := (fragment_split greedy exit).toGrows
  have hchoice := hall.first (fragment_optional hr greedy exit n).toGrows
  exact ⟨hchoice.first growsSplit, getElem?_add (hchoice.mono (grows.size_le next ops)),
    hall.mono ((grows.size_le next ops).trans (growsSplit.size_le _ _))⟩

lemma settles_optional (hr : Realizes e M) (h : Orders e w) {exit : Nat} (n : Nat) {next : Nat}
    {ops all : Array Op} (hall : Within ops (optional e greedy exit n next ops).2 all) {u : Spot}
    (hexit : Settles all exit u) (hnext : Settles all next u) :
    Settles all (optional e greedy exit n next ops).1 u := by
  induction n generalizing next ops with
  | zero => exact hnext
  | succ n ih =>
    obtain ⟨hround, hop, hrest⟩ := of_within_optional hr hall
    exact ih hrest (settles_split hop (h.settles hround fun _ => hnext) hexit)

/-- Each round puts itself in front of what comes behind it. The induction is on the number of
rounds; the last is added first. -/
lemma ends_optional (hr : Realizes e M) (h : Orders e w) {exit : Nat} {all : Array Op}
    (hexit : ∀ u, Settles all exit u) (n : Nat) {next : Nat} {ops : Array Op}
    {rest : Spot → List Spot} (hall : Within ops (optional e greedy exit n next ops).2 all)
    (hnext : ∀ u, Settles all next u)
    (hrest : ∀ u, ends all (places all) next u = (rest u).flatMap (ends all (places all) exit))
    (u : Spot) :
    ends all (places all) (optional e greedy exit n next ops).1 u =
      ((oneMore w greedy)^[n] rest u).flatMap (ends all (places all) exit) := by
  induction n generalizing next ops rest with
  | zero => exact hrest u
  | succ n ih =>
    obtain ⟨hround, hop, hall⟩ := of_within_optional hr hall
    have hentry (u : Spot) : Settles all (e next ops).1 u := h.settles hround fun _ => hnext u
    refine ih hall (fun u => settles_split hop (hentry u) (hexit u)) fun u => ?_
    have hends : ends all (places all) (e next ops).1 u =
        ((w u).flatMap rest).flatMap (ends all (places all) exit) := by
      rw [h.ends_eq hround hnext u, List.flatMap_assoc]
      exact List.flatMap_congr fun v _ => hrest v
    refine (ends_split hop (hentry u) (hexit u)).trans ?_
    cases greedy <;> simp [hends, oneMore]

lemma orders_optional (hr : Realizes e M) (h : Orders e w) (greedy : Bool) (n : Nat) :
    Orders (fun next ops => optional e greedy next n next ops) (upTo w greedy n) where
  settles hall _ hnext :=
    have hsettles := hnext Regex.mem_upTo_self
    settles_optional hr h n hall hsettles hsettles
  ends_eq hall hnext u := ends_optional hr h hnext n hall hnext (fun u => by simp) u

/-! ### Loops -/

section Loops

variable (hr : Realizes e M) (h : Orders e w)
  (hw : ∀ u, ∀ v ∈ w u, v.after.length < u.after.length)

include h hw

/-- A round settles, as no way leaves it without reading. -/
lemma settles_round {next : Nat} {ops all : Array Op}
    (hall : Within ops (loopOps e greedy next ops) all) (u : Spot) :
    Settles all (e ops.size (ops.push .done)).1 u :=
  h.settles (within_round hall) fun hu => absurd (hw u u hu) (Nat.lt_irrefl _)

include hr

lemma settles_choice {next : Nat} {ops all : Array Op}
    (hall : Within ops (loopOps e greedy next ops) all) {u : Spot} (hnext : Settles all next u) :
    Settles all ops.size u :=
  settles_split (getElem?_choice (hr 0).toGrows hall) (settles_round h hw hall u) hnext

lemma ends_round {next : Nat} {ops all : Array Op}
    (hall : Within ops (loopOps e greedy next ops) all) (hnext : ∀ u, Settles all next u)
    (u : Spot) :
    ends all (places all) (e ops.size (ops.push .done)).1 u =
      (w u).flatMap (ends all (places all) ops.size) :=
  h.ends_eq (within_round hall) (fun u => settles_choice hr h hw hall (hnext u)) u

/-- **A loop tries its rounds as an unlimited repetition does.** The induction is on what is left to
read, which each round makes shorter. -/
lemma ends_choice {next : Nat} {ops all : Array Op}
    (hall : Within ops (loopOps e greedy next ops) all) (hnext : ∀ u, Settles all next u)
    (u : Spot) :
    ends all (places all) ops.size u =
      (unlimited w greedy u).flatMap (ends all (places all) next) := by
  induction hlen : u.after.length using Nat.strongRecOn generalizing u with
  | _ n ih =>
    have hround : ends all (places all) (e ops.size (ops.push .done)).1 u =
        ((w u).flatMap (unlimited w greedy)).flatMap (ends all (places all) next) := by
      rw [ends_round hr h hw hall hnext u, List.flatMap_assoc]
      exact List.flatMap_congr fun v hv => ih _ (hlen ▸ hw u v hv) v rfl
    rw [ends_split (getElem?_choice (hr 0).toGrows hall) (settles_round h hw hall u) (hnext u),
      Regex.unlimited_eq_oneMore hw]
    cases greedy <;> simp [hround, oneMore]

lemma orders_plus (greedy : Bool) :
    Orders (plus e greedy) fun u => (w u).flatMap (unlimited w greedy) where
  settles hall u _ := settles_round h hw hall u
  ends_eq {next ops all} hall hnext u := by
    change ends all (places all) (e ops.size (ops.push .done)).1 u = _
    rw [ends_round hr h hw hall hnext u, List.flatMap_assoc]
    exact List.flatMap_congr fun v _ => ends_choice hr h hw hall hnext v

lemma orders_star (greedy : Bool) : Orders (star e greedy true) (unlimited w greedy) where
  settles hall _ hnext := settles_choice hr h hw hall (hnext Regex.mem_upTo_self)
  ends_eq hall hnext u := ends_choice hr h hw hall hnext u

end Loops

lemma orders_rounds (hr : Realizes e M) (h : Orders e w) {positive : Bool} {extra : Option Nat}
    (hloop : extra = none →
      positive = true ∧ ∀ u, ∀ v ∈ w u, v.after.length < u.after.length)
    (least : Nat) (greedy : Bool) :
    Orders (rounds e positive least extra greedy) fun u =>
      (exactly w least u).flatMap fun v => upTo w greedy (extra.getD v.after.length) v := by
  cases extra with
  | some k =>
    exact (orders_times hr h least).after (orders_optional hr h greedy k)
      (realizes_times hr least 0).toGrows (realizes_optional hr greedy k 0).toGrows
  | none =>
    obtain ⟨rfl, hw⟩ := hloop rfl
    cases least with
    | zero =>
      have star : Orders (rounds e true 0 none greedy) fun u => upTo w greedy u.after.length u :=
        orders_star hr h hw greedy
      simpa [exactly] using star
    | succ least =>
      have plus : Orders (rounds e true (least + 1) none greedy) fun u =>
          (exactly w least u).flatMap fun v => (w v).flatMap fun q =>
            upTo w greedy q.after.length q :=
        (orders_times hr h least).after (orders_plus hr h hw greedy)
          (realizes_times hr least 0).toGrows (realizes_plus hr greedy 0).toGrows
      simpa [exactly, List.flatMap_assoc] using plus

end Emitter

namespace Regex

open Emitter
open Program (Settles places)

lemma orders_literal (t : Text) : Orders (literal t).emit (literal t).ways := by
  induction t with
  | nil => exact orders_skip
  | cons c t ih =>
    exact (orders_read (.single c)).after ih (grows_add (by simp))
      ((literal t).realizes_emit 0).toGrows

lemma orders_alt {a b : Regex} (ha : Orders a.emit a.ways) (hb : Orders b.emit b.ways) :
    Orders (alt a b).emit (alt a b).ways where
  settles hall u hnext := by
    obtain ⟨hallB, hallA, hop⟩ := of_within_alt hall
    exact settles_split hop (ha.settles hallA fun hu => hnext (List.mem_append_left _ hu))
      (hb.settles hallB fun hu => hnext (List.mem_append_right _ hu))
  ends_eq {next ops all} hall hnext u := by
    obtain ⟨hallB, hallA, hop⟩ := of_within_alt hall
    rw [ends_split hop (ha.settles hallA fun _ => hnext u) (hb.settles hallB fun _ => hnext u),
      if_pos rfl, ha.ends_eq hallA hnext u, hb.ends_eq hallB hnext u]
    exact List.flatMap_append.symm

/-- **The operations of an expression try its ways in its order**, if its loops read. -/
theorem orders_emit {r : Regex} (h : r.loopsRead = true) : Orders r.emit r.ways := by
  induction r with
  | empty => exact orders_skip
  | literal t => exact orders_literal t
  | set s bytes => exact orders_read s
  | look a => exact orders_look a
  | capture i r ih => exact ih h
  | rep r least extra greedy ih =>
    obtain ⟨hr, hextra⟩ : r.loopsRead = true ∧ (extra.isSome = true ∨ r.isPositive = true) := by
      simpa [loopsRead] using h
    refine orders_rounds r.realizes_emit (ih hr) (fun hnone => ?_) least greedy
    have hpos : r.isPositive = true := by simpa [hnone] using hextra
    exact ⟨hpos, fun u v hv => (matches_of_mem_ways hv).length_lt hpos⟩
  | seq a b iha ihb =>
    obtain ⟨ha, hb⟩ : a.loopsRead = true ∧ b.loopsRead = true := by simpa [loopsRead] using h
    exact (iha ha).after (ihb hb) (a.realizes_emit 0).toGrows (b.realizes_emit 0).toGrows
  | alt a b iha ihb =>
    obtain ⟨ha, hb⟩ : a.loopsRead = true ∧ b.loopsRead = true := by simpa [loopsRead] using h
    exact orders_alt (iha ha) (ihb hb)

/-- **The ends are those that the expression lists**, in its order. -/
theorem ends_eq_ways {r : Regex} (h : r.loopsRead = true) (u : Spot) : r.ends u = r.ways u := by
  have hdone : (r.emit 0 #[.done]).2[0]? = some .done :=
    (r.realizes_emit 0).keep 0 #[.done] (i := 0) Nat.one_pos
  have hsettles (u : Spot) : Settles (r.emit 0 #[.done]).2 0 u :=
    .of_onward (by simp [Program.onward, hdone])
  have hends (u : Spot) : Program.ends (r.emit 0 #[.done]).2 (places (r.emit 0 #[.done]).2) 0 u =
      [u] := by
    rw [(hsettles u).ends_eq (Program.mem_places_of_getElem? hdone)]
    simp [Program.gains, Program.onward, hdone]
  refine ((orders_emit h).ends_eq (fun _ _ _ => rfl) hsettles u).trans ?_
  exact (List.flatMap_congr fun v _ => hends v).trans (by simp)

end Regex

end ExprLexer
