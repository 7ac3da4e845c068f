import ExprLexer.Proofs.Regex.Search
import Mathlib.Data.Nat.Basic
import Mathlib.Order.Basic

/-!
What the operations of an expression match.

An emitter adds operations behind those that are there. A way that enters them and comes to a place
outside leaves them through the place that follows, or through a second exit, and what it passes on
the way is told by a relation on spots. Emitters are put together as their relations are, so by
induction on an expression its operations pass what the expression matches, and the search finds
nothing else.
-/

namespace ExprLexer

open Relation (Comp)

namespace Emitter

open Program (Step Path)

variable {e e' : Emitter} {exit n : Nat} {greedy : Bool} {M M' E E' : Spot → Spot → Prop}

/-- What holds of no two spots. -/
def Never : Spot → Spot → Prop := fun _ _ => False

/-- The operations that `ops'` has behind those of `ops` are part of a program. -/
def Within (ops ops' all : Array Op) : Prop :=
  ∀ i, ops.size ≤ i → i < ops'.size → all[i]? = ops'[i]?

/-- A place that is none of those that `ops'` has behind those of `ops`. -/
def Outside (ops ops' : Array Op) (k : Nat) : Prop := k < ops.size ∨ ops'.size ≤ k

lemma Within.mono {ops ops₁ ops' all : Array Op} (hall : Within ops ops' all)
    (hle : ops.size ≤ ops₁.size) : Within ops₁ ops' all := fun i hi hlt => hall i (hle.trans hi) hlt

lemma Outside.mono {ops ops₁ ops' ops₁' : Array Op} {k : Nat} (hk : Outside ops ops' k)
    (hle : ops.size ≤ ops₁.size) (hle' : ops₁'.size ≤ ops'.size) : Outside ops₁ ops₁' k :=
  hk.imp (·.trans_le hle) hle'.trans

/-- Operations are added behind those that are there, and none of them is done. -/
structure Grows (e : Emitter) : Prop where
  size_le (next : Nat) (ops : Array Op) : ops.size ≤ (e next ops).2.size
  keep (next : Nat) (ops : Array Op) {i : Nat} (h : i < ops.size) : (e next ops).2[i]? = ops[i]?
  entry_lt {next : Nat} {ops : Array Op} (h : next < ops.size) :
    (e next ops).1 < (e next ops).2.size
  ne_done (next : Nat) (ops : Array Op) {i : Nat} (h : ops.size ≤ i) :
    (e next ops).2[i]? ≠ some .done

/-- A way through the operations leaves them for the place that follows after `M`, or for `exit`
after `E`. It is no shorter than what is left of it there. -/
structure Fragment (exit : Nat) (e : Emitter) (M E : Spot → Spot → Prop) : Prop
    extends Grows e where
  leaves {next : Nat} {ops all : Array Op} (hnext : next < ops.size) (hexit : exit < ops.size)
    (hall : Within ops (e next ops).2 all) {n k : Nat} {p q : Spot}
    (path : Path all n ((e next ops).1, p) (k, q)) (hk : Outside ops (e next ops).2 k) :
    ∃ m ≤ n, ∃ u, (M p u ∧ Path all m (next, u) (k, q)) ∨ (E p u ∧ Path all m (exit, u) (k, q))

/-- Only the place that follows is an exit. -/
def Realizes (e : Emitter) (M : Spot → Spot → Prop) : Prop := ∀ exit, Fragment exit e M Never

lemma Fragment.mono (h : Fragment exit e M E) (hM : ∀ p q, M p q → M' p q)
    (hE : ∀ p q, E p q → E' p q) : Fragment exit e M' E' where
  toGrows := h.toGrows
  leaves hnext hexit hall _ _ _ _ path hk := by
    obtain ⟨m, hm, u, hu⟩ := h.leaves hnext hexit hall path hk
    exact ⟨m, hm, u, hu.imp (And.imp_left (hM _ _)) (And.imp_left (hE _ _))⟩

lemma Realizes.mono (h : Realizes e M) (hM : ∀ p q, M p q → M' p q) : Realizes e M' :=
  fun exit => (h exit).mono hM fun _ _ => id

lemma Realizes.leaves (h : Realizes e M) {next : Nat} {ops all : Array Op}
    (hnext : next < ops.size) (hall : Within ops (e next ops).2 all) {n k : Nat} {p q : Spot}
    (path : Path all n ((e next ops).1, p) (k, q)) (hk : Outside ops (e next ops).2 k) :
    ∃ m ≤ n, ∃ u, M p u ∧ Path all m (next, u) (k, q) := by
  obtain ⟨m, hm, u, hu | hu⟩ := (h next).leaves hnext hnext hall path hk
  · exact ⟨m, hm, u, hu⟩
  · exact hu.1.elim

/-- The operations that an emitter adds, together with those added before. -/
lemma Grows.behind {e : Nat → Array Op → Emitter} (place : Nat → Array Op → Nat)
    (h : ∀ next ops, Grows (e next ops)) (h' : Grows e')
    (hplace : ∀ {next ops}, next < ops.size → place next ops < (e' next ops).2.size) :
    Grows fun next ops => e next ops (place next ops) (e' next ops).2 where
  size_le next ops := (h'.size_le next ops).trans ((h next ops).size_le _ _)
  keep next ops i hi :=
    ((h next ops).keep _ _ (hi.trans_le (h'.size_le next ops))).trans (h'.keep next ops hi)
  entry_lt {next ops} hnext := (h next ops).entry_lt (hplace hnext)
  ne_done next ops i hi := by
    rcases Nat.lt_or_ge i (e' next ops).2.size with hlt | hge
    · rw [(h next ops).keep _ _ hlt]
      exact h'.ne_done next ops hi
    · exact (h next ops).ne_done _ _ hge

/-- What is added first stays within the whole. -/
lemma Within.first {ops ops' all : Array Op} {place : Nat} (h : Grows e)
    (hall : Within ops (e place ops').2 all) : Within ops ops' all := fun i hi hlt => by
  rw [hall i hi (hlt.trans_le (h.size_le _ _)), h.keep _ _ hlt]

/-- No operation, nothing passed. -/
lemma realizes_skip : Realizes (fun next ops => (next, ops)) Eq := fun exit =>
  { size_le := fun _ _ => le_rfl
    keep := fun _ _ _ _ => rfl
    entry_lt := id
    ne_done := fun _ ops i h => by simp [Array.getElem?_eq_none h]
    leaves := fun _ _ _ n _ p _ path _ => ⟨n, le_rfl, p, .inl ⟨rfl, path⟩⟩ }

/-! ### One operation -/

lemma grows_add {op : Nat → Op} (hdone : ∀ x, op x ≠ .done) : Grows (add op) where
  size_le next ops := by simp [add]
  keep next ops i h := by simp [add, Array.getElem?_push, h.ne]
  entry_lt h := by simp [add]
  ne_done next ops i h := by
    rcases Nat.eq_or_lt_of_le h with rfl | h
    · simpa [add] using hdone next
    · have hsize : (add op next ops).2.size ≤ i := by simpa [add] using Nat.succ_le_of_lt h
      simp [Array.getElem?_eq_none hsize]

lemma getElem?_add {op : Nat → Op} {next : Nat} {ops all : Array Op}
    (hall : Within ops (add op next ops).2 all) : all[ops.size]? = some (op next) := by
  rw [hall ops.size le_rfl (by simp [add])]
  simp [add]

/-- One operation passes what each of its steps passes. -/
lemma fragment_add {op : Nat → Op} (hdone : ∀ x, op x ≠ .done)
    (hstep : ∀ {all : Array Op} {i x : Nat} {p : Spot} {y : Program.Point},
      all[i]? = some (op x) → Step all (i, p) y →
        ∃ u, (M p u ∧ y = (x, u)) ∨ (E p u ∧ y = (exit, u))) :
    Fragment exit (add op) M E where
  toGrows := grows_add hdone
  leaves {next ops all} _ _ hall {n k p q} path hk := by
    have hop := getElem?_add hall
    cases path with
    | stop =>
      have : (ops.push (op next)).size ≤ ops.size := hk.resolve_left (Nat.lt_irrefl _)
      rw [Array.size_push] at this
      omega
    | @step n _ y _ step path =>
      obtain ⟨u, ⟨hu, rfl⟩ | ⟨hu, rfl⟩⟩ := hstep hop step
      · exact ⟨n, n.le_succ, u, .inl ⟨hu, path⟩⟩
      · exact ⟨n, n.le_succ, u, .inr ⟨hu, path⟩⟩

lemma realizes_read (s : CharSet) :
    Realizes (add (.read s)) fun p q => ∃ c, s.contains c = true ∧ Spot.Passes [c] p q := by
  refine fun exit => fragment_add (by simp) fun {all i x p y} hop step => ?_
  cases step with
  | @read _ _ s' c _ q op mem passes =>
    obtain ⟨rfl, rfl⟩ : s' = s ∧ _ = x := by simpa [op] using hop
    exact ⟨q, .inl ⟨⟨c, mem, passes⟩, rfl⟩⟩
  | look op => simp [op] at hop
  | first op => simp [op] at hop
  | second op => simp [op] at hop

lemma realizes_look (a : Assertion) :
    Realizes (add (.look a)) fun p q => a.holds p.context = true ∧ p = q := by
  refine fun exit => fragment_add (by simp) fun {all i x p y} hop step => ?_
  cases step <;> simp_all

/-- A choice leads to either place. -/
lemma step_split {all : Array Op} {i x y : Nat} {p : Spot} {z : Program.Point}
    (hop : all[i]? = some (split greedy x y)) (step : Step all (i, p) z) :
    z = (x, p) ∨ z = (y, p) := by
  cases greedy <;> cases step <;> simp_all [split]

lemma split_ne_done (greedy : Bool) (x y : Nat) : split greedy x y ≠ .done := by
  cases greedy <;> simp [split]

lemma fragment_split (greedy : Bool) (exit : Nat) :
    Fragment exit (add (split greedy · exit)) Eq Eq := by
  refine fragment_add (fun x => split_ne_done greedy x exit) fun {all i x p y} hop step => ?_
  rcases step_split hop step with rfl | rfl
  · exact ⟨p, .inl ⟨rfl, rfl⟩⟩
  · exact ⟨p, .inr ⟨rfl, rfl⟩⟩

/-! ### One after the other -/

/-- The operations of `e` in front of those of `e'`. -/
def after (e e' : Emitter) : Emitter := fun next ops => e (e' next ops).1 (e' next ops).2

lemma Fragment.after (h : Fragment exit e M E) (h' : Fragment exit e' M' E') :
    Fragment exit (after e e') (Comp M M') fun p q => E p q ∨ Comp M E' p q where
  toGrows := .behind (fun next ops => (e' next ops).1) (fun _ _ => h.toGrows) h'.toGrows h'.entry_lt
  leaves {next ops all} hnext hexit hall {n k p q} path hk := by
    have hle := h'.size_le next ops
    have hle' := h.size_le (e' next ops).1 (e' next ops).2
    obtain ⟨m, hm, u, ⟨hu, path⟩ | ⟨hu, path⟩⟩ :=
      h.leaves (h'.entry_lt hnext) (hexit.trans_le hle)
        (hall.mono hle) path (hk.mono hle le_rfl)
    · obtain ⟨m', hm', v, ⟨hv, path⟩ | ⟨hv, path⟩⟩ :=
        h'.leaves hnext hexit (hall.first h.toGrows) path (hk.mono le_rfl hle')
      · exact ⟨m', hm'.trans hm, v, .inl ⟨⟨u, hu, hv⟩, path⟩⟩
      · exact ⟨m', hm'.trans hm, v, .inr ⟨.inr ⟨u, hu, hv⟩, path⟩⟩
    · exact ⟨m, hm, u, .inr ⟨.inl hu, path⟩⟩

lemma Realizes.after (h : Realizes e M) (h' : Realizes e' M') :
    Realizes (after e e') (Comp M M') := fun exit =>
  ((h exit).after (h' exit)).mono (fun _ _ => id) fun _ _ hE =>
    hE.elim id fun ⟨_, _, hnever⟩ => hnever

/-- The second exit is the place that follows. -/
lemma realizes_join {f : Nat → Emitter} (h : ∀ exit, Fragment exit (f exit) M E) :
    Realizes (fun next ops => f next next ops) fun p q => M p q ∨ E p q := fun exit =>
  { size_le := fun next ops => (h next).size_le next ops
    keep := fun next ops _ hi => (h next).keep next ops hi
    entry_lt := fun {next _} hlt => (h next).entry_lt hlt
    ne_done := fun next ops _ hi => (h next).ne_done next ops hi
    leaves := fun {next _ _} hnext _ hall _ _ _ _ path hk => by
      obtain ⟨m, hm, u, ⟨hu, path⟩ | ⟨hu, path⟩⟩ := (h next).leaves hnext hnext hall path hk
      · exact ⟨m, hm, u, .inl ⟨.inl hu, path⟩⟩
      · exact ⟨m, hm, u, .inl ⟨.inr hu, path⟩⟩ }

/-! ### Rounds -/

lemma times_succ (e : Emitter) (n : Nat) : times e (n + 1) = after (times e n) e := rfl

lemma realizes_times (h : Realizes e M) (n : Nat) : Realizes (times e n) (Rounds M n) := by
  induction n with
  | zero => exact realizes_skip
  | succ n ih =>
    rw [times_succ]
    exact (ih.after h).mono fun p q ⟨u, hu, hq⟩ => hu.append (.one hq)

lemma optional_succ (e : Emitter) (greedy : Bool) (exit n : Nat) :
    optional e greedy exit (n + 1) =
      after (optional e greedy exit n) (after (add (split greedy · exit)) e) := rfl

/-- Up to `n` rounds, each of which can be the way out. -/
lemma fragment_optional (h : Realizes e M) (greedy : Bool) (exit n : Nat) :
    Fragment exit (optional e greedy exit n) (Rounds M n) fun p q => ∃ i ≤ n, Rounds M i p q := by
  induction n with
  | zero => exact (realizes_skip exit).mono (fun _ _ => id) fun _ _ hnever => hnever.elim
  | succ n ih =>
    rw [optional_succ]
    refine (ih.after ((fragment_split greedy exit).after (h exit))).mono ?_ ?_
    · rintro p q ⟨u, hu, _, rfl, hq⟩
      exact hu.append (.one hq)
    · rintro p q (⟨i, hi, hq⟩ | ⟨u, hu, rfl | ⟨_, _, hnever⟩⟩)
      · exact ⟨i, hi.trans n.le_succ, hq⟩
      · exact ⟨n, n.le_succ, hu⟩
      · exact hnever.elim

lemma realizes_optional (h : Realizes e M) (greedy : Bool) (n : Nat) :
    Realizes (fun next ops => optional e greedy next n next ops) fun p q =>
      ∃ i ≤ n, Rounds M i p q :=
  (realizes_join fun exit => fragment_optional h greedy exit n).mono fun _ _ hq =>
    hq.elim (fun hn => ⟨n, le_rfl, hn⟩) id

/-! ### Loops

The choice has its place in front of the round that leads back to it; the round is emitted while
that place holds another operation. -/

/-- The operations of a loop. -/
def loopOps (e : Emitter) (greedy : Bool) (next : Nat) (ops : Array Op) : Array Op :=
  (loop e greedy next ops).2.2

lemma size_loopOps (e : Emitter) (greedy : Bool) (next : Nat) (ops : Array Op) :
    (loopOps e greedy next ops).size = (e ops.size (ops.push .done)).2.size := by
  simp [loopOps, loop]

lemma getElem?_loopOps_of_ne {next i : Nat} {ops : Array Op} (h : i ≠ ops.size) :
    (loopOps e greedy next ops)[i]? = (e ops.size (ops.push .done)).2[i]? := by
  simp [loopOps, loop, Array.getElem?_setIfInBounds_ne h.symm]

lemma size_lt_loopOps (h : Grows e) (greedy : Bool) (next : Nat) (ops : Array Op) :
    ops.size < (loopOps e greedy next ops).size := by
  rw [size_loopOps]
  exact (by simp : ops.size < (ops.push .done).size).trans_le (h.size_le _ _)

lemma getElem?_loopOps_size (h : Grows e) (next : Nat) (ops : Array Op) :
    (loopOps e greedy next ops)[ops.size]? =
      some (split greedy (e ops.size (ops.push .done)).1 next) := by
  have hlt := size_lt_loopOps h greedy next ops
  rw [size_loopOps] at hlt
  simp [loopOps, loop, Array.getElem?_setIfInBounds_self_of_lt hlt]

/-- A loop that is entered at a place of its own. -/
lemma Grows.loop (h : Grows e) {entry : Nat → Array Op → Nat}
    (hentry : ∀ next ops, entry next ops < (loopOps e greedy next ops).size) :
    Grows fun next ops => (entry next ops, loopOps e greedy next ops) where
  size_le next ops := (size_lt_loopOps h greedy next ops).le
  keep next ops i hi := by
    change (loopOps e greedy next ops)[i]? = ops[i]?
    rw [getElem?_loopOps_of_ne hi.ne, h.keep _ _ (by simp; omega)]
    simp [Array.getElem?_push, hi.ne]
  entry_lt _ := hentry _ _
  ne_done next ops i hi := by
    change (loopOps e greedy next ops)[i]? ≠ some .done
    rcases Nat.eq_or_lt_of_le hi with rfl | hlt
    · rw [getElem?_loopOps_size h]
      simpa using split_ne_done greedy _ next
    · rw [getElem?_loopOps_of_ne hlt.ne']
      exact h.ne_done _ _ (by simpa using Nat.succ_le_of_lt hlt)

/-- The operations of a round are those that its emitter adds behind the choice. -/
lemma within_round {next : Nat} {ops all : Array Op}
    (hall : Within ops (loopOps e greedy next ops) all) :
    Within (ops.push .done) (e ops.size (ops.push .done)).2 all := fun i hi hlt => by
  rw [Array.size_push] at hi
  rw [hall i (by omega) (by rwa [size_loopOps]), getElem?_loopOps_of_ne (by omega)]

lemma getElem?_choice (h : Grows e) {next : Nat} {ops all : Array Op}
    (hall : Within ops (loopOps e greedy next ops) all) :
    all[ops.size]? = some (split greedy (e ops.size (ops.push .done)).1 next) := by
  rw [hall _ le_rfl (size_lt_loopOps h greedy next ops), getElem?_loopOps_size h]

/-- From the start of a round, a way goes through it to the choice. -/
lemma leaves_round (h : Realizes e M) {next : Nat} {ops all : Array Op}
    (hall : Within ops (loopOps e greedy next ops) all) {n k : Nat} {p q : Spot}
    (path : Path all n ((e ops.size (ops.push .done)).1, p) (k, q))
    (hk : Outside ops (loopOps e greedy next ops) k) :
    ∃ m ≤ n, ∃ u, M p u ∧ Path all m (ops.size, u) (k, q) := by
  refine h.leaves (by simp) (within_round hall) path ?_
  rw [Outside, size_loopOps] at hk
  exact hk.imp_left fun hlt => by simp; omega

/-- **A loop is left after some rounds.** The induction is on the length of the way, which each
round makes shorter. -/
lemma leaves_choice (h : Realizes e M) {next : Nat} {ops all : Array Op}
    (hall : Within ops (loopOps e greedy next ops) all) {n k : Nat} {p q : Spot}
    (path : Path all n (ops.size, p) (k, q))
    (hk : Outside ops (loopOps e greedy next ops) k) :
    ∃ m ≤ n, ∃ u, (∃ i, Rounds M i p u) ∧ Path all m (next, u) (k, q) := by
  have hgrows := (h 0).toGrows
  have hlt := size_lt_loopOps hgrows greedy next ops
  have hop := getElem?_choice hgrows hall
  induction n using Nat.strongRecOn generalizing p with
  | _ n ih =>
    cases path with
    | stop => exact absurd hk (by simp [Outside, hlt])
    | @step n _ y _ step path =>
      rcases step_split hop step with rfl | rfl
      · obtain ⟨m, hm, u, hu, path⟩ := leaves_round h hall path hk
        obtain ⟨m', hm', v, ⟨i, hi⟩, path⟩ := ih m (by omega) path
        exact ⟨m', by omega, v, ⟨i + 1, u, hu, hi⟩, path⟩
      · exact ⟨n, n.le_succ, p, ⟨0, rfl⟩, path⟩

lemma realizes_plus (h : Realizes e M) (greedy : Bool) :
    Realizes (plus e greedy) fun p q => ∃ n, Rounds M (n + 1) p q := fun exit =>
  { toGrows := (h exit).toGrows.loop fun next ops => by
      rw [size_loopOps]
      exact (h exit).entry_lt (by simp)
    leaves := fun {next ops all} _ _ hall {n k p q} path hk => by
      obtain ⟨m, hm, u, hu, path⟩ := leaves_round h hall path hk
      obtain ⟨m', hm', v, ⟨i, hi⟩, path⟩ := leaves_choice h hall path hk
      exact ⟨m', hm'.trans hm, v, .inl ⟨⟨i, u, hu, hi⟩, path⟩⟩ }

lemma realizes_star (h : Realizes e M) (greedy positive : Bool) :
    Realizes (star e greedy positive) fun p q => ∃ n, Rounds M n p q := by
  cases positive with
  | true =>
    exact fun exit =>
      { toGrows := (h exit).toGrows.loop (size_lt_loopOps (h exit).toGrows greedy)
        leaves := fun {next ops all} _ _ hall {n k p q} path hk => by
          obtain ⟨m, hm, u, hu, path⟩ := leaves_choice h hall path hk
          exact ⟨m, hm, u, .inl ⟨hu, path⟩⟩ }
  | false =>
    -- the choice in front of the first round leads to the place that follows as well
    refine (realizes_join (f := fun exit => after (add (split greedy · exit)) (plus e greedy))
      fun exit => (fragment_split greedy exit).after (realizes_plus h greedy exit)).mono ?_
    rintro p q (⟨_, rfl, n, hn⟩ | rfl | ⟨_, _, hnever⟩)
    · exact ⟨n + 1, hn⟩
    · exact ⟨0, rfl⟩
    · exact hnever.elim

lemma realizes_rounds (h : Realizes e M) (positive : Bool) (least : Nat) (extra : Option Nat)
    (greedy : Bool) :
    Realizes (rounds e positive least extra greedy) fun p q =>
      ∃ n, least ≤ n ∧ (∀ k ∈ extra, n ≤ least + k) ∧ Rounds M n p q := by
  cases extra with
  | some k =>
    refine ((realizes_times h least).after (realizes_optional h greedy k)).mono ?_
    rintro p q ⟨u, hu, i, hi, hq⟩
    exact ⟨least + i, Nat.le_add_right _ _, by simpa using hi, hu.append hq⟩
  | none =>
    cases least with
    | zero =>
      refine (realizes_star h greedy positive).mono ?_
      rintro p q ⟨n, hn⟩
      exact ⟨n, n.zero_le, by simp, hn⟩
    | succ least =>
      refine ((realizes_times h least).after (realizes_plus h greedy)).mono ?_
      rintro p q ⟨u, hu, n, hn⟩
      exact ⟨least + (n + 1), by omega, by simp, hu.append hn⟩

end Emitter

namespace Regex

open Emitter

lemma realizes_literal (t : Text) : Realizes (literal t).emit (Spot.Passes t) := by
  induction t with
  | nil =>
    refine realizes_skip.mono ?_
    rintro p _ rfl
    exact .refl p
  | cons c t ih =>
    refine ((realizes_read (.single c)).after ih).mono ?_
    rintro p q ⟨u, ⟨d, hd, hu⟩, hq⟩
    have hdc : d = c := by simpa using hd
    exact hdc ▸ hu.trans hq

/-- A choice leads into the operations of either branch, and these to the place that follows. -/
lemma realizes_alt {a b : Regex} (ha : Realizes a.emit a.Matches)
    (hb : Realizes b.emit b.Matches) : Realizes (alt a b).emit (alt a b).Matches := fun exit =>
  have growsA := (ha exit).toGrows
  have growsB := (hb exit).toGrows
  have grows : Grows fun next ops => a.emit next (b.emit next ops).2 :=
    .behind (fun next _ => next) (fun _ _ => growsA) growsB
      fun hnext => hnext.trans_le (growsB.size_le _ _)
  { toGrows := .behind (fun next ops => (a.emit next (b.emit next ops).2).1)
      (fun next ops => (fragment_split true (b.emit next ops).1).toGrows) grows grows.entry_lt
    leaves := fun {next ops all} hnext _ hall {n k p q} path hk => by
      have choice := fragment_split true (b.emit next ops).1
      have hleB := growsB.size_le next ops
      have hleA := growsA.size_le next (b.emit next ops).2
      have hle : _ ≤ ((alt a b).emit next ops).2.size := choice.size_le _ _
      have hallAB : Within ops (a.emit next (b.emit next ops).2).2 all := hall.first choice.toGrows
      obtain ⟨m, hm, u, ⟨rfl, path⟩ | ⟨rfl, path⟩⟩ :=
        choice.leaves (grows.entry_lt hnext) ((growsB.entry_lt hnext).trans_le hleA)
          (hall.mono (hleB.trans hleA)) path (hk.mono (hleB.trans hleA) le_rfl)
      · obtain ⟨m', hm', v, hv, path⟩ :=
          ha.leaves (hnext.trans_le hleB) (hallAB.mono hleB) path (hk.mono hleB hle)
        exact ⟨m', hm'.trans hm, v, .inl ⟨.inl hv, path⟩⟩
      · obtain ⟨m', hm', v, hv, path⟩ :=
          hb.leaves hnext (hallAB.first growsA) path (hk.mono le_rfl (hleA.trans hle))
        exact ⟨m', hm'.trans hm, v, .inl ⟨.inr hv, path⟩⟩ }

/-- **The operations of an expression pass what it matches.** -/
theorem realizes_emit (r : Regex) : Realizes r.emit r.Matches := by
  induction r with
  | empty => exact realizes_skip
  | literal t => exact realizes_literal t
  | set s bytes => exact realizes_read s
  | look a => exact realizes_look a
  | capture i r ih => exact ih
  | rep r least extra greedy ih => exact realizes_rounds ih r.isPositive least extra greedy
  | seq a b iha ihb => exact iha.after ihb
  | alt a b iha ihb => exact realizes_alt iha ihb

end Regex

namespace Program

/-! ### The search -/

/-- Nothing comes behind an operation that is done. -/
lemma Path.eq_of_done {ops : Array Op} {i n : Nat} {p : Spot} {y : Point}
    (h : ops[i]? = some .done) (path : Path ops n (i, p) y) : y = (i, p) := by
  cases path with
  | stop => rfl
  | step step _ => cases step <;> simp_all

/-- The only operation that is done stands behind what an emitter adds, and a way that comes to it
has passed these operations. -/
lemma passes_of_reaches_done {e : Emitter} {M : Spot → Spot → Prop} (h : e.Realizes M) {i : Nat}
    {p q : Spot} (hop : (e 0 #[.done]).2[i]? = some .done)
    (hreach : Reaches (e 0 #[.done]).2 ((e 0 #[.done]).1, p) (i, q)) : M p q := by
  obtain ⟨n, path⟩ := hreach
  have grows := (h 0).toGrows
  obtain rfl : i = 0 := by
    by_contra hi
    exact grows.ne_done 0 #[.done] (Nat.pos_of_ne_zero hi) hop
  obtain ⟨m, -, v, hv, path⟩ :=
    h.leaves (show 0 < #[Op.done].size from Nat.one_pos) (fun _ _ _ => rfl) path (.inl Nat.one_pos)
  cases path.eq_of_done hop
  exact hv

/-- What is found is an end of what the operations pass. -/
lemma exists_of_find?_emitted {e : Emitter} {M : Spot → Spot → Prop} (h : e.Realizes M) {t : Text}
    {n : Nat} (hfind : find? ⟨(e 0 #[.done]).2, (e 0 #[.done]).1⟩ t = some n) :
    ∃ q, M (.front t) q ∧ Text.byteLength q.before = n := by
  obtain ⟨i, u, hdone, hreach, hn⟩ := endsAt_of_find? hfind
  have hop : (e 0 #[.done]).2[i]? = some .done := by simpa [isDone] using hdone
  exact ⟨u, passes_of_reaches_done h hop hreach, hn⟩

/-- **What is found is the end of a match.** The match starts anywhere in the text, unless the
expression can match at the front only. -/
theorem exists_matches_of_find? {r : Regex} {t : Text} {n : Nat}
    (h : (ofRegex r).find? t = some n) :
    ∃ p q, (∃ m, Spot.Passes m (.front t) p) ∧ (r.isAnchored = true → p = .front t) ∧
      r.Matches p q ∧ Text.byteLength q.before = n := by
  unfold ofRegex at h
  split at h
  · obtain ⟨q, hq, hn⟩ := exists_of_find?_emitted r.realizes_emit h
    exact ⟨.front t, q, ⟨[], .refl _⟩, fun _ => rfl, hq, hn⟩
  · rename_i hanchored
    have realizes := (Emitter.realizes_star (Emitter.realizes_read .all) false true).after
      r.realizes_emit
    obtain ⟨q, ⟨p, ⟨k, hk⟩, hq⟩, hn⟩ := exists_of_find?_emitted realizes h
    have hpasses := hk.exists_passes fun _ _ ⟨c, _, hc⟩ => ⟨[c], hc⟩
    exact ⟨p, q, hpasses, fun ha => absurd ha hanchored, hq, hn⟩

end Program

end ExprLexer
