import ExprLexer.Proofs.Regex.Emission
import ExprLexer.Proofs.Regex.Ways

/-!
Every match is a way through the operations of an expression.

This is the converse of what the operations pass: from where they are entered, some way leads to
the place that follows, or to a second exit, over all that the relation of an emitter holds of. So
the ends of an expression's own program are those of its matches, and no others.
-/

namespace ExprLexer

open Relation (Comp)

lemma Rounds.split {R : Spot → Spot → Prop} {m n : Nat} {p q : Spot} (h : Rounds R (m + n) p q) :
    ∃ u, Rounds R m p u ∧ Rounds R n u q := by
  induction m generalizing p with
  | zero => exact ⟨p, rfl, by rwa [Nat.zero_add] at h⟩
  | succ m ih =>
    rw [Nat.succ_add] at h
    obtain ⟨u, hu, h⟩ := h
    obtain ⟨v, hv, h⟩ := ih h
    exact ⟨v, ⟨u, hu, hv⟩, h⟩

lemma Rounds.last {R : Spot → Spot → Prop} {n : Nat} {p q : Spot} (h : Rounds R (n + 1) p q) :
    ∃ u, Rounds R n p u ∧ R u q := by
  obtain ⟨u, hu, v, hv, rfl⟩ := h.split
  exact ⟨u, hu, hv⟩

namespace Program

lemma Reaches.refl (ops : Array Op) (x : Point) : Reaches ops x x := ⟨0, .stop x⟩

lemma Reaches.trans {ops : Array Op} {x y z : Point} (h : Reaches ops x y)
    (h' : Reaches ops y z) : Reaches ops x z := by
  obtain ⟨n, path⟩ := h
  induction path with
  | stop => exact h'
  | step step _ ih => exact .cons step (ih h')

lemma Step.reaches {ops : Array Op} {x y : Point} (h : Step ops x y) : Reaches ops x y :=
  .cons h (.refl ops y)

end Program

namespace Emitter

open Program (Step Reaches)

variable {e e' : Emitter} {exit : Nat} {greedy : Bool} {M M' E E' : Spot → Spot → Prop}

/-- Over what `M` holds of, some way through the operations leads to the place that follows; over
what `E` holds of, to `exit`. -/
structure Opens (exit : Nat) (e : Emitter) (M E : Spot → Spot → Prop) : Prop extends Grows e where
  follows {next : Nat} {ops all : Array Op} (hall : Within ops (e next ops).2 all) {p q : Spot}
    (h : M p q) : Reaches all ((e next ops).1, p) (next, q)
  exits {next : Nat} {ops all : Array Op} (hall : Within ops (e next ops).2 all) {p q : Spot}
    (h : E p q) : Reaches all ((e next ops).1, p) (exit, q)

/-- Only the place that follows is an exit. -/
def Covers (e : Emitter) (M : Spot → Spot → Prop) : Prop := ∀ exit, Opens exit e M Never

lemma Opens.mono (h : Opens exit e M E) (hM : ∀ p q, M' p q → M p q)
    (hE : ∀ p q, E' p q → E p q) : Opens exit e M' E' where
  toGrows := h.toGrows
  follows hall _ _ hpq := h.follows hall (hM _ _ hpq)
  exits hall _ _ hpq := h.exits hall (hE _ _ hpq)

lemma Covers.mono (h : Covers e M) (hM : ∀ p q, M' p q → M p q) : Covers e M' :=
  fun exit => (h exit).mono hM fun _ _ => id

lemma covers_skip : Covers (fun next ops => (next, ops)) Eq := fun exit =>
  { toGrows := (realizes_skip exit).toGrows
    follows := by
      rintro next ops all - p _ rfl
      exact .refl _ _
    exits := fun _ _ _ h => h.elim }

/-! ### One operation -/

lemma opens_add {op : Nat → Op} (hdone : ∀ x, op x ≠ .done)
    (hM : ∀ {all : Array Op} {i x : Nat} {p q : Spot}, all[i]? = some (op x) → M p q →
      Step all (i, p) (x, q))
    (hE : ∀ {all : Array Op} {i x : Nat} {p q : Spot}, all[i]? = some (op x) → E p q →
      Step all (i, p) (exit, q)) : Opens exit (add op) M E where
  toGrows := grows_add hdone
  follows hall _ _ h := (hM (getElem?_add hall) h).reaches
  exits hall _ _ h := (hE (getElem?_add hall) h).reaches

lemma covers_read (s : CharSet) :
    Covers (add (.read s)) fun p q => ∃ c, s.contains c = true ∧ Spot.Passes [c] p q := fun exit =>
  opens_add (by simp) (fun hop ⟨_, mem, passes⟩ => .read hop mem passes) fun _ h => h.elim

lemma covers_look (a : Assertion) :
    Covers (add (.look a)) fun p q => a.holds p.context = true ∧ p = q := fun exit => by
  refine opens_add (by simp) ?_ fun _ h => h.elim
  rintro all i x p _ hop ⟨holds, rfl⟩
  exact .look hop holds

lemma step_first {all : Array Op} {i x y : Nat} (p : Spot)
    (hop : all[i]? = some (split greedy x y)) : Step all (i, p) (x, p) := by
  cases greedy with
  | true => exact .first hop
  | false => exact .second hop

lemma step_second {all : Array Op} {i x y : Nat} (p : Spot)
    (hop : all[i]? = some (split greedy x y)) : Step all (i, p) (y, p) := by
  cases greedy with
  | true => exact .second hop
  | false => exact .first hop

lemma opens_split (greedy : Bool) (exit : Nat) : Opens exit (add (split greedy · exit)) Eq Eq := by
  refine opens_add (fun x => split_ne_done greedy x exit) ?_ ?_
  · rintro all i x p _ hop rfl
    exact step_first p hop
  · rintro all i x p _ hop rfl
    exact step_second p hop

/-! ### One after the other -/

lemma Opens.after (h : Opens exit e M E) (h' : Opens exit e' M' E') :
    Opens exit (after e e') (Comp M M') fun p q => E p q ∨ Comp M E' p q where
  toGrows := .behind (fun next ops => (e' next ops).1) (fun _ _ => h.toGrows) h'.toGrows h'.entry_lt
  follows {next ops _} hall _ _ := fun ⟨_, hu, hq⟩ =>
    (h.follows (hall.mono (h'.size_le next ops)) hu).trans (h'.follows (hall.first h.toGrows) hq)
  exits {next ops _} hall _ _ := by
    have hall' := hall.mono (h'.size_le next ops)
    rintro (hq | ⟨u, hu, hq⟩)
    · exact h.exits hall' hq
    · exact (h.follows hall' hu).trans (h'.exits (hall.first h.toGrows) hq)

lemma Covers.after (h : Covers e M) (h' : Covers e' M') : Covers (after e e') (Comp M M') :=
  fun exit => ((h exit).after (h' exit)).mono (fun _ _ => id) fun _ _ => Or.inl

/-- The second exit is the place that follows. -/
lemma covers_join {f : Nat → Emitter} (h : ∀ exit, Opens exit (f exit) M E) :
    Covers (fun next ops => f next next ops) fun p q => M p q ∨ E p q := fun _ =>
  { size_le := fun next ops => (h next).size_le next ops
    keep := fun next ops _ hi => (h next).keep next ops hi
    entry_lt := fun {next _} hlt => (h next).entry_lt hlt
    ne_done := fun next ops _ hi => (h next).ne_done next ops hi
    follows := fun {next _ _} hall _ _ hq =>
      hq.elim ((h next).follows hall) ((h next).exits hall)
    exits := fun _ _ _ h => h.elim }

/-! ### Rounds -/

lemma covers_times (h : Covers e M) (n : Nat) : Covers (times e n) (Rounds M n) := by
  induction n with
  | zero => exact covers_skip
  | succ n ih =>
    rw [times_succ]
    exact (ih.after h).mono fun p q => Rounds.last

lemma opens_optional (h : Covers e M) (greedy : Bool) (exit n : Nat) :
    Opens exit (optional e greedy exit n) (Rounds M n) fun p q => ∃ i < n, Rounds M i p q := by
  induction n with
  | zero => exact (covers_skip exit).mono (fun _ _ => id) fun _ _ ⟨_, hi, _⟩ => absurd hi (by simp)
  | succ n ih =>
    rw [optional_succ]
    refine (ih.after ((opens_split greedy exit).after (h exit))).mono ?_ ?_
    · intro p q hq
      obtain ⟨u, hu, hq⟩ := hq.last
      exact ⟨u, hu, u, rfl, hq⟩
    · rintro p q ⟨i, hi, hq⟩
      rcases Nat.lt_succ_iff_lt_or_eq.mp hi with hi | rfl
      · exact .inl ⟨i, hi, hq⟩
      · exact .inr ⟨q, hq, .inl rfl⟩

lemma covers_optional (h : Covers e M) (greedy : Bool) (n : Nat) :
    Covers (fun next ops => optional e greedy next n next ops) fun p q =>
      ∃ i ≤ n, Rounds M i p q :=
  (covers_join fun exit => opens_optional h greedy exit n).mono fun _ _ ⟨i, hi, hq⟩ =>
    (Nat.lt_or_eq_of_le hi).elim (fun hlt => .inr ⟨i, hlt, hq⟩) fun heq => .inl (heq ▸ hq)

/-! ### Loops -/

/-- From the start of a round, some way leads to the choice. -/
lemma reaches_round (h : Covers e M) {next : Nat} {ops all : Array Op}
    (hall : Within ops (loopOps e greedy next ops) all) {p q : Spot} (hq : M p q) :
    Reaches all ((e ops.size (ops.push .done)).1, p) (ops.size, q) :=
  (h 0).follows (within_round hall) hq

/-- From the choice, some way goes through any number of rounds. -/
lemma reaches_choice (h : Covers e M) {next : Nat} {ops all : Array Op}
    (hall : Within ops (loopOps e greedy next ops) all) {n : Nat} {p q : Spot}
    (hq : Rounds M n p q) : Reaches all (ops.size, p) (next, q) := by
  have hop := getElem?_choice (h 0).toGrows hall
  induction n generalizing p with
  | zero =>
    cases hq
    exact (step_second _ hop).reaches
  | succ n ih =>
    obtain ⟨u, hu, hq⟩ := hq
    exact .cons (step_first p hop) ((reaches_round h hall hu).trans (ih hq))

lemma covers_plus (h : Covers e M) (greedy : Bool) :
    Covers (plus e greedy) fun p q => ∃ n, Rounds M (n + 1) p q := fun exit =>
  { toGrows := (h exit).toGrows.loop fun next ops => by
      rw [size_loopOps]
      exact (h exit).entry_lt (by simp)
    follows := fun hall _ _ ⟨_, _, hu, hq⟩ =>
      (reaches_round h hall hu).trans (reaches_choice h hall hq)
    exits := fun _ _ _ h => h.elim }

lemma covers_star (h : Covers e M) (greedy positive : Bool) :
    Covers (star e greedy positive) fun p q => ∃ n, Rounds M n p q := by
  cases positive with
  | true =>
    exact fun exit =>
      { toGrows := (h exit).toGrows.loop (size_lt_loopOps (h exit).toGrows greedy)
        follows := fun hall _ _ ⟨_, hq⟩ => reaches_choice h hall hq
        exits := fun _ _ _ h => h.elim }
  | false =>
    refine (covers_join (f := fun exit => after (add (split greedy · exit)) (plus e greedy))
      fun exit => (opens_split greedy exit).after (covers_plus h greedy exit)).mono ?_
    rintro p q ⟨n, hq⟩
    cases n with
    | zero => exact .inr (.inl hq)
    | succ n => exact .inl ⟨p, rfl, n, hq⟩

lemma covers_rounds (h : Covers e M) (positive : Bool) (least : Nat) (extra : Option Nat)
    (greedy : Bool) :
    Covers (rounds e positive least extra greedy) fun p q =>
      ∃ n, least ≤ n ∧ (∀ k ∈ extra, n ≤ least + k) ∧ Rounds M n p q := by
  cases extra with
  | some k =>
    refine ((covers_times h least).after (covers_optional h greedy k)).mono ?_
    rintro p q ⟨n, hn, hk, hq⟩
    obtain ⟨i, rfl⟩ := Nat.exists_eq_add_of_le hn
    obtain ⟨u, hu, hq⟩ := hq.split
    exact ⟨u, hu, i, by simpa using hk, hq⟩
  | none =>
    cases least with
    | zero =>
      refine (covers_star h greedy positive).mono ?_
      rintro p q ⟨n, -, -, hq⟩
      exact ⟨n, hq⟩
    | succ least =>
      refine ((covers_times h least).after (covers_plus h greedy)).mono ?_
      rintro p q ⟨n, hn, -, hq⟩
      obtain ⟨i, rfl⟩ := Nat.exists_eq_add_of_le hn
      rw [Nat.add_right_comm, Nat.add_assoc] at hq
      obtain ⟨u, hu, hq⟩ := hq.split
      exact ⟨u, hu, i, hq⟩

end Emitter

namespace Regex

open Emitter

lemma covers_literal (t : Text) : Covers (literal t).emit (Spot.Passes t) := by
  induction t with
  | nil =>
    refine covers_skip.mono ?_
    rintro ⟨b, a⟩ ⟨b', a'⟩ ⟨hb, ha⟩
    simp_all
  | cons c t ih =>
    refine ((covers_read (.single c)).after ih).mono ?_
    rintro ⟨b, a⟩ ⟨b', a'⟩ ⟨hb, ha⟩
    exact ⟨⟨b ++ [c], t ++ a'⟩, ⟨c, by simp, rfl, ha⟩, by simpa using hb, rfl⟩

/-- The operations of an alternation are those of its branches, the second first, and the choice
that leads to them. -/
lemma of_within_alt {a b : Regex} {next : Nat} {ops all : Array Op}
    (hall : Within ops ((alt a b).emit next ops).2 all) :
    Within ops (b.emit next ops).2 all ∧
      Within (b.emit next ops).2 (a.emit next (b.emit next ops).2).2 all ∧
      all[((alt a b).emit next ops).1]? =
        some (Emitter.split true (a.emit next (b.emit next ops).2).1 (b.emit next ops).1) := by
  have growsA := (a.realizes_emit 0).toGrows
  have hleB := (b.realizes_emit 0).size_le next ops
  have hleA := growsA.size_le next (b.emit next ops).2
  have choice := (fragment_split true (b.emit next ops).1).toGrows
  have hbranches : Within ops (a.emit next (b.emit next ops).2).2 all := hall.first choice
  have hchoice : Within (a.emit next (b.emit next ops).2).2
      (add (Emitter.split true · (b.emit next ops).1) (a.emit next (b.emit next ops).2).1
        (a.emit next (b.emit next ops).2).2).2 all := hall.mono (hleB.trans hleA)
  exact ⟨hbranches.first growsA, hbranches.mono hleB, getElem?_add hchoice⟩

lemma covers_alt {a b : Regex} (ha : Covers a.emit a.Matches) (hb : Covers b.emit b.Matches) :
    Covers (alt a b).emit (alt a b).Matches := fun exit =>
  { toGrows := ((alt a b).realizes_emit exit).toGrows
    follows := fun {next ops all} hall p q hq => by
      obtain ⟨hallB, hallA, hop⟩ := of_within_alt hall
      rcases hq with hq | hq
      · exact .cons (step_first p hop) ((ha exit).follows hallA hq)
      · exact .cons (step_second p hop) ((hb exit).follows hallB hq)
    exits := fun _ _ _ h => h.elim }

/-- **Every match is a way through the operations.** -/
theorem covers_emit (r : Regex) : Covers r.emit r.Matches := by
  induction r with
  | empty => exact covers_skip
  | literal t => exact covers_literal t
  | set s bytes => exact covers_read s
  | look a => exact covers_look a
  | capture i r ih => exact ih
  | rep r least extra greedy ih => exact covers_rounds ih r.isPositive least extra greedy
  | seq a b iha ihb => exact iha.after ihb
  | alt a b iha ihb => exact covers_alt iha ihb

/-- The ends of all matches of an expression that start at a spot, most preferred first. -/
def ends (r : Regex) (u : Spot) : List Spot :=
  let p := Program.atFront r
  Program.ends p.ops (Program.places p.ops) p.entry u

/-- **The ends are those of the matches.** -/
theorem mem_ends_iff {r : Regex} {u v : Spot} : v ∈ r.ends u ↔ r.Matches u v := by
  refine Program.mem_ends_iff.trans ⟨?_, fun h => ⟨0, ?_, ?_⟩⟩
  · rintro ⟨d, hd, hreach⟩
    exact Program.passes_of_reaches_done r.realizes_emit hd hreach
  · exact (r.realizes_emit 0).keep 0 #[.done] (i := 0) Nat.one_pos
  · exact (r.covers_emit 0).follows (fun _ _ _ => rfl) h

end Regex

end ExprLexer
