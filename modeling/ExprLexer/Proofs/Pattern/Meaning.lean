import ExprLexer.Proofs.Pattern.Anchor
import ExprLexer.Proofs.Regex.OrderedEmission
import ExprLexer.Proofs.Regex.Preference

/-!
What a pattern means that can be read by itself.

Behind the anchor such a pattern is read alike, so the whole is the anchor and then the pattern's
own expression. Sequences are kept flat, and literals that meet become one; neither changes the
operations. So the program is that of the pattern with one more operation in front, which holds at
the front of the text. What is found is the end that the pattern itself prefers there, and nothing
is found only if the pattern matches no prefix.
-/

namespace ExprLexer

namespace Regex

open Emitter

/-! ### Flat sequences -/

/-- The operations of some expressions, one after the other. -/
def emitItems (rs : List Regex) : Emitter :=
  rs.foldr (fun r e => after r.emit e) fun next ops => (next, ops)

lemma emit_ofItems (rs : List Regex) : (ofItems rs).emit = emitItems rs := by
  induction rs with
  | nil => rfl
  | cons r rs ih =>
    cases rs with
    | nil => rfl
    | cons s rs => exact congrArg (after r.emit) ih

lemma emitItems_items (r : Regex) : emitItems r.items = r.emit := by
  induction r with
  | seq a b _ ihb => exact congrArg (after a.emit) ihb
  | _ => rfl

/-- Two literals that become one have the operations of both. -/
lemma emit_literal_append (s t : Text) :
    (literal (s ++ t)).emit = after (literal s).emit (literal t).emit := by
  funext next ops
  simp [emit, after, List.foldr_append]

lemma emitItems_consItem (r : Regex) (rs : List Regex) :
    emitItems (consItem r rs) = after r.emit (emitItems rs) := by
  unfold consItem
  split
  · rename_i s t rest
    exact congrArg (fun e => after e (emitItems rest)) (emit_literal_append s t)
  · rfl

lemma emitItems_foldr_consItem (rs : List Regex) :
    emitItems (rs.foldr consItem []) = emitItems rs := by
  induction rs with
  | nil => rfl
  | cons r rs ih =>
    rw [List.foldr_cons, emitItems_consItem, ih]
    rfl

/-- What stands behind a condition has its own operations. -/
lemma emit_concat_look (a : Assertion) (r : Regex) :
    (concat [look a, r]).emit = after (add (.look a)) r.emit := by
  have hitems : [look a, r].flatMap items = look a :: r.items := by simp [items]
  rw [concat, hitems, emit_ofItems, emitItems_foldr_consItem]
  exact congrArg (after (add (.look a))) (emitItems_items r)

end Regex

namespace Program

open Emitter

/-! ### The anchor in front -/

/-- The only way out of the operations of an emitter is done. -/
lemma lt_size_of_reaches {e : Emitter} {M : Spot → Spot → Prop} (h : e.Realizes M) {op : Op}
    {k : Nat} {u v : Spot}
    (hreach : Reaches ((e 0 #[.done]).2.push op) ((e 0 #[.done]).1, u) (k, v)) :
    k < (e 0 #[.done]).2.size := by
  by_contra hk
  obtain ⟨n, path⟩ := hreach
  have hall : Within #[.done] (e 0 #[.done]).2 ((e 0 #[.done]).2.push op) := fun i _ hi => by
    simp [Array.getElem?_push, hi.ne]
  obtain ⟨m, -, w, -, path⟩ := h.leaves Nat.one_pos hall path (.inr (not_lt.mp hk))
  have hsize := (h 0).size_le 0 #[.done]
  have hdone : ((e 0 #[.done]).2.push op)[0]? = some .done := by
    rw [Array.getElem?_push, if_neg (by simp at hsize; omega)]
    exact (h 0).keep 0 #[.done] Nat.one_pos
  cases path.eq_of_done hdone
  simp at hsize
  omega

/-- A condition in front that holds makes no difference. -/
lemma ends_push_look {r : Regex} {a : Assertion} {u : Spot} (ha : a.holds u.context = true) :
    let p := atFront r
    let ops := p.ops.push (.look a p.entry)
    ends ops (places ops) p.ops.size u = r.ends u := by
  intro p ops
  have hop : ops[p.ops.size]? = some (.look a p.entry) := by simp [ops]
  rw [ends_of_mem (mem_places_of_getElem? hop)]
  have hgains : gains ops p.ops.size u = [] := by simp [gains, hop]
  have honward : onward ops u.context p.ops.size = [p.entry] := by simp [onward, hop, ha]
  rw [hgains, honward, List.nil_append, List.flatMap_singleton]
  have hlt {k : Nat} {v : Spot} (h : Reaches ops (p.entry, u) (k, v)) : k < p.ops.size :=
    lt_size_of_reaches r.realizes_emit h
  refine ends_congr (P := Reaches ops (p.entry, u)) (fun h h' => h.snoc h') (fun {k v} h => ?_)
    (fun k h => ?_) (.refl ops _)
  · exact (by simp [ops, Array.getElem?_push, (hlt h).ne] : ops[k]? = p.ops[k]?).symm
  · have hk := hlt h
    change k ∈ (places ops).erase p.ops.size ↔ k ∈ places p.ops
    rw [Finset.mem_erase, places, places, Finset.mem_range, Finset.mem_range, Array.size_push]
    omega

end Program

namespace Regex

/-- The end that a backtracking search from a spot would come to first. -/
def preferred? (r : Regex) (u : Spot) : Option Spot := (r.ends u).head?

/-- What is preferred is a match. -/
lemma matches_of_preferred? {r : Regex} {u v : Spot} (h : r.preferred? u = some v) :
    r.Matches u v :=
  mem_ends_iff.mp (List.mem_of_head? h)

lemma preferred?_eq_none_iff {r : Regex} {u : Spot} :
    r.preferred? u = none ↔ ∀ v, ¬ r.Matches u v := by
  rw [preferred?, List.head?_eq_none_iff, List.eq_nil_iff_forall_not_mem]
  exact forall_congr' fun v => mem_ends_iff.not

lemma preferred?_eq_head?_ways {r : Regex} (h : r.loopsRead = true) (u : Spot) :
    r.preferred? u = (r.ways u).head? := by
  rw [preferred?, ends_eq_ways h]

/-- The anchor in front of an expression, as it is kept. -/
def behindAnchor (r : Regex) : Regex := alternation [concat [look .textStart, r]]

lemma ofRegex_behindAnchor (r : Regex) :
    let p := Program.atFront r
    Program.ofRegex r.behindAnchor = ⟨p.ops.push (.look .textStart p.entry), p.ops.size⟩ := by
  have hconcat : r.behindAnchor = concat [look .textStart, r] := by
    unfold behindAnchor
    obtain h | ⟨s, h⟩ := concat_look .textStart [r] <;> rw [h, alternation_singleton rfl]
  have hanchored : (concat [look .textStart, r]).isAnchored = true := by
    rw [← hconcat]
    exact isAnchored_alternation_concat [r]
  rw [hconcat, Program.ofRegex, if_pos hanchored]
  simp only [Program.atFront, emit_concat_look]
  rfl

/-- **Behind the anchor an expression is searched for at the front only.** -/
lemma find?_behindAnchor (r : Regex) (t : Text) :
    (Program.ofRegex r.behindAnchor).find? t =
      (r.preferred? (.front t)).map fun v => Text.byteLength v.before := by
  rw [Program.find?_eq, ofRegex_behindAnchor]
  have hends := Program.ends_push_look (r := r) (a := .textStart) (u := .front t) rfl
  exact congrArg (fun vs => vs.head?.map fun v => Text.byteLength v.before) hends

end Regex

namespace Pattern

/-- The expression of a pattern that is read by itself. -/
def tree? (pattern : Text) : Option Regex :=
  ((State.start.run? pattern).bind State.finish?).map Part.regex

lemma parse_anchored {pattern : Text} {r r' : Regex} (htree : tree? pattern = some r)
    (h : parse (anchored pattern) = .ok r') : r' = r.behindAnchor := by
  obtain ⟨q, hq, rfl⟩ := Option.map_eq_some_iff.mp htree
  obtain ⟨s, hs, hfinish⟩ := Option.bind_eq_some_iff.mp hq
  exact eq_of_parse_anchored hs hfinish h

/-- The answer is the length of what the pattern prefers. -/
lemma matchEnd?_eq {pattern : Text} {r : Regex} {p : Pattern} (htree : tree? pattern = some r)
    (hcompile : compile pattern = .ok p) (t : Text) :
    p.matchEnd? t = (r.preferred? (.front t)).map fun v => Text.byteLength v.before := by
  cases hr : parse (anchored pattern) with
  | error e => simp [compile, hr, Except.map] at hcompile
  | ok r' =>
    obtain rfl : ⟨anchored pattern, .ofRegex r'⟩ = p := by
      simpa [compile, hr, Except.map] using hcompile
    rw [matchEnd?, parse_anchored htree hr]
    exact r.find?_behindAnchor t

/-- **A pattern that can be read by itself means what it means by itself, at the front of a text.**
The answer is the length of the match that it prefers there, and there is none only if it matches no
prefix. If no round of its unlimited repetitions can be empty, the preference is that of its own
branches and repetitions. -/
theorem matchEnd?_iff_preferred {pattern : Text} {r : Regex} {p : Pattern}
    (htree : tree? pattern = some r) (hcompile : compile pattern = .ok p) (t : Text) :
    (∀ n, p.matchEnd? t = some n ↔
      ∃ q, r.preferred? (.front t) = some q ∧ Text.byteLength q.before = n) ∧
    (p.matchEnd? t = none ↔ ∀ q, ¬ r.Matches (.front t) q) ∧
    (∀ q, r.preferred? (.front t) = some q → r.Matches (.front t) q) ∧
    (r.loopsRead = true → r.preferred? (.front t) = (r.ways (.front t)).head?) := by
  have hend := matchEnd?_eq htree hcompile t
  refine ⟨fun n => ?_, ?_, fun q => Regex.matches_of_preferred?, fun hloops => ?_⟩
  · rw [hend, Option.map_eq_some_iff]
  · rw [hend, Option.map_eq_none_iff, Regex.preferred?_eq_none_iff]
  · exact Regex.preferred?_eq_head?_ways hloops _

/-- The flag for lines ends with the pattern, so its own start of a line does not change the anchor;
the first branch matches nothing there, and the second prefers few rounds. -/
theorem matchEnd?_iff_preferred_lines :
    ∃ r p, tree? "(?m)^b|a+?".toList = some r ∧ compile "(?m)^b|a+?".toList = .ok p ∧
      (p.matchEnd? "aab".toList = some 1 ∧
        ∃ q, r.preferred? (.front "aab".toList) = some q ∧ Text.byteLength q.before = 1) ∧
      p.matchEnd? "x\nb".toList = none ∧ ∀ q, ¬ r.Matches (.front "x\nb".toList) q := by
  let r : Regex :=
    .alt (.seq (.look (.lineStart false)) (.literal ['b'])) (.rep (.literal ['a']) 1 none false)
  have htree : tree? "(?m)^b|a+?".toList = some r := by rfl
  have hcompile : compile "(?m)^b|a+?".toList =
      .ok ⟨anchored "(?m)^b|a+?".toList, .ofRegex r.behindAnchor⟩ := by rfl
  have hsome : matchEnd? ⟨anchored "(?m)^b|a+?".toList, .ofRegex r.behindAnchor⟩ "aab".toList =
      some 1 := by cbv
  have hnone : matchEnd? ⟨anchored "(?m)^b|a+?".toList, .ofRegex r.behindAnchor⟩ "x\nb".toList =
      none := by cbv
  have front := matchEnd?_iff_preferred htree hcompile "aab".toList
  have later := matchEnd?_iff_preferred htree hcompile "x\nb".toList
  exact ⟨r, _, htree, hcompile, ⟨hsome, (front.1 1).mp hsome⟩, hnone, later.2.1.mp hnone⟩

end Pattern

end ExprLexer
