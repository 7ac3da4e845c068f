import ExprLexer.Proofs.Grammar.Seam
import ExprLexer.Proofs.Report.Agreement

/-!
Agreement of an expression put together at an operator.

A partition of the halves with the operator between them is a partition of the whole, and a
sentence of the halves with an operator token between them is a sentence of the whole. So the
pieces of the whole are those of its halves, and when the readings of both halves agree, that of
the whole does. The other way round, a sentence whose values are these pieces has a token for the
operator alone, and there it comes apart into sentences of the halves. A marker or an arrow that
holds the operator makes the whole read in another way than its halves, and then the readings agree
neither on the whole nor on both halves.
-/

namespace ExprLexer

variable {s u : Text} {op : Char}

lemma Partition.append_operator {ps qs : List Text} (h : Partition s ps) (h' : Partition u qs)
    (hop : op ∈ "+-*/".toList) : Partition (s ++ op :: u) (ps ++ [op] :: qs) := by
  refine Cut.append_iff.mpr ⟨s, op :: u, rfl, h, h'.sign hop, fun p _ q hq hfree => ?_⟩
  have hq' : q = [op] := (Option.some.inj hq).symm
  subst hq'
  exact not_signFree_of_isOperator ⟨op, hop, rfl⟩ hfree.2

lemma pieces_append_operator (hop : op ∈ "+-*/".toList) (a b : Text) :
    pieces (a ++ op :: b) = pieces a ++ [op] :: pieces b := by
  have hwhole := pieces_partition (a ++ op :: b)
  rw [significant_append_operator hop] at hwhole
  exact hwhole.unique ((pieces_partition a).append_operator (pieces_partition b) hop)

namespace Sentence

variable {t : Token} {ts us : List Token}

/-- Sentences are put together at an operator. -/
lemma append_operator (h : Sentence s ts) (h' : Sentence u us) (hop : op ∈ "+-*/".toList) :
    Sentence (s ++ op :: u) (ts ++ ⟨.operator, [op]⟩ :: us) := by
  have hbehind : Sentence (op :: u) (⟨.operator, [op]⟩ :: us) :=
    Cut.cons_iff.mpr ⟨u, rfl, ⟨op, hop, rfl⟩, h', fun b _ => ⟨by simp, by simp⟩⟩
  refine Cut.append_iff.mpr ⟨s, op :: u, rfl, h, hbehind, fun a _ b hb => ?_⟩
  have hb' : b = ⟨.operator, [op]⟩ := (Option.some.inj hb).symm
  subst hb'
  exact ⟨by simp, fun _ _ => rfl⟩

/-- A sentence comes apart at each of its tokens. -/
lemma split (h : Sentence s (ts ++ t :: us)) : ∃ u v, Sentence u ts ∧ Sentence v us := by
  obtain ⟨u, v, -, hu, hv, -⟩ := Cut.append_iff.mp h
  obtain ⟨rest, -, -, hrest, -⟩ := Cut.cons_iff.mp hv
  exact ⟨u, rest, hu, hrest⟩

/-- A sentence whose values are the pieces of an expression is one of its significant text. -/
lemma eq_significant {e : Text} (h : Sentence s ts) (hvalues : ts.map Token.value = pieces e) :
    s = significant e := by
  calc s = Token.concat ts := h.concat.symm
    _ = (pieces e).flatten := by rw [← Token.flatten_map_value, hvalues]
    _ = significant e := (pieces_partition e).flatten

end Sentence

namespace Report

lemma agrees_iff_exists_sentence {e : Text} :
    (ofExpression e).agrees = true ↔
      ∃ ts, Sentence (significant e) ts ∧ ts.map Token.value = ExprLexer.pieces e := by
  simp only [agrees_iff, Grammar.tokens_eq_ok_iff, Grammar.builtin_reads_iff]

/-- **Agreement decomposes at operators**: the pieces of the whole are those of its halves with the
operator between them, and the readings of the whole agree exactly if those of both halves do,
whatever the operator and the halves. -/
theorem agrees_append_operator_iff (a b : Text) (hop : op ∈ "+-*/".toList) :
    ExprLexer.pieces (a ++ op :: b) = ExprLexer.pieces a ++ [op] :: ExprLexer.pieces b ∧
    ((ofExpression (a ++ op :: b)).agrees = true ↔
      (ofExpression a).agrees = true ∧ (ofExpression b).agrees = true) := by
  have hpieces := pieces_append_operator hop a b
  refine ⟨hpieces, ?_⟩
  simp only [agrees_iff_exists_sentence, hpieces, significant_append_operator hop]
  constructor
  · rintro ⟨ts, hts, hvalues⟩
    obtain ⟨us, vs, rfl, hus, hvs⟩ := List.map_eq_append_iff.mp hvalues
    obtain ⟨t, vs, rfl, -, hvs⟩ := List.map_eq_cons_iff.mp hvs
    obtain ⟨u, v, hu, hv⟩ := hts.split
    exact ⟨⟨us, hu.eq_significant hus ▸ hu, hus⟩, ⟨vs, hv.eq_significant hvs ▸ hv, hvs⟩⟩
  · rintro ⟨⟨us, hu, hus⟩, ⟨vs, hv, hvs⟩⟩
    exact ⟨_, hu.append_operator hv hop, by simp [hus, hvs]⟩

/-- The minus belongs to an arrow: the whole is one component, and the half behind it is none. -/
theorem agrees_append_minus_arrow :
    '-' ∈ "+-*/".toList ∧
    ExprLexer.pieces "(abcde->x".toList =
      ExprLexer.pieces "(abcde".toList ++ ['-'] :: ExprLexer.pieces ">x".toList ∧
    ((ofExpression "(abcde->x".toList).agrees = true ↔
      (ofExpression "(abcde".toList).agrees = true ∧ (ofExpression ">x".toList).agrees = true) ∧
    (∃ t, (ofExpression "(abcde->x".toList).reading = .ok [t]) ∧
    ∃ err, (ofExpression ">x".toList).reading = .error err := by
  have hop : '-' ∈ "+-*/".toList := by decide
  obtain ⟨hpieces, hagrees⟩ := agrees_append_operator_iff "(abcde".toList ">x".toList hop
  have hwhole : (ofExpression "(abcde->x".toList).reading =
      .ok [⟨.component, "abcde->x".toList⟩] := by cbv
  have hbehind : (ofExpression ">x".toList).reading = .error ⟨'>', 0⟩ := by cbv
  exact ⟨hop, hpieces, hagrees, ⟨_, hwhole⟩, ⟨_, hbehind⟩⟩

end Report

end ExprLexer
