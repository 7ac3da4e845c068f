import ExprLexer.Proofs.Grammar.Sentence
import ExprLexer.Proofs.Pieces.Partition
import ExprLexer.Report

/-!
When the two readings of an expression agree.

They agree exactly if every piece is plain: an operator, a number or a bare name. Plain pieces,
each with its kind, are a sentence, since two runs are never neighbours; and a lexeme that is a
piece is plain, since a marker and an arrow hold an operator.
-/

namespace ExprLexer

namespace Lexeme

/-- An operator, a number or a name alone. -/
def IsPlain (p : Text) : Prop := IsOperator p ∨ IsNumber p ∨ IsName p

lemma IsNumber.signFree {p : Text} (h : IsNumber p) : SignFree p := fun c hc hsign => by
  have := (not_isAlphanum_of_mem_stops (mem_stops_of_mem_signs hsign)).1
  rw [h.2 c hc] at this
  cases this

lemma not_isAimed_of_isName {p : Text} (h : IsName p) : ¬IsAimed p := by
  rintro ⟨name, mark, target, hname, -, -, rfl⟩
  have := h.1
  simp [hname.1] at this

/-- A lexeme that is an operator or holds none is plain. -/
lemma isPlain_of_language {k : Kind} {p : Text} (h : k.Language p)
    (hp : IsOperator p ∨ SignFree p) : IsPlain p := by
  rcases hp with hop | hfree
  · exact .inl hop
  cases k with
  | number => exact .inr (.inl h)
  | operator => exact .inl h
  | component =>
    rcases h with ⟨name, mark, hname, hmark, rfl⟩ | ⟨name, mark, target, -, -, -, rfl⟩
    · rcases hmark with rfl | rfl
      · rw [List.append_nil]
        exact .inr (.inr hname)
      · exact absurd (by simp) (hfree '+' (by simp))
    · exact absurd (by simp) (hfree '-' (by simp))

/-- A plain text is the value of a token without a target. -/
lemma IsPlain.exists_token {p : Text} (h : IsPlain p) :
    ∃ t : Token, t.value = p ∧ t.kind.Language t.value ∧
      (t.kind = .component → ¬IsAimed t.value) := by
  rcases h with hop | hnum | hname
  · exact ⟨⟨.operator, p⟩, rfl, hop, by simp⟩
  · exact ⟨⟨.number, p⟩, rfl, hnum, by simp⟩
  · refine ⟨⟨.component, p⟩, rfl, .inl ⟨p, [], hname, .inl rfl, by simp⟩, fun _ => ?_⟩
    exact not_isAimed_of_isName hname

end Lexeme

open Lexeme

/-- **Plain pieces are the values of a sentence.** -/
lemma Partition.exists_sentence {s : Text} {ps : List Text} (h : Partition s ps)
    (hplain : ∀ p ∈ ps, IsPlain p) : ∃ ts, ts.map Token.value = ps ∧ Sentence s ts := by
  induction ps generalizing s with
  | nil => exact ⟨[], rfl, Cut.nil_iff.mpr (Cut.nil_iff.mp h)⟩
  | cons p ps ih =>
    obtain ⟨rest, happ, -, hrest, halt⟩ := Cut.cons_iff.mp h
    obtain ⟨ts, rfl, hts⟩ := ih hrest fun q hq => hplain q (List.mem_cons_of_mem p hq)
    obtain ⟨t, rfl, hlex, haim⟩ := (hplain p List.mem_cons_self).exists_token
    refine ⟨t :: ts, rfl, Cut.cons_iff.mpr ⟨rest, happ, hlex, hts, fun b hb => ⟨?_, ?_⟩⟩⟩
    · rintro ⟨ht, hbk⟩
      have hb' := hts.part b (List.mem_of_mem_head? hb)
      rw [ht] at hlex
      rw [hbk] at hb'
      exact halt b.value (by simpa using ⟨b, hb, rfl⟩)
        ⟨IsNumber.signFree hlex, IsNumber.signFree hb'⟩
    · exact fun ht haimed => absurd haimed (haim ht)

namespace Report

lemma agrees_iff {e : Text} :
    (ofExpression e).agrees = true ↔
      ∃ ts, Grammar.builtin.tokens e = .ok ts ∧ ts.map Token.value = ExprLexer.pieces e := by
  unfold ofExpression
  cases Grammar.builtin.tokens e <;> simp

lemma agrees_iff_of_ok {e : Text} {ts : List Token} (h : Grammar.builtin.tokens e = .ok ts) :
    (ofExpression e).agrees = true ↔ ts.map Token.value = ExprLexer.pieces e := by
  simp [ofExpression, h]

lemma agrees_eq_false_of_error {e : Text} {err : Unmatched}
    (h : Grammar.builtin.tokens e = .error err) : (ofExpression e).agrees = false := by
  simp [ofExpression, h]

/-- **The domain of agreement**: the token values are the pieces exactly if every piece is an
operator, a number or five letters. -/
theorem agrees_iff_plain (e : Text) :
    ((ofExpression e).agrees = true ↔
      Grammar.builtin.values e = .ok (ExprLexer.pieces e)) ∧
    ((ofExpression e).agrees = true ↔
      ∀ p ∈ ExprLexer.pieces e, IsOperator p ∨ IsNumber p ∨ IsName p) := by
  have hpieces := pieces_partition e
  rw [agrees_iff]
  refine ⟨?_, ?_, fun hplain => ?_⟩
  · unfold Grammar.values
    cases Grammar.builtin.tokens e <;> simp [Except.map]
  · rintro ⟨ts, hts, hvalues⟩ p hp
    have hsent := Grammar.builtin_reads_iff.mp (Grammar.tokens_eq_ok_iff.mp hts)
    obtain ⟨t, ht, rfl⟩ := List.mem_map.mp (hvalues ▸ hp)
    exact isPlain_of_language (hsent.part t ht) (hpieces.part _ hp).2
  · obtain ⟨ts, hvalues, hsent⟩ := hpieces.exists_sentence hplain
    exact ⟨ts, Grammar.tokens_eq_ok_iff.mpr (Grammar.builtin_reads_iff.mpr hsent), hvalues⟩

example : (ofExpression "(ab c)de + 12".toList).agrees = true := by cbv
example : (ofExpression "12abcde".toList).agrees = false := by cbv

end Report

end ExprLexer
