import ExprLexer.Proofs.Grammar.Sentence
import Mathlib

/-!
Operators as seams.

A sentence stays what it is when an operator and more text come behind it. Only a component looks
past an operator: the marker and the arrow hold one. But a marker begun at the end of a sentence
would leave a tilde that no token begins with, and an arrow begun there needs `>` right behind the
operator. So an expression put together at an operator reads as its halves do, and a failure of the
second half is told further to the right.
-/

namespace ExprLexer

lemma not_isFiller_of_mem_signs {c : Char} (h : c ∈ "+-*/".toList) : isFiller c = false := by
  simp only [String.reduceToList, List.mem_cons, List.not_mem_nil, or_false] at h
  rcases h with rfl | rfl | rfl | rfl <;> decide

lemma significant_append_operator {op : Char} (hop : op ∈ "+-*/".toList) (a b : Text) :
    significant (a ++ op :: b) = significant a ++ op :: significant b := by
  have hcons : significant (op :: b) = op :: significant b :=
    List.filter_cons_of_pos (by simp [not_isFiller_of_mem_signs hop])
  rw [significant_append, hcons]

namespace Sentence

variable {rest u : Text} {t : Token} {ts : List Token} {op : Char}

/-- No lexeme that goes on past the first token of a sentence reaches the operator behind it. -/
lemma not_language_across (h : Sentence rest ts) (ht : t.kind.Language t.value)
    (hop : op ∈ "+-*/".toList) (harrow : op ≠ '-' ∨ u.head? ≠ some '>') :
    ¬t.kind.Language (t.value ++ (rest ++ op :: u)) := by
  intro hlong
  have hmem : op ∈ rest ++ op :: u := by simp
  cases hk : t.kind with
  | number =>
    rw [hk] at hlong
    have hdigit := Lexeme.IsNumber.extend hlong op hmem
    rw [(not_isAlphanum_of_mem_stops (mem_stops_of_mem_signs hop)).1] at hdigit
    cases hdigit
  | operator =>
    rw [hk] at ht hlong
    have := Lexeme.IsOperator.extend ht hlong
    simp at this
  | component =>
    rw [hk] at ht hlong
    rcases ht with hbare | haimed
    · rcases hbare.extend hlong with hnil | ⟨z, hz⟩ | ⟨z, hz⟩
      · simp at hnil
      · -- a marker: the sentence or the operator would begin with a tilde
        rcases rest with _ | ⟨c, rest⟩
        · obtain ⟨rfl, -⟩ := List.cons.inj hz
          simp at hop
        · exact h.not_begins.1 (List.cons.inj hz).1
      · -- an arrow: it begins with the operator, or in the sentence
        rcases rest with _ | ⟨c, _ | ⟨d, rest⟩⟩
        · obtain ⟨rfl, rfl⟩ := List.cons.inj hz
          simp at harrow
        · obtain ⟨-, htail⟩ := List.cons.inj hz
          obtain ⟨rfl, -⟩ := List.cons.inj htail
          simp at hop
        · obtain ⟨rfl, htail⟩ := List.cons.inj hz
          obtain ⟨rfl, -⟩ := List.cons.inj htail
          exact not_arrow h
    · exact haimed.extend hlong op hmem (mem_stops_of_mem_signs hop)

end Sentence

namespace Grammar

variable {s u rest : Text} {tok : Token} {ts : List Token} {op : Char}

/-- **One step**: the first match in a sentence is the first match with more text behind it. -/
lemma builtin_first?_append_operator (hf : builtin.first? s = some (tok, rest))
    (hrest : Sentence rest ts) (hop : op ∈ "+-*/".toList)
    (harrow : op ≠ '-' ∨ u.head? ≠ some '>') :
    builtin.first? (s ++ op :: u) = some (tok, rest ++ op :: u) := by
  rw [builtin_first?_eq_some_iff, Kind.lexeme?_eq_some_iff] at hf ⊢
  obtain ⟨rfl, hlex, hmax⟩ := hf
  refine ⟨by simp, hlex, fun w hw hl => ?_⟩
  rcases Text.isPrefix_append_cases hw with hle | ⟨x, hne, hx, rfl⟩
  · exact hmax w hle hl
  · -- a longer lexeme would hold the operator
    exfalso
    obtain ⟨c, v, rfl⟩ := List.exists_cons_of_ne_nil hne
    obtain ⟨rfl, hv⟩ := List.cons_prefix_cons.mp hx
    refine hrest.not_language_across (u := v) hlex hop ?_ (by simpa using hl)
    refine harrow.imp_right fun hu hv' => hu ?_
    obtain ⟨v, rfl⟩ := List.head?_eq_some_iff.mp hv'
    obtain ⟨z, rfl⟩ := hv
    rfl

/-- **The whole run**: what is read to the end is read in front of an operator as well. -/
lemma builtin_reads_append_operator (h : builtin.Reads s ts []) (hop : op ∈ "+-*/".toList)
    (harrow : op ≠ '-' ∨ u.head? ≠ some '>') : builtin.Reads (s ++ op :: u) ts (op :: u) := by
  induction ts generalizing s with
  | nil =>
    cases h
    exact .stop _
  | cons tok ts ih =>
    obtain _ | ⟨first, reads⟩ := h
    exact .next (builtin_first?_append_operator first (builtin_reads_iff.mp reads) hop harrow)
      (ih reads)

lemma builtin_first?_operator (hop : op ∈ "+-*/".toList) (u : Text) :
    builtin.first? (op :: u) = some (⟨.operator, [op]⟩, u) := by
  rw [builtin_first?_eq_some_iff]
  simp [Kind.lexeme?, Lexeme.operator?, isOperatorSign_iff.mpr hop]

/-- What is read behind the seam goes on from what is read in front of it. -/
lemma builtin_reads_seam {us : List Token} {v : Text} (h : builtin.Reads s ts [])
    (h' : builtin.Reads u us v) (hop : op ∈ "+-*/".toList)
    (harrow : op ≠ '-' ∨ u.head? ≠ some '>') :
    builtin.Reads (s ++ op :: u) (ts ++ ⟨.operator, [op]⟩ :: us) v :=
  (builtin_reads_append_operator h hop harrow).append (.next (builtin_first?_operator hop u) h')

/-- **Expressions put together at an operator**: if the first half is read, the tokens of the whole
are those of the halves with the operator between them; and where the second half fails, the whole
fails at the same character, with the first half and the operator in front of it. -/
theorem builtin_tokens_append_operator {a b : Text} (ha : builtin.tokens a = .ok ts)
    (hop : op ∈ "+-*/".toList) (harrow : op ≠ '-' ∨ (significant b).head? ≠ some '>') :
    (∀ us, builtin.tokens b = .ok us →
      builtin.tokens (a ++ op :: b) = .ok (ts ++ ⟨.operator, [op]⟩ :: us)) ∧
    ∀ c p, builtin.tokens b = .error ⟨c, p⟩ →
      builtin.tokens (a ++ op :: b) = .error ⟨c, (significant a).length + 1 + p⟩ := by
  have ha' := tokens_eq_ok_iff.mp ha
  have hs := significant_append_operator hop a b
  constructor
  · intro us hb
    rw [tokens_eq_ok_iff, hs]
    exact builtin_reads_seam ha' (tokens_eq_ok_iff.mp hb) hop harrow
  · intro c p hb
    obtain ⟨us, t, hb', hstuck, rfl⟩ := tokens_eq_error_iff.mp hb
    rw [tokens_eq_error_iff, hs]
    refine ⟨_, t, builtin_reads_seam ha' hb' hop harrow, hstuck, ?_⟩
    have hlen : (Token.concat ts).length = (significant a).length := by
      rw [← ha'.concat_append, List.append_nil]
    simp only [Token.concat, List.flatMap_append, List.flatMap_cons, List.length_append,
      List.length_singleton] at hlen ⊢
    omega

theorem builtin_tokens_append_minus_marked :
    (builtin.tokens "(Bjaeq~R+".toList = .ok [⟨.component, "Bjaeq~R+".toList⟩] ∧
      builtin.tokens " kPlzs->x)".toList = .ok [⟨.component, "kPlzs->x".toList⟩] ∧
      builtin.tokens " 2 * é)".toList = .error ⟨'é', 2⟩) ∧
    builtin.tokens "(Bjaeq~R+- kPlzs->x)".toList =
      .ok [⟨.component, "Bjaeq~R+".toList⟩, ⟨.operator, ['-']⟩, ⟨.component, "kPlzs->x".toList⟩] ∧
    builtin.tokens "(Bjaeq~R+- 2 * é)".toList = .error ⟨'é', 11⟩ := by
  have ha : builtin.tokens "(Bjaeq~R+".toList = .ok [⟨.component, "Bjaeq~R+".toList⟩] := by cbv
  have hb : builtin.tokens " kPlzs->x)".toList = .ok [⟨.component, "kPlzs->x".toList⟩] := by cbv
  have hb' : builtin.tokens " 2 * é)".toList = .error ⟨'é', 2⟩ := by cbv
  have hop : '-' ∈ "+-*/".toList := by decide
  have harrow : '-' ≠ '-' ∨ (significant " kPlzs->x)".toList).head? ≠ some '>' := .inr (by decide)
  have harrow' : '-' ≠ '-' ∨ (significant " 2 * é)".toList).head? ≠ some '>' := .inr (by decide)
  exact ⟨⟨ha, hb, hb'⟩, (builtin_tokens_append_operator ha hop harrow).1 _ hb,
    (builtin_tokens_append_operator ha hop harrow').2 'é' 2 hb'⟩

end Grammar

end ExprLexer
