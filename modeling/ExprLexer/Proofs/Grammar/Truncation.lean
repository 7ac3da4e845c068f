import ExprLexer.Proofs.Grammar.Sentence
import ExprLexer.Proofs.Grammar.Trace

/-!
What is left of a run when its text is cut off.

A first match is the longest lexeme, and what begins a shorter text begins the longer one as well:
so a cut behind a token leaves the token as it is, and where no rule applies, none applies in front
of less. The texts that are read are therefore, among those that begin an expression, the ones that
end with a token, up to the place of failure; any longer one fails there too. This is a law of the
built-in classes: a matcher can answer by what comes later.
-/

namespace ExprLexer

/-- What begins a text without filler has none. -/
lemma significant_of_isPrefix {e v : Text} (h : v <+: significant e) : significant v = v := by
  refine List.filter_eq_self.mpr fun c hc => ?_
  rw [not_isFiller_of_mem_significant (h.subset hc), Bool.not_false]

namespace Grammar

variable {e s t v x y : Text} {c : Char} {tok : Token} {ts : List Token} {q : Nat}

/-- **One step**: what comes later does not matter to a first match that ends before it. -/
lemma builtin_first?_of_append (h : builtin.first? s = some (tok, x ++ y)) :
    builtin.first? (tok.value ++ x) = some (tok, x) := by
  rw [builtin_first?_eq_some_iff, Kind.lexeme?_eq_some_iff] at h ⊢
  obtain ⟨rfl, hlex, hmax⟩ := h
  refine ⟨rfl, hlex, fun w hw => hmax w (hw.trans ?_)⟩
  rw [← List.append_assoc]
  exact List.prefix_append _ y

/-- Where no rule applies, none applies in front of less. -/
lemma builtin_first?_eq_none_of_isPrefix (h : builtin.first? t = none) (hv : v <+: t) :
    builtin.first? v = none := by
  rw [builtin_first?_eq_none_iff] at h ⊢
  exact fun k w hw => h k w (hw.trans hv)

/-- **The whole run**: a chain stays one when the text is cut off behind it. -/
lemma builtin_reads_of_append (h : builtin.Reads s ts (x ++ y)) :
    builtin.Reads (Token.concat ts ++ x) ts x := by
  induction ts generalizing s with
  | nil => exact .stop x
  | cons tok ts ih =>
    obtain _ | ⟨first, reads⟩ := h
    rw [← reads.concat_append, ← List.append_assoc] at first
    rw [Token.concat_cons, List.append_assoc]
    exact .next (builtin_first?_of_append first) (ih reads)

/-- A text that is cut off behind some tokens of a run is read as these tokens. -/
lemma builtin_tokens_concat (h : builtin.Reads (significant e) ts v) :
    builtin.tokens (Token.concat ts) = .ok ts := by
  have hprefix : Token.concat ts <+: significant e := ⟨v, h.concat_append⟩
  rw [tokens_eq_ok_iff, significant_of_isPrefix hprefix]
  simpa using builtin_reads_of_append (x := []) h

/-- A text that is cut off behind the place of failure fails there too. -/
lemma builtin_tokens_take_of_stuck (h : builtin.Reads (significant e) ts (c :: t))
    (hstuck : builtin.first? (c :: t) = none) (hq : (Token.concat ts).length < q) :
    builtin.tokens ((significant e).take q) = .error ⟨c, (Token.concat ts).length⟩ := by
  obtain ⟨n, rfl⟩ : ∃ n, q = (Token.concat ts).length + (n + 1) :=
    ⟨q - (Token.concat ts).length - 1, by omega⟩
  have htake : (significant e).take ((Token.concat ts).length + (n + 1)) =
      Token.concat ts ++ c :: t.take n := by
    rw [← h.concat_append, List.take_length_add_append, List.take_succ_cons]
  have hcut : c :: t = (c :: t.take n) ++ t.drop n := by
    rw [List.cons_append, List.take_append_drop]
  refine tokens_eq_error_iff.mpr ⟨ts, t.take n, ?_, ?_, rfl⟩
  · rw [significant_of_isPrefix (List.take_prefix _ _), htake]
    rw [hcut] at h
    exact builtin_reads_of_append h
  · exact builtin_first?_eq_none_of_isPrefix hstuck ⟨t.drop n, hcut.symm⟩

/-- Part of the tokens of a run are those of the text that they take. -/
lemma builtin_tokens_take_of_reads (h : builtin.Reads (significant e) ts v) (k : Nat) :
    builtin.tokens ((significant e).take (Token.concat (ts.take k)).length) = .ok (ts.take k) := by
  obtain ⟨w, hw⟩ := h.take k
  rw [← hw.concat_append, List.take_left]
  exact builtin_tokens_concat hw

/-- **Cutting an expression off**: behind any number of tokens that its run reads, whether or not it
comes to the end, the text before the cut is read as these tokens. Where the run fails, any text
that is cut off later fails with the same error; so the place of failure is the length of the
longest text, of those that begin the significant text, that is read. -/
theorem builtin_tokens_take (e : Text) :
    (∀ k, builtin.tokens ((significant e).take (Token.concat ((builtin.consumed e).take k)).length) =
      .ok ((builtin.consumed e).take k)) ∧
    (∀ ts, builtin.tokens e = .ok ts → builtin.consumed e = ts) ∧
    ∀ c p, builtin.tokens e = .error ⟨c, p⟩ →
      Token.concat (builtin.consumed e) = (significant e).take p ∧
      (∀ q, p < q → q ≤ (significant e).length →
        builtin.tokens ((significant e).take q) = .error ⟨c, p⟩) ∧
      (∃ ts, builtin.tokens ((significant e).take p) = .ok ts) ∧
      ∀ q, q ≤ (significant e).length →
        (∃ ts, builtin.tokens ((significant e).take q) = .ok ts) → q ≤ p := by
  refine ⟨fun k => ?_, fun ts hts => ?_, fun c p herr => ?_⟩
  · obtain ⟨us, u, hreads, hstuck⟩ := builtin.exists_reads (significant e)
    rw [consumed_eq hreads hstuck]
    exact builtin_tokens_take_of_reads hreads k
  · exact consumed_eq (tokens_eq_ok_iff.mp hts) (first?_nil builtin)
  · obtain ⟨us, t, hreads, hstuck, rfl⟩ := tokens_eq_error_iff.mp herr
    have hcut : (significant e).take (Token.concat us).length = Token.concat us := by
      rw [← hreads.concat_append, List.take_left]
    have hlater (q : Nat) (hq : (Token.concat us).length < q) :=
      builtin_tokens_take_of_stuck hreads hstuck hq
    rw [consumed_eq hreads hstuck, hcut]
    refine ⟨rfl, fun q hq _ => hlater q hq, ⟨us, builtin_tokens_concat hreads⟩, ?_⟩
    rintro q - ⟨ts, hts⟩
    by_contra hlt
    rw [hlater q (by omega)] at hts
    cases hts

example : builtin.consumed "(12 + Bjaeq~R) 7".toList =
    [⟨.number, "12".toList⟩, ⟨.operator, "+".toList⟩, ⟨.component, "Bjaeq".toList⟩] := by cbv

end Grammar

end ExprLexer
