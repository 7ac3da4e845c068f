import ExprLexer.Proofs.Grammar.Scan

/-!
Rules added behind those that are there.

The first rule that applies is still the first one, so a chain of first matches stays one. The two
runs are the same up to the place where the shorter list is stuck; there a new rule may go on, and
if none does, the run fails as it did before.
-/

namespace ExprLexer

namespace Grammar

variable {g g' : Grammar} {s u : Text} {ts : List Token}

/-- **One step**: the first match is kept, whatever rules come behind. -/
lemma first?_of_isPrefix (h : g.rules <+: g'.rules) {rest : Text} {tok : Token}
    (hf : g.first? s = some (tok, rest)) : g'.first? s = some (tok, rest) := by
  obtain ⟨rs, hrs⟩ := h
  rw [first?_eq_findSome?] at hf ⊢
  rw [← hrs, List.findSome?_append, hf, Option.some_or]

/-- **The whole run**: a chain is kept. -/
lemma Reads.of_isPrefix (h : g.rules <+: g'.rules) (hr : g.Reads s ts u) : g'.Reads s ts u := by
  induction hr with
  | stop s => exact .stop s
  | next first _ ih => exact .next (first?_of_isPrefix h first) ih

lemma Reads.eq_nil_of_concat_eq_nil (hr : g.Reads s ts u) (h : Token.concat ts = []) :
    ts = [] := by
  cases ts with
  | nil => rfl
  | cons t ts =>
    rw [Token.concat_cons, List.append_eq_nil_iff] at h
    exact absurd h.1 (hr.value_ne_nil t List.mem_cons_self)

/-- A run that was stuck in front of `c` either comes to the end or gets stuck later on, and if
not later, then in front of `c` again. -/
lemma tokens_of_stuck (h : g.rules <+: g'.rules) {e t : Text} {us : List Token} {c : Char}
    (hr : g.Reads (significant e) us (c :: t)) :
    (∃ vs, g'.tokens e = .ok (us ++ vs)) ∨
      ∃ c' p', g'.tokens e = .error ⟨c', p'⟩ ∧ (Token.concat us).length ≤ p' ∧
        (p' = (Token.concat us).length → c' = c) := by
  obtain ⟨vs, v, hvs, hstuck⟩ := g'.exists_reads (c :: t)
  have hall := (hr.of_isPrefix h).append hvs
  have hlen : (Token.concat (us ++ vs)).length =
      (Token.concat us).length + (Token.concat vs).length := by simp [Token.concat]
  cases v with
  | nil => exact .inl ⟨vs, tokens_eq_ok_iff.mpr hall⟩
  | cons d v =>
    refine .inr ⟨d, _, tokens_eq_error_iff.mpr ⟨_, _, hall, hstuck, rfl⟩, by omega, fun hp => ?_⟩
    -- nothing more was read, so the two runs are stuck at one place
    have hvs0 : vs = [] :=
      hvs.eq_nil_of_concat_eq_nil (List.eq_nil_of_length_eq_zero (by omega))
    subst hvs0
    cases hvs
    rfl

namespace Draft

lemma rules_foldl_add (d : Draft) (rs : List Rule) : (rs.foldl add d).rules = d.rules ++ rs := by
  induction rs generalizing d with
  | nil => simp
  | cons r rs ih => rw [List.foldl_cons, ih, add, List.append_assoc, List.singleton_append]

/-- **Adding rules takes nothing back**: the rules that are added stand behind those that are there,
in the order given. What the rules read, they read with more rules behind them. Where they fail, the
tokens up to there are kept, and the run either succeeds or fails no earlier, at the same character
if at the same place. -/
theorem tokens_foldl_add (d : Draft) (rs : List Rule) (e : Text) :
    (rs.foldl add d).rules = d.rules ++ rs ∧
    (rs.foldl add d).finish.rules = d.rules ++ rs ∧
    (∀ ts, d.finish.tokens e = .ok ts → (rs.foldl add d).finish.tokens e = .ok ts) ∧
    ∀ c p, d.finish.tokens e = .error ⟨c, p⟩ →
      ∃ us, (d.finish.Chain (significant e) us ∧ Token.concat us = (significant e).take p) ∧
        ((∃ vs, (rs.foldl add d).finish.tokens e = .ok (us ++ vs)) ∨
          ∃ c' p', (rs.foldl add d).finish.tokens e = .error ⟨c', p'⟩ ∧ p ≤ p' ∧
            (p' = p → c' = c)) := by
  have hprefix : d.finish.rules <+: (rs.foldl add d).finish.rules :=
    ⟨rs, (rules_foldl_add d rs).symm⟩
  refine ⟨rules_foldl_add d rs, rules_foldl_add d rs, ?_, ?_⟩
  · intro ts hts
    exact tokens_eq_ok_iff.mpr ((tokens_eq_ok_iff.mp hts).of_isPrefix hprefix)
  · intro c p herr
    obtain ⟨us, t, hr, -, rfl⟩ := tokens_eq_error_iff.mp herr
    obtain ⟨hchain, hconcat⟩ := reads_iff.mp hr
    refine ⟨us, ⟨hchain, ?_⟩, tokens_of_stuck hprefix hr⟩
    rw [← hconcat, List.take_left]

end Draft

end Grammar

end ExprLexer
