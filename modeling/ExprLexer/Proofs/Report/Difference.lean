import ExprLexer.Proofs.Report.Agreement

/-!
What the lines of a report tell.

Two lists of texts have the same lines throughout exactly if they are one list. The pieces and the
token values of an expression make up one text, and none of them is empty: so as long as they are
the same, both go on from the same place, and the first two that differ begin there, the one with
the other.
-/

namespace ExprLexer

namespace Diff

@[simp] lemma Line.isSame_same (v : Text) : (same v).isSame = true := rfl
@[simp] lemma Line.isSame_changed (l r : Text) : (changed l r).isSame = false := rfl
@[simp] lemma Line.isSame_onlyLeft (v : Text) : (onlyLeft v).isSame = false := rfl
@[simp] lemma Line.isSame_onlyRight (v : Text) : (onlyRight v).isSame = false := rfl

lemma forall_isSame_lines_iff {ls rs : List Text} :
    (∀ l ∈ lines ls rs, l.isSame = true) ↔ ls = rs := by
  fun_induction lines ls rs with
  | case1 rs => cases rs <;> simp
  | case2 ls hne => cases ls <;> simp_all
  | case3 l ls r rs ih => by_cases h : l = r <;> simp [h, ih]

/-- Where two lists of texts that make up one text differ first, one of the texts begins the
other. -/
lemma find?_lines_of_flatten_eq {ls rs : List Text} (hls : [] ∉ ls) (hrs : [] ∉ rs)
    (heq : ls.flatten = rs.flatten) (hne : ls ≠ rs) :
    ∃ l r, (lines ls rs).find? (!·.isSame) = some (.changed l r) ∧
      l ≠ r ∧ (l <+: r ∨ r <+: l) := by
  -- a list without empty texts that makes up the empty text is empty
  have hnil {ts : List Text} (hts : [] ∉ ts) (h : ts.flatten = []) : ts = [] := by
    refine List.eq_nil_iff_forall_not_mem.mpr fun t ht => hts ?_
    rwa [← List.flatten_eq_nil_iff.mp h t ht]
  induction ls generalizing rs with
  | nil => exact absurd (hnil hrs heq.symm).symm hne
  | cons l ls ih =>
    cases rs with
    | nil => exact absurd (hnil hls heq) hne
    | cons r rs =>
      by_cases hlr : l = r
      · subst hlr
        have hne' : ls ≠ rs := fun h => hne (by rw [h])
        obtain ⟨l', r', hfind, hdiff⟩ := ih (fun h => hls (List.mem_cons_of_mem l h))
          (fun h => hrs (List.mem_cons_of_mem l h)) (List.append_cancel_left heq) hne'
        exact ⟨l', r', by simpa [lines] using hfind, hdiff⟩
      · refine ⟨l, r, by simp [lines, hlr], hlr, ?_⟩
        have hl : l <+: l ++ ls.flatten := List.prefix_append l _
        have hr : r <+: l ++ ls.flatten := ⟨rs.flatten, heq.symm⟩
        exact List.prefix_or_prefix_of_prefix hl hr

end Diff

lemma Partition.nil_not_mem {s : Text} {ps : List Text} (h : Partition s ps) : [] ∉ ps :=
  fun hmem => (h.part [] hmem).1 rfl

namespace Report

variable {e : Text} {ts : List Token} {err : Unmatched}

lemma lines_of_ok (h : Grammar.builtin.tokens e = .ok ts) :
    (ofExpression e).lines = Diff.lines (ExprLexer.pieces e) (ts.map Token.value) := by
  simp [lines, tokenValues, ofExpression, h]

lemma lines_of_error (h : Grammar.builtin.tokens e = .error err) :
    (ofExpression e).lines = (ExprLexer.pieces e).map .onlyLeft := by
  have hlines : (ofExpression e).lines = Diff.lines (ExprLexer.pieces e) [] := by
    simp [lines, tokenValues, ofExpression, h]
  rw [hlines]
  cases ExprLexer.pieces e <;> rfl

/-- A run fails at a character, and that is in some piece. -/
lemma pieces_ne_nil_of_error (h : Grammar.builtin.tokens e = .error err) :
    ExprLexer.pieces e ≠ [] := by
  intro hnil
  have hempty : significant e = [] := by
    have := pieces_partition e
    rwa [hnil, Partition, Cut.nil_iff] at this
  have hok : Grammar.builtin.tokens e = .ok [] := by
    rw [Grammar.tokens_eq_ok_iff, hempty]
    exact .stop []
  rw [hok] at h
  cases h

/-- **The lines tell whether the readings agree, and where they part**: they agree exactly if all
lines are the same. If the expression is read and they do not, then the first line that is not the
same has a text on either side, of which one begins the other. If it is not read, there is a line
for each piece, and at least one. -/
theorem lines_tell_agreement (e : Text) :
    ((ofExpression e).agrees = true ↔ ∀ l ∈ (ofExpression e).lines, l.isSame = true) ∧
    ((∃ ts, (ofExpression e).reading = .ok ts) → (ofExpression e).agrees = false →
      ∃ l r, (ofExpression e).lines.find? (!·.isSame) = some (.changed l r) ∧
        l ≠ r ∧ (l <+: r ∨ r <+: l)) ∧
    ((∃ err, (ofExpression e).reading = .error err) →
      (ofExpression e).lines ≠ [] ∧
        (ofExpression e).lines = (ExprLexer.pieces e).map .onlyLeft) := by
  have hpieces := pieces_partition e
  have hreading : (ofExpression e).reading = Grammar.builtin.tokens e := rfl
  rw [hreading]
  rcases h : Grammar.builtin.tokens e with err | ts
  · have hfalse : (ofExpression e).agrees = false := by simp [ofExpression, h]
    have hne := pieces_ne_nil_of_error h
    rw [lines_of_error h, hfalse]
    refine ⟨?_, by simp, fun _ => ⟨by simpa using hne, rfl⟩⟩
    obtain ⟨p, ps, hps⟩ := List.exists_cons_of_ne_nil hne
    simp [hps]
  · have hagrees : (ofExpression e).agrees = true ↔
        ExprLexer.pieces e = ts.map Token.value := by
      simp [ofExpression, h, eq_comm]
    have hreads := Grammar.tokens_eq_ok_iff.mp h
    rw [lines_of_ok h, hagrees, Diff.forall_isSame_lines_iff, ← Bool.not_eq_true, hagrees]
    refine ⟨Iff.rfl, fun _ hne => ?_, by simp⟩
    have hvalues : [] ∉ ts.map Token.value := fun hmem => by
      obtain ⟨t, ht, hv⟩ := List.mem_map.mp hmem
      exact hreads.value_ne_nil t ht hv
    have hflatten : (ExprLexer.pieces e).flatten = (ts.map Token.value).flatten := by
      calc (ExprLexer.pieces e).flatten
          = significant e := by rw [← hpieces.concat, List.flatMap_id]
        _ = Token.concat ts := by rw [← hreads.concat_append, List.append_nil]
        _ = (ts.map Token.value).flatten := by rw [Token.concat, List.flatMap_def]
    exact Diff.find?_lines_of_flatten_eq hpieces.nil_not_mem hvalues hflatten hne

example : (ofExpression "Bjaeq~R+->x".toList).lines.find? (!·.isSame) =
    some (.changed "Bjaeq~R".toList "Bjaeq~R+->x".toList) := by cbv

end Report

end ExprLexer
