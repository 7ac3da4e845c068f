import Mathlib
import ExprLexer.Proofs.Report.Agreement
import ExprLexer.Proofs.Report.Alignment
import ExprLexer.Proofs.Text.Code

/-!
The printed form of a report tells what was printed.

Pieces and token values hold no white space and no parentheses. A line of a difference, which may
hold blanks of its own, therefore ends at the first line break, and the text on its left side at the
first blank; a token ends at the first closing parenthesis, and its kind at the opening one. So
lines under each other and tokens in a row can be told apart. On other texts both forms are
ambiguous.
-/

namespace ExprLexer

/-- There is no filler in the text. -/
def FillerFree (v : Text) : Prop := ∀ c ∈ v, isFiller c = false

namespace FillerFree

variable {v : Text}

lemma not_mem {c : Char} (h : FillerFree v) (hc : isFiller c = true) : c ∉ v := by
  intro hmem
  rw [h c hmem] at hc
  cases hc

lemma not_mem_blank (h : FillerFree v) : ' ' ∉ v := h.not_mem (by decide)
lemma not_mem_newline (h : FillerFree v) : '\n' ∉ v := h.not_mem (by decide)
lemma not_mem_close (h : FillerFree v) : ')' ∉ v := h.not_mem (by decide)

end FillerFree

lemma fillerFree_of_mem_pieces {e p : Text} (h : p ∈ pieces e) : FillerFree p := fun c hc => by
  refine not_isFiller_of_mem_significant (e := e) ?_
  rw [← (pieces_partition e).flatten]
  exact List.mem_flatten_of_mem h hc

lemma fillerFree_of_mem_tokens {e : Text} {ts : List Token} {t : Token}
    (h : Grammar.builtin.tokens e = .ok ts) (ht : t ∈ ts) : FillerFree t.value := fun _ hc =>
  Grammar.not_isFiller_of_mem_value (Grammar.tokens_eq_ok_iff.mp h) ht hc

/-! ### Lines -/

namespace Diff.Line

/-- There is no filler on either side. -/
def IsFillerFree (x : Line) : Prop :=
  (∀ v ∈ x.left?, FillerFree v) ∧ ∀ v ∈ x.right?, FillerFree v

lemma render_ne_nil (x : Line) : x.render ≠ [] := by cases x <;> simp [render]

/-- A line without filler on its sides ends at the line break. -/
lemma selfDelimiting_render (x : Line) :
    SelfDelimiting (fun y s => y.IsFillerFree ∧ s = y.render ++ ['\n']) x := by
  rintro y _ _ u v ⟨hx, rfl⟩ ⟨hy, rfl⟩ h
  have hnewline {l r : Text} (hl : FillerFree l) (hr : FillerFree r)
      (h : l ++ '\n' :: u = r ++ '\n' :: v) : l = r ∧ u = v :=
    Text.eq_of_append_cons_eq hl.not_mem_newline hr.not_mem_newline h
  cases x <;> cases y <;>
    simp only [render, List.cons_append, List.append_assoc, List.nil_append, List.cons.injEq,
      String.reduceToList, Char.reduceEq, false_and, true_and] at h
  case same.same l r =>
    obtain ⟨rfl, hu⟩ := hnewline (hx.1 l rfl) (hy.1 r rfl) h
    exact ⟨rfl, hu⟩
  case onlyLeft.onlyLeft l r =>
    obtain ⟨rfl, hu⟩ := hnewline (hx.1 l rfl) (hy.1 r rfl) h
    exact ⟨rfl, hu⟩
  case onlyRight.onlyRight l r =>
    obtain ⟨rfl, hu⟩ := hnewline (hx.2 l rfl) (hy.2 r rfl) h
    exact ⟨rfl, hu⟩
  case changed.changed l l' r r' =>
    -- the left side ends at the blank in front of the arrow
    obtain ⟨rfl, harrow⟩ := Text.eq_of_append_cons_eq (hx.1 l rfl).not_mem_blank
      (hy.1 r rfl).not_mem_blank h
    simp only [List.cons.injEq, true_and] at harrow
    obtain ⟨rfl, hu⟩ := hnewline (hx.2 l' rfl) (hy.2 r' rfl) harrow
    exact ⟨rfl, hu⟩

example : (changed "a".toList "b => c".toList).render =
    (changed "a => b".toList "c".toList).render := by decide

end Diff.Line

lemma Report.isFillerFree_of_mem_lines {e : Text} {x : Diff.Line}
    (hx : x ∈ (ofExpression e).lines) : x.IsFillerFree := by
  obtain ⟨-, hleft, hright, -, -⟩ :=
    Diff.Alignment.of_lines (ofExpression e).pieces (ofExpression e).tokenValues
  constructor
  · intro v hv
    have hmem : v ∈ (ofExpression e).pieces := hleft ▸ List.mem_filterMap.mpr ⟨x, hx, hv⟩
    exact fillerFree_of_mem_pieces hmem
  · intro v hv
    have hmem : v ∈ (ofExpression e).tokenValues := hright ▸ List.mem_filterMap.mpr ⟨x, hx, hv⟩
    rcases h : Grammar.builtin.tokens e with err | ts
    · simp [tokenValues, ofExpression, h] at hmem
    · simp only [tokenValues, ofExpression, h, List.mem_map] at hmem
      obtain ⟨t, ht, rfl⟩ := hmem
      exact fillerFree_of_mem_tokens h ht

/-! ### Tokens -/

namespace Token

lemma render_ne_nil (t : Token) : t.render ≠ [] := by simp [render]

/-- A token without filler in its value ends at the closing parenthesis. -/
lemma selfDelimiting_render (sep : Text) (t : Token) :
    SelfDelimiting (fun t' s => FillerFree t'.value ∧ s = t'.render ++ sep) t := by
  rintro t' _ _ u v ⟨ht, rfl⟩ ⟨ht', rfl⟩ h
  simp only [render, List.append_assoc, List.cons_append, List.nil_append] at h
  obtain ⟨hkind, hvalue⟩ :=
    Text.eq_of_append_cons_eq (Kind.not_mem_name (by decide) _) (Kind.not_mem_name (by decide) _) h
  obtain ⟨hvalue, hrest⟩ := Text.eq_of_append_cons_eq ht.not_mem_close ht'.not_mem_close hvalue
  exact ⟨Token.ext (Kind.name_injective hkind) hvalue, List.append_cancel_left hrest⟩

end Token

namespace Report

/-- **What is printed of a report tells what it was**: expressions with the same printed lines have
the same lines, and expressions that are read and whose printed tokens in a row are the same have
the same tokens. -/
theorem eq_of_rendered_eq (e e' : Text) :
    (Text.join ['\n'] ((ofExpression e).lines.map Diff.Line.render) =
        Text.join ['\n'] ((ofExpression e').lines.map Diff.Line.render) →
      (ofExpression e).lines = (ofExpression e').lines) ∧
    ∀ ts ts', (ofExpression e).reading = .ok ts → (ofExpression e').reading = .ok ts' →
      Text.join ", ".toList (ts.map Token.render) =
        Text.join ", ".toList (ts'.map Token.render) → ts = ts' := by
  constructor
  · exact Text.eq_of_join_eq Diff.Line.selfDelimiting_render (fun x _ => x.render_ne_nil)
      (fun _ => isFillerFree_of_mem_lines) fun _ => isFillerFree_of_mem_lines
  · intro ts ts' hts hts'
    exact Text.eq_of_join_eq (Token.selfDelimiting_render ", ".toList)
      (fun t _ => t.render_ne_nil) (fun _ => fillerFree_of_mem_tokens hts)
      fun _ => fillerFree_of_mem_tokens hts'

/-- The target holds a comma, and the lines are not the same throughout. -/
theorem eq_of_rendered_eq_regrouped :
    Text.join ['\n'] ((ofExpression "Bjaeq~R+->x,y".toList).lines.map Diff.Line.render) =
      Text.join ['\n'] ((ofExpression "(Bj aeq)~R+->x,y".toList).lines.map Diff.Line.render) ∧
    (ofExpression "Bjaeq~R+->x,y".toList).lines =
      (ofExpression "(Bj aeq)~R+->x,y".toList).lines ∧
    ∃ ts ts', (ofExpression "Bjaeq~R+->x,y".toList).reading = .ok ts ∧
      (ofExpression "(Bj aeq)~R+->x,y".toList).reading = .ok ts' ∧
      Text.join ", ".toList (ts.map Token.render) =
        Text.join ", ".toList (ts'.map Token.render) ∧ ts = ts' := by
  obtain ⟨hlines, htokens⟩ :=
    eq_of_rendered_eq "Bjaeq~R+->x,y".toList "(Bj aeq)~R+->x,y".toList
  have hrendered :
      Text.join ['\n'] ((ofExpression "Bjaeq~R+->x,y".toList).lines.map Diff.Line.render) =
        Text.join ['\n']
          ((ofExpression "(Bj aeq)~R+->x,y".toList).lines.map Diff.Line.render) := by cbv
  have hread : (ofExpression "Bjaeq~R+->x,y".toList).reading =
      .ok [⟨.component, "Bjaeq~R+->x,y".toList⟩] := by cbv
  have hread' : (ofExpression "(Bj aeq)~R+->x,y".toList).reading =
      .ok [⟨.component, "Bjaeq~R+->x,y".toList⟩] := by cbv
  exact ⟨hrendered, hlines hrendered, _, _, hread, hread', rfl, htokens _ _ hread hread' rfl⟩

end Report

end ExprLexer
