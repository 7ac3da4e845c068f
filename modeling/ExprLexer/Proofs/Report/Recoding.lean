import ExprLexer.Proofs.Lexeme.CharClass
import ExprLexer.Proofs.Report.Agreement
import Mathlib

/-!
Expressions with their characters replaced by others of the same class.

The first lexeme of a text without filler is replaced character by character, so is each token of a
chain, and a run that fails does so at the same place. Splitting at operators knows less of a
character than that. The map may merge texts that differ, so the readings of the new expression
could agree where those of the old one do not; but both are lists of texts that make up the same
significant text, and parts of the same lengths are the same parts.
-/

namespace ExprLexer

/-- The token with every character replaced. -/
def Token.map (f : Char → Char) (t : Token) : Token := ⟨t.kind, t.value.map f⟩

lemma Token.concat_map (f : Char → Char) (ts : List Token) :
    Token.concat (ts.map (Token.map f)) = (Token.concat ts).map f := by
  induction ts with
  | nil => rfl
  | cons t ts ih =>
    rw [List.map_cons, Token.concat_cons, Token.concat_cons, ih, List.map_append]
    rfl

lemma Token.map_value_map (f : Char → Char) (ts : List Token) :
    (ts.map (Token.map f)).map Token.value = (ts.map Token.value).map (List.map f) := by
  rw [List.map_map, List.map_map]
  rfl

namespace KeepsClass

variable {f : Char → Char} (hf : KeepsClass f) {e s u : Text} {ts : List Token}
include hf

lemma significant_map (e : Text) : significant (e.map f) = (significant e).map f := by
  simp only [significant, List.filter_map, Function.comp_def, hf.isFiller]

/-! ### Tokens -/

lemma lexeme?_map (hs : ∀ c ∈ s, ExprLexer.isFiller c = false) (k : Kind) :
    k.lexeme? (s.map f) = (k.lexeme? s).map (Prod.map (List.map f) (List.map f)) := by
  -- the lexemes that begin the new text are those that begin the old one, replaced
  have hlang {w : Text} (hw : w <+: s) : k.Language (w.map f) ↔ k.Language w :=
    hf.language_map (fun c hc => hs c (hw.subset hc)) k
  rcases h : k.lexeme? s with _ | ⟨v, rest⟩
  · rw [Kind.lexeme?_eq_none_iff] at h
    rw [Option.map_none, Kind.lexeme?_eq_none_iff]
    intro w' hw' hl
    obtain ⟨w, hw, rfl⟩ := List.prefix_map_iff.mp hw'
    exact h w hw ((hlang hw).mp hl)
  · obtain ⟨happ, hv, hmax⟩ := Kind.lexeme?_eq_some_iff.mp h
    rw [Option.map_some, Prod.map_apply, Kind.lexeme?_eq_some_iff]
    refine ⟨by rw [← List.map_append, happ], (hlang ⟨rest, happ⟩).mpr hv, fun w' hw' hl => ?_⟩
    obtain ⟨w, hw, rfl⟩ := List.prefix_map_iff.mp hw'
    rw [List.length_map, List.length_map]
    exact hmax w hw ((hlang hw).mp hl)

/-- **One step**: the first match is replaced with its text. -/
lemma builtin_first?_map (hs : ∀ c ∈ s, ExprLexer.isFiller c = false) :
    Grammar.builtin.first? (s.map f) =
      (Grammar.builtin.first? s).map (Prod.map (Token.map f) (List.map f)) := by
  simp only [Grammar.builtin_first?_eq_findSome?, List.map_findSome?, hf.lexeme?_map hs,
    Option.map_map, Function.comp_def]
  rfl

/-- **The whole run**: so is a chain. -/
lemma builtin_reads_map (hs : ∀ c ∈ s, ExprLexer.isFiller c = false)
    (h : Grammar.builtin.Reads s ts u) :
    Grammar.builtin.Reads (s.map f) (ts.map (Token.map f)) (u.map f) := by
  induction h with
  | stop s => exact .stop _
  | @next s rest u tok ts first _ ih =>
    have hfirst := hf.builtin_first?_map hs
    rw [first] at hfirst
    have hrest (c : Char) (hc : c ∈ rest) : ExprLexer.isFiller c = false :=
      hs c (Grammar.first?_subset first hc)
    exact .next hfirst (ih hrest)

lemma builtin_tokens_map_of_ok (h : Grammar.builtin.tokens e = .ok ts) :
    Grammar.builtin.tokens (e.map f) = .ok (ts.map (Token.map f)) := by
  rw [Grammar.tokens_eq_ok_iff] at h ⊢
  rw [hf.significant_map]
  exact hf.builtin_reads_map (fun _ hc => not_isFiller_of_mem_significant hc) h

lemma builtin_tokens_map_of_error {c : Char} {p : Nat}
    (h : Grammar.builtin.tokens e = .error ⟨c, p⟩) :
    Grammar.builtin.tokens (e.map f) = .error ⟨f c, p⟩ := by
  obtain ⟨ts, t, hreads, hstuck, rfl⟩ := Grammar.tokens_eq_error_iff.mp h
  have hrest (d : Char) (hd : d ∈ c :: t) : ExprLexer.isFiller d = false :=
    not_isFiller_of_mem_significant (hreads.subset hd)
  have hstuck' := hf.builtin_first?_map hrest
  rw [hstuck] at hstuck'
  refine Grammar.tokens_eq_error_iff.mpr ⟨ts.map (Token.map f), t.map f, ?_, hstuck', ?_⟩
  · rw [hf.significant_map]
    exact hf.builtin_reads_map (fun _ hc => not_isFiller_of_mem_significant hc) hreads
  · rw [Token.concat_map, List.length_map]

/-! ### Pieces and agreement -/

lemma isOperatorSign (c : Char) : isOperatorSign (f c) = isOperatorSign c := by
  rw [Bool.eq_iff_iff, isOperatorSign_iff, isOperatorSign_iff, hf.mem_signs]

lemma attach_map (c : Char) (ps : List Text) :
    attach (f c) (ps.map (List.map f)) = (attach c ps).map (List.map f) := by
  rcases ps with _ | ⟨_ | ⟨d, p⟩, ps⟩
  · rfl
  · rfl
  · simp only [List.map_cons, attach, hf.isOperatorSign]
    split_ifs <;> rfl

lemma pieces_map (e : Text) : pieces (e.map f) = (pieces e).map (List.map f) := by
  induction e with
  | nil => rfl
  | cons c e ih =>
    rw [List.map_cons]
    unfold pieces
    rw [hf.isFiller, hf.isOperatorSign, ih, hf.attach_map]
    split_ifs <;> rfl

/-- Agreement is not made by merging: the values and the pieces make up the same text, and as they
have the same lengths, they are the same. -/
lemma map_values_eq_pieces_iff (h : Grammar.builtin.tokens e = .ok ts) :
    (ts.map (Token.map f)).map Token.value = pieces (e.map f) ↔
      ts.map Token.value = pieces e := by
  rw [Token.map_value_map, hf.pieces_map]
  refine ⟨fun heq => List.eq_iff_flatten_eq.mpr ⟨?_, ?_⟩, congrArg _⟩
  · have hreads := Grammar.tokens_eq_ok_iff.mp h
    calc (ts.map Token.value).flatten
        = Token.concat ts := Token.flatten_map_value ts
      _ = significant e := by rw [← hreads.concat_append, List.append_nil]
      _ = (pieces e).flatten := (pieces_partition e).flatten.symm
  · simpa [Function.comp_def] using congrArg (List.map List.length) heq

end KeepsClass

namespace Report

variable {f : Char → Char}

/-- **Reading depends on classes only**: when every character is replaced by one of its class, the
new expression is read exactly if the old one is, with the same kinds and with the values replaced;
it fails exactly if the old one does, at the same place and with the character there replaced; its
pieces are those of the old one replaced; and the readings agree exactly if they did. -/
theorem readings_map (hf : KeepsClass f) (e : Text) :
    (∀ us, Grammar.builtin.tokens (e.map f) = .ok us ↔
      ∃ ts, Grammar.builtin.tokens e = .ok ts ∧ us = ts.map (Token.map f)) ∧
    (∀ d p, Grammar.builtin.tokens (e.map f) = .error ⟨d, p⟩ ↔
      ∃ c, Grammar.builtin.tokens e = .error ⟨c, p⟩ ∧ d = f c) ∧
    ExprLexer.pieces (e.map f) = (ExprLexer.pieces e).map (List.map f) ∧
    (ofExpression (e.map f)).agrees = (ofExpression e).agrees := by
  rcases h : Grammar.builtin.tokens e with ⟨c, p⟩ | ts
  · have hmap := hf.builtin_tokens_map_of_error h
    refine ⟨by simp [hmap], fun d q => ?_, hf.pieces_map e, ?_⟩
    · rw [hmap]
      constructor
      · rintro ⟨⟩
        exact ⟨c, rfl, rfl⟩
      · rintro ⟨c', ⟨⟩, rfl⟩
        rfl
    · rw [agrees_eq_false_of_error h, agrees_eq_false_of_error hmap]
  · have hmap := hf.builtin_tokens_map_of_ok h
    refine ⟨fun us => ?_, by simp [hmap], hf.pieces_map e, ?_⟩
    · rw [hmap]
      constructor
      · rintro ⟨⟩
        exact ⟨ts, rfl, rfl⟩
      · rintro ⟨ts', ⟨⟩, rfl⟩
        rfl
    · rw [Bool.eq_iff_iff, agrees_iff_of_ok h, agrees_iff_of_ok hmap,
        hf.map_values_eq_pieces_iff h]

/-- Merges the digits and two operators, and writes two characters in more bytes. -/
def widen (c : Char) : Char :=
  if c.isDigit then '0'
  else if c = '*' then '/'
  else if c = '@' then 'é'
  else if c = ' ' then '\u2003'
  else c

lemma keepsClass_widen : KeepsClass widen := by
  intro c
  unfold widen
  split_ifs with hdigit hstar hat hspace
  · rw [CharClass.isDigit_iff.mp hdigit]
    decide
  · rw [hstar]
    decide
  · rw [hat]
    decide
  · rw [hspace]
    decide
  · rfl

theorem readings_map_widen :
    KeepsClass widen ∧
    Grammar.builtin.tokens ("12 *34".toList.map widen) =
      .ok [⟨.number, "00".toList⟩, ⟨.operator, "/".toList⟩, ⟨.number, "00".toList⟩] ∧
    (ofExpression ("12 *34".toList.map widen)).agrees = (ofExpression "12 *34".toList).agrees ∧
    Grammar.builtin.tokens ("1 * (@)".toList.map widen) = .error ⟨'é', 2⟩ ∧
    ExprLexer.pieces ("1 * (@)".toList.map widen) = ["0".toList, "/".toList, "é".toList] := by
  have hread : Grammar.builtin.tokens "12 *34".toList =
      .ok [⟨.number, "12".toList⟩, ⟨.operator, "*".toList⟩, ⟨.number, "34".toList⟩] := by cbv
  have hfail : Grammar.builtin.tokens "1 * (@)".toList = .error ⟨'@', 2⟩ := by cbv
  have hpieces : ExprLexer.pieces "1 * (@)".toList = ["1".toList, "*".toList, "@".toList] := by cbv
  obtain ⟨hok, -, -, hagrees⟩ := readings_map keepsClass_widen "12 *34".toList
  obtain ⟨-, herr, hmap, -⟩ := readings_map keepsClass_widen "1 * (@)".toList
  rw [hpieces] at hmap
  exact ⟨keepsClass_widen, (hok _).mpr ⟨_, hread, rfl⟩, hagrees, (herr _ _).mpr ⟨'@', hfail, rfl⟩,
    hmap⟩

end Report

end ExprLexer
