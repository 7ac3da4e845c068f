import ExprLexer.Proofs.Grammar.Sentence

/-!
The matchers of the built-in classes, on any text.

A matcher answers with the byte length of the longest lexeme that begins the text, and answers
nothing only where no lexeme begins it; its reader splits the text there, and complains only where
the matcher is silent. Of the lexemes that begin one text each begins the longer ones, so the
longest is the one that all others begin. What is optional in a component is taken where it is
complete; a marker or an arrow that is cut short is left where it stands, and the component ends in
front of it.
-/

namespace ExprLexer

/-- Of the texts with the property that begin `t`, the one that all others begin. -/
structure IsLongestPrefix (P : Text → Prop) (t v : Text) : Prop where
  isPrefix : v <+: t
  holds : P v
  longest : ∀ w, w <+: t → P w → w <+: v

namespace Kind

lemma lexeme?_eq_some_iff_isLongestPrefix {k : Kind} {t v rest : Text} :
    k.lexeme? t = some (v, rest) ↔ v ++ rest = t ∧ IsLongestPrefix k.Language t v := by
  rw [lexeme?_eq_some_iff]
  constructor
  · rintro ⟨rfl, hv, hmax⟩
    have hprefix : v <+: v ++ rest := List.prefix_append v rest
    refine ⟨rfl, hprefix, hv, fun w hw hl => ?_⟩
    exact List.prefix_of_prefix_length_le hw hprefix (hmax w hw hl)
  · rintro ⟨rfl, -, hv, hlongest⟩
    exact ⟨rfl, hv, fun w hw hl => (hlongest w hw hl).length_le⟩

lemma parse_eq_ok_iff {k : Kind} {t v rest : Text} :
    k.parse t = .ok (v, rest) ↔ v ++ rest = t ∧ IsLongestPrefix k.Language t v := by
  rw [← lexeme?_eq_some_iff_isLongestPrefix]
  unfold parse
  cases k.lexeme? t with
  | none => simp
  | some found => simp

/-- **A reader fails exactly if no lexeme begins the text.** It says which check the text has not
passed, then which class was looked for, both times of the whole text. -/
lemma parse_eq_error_iff {k : Kind} {t : Text} {trail : List (Lexeme.Complaint × Text)} :
    k.parse t = .error trail ↔
      (∀ v, v <+: t → ¬k.Language v) ∧ trail = [(.check k.check, t), (.context k.name, t)] := by
  rw [← lexeme?_eq_none_iff]
  unfold parse
  cases k.lexeme? t with
  | none => simp [eq_comm]
  | some found => simp

end Kind

namespace Matcher

end Matcher

end ExprLexer
