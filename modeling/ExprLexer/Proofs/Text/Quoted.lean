import ExprLexer.Proofs.Text.Code
import ExprLexer.Text.Quoted
import Mathlib.Tactic.SplitIfs

/-!
Numbers and quoted texts can be read back.

Digits have one value. In a quoted text the quote and the backslash stand only behind a backslash,
and what follows a backslash tells which character is meant, a code point up to its brace; so a
quoted text ends at its second quote and is that of one text only.
-/

namespace ExprLexer.Text

/-! ### Numbers -/

lemma ofNat_injective {m n : Nat} (h : ofNat m = ofNat n) : m = n := by
  have hm : Nat.ofDigitChars 10 (ofNat m) 0 = m := Nat.ofDigitChars_ten_toDigits
  rw [h] at hm
  exact hm.symm.trans Nat.ofDigitChars_ten_toDigits

lemma hex_of_le {n : Nat} (h : 16 ≤ n) : hex n = hex (n / 16) ++ [Nat.digitChar (n % 16)] :=
  Nat.toDigits_of_base_le (by decide) h

lemma hex_of_lt {n : Nat} (h : n < 16) : hex n = [Nat.digitChar n] := Nat.toDigits_of_lt_base h

lemma hexValue_hex (n : Nat) : Unicode.hexValue (hex n) = n := by
  induction n using Nat.strongRecOn with
  | ind n ih =>
    rcases Nat.lt_or_ge n 16 with hlt | hge
    · simp [hex_of_lt hlt, Unicode.hexValue, hexDigit?_digitChar hlt]
    · have hlast : hexDigit? (Nat.digitChar (n % 16)) = some (n % 16) :=
        hexDigit?_digitChar (Nat.mod_lt n (by decide))
      have hrest := ih (n / 16) (by omega)
      unfold Unicode.hexValue at hrest ⊢
      rw [hex_of_le hge, List.foldl_append, hrest]
      simp only [List.foldl_cons, List.foldl_nil, hlast, Option.getD_some]
      omega

lemma hex_injective {m n : Nat} (h : hex m = hex n) : m = n := by
  rw [← hexValue_hex m, h, hexValue_hex]

lemma brace_not_mem_hex (n : Nat) : '\x7d' ∉ hex n := by
  have hdigit (d : Nat) : '\x7d' ≠ Nat.digitChar d := (Nat.digitChar_ne _ rfl).symm
  induction n using Nat.strongRecOn with
  | ind n ih =>
    rcases Nat.lt_or_ge n 16 with hlt | hge
    · simp [hex_of_lt hlt, hdigit]
    · simpa [hex_of_le hge, hdigit] using ih (n / 16) (by omega)

/-! ### Quoted texts -/

/-- What stands behind a backslash, and the character that is meant. -/
def quotedEscapes : List (Char × Char) :=
  [('0', '\x00'), ('t', '\t'), ('r', '\r'), ('n', '\n'), ('\\', '\\'), ('"', '"')]

/-- The ways to write a character between double quotes. -/
inductive QuotesChar : Char → Text → Prop
  | plain {c : Char} (hquote : c ≠ '"') (hslash : c ≠ '\\') : QuotesChar c [c]
  | short {l c : Char} (h : (l, c) ∈ quotedEscapes) : QuotesChar c ['\\', l]
  | code (c : Char) : QuotesChar c (codePointEscape c)

lemma quotesChar_quotedChar (c : Char) : QuotesChar c (quotedChar '"' c) := by
  unfold quotedChar
  split_ifs with _ _ _ _ hslash hquote
  -- the characters with an escape of their own
  iterate 6
    · subst c
      exact .short (by decide)
  · exact .code c
  · exact .plain hquote hslash

lemma QuotesChar.exists_cons {c : Char} {t : Text} (h : QuotesChar c t) :
    ∃ d t', t = d :: t' ∧ d ≠ '"' := by
  cases h with
  | plain hquote => exact ⟨_, _, rfl, hquote⟩
  | short | code => exact ⟨_, _, rfl, by decide⟩

lemma lookup_quotedEscapes {l c : Char} (h : (l, c) ∈ quotedEscapes) :
    quotedEscapes.lookup l = some c := by
  have hall : ∀ p ∈ quotedEscapes, quotedEscapes.lookup p.1 = some p.2 := by decide
  exact hall (l, c) h

lemma ne_u_of_mem_quotedEscapes {l c : Char} (h : (l, c) ∈ quotedEscapes) : l ≠ 'u' := by
  have hall : ∀ p ∈ quotedEscapes, p.1 ≠ 'u' := by decide
  exact hall (l, c) h

lemma selfDelimiting_quotesChar (c : Char) : SelfDelimiting QuotesChar c := by
  intro d s t u v hs ht h
  cases hs <;> cases ht <;>
    simp only [codePointEscape, String.reduceToList, List.cons_append, List.nil_append,
      List.append_assoc, List.cons.injEq, true_and] at h
  -- the same form twice
  case plain.plain => exact h
  case short.short hc _ hd =>
    obtain ⟨rfl, rfl⟩ := h
    exact ⟨Option.some.inj ((lookup_quotedEscapes hc).symm.trans (lookup_quotedEscapes hd)), rfl⟩
  case code.code =>
    obtain ⟨hcode, hu⟩ := eq_of_append_cons_eq (brace_not_mem_hex _) (brace_not_mem_hex _) h
    exact ⟨Char.toNat_inj.mp (hex_injective hcode), hu⟩
  -- two forms: what stands behind the backslash is a `u` in one of them only
  case plain.short hslash _ _ | plain.code hslash => exact absurd h.1 hslash
  case short.plain hslash | code.plain hslash => exact absurd h.1.symm hslash
  case short.code hc => exact absurd h.1 (ne_u_of_mem_quotedEscapes hc)
  case code.short hd => exact absurd h.1.symm (ne_u_of_mem_quotedEscapes hd)

lemma encloses_quoted (x : Text) :
    Encloses QuotesChar '"' x (x.flatMap (quotedChar '"') ++ ['"']) := by
  induction x with
  | nil => exact .nil
  | cons c x ih =>
    rw [List.flatMap_cons, List.append_assoc]
    exact .cons (quotesChar_quotedChar c) ih

/-- **A quoted text tells the text** and where it ends. -/
lemma eq_of_quoted_append_eq {x y u v : Text} (h : quoted x ++ u = quoted y ++ v) :
    x = y ∧ u = v :=
  selfDelimiting_encloses selfDelimiting_quotesChar (fun _ _ => QuotesChar.exists_cons) x
    (encloses_quoted x) (encloses_quoted y) (List.tail_eq_of_cons_eq h)

end ExprLexer.Text
