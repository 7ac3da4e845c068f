import ExprLexer.Proofs.Json.Spelling
import Mathlib.Tactic.SplitIfs

/-!
The compact form spells the value it is made from.

Escaping a character gives one of its spellings, and the brackets and commas stand where the grammar
has them, without white space.
-/

namespace ExprLexer.Json

/-- The code point of a control character, in four digits. -/
lemma isCodeUnit_control {n : Nat} (h : n < 0x20) :
    IsCodeUnit ['0', '0', Nat.digitChar (n / 16), Nat.digitChar (n % 16)] n := by
  have hunit : IsCodeUnit ['0', '0', Nat.digitChar (n / 16), Nat.digitChar (n % 16)]
      (16 * (16 * (16 * (16 * 0 + 0) + 0) + n / 16) + n % 16) :=
    .mk (by decide) (by decide) (Text.hexDigit?_digitChar (by omega))
      (Text.hexDigit?_digitChar (by omega))
  have hn : 16 * (16 * (16 * (16 * 0 + 0) + 0) + n / 16) + n % 16 = n := by omega
  rwa [hn] at hunit

lemma spellsChar_escape (c : Char) : SpellsChar c (escape c) := by
  unfold escape
  split_ifs with hquote hslash _ _ _ _ _ hcontrol
  -- the characters with an escape of their own
  iterate 7
    · subst c
      exact .short (by decide)
  · exact .unit (isCodeUnit_control hcontrol)
  · exact .plain hquote hslash (by omega)

lemma spellsBody_escape (x : Text) : SpellsBody x (x.flatMap escape ++ ['"']) := by
  induction x with
  | nil => exact .nil
  | cons c x ih =>
    rw [List.flatMap_cons, List.append_assoc]
    exact .cons (spellsChar_escape c) ih

/-- A comma alone stands between two items. -/
lemma isGap_comma : IsGap false [','] := .next (v := []) (w := []) isSpacing_nil isSpacing_nil

lemma spellsItems_compactItems {xs : List Json} (hxs : ∀ x ∈ xs, Spells x x.compact) :
    SpellsItems Spells ']' false xs (compactItems xs) := by
  induction xs with
  | nil => exact .nil (w := []) isSpacing_nil
  | cons x xs ih =>
    obtain ⟨hx, hxs⟩ := List.forall_mem_cons.mp hxs
    exact .cons isGap_comma hx (ih hxs)

lemma spellsMember_quote (k : Text) {w t : Text} {x : Json} (hw : IsSpacing w) (hx : Spells x t) :
    SpellsMember (k, x) (quote k ++ ':' :: w ++ t) := by
  have hmember := SpellsMember.mk (spellsBody_escape k) isSpacing_nil hw hx
  simpa [quote] using hmember

lemma spellsItems_compactMembers {ms : List (Text × Json)}
    (hms : ∀ m ∈ ms, Spells m.2 m.2.compact) :
    SpellsItems SpellsMember '\x7d' false ms (compactMembers ms) := by
  induction ms with
  | nil => exact .nil (w := []) isSpacing_nil
  | cons m ms ih =>
    obtain ⟨k, x⟩ := m
    obtain ⟨hx, hms⟩ := List.forall_mem_cons.mp hms
    have hmembers := SpellsItems.cons isGap_comma (spellsMember_quote k isSpacing_nil hx) (ih hms)
    simpa [compactMembers] using hmembers

/-- **The compact form is a spelling** of the value. -/
lemma spells_compact (x : Json) : Spells x x.compact := by
  induction x with
  | null => exact .null
  | bool b =>
    cases b with
    | true => exact .true
    | false => exact .false
  | text x => exact .text (spellsBody_escape x)
  | list xs ih =>
    cases xs with
    | nil => exact .list (.nil (w := []) isSpacing_nil)
    | cons x xs =>
      obtain ⟨hx, hxs⟩ := List.forall_mem_cons.mp ih
      have hitems := SpellsItems.cons (.first isSpacing_nil) hx (spellsItems_compactItems hxs)
      exact .list hitems
  | object ms ih =>
    cases ms with
    | nil => exact .object (.nil (w := []) isSpacing_nil)
    | cons m ms =>
      obtain ⟨k, x⟩ := m
      obtain ⟨hx, hms⟩ := List.forall_mem_cons.mp ih
      have hmembers := SpellsItems.cons (.first isSpacing_nil)
        (spellsMember_quote k isSpacing_nil hx) (spellsItems_compactMembers hms)
      have hobject := Spells.object hmembers
      simpa [compact] using hobject

lemma isDocument_compact (x : Json) : IsDocument x x.compact :=
  ⟨[], x.compact, [], isSpacing_nil, spells_compact x, isSpacing_nil, by simp⟩

end ExprLexer.Json
