import ExprLexer.Filler
import ExprLexer.Proofs.Lexeme.Language

/-!
Classes of characters.

Reading tells no more of a character than its class: filler, digits and letters, the five
characters of markers and arrows each for itself, the other two operators, and all the rest. A map
that keeps every character in its class keeps texts without filler in and out of the languages of
lexemes. It may merge characters of a class and change their widths; only the characters that are
alone in their class stay what they are, and those are the ones that markers and arrows spell.
-/

namespace ExprLexer

/-- What reading tells of a character. -/
inductive CharClass where
  | filler
  | digit
  | capitalR
  | letter
  | tilde
  | greater
  | plus
  | minus
  | factor
  | other
deriving DecidableEq

namespace CharClass

/-- The class of a character. -/
def of (c : Char) : CharClass :=
  if isFiller c then filler
  else if c.isDigit then digit
  else if c = 'R' then capitalR
  else if c.isAlpha then letter
  else if c = '~' then tilde
  else if c = '>' then greater
  else if c = '+' then plus
  else if c = '-' then minus
  else if c = '*' ∨ c = '/' then factor
  else other

/-- The one character of a class, if it has only one. -/
def mark? : CharClass → Option Char
  | capitalR => some 'R'
  | tilde => some '~'
  | greater => some '>'
  | plus => some '+'
  | minus => some '-'
  | _ => none

variable {c d : Char}

/-! ### What the class tells -/

/-- Behind the parentheses no character of ASCII is filler. -/
lemma not_isFiller_of_toNat (hlo : 42 ≤ c.toNat) (hhi : c.toNat ≤ 127) : isFiller c = false := by
  refine Bool.eq_false_iff.mpr fun h => ?_
  simp only [isFiller, Bool.or_eq_true, decide_eq_true_eq] at h
  rcases h with (h | rfl) | rfl
  · simp [Text.isBlank, Text.blankRanges] at h
    omega
  · exact absurd hlo (by decide)
  · exact absurd hlo (by decide)

lemma not_isFiller_of_isDigit (h : c.isDigit = true) : isFiller c = false := by
  have hd : 48 ≤ c.toNat ∧ c.toNat ≤ 57 := Char.isDigit_iff_toNat.mp h
  exact not_isFiller_of_toNat (by omega) (by omega)

lemma not_isFiller_of_isAlpha (h : c.isAlpha = true) : isFiller c = false := by
  have ha := isAlpha_iff_toNat.mp h
  exact not_isFiller_of_toNat (by omega) (by omega)

lemma isFiller_iff : isFiller c = true ↔ of c = filler := by
  grind [of]

lemma isDigit_iff : c.isDigit = true ↔ of c = digit := by
  grind [of, not_isFiller_of_isDigit]

lemma isAlpha_iff : c.isAlpha = true ↔ of c = capitalR ∨ of c = letter := by
  have hR : c = 'R' → c.isAlpha = true := by
    rintro rfl
    decide
  grind [of, not_isFiller_of_isAlpha, not_isAlpha_of_isDigit]

lemma mem_signs_iff : c ∈ "+-*/".toList ↔ of c = plus ∨ of c = minus ∨ of c = factor := by
  constructor
  · intro h
    simp only [String.reduceToList, List.mem_cons, List.not_mem_nil, or_false] at h
    rcases h with rfl | rfl | rfl | rfl <;> decide
  · intro h
    simp only [String.reduceToList, List.mem_cons, List.not_mem_nil, or_false]
    grind [of]

lemma eq_of_mark? (h : (of c).mark? = some d) : c = d := by
  grind [of, mark?]

/-- A character of a marker or an arrow is alone in its class. -/
lemma of_eq_of_iff (hd : d ∈ "~R+->".toList) : of c = of d ↔ c = d := by
  refine ⟨fun h => eq_of_mark? ?_, congrArg of⟩
  rw [h]
  simp only [String.reduceToList, List.mem_cons, List.not_mem_nil, or_false] at hd
  rcases hd with rfl | rfl | rfl | rfl | rfl <;> decide

/-- In a text without filler, only an operator ends a target. -/
lemma mem_stops_iff_of_significant (h : isFiller c = false) :
    c ∈ "+-*/() ".toList ↔ c ∈ "+-*/".toList := by
  refine ⟨fun hc => ?_, mem_stops_of_mem_signs⟩
  have hne : c ≠ '(' ∧ c ≠ ')' ∧ c ≠ ' ' := by
    refine ⟨?_, ?_, ?_⟩ <;> rintro rfl <;> cases h
  simpa [hne] using hc

end CharClass

/-! ### Maps that keep the class -/

/-- Every character stays in its class. -/
def KeepsClass (f : Char → Char) : Prop := ∀ c, CharClass.of (f c) = CharClass.of c

namespace KeepsClass

variable {f : Char → Char} (hf : KeepsClass f)
include hf

lemma isFiller (c : Char) : isFiller (f c) = isFiller c := by
  rw [Bool.eq_iff_iff, CharClass.isFiller_iff, CharClass.isFiller_iff, hf c]

lemma isDigit (c : Char) : (f c).isDigit = c.isDigit := by
  rw [Bool.eq_iff_iff, CharClass.isDigit_iff, CharClass.isDigit_iff, hf c]

lemma isAlpha (c : Char) : (f c).isAlpha = c.isAlpha := by
  rw [Bool.eq_iff_iff, CharClass.isAlpha_iff, CharClass.isAlpha_iff, hf c]

lemma mem_signs (c : Char) : f c ∈ "+-*/".toList ↔ c ∈ "+-*/".toList := by
  rw [CharClass.mem_signs_iff, CharClass.mem_signs_iff, hf c]

/-- Only a text of marker and arrow characters becomes that text. -/
lemma map_eq_iff {v w : Text} (hv : ∀ d ∈ v, d ∈ "~R+->".toList) : w.map f = v ↔ w = v := by
  induction v generalizing w with
  | nil => simp
  | cons d v ih =>
    obtain ⟨hd, hv⟩ := List.forall_mem_cons.mp hv
    have hfd (c : Char) : f c = d ↔ c = d := by
      rw [← CharClass.of_eq_of_iff hd, hf c, CharClass.of_eq_of_iff hd]
    cases w with
    | nil => simp
    | cons c w => simp [hfd, ih hv]

/-! ### Languages -/

open Lexeme CharClass

variable {w : Text}

lemma isNumber_map : IsNumber (w.map f) ↔ IsNumber w := by
  simp [IsNumber, hf.isDigit]

lemma isOperator_map : IsOperator (w.map f) ↔ IsOperator w := by
  constructor
  · rintro ⟨d, hd, hw⟩
    obtain ⟨c, rfl, rfl⟩ := List.map_eq_singleton_iff.mp hw
    exact ⟨c, (hf.mem_signs c).mp hd, rfl⟩
  · rintro ⟨c, hc, rfl⟩
    exact ⟨f c, (hf.mem_signs c).mpr hc, rfl⟩

lemma isName_map : IsName (w.map f) ↔ IsName w := by
  simp [IsName, hf.isAlpha]

lemma isMark_map : IsMark (w.map f) ↔ IsMark w := by
  have hmark : w.map f = "~R+".toList ↔ w = "~R+".toList := hf.map_eq_iff (by simp)
  rw [IsMark, IsMark, hmark, List.map_eq_nil_iff]

lemma isBare_map : IsBare (w.map f) ↔ IsBare w := by
  constructor
  · rintro ⟨name, mark, hname, hmark, hw⟩
    obtain ⟨n, m, rfl, rfl, rfl⟩ := List.map_eq_append_iff.mp hw
    exact ⟨n, m, hf.isName_map.mp hname, hf.isMark_map.mp hmark, rfl⟩
  · rintro ⟨name, mark, hname, hmark, rfl⟩
    exact ⟨_, _, hf.isName_map.mpr hname, hf.isMark_map.mpr hmark, List.map_append⟩

lemma isTarget_map (hw : ∀ c ∈ w, ExprLexer.isFiller c = false) :
    IsTarget (w.map f) ↔ IsTarget w := by
  have hstop {c : Char} (hc : c ∈ w) : f c ∈ "+-*/() ".toList ↔ c ∈ "+-*/() ".toList := by
    rw [mem_stops_iff_of_significant (hf.isFiller c ▸ hw c hc),
      mem_stops_iff_of_significant (hw c hc), hf.mem_signs]
  unfold IsTarget
  rw [Ne, List.map_eq_nil_iff, List.forall_mem_map]
  exact and_congr_right fun _ => forall₂_congr fun c hc => not_congr (hstop hc)

lemma isAimed_map (hw : ∀ c ∈ w, ExprLexer.isFiller c = false) :
    IsAimed (w.map f) ↔ IsAimed w := by
  have harrow {v : Text} : v.map f = "->".toList ↔ v = "->".toList := hf.map_eq_iff (by simp)
  constructor
  · rintro ⟨name, mark, target, hname, hmark, htarget, heq⟩
    obtain ⟨u, t, rfl, hu, rfl⟩ := List.map_eq_append_iff.mp heq
    obtain ⟨u, a, rfl, hu, ha⟩ := List.map_eq_append_iff.mp hu
    obtain ⟨n, m, rfl, rfl, rfl⟩ := List.map_eq_append_iff.mp hu
    have ht : IsTarget t :=
      (hf.isTarget_map fun c hc => hw c (List.mem_append_right _ hc)).mp htarget
    exact ⟨n, m, t, hf.isName_map.mp hname, hf.isMark_map.mp hmark, ht, by rw [harrow.mp ha]⟩
  · rintro ⟨name, mark, target, hname, hmark, htarget, rfl⟩
    have ht : IsTarget (target.map f) :=
      (hf.isTarget_map fun c hc => hw c (List.mem_append_right _ hc)).mpr htarget
    refine ⟨_, _, _, hf.isName_map.mpr hname, hf.isMark_map.mpr hmark, ht, ?_⟩
    rw [List.map_append, List.map_append, List.map_append, harrow.mpr rfl]

/-- **A text without filler stays in and out of the language of each kind.** -/
lemma language_map (hw : ∀ c ∈ w, ExprLexer.isFiller c = false) (k : Kind) :
    k.Language (w.map f) ↔ k.Language w := by
  cases k with
  | number => exact hf.isNumber_map
  | operator => exact hf.isOperator_map
  | component => exact or_congr hf.isBare_map (hf.isAimed_map hw)

end KeepsClass

end ExprLexer
