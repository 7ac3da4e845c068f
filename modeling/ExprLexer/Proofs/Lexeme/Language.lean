import ExprLexer.Lexeme
import Mathlib.Data.List.TakeWhile
import Mathlib.Tactic.Lemma

/-!
The languages of the three lexeme classes.

They are stated without the readers: what a number, an operator and a component are made of. A
component is bare or has a target; the distinction matters for what may follow it. The first
character of a lexeme tells its kind, and a component that goes on past another can only go on
with a marker, an arrow or further characters of a target.
-/

namespace ExprLexer

namespace Lexeme

/-- One or more decimal digits. -/
def IsNumber (v : Text) : Prop := v ≠ [] ∧ ∀ c ∈ v, c.isDigit = true

/-- One of the four operators. -/
def IsOperator (v : Text) : Prop := ∃ c ∈ "+-*/".toList, v = [c]

/-- Five letters. -/
def IsName (v : Text) : Prop := v.length = 5 ∧ ∀ c ∈ v, c.isAlpha = true

/-- The optional marker. -/
def IsMark (v : Text) : Prop := v = [] ∨ v = "~R+".toList

/-- One or more characters that are no operator, no parenthesis and no space. -/
def IsTarget (v : Text) : Prop := v ≠ [] ∧ ∀ c ∈ v, c ∉ "+-*/() ".toList

/-- A component without a target. -/
def IsBare (v : Text) : Prop := ∃ name mark, IsName name ∧ IsMark mark ∧ v = name ++ mark

/-- A component with a target. -/
def IsAimed (v : Text) : Prop :=
  ∃ name mark target, IsName name ∧ IsMark mark ∧ IsTarget target ∧
    v = name ++ mark ++ "->".toList ++ target

def IsComponent (v : Text) : Prop := IsBare v ∨ IsAimed v

end Lexeme

/-- The lexemes of a kind. -/
def Kind.Language : Kind → Text → Prop
  | .number => Lexeme.IsNumber
  | .operator => Lexeme.IsOperator
  | .component => Lexeme.IsComponent

/-! ### Characters -/

lemma isOperatorSign_iff {c : Char} : isOperatorSign c = true ↔ c ∈ "+-*/".toList := by
  simp [isOperatorSign, or_assoc]

lemma endsTarget_iff {c : Char} : endsTarget c = true ↔ c ∈ "+-*/() ".toList := by
  simp [endsTarget, isOperatorSign, or_assoc]

lemma isAlpha_iff_toNat {c : Char} :
    c.isAlpha = true ↔ (65 ≤ c.toNat ∧ c.toNat ≤ 90) ∨ (97 ≤ c.toNat ∧ c.toNat ≤ 122) := by
  have hval : c.isAlpha =
      (decide (65 ≤ c.val ∧ c.val ≤ 90) || (decide (97 ≤ c.val) && decide (c.val ≤ 122))) := rfl
  simp [hval, UInt32.le_iff_toNat_le, ← Char.toNat_val]

lemma not_isAlpha_of_isDigit {c : Char} (h : c.isDigit = true) : c.isAlpha = false := by
  have hd : 48 ≤ c.toNat ∧ c.toNat ≤ 57 := Char.isDigit_iff_toNat.mp h
  rw [Bool.eq_false_iff, Ne, isAlpha_iff_toNat]
  omega

lemma mem_stops_of_mem_signs {c : Char} (h : c ∈ "+-*/".toList) : c ∈ "+-*/() ".toList := by
  rw [← endsTarget_iff, endsTarget, isOperatorSign_iff.mpr h]
  rfl

/-- The characters that end a target are neither digits nor letters. -/
lemma not_isAlphanum_of_mem_stops {c : Char} (h : c ∈ "+-*/() ".toList) :
    c.isDigit = false ∧ c.isAlpha = false := by
  simp only [String.reduceToList, List.mem_cons, List.not_mem_nil, or_false] at h
  rcases h with rfl | rfl | rfl | rfl | rfl | rfl | rfl <;> decide

/-- The lexemes of a kind begin with such a character. -/
def Kind.Begins : Kind → Char → Prop
  | .number, c => c.isDigit = true
  | .operator, c => c ∈ "+-*/".toList
  | .component, c => c.isAlpha = true

lemma Kind.Begins.unique {k k' : Kind} {c : Char} (h : k.Begins c) (h' : k'.Begins c) :
    k = k' := by
  have hsign (hc : c ∈ "+-*/".toList) := not_isAlphanum_of_mem_stops (mem_stops_of_mem_signs hc)
  have hdigit : c.isDigit = true → c.isAlpha = false := not_isAlpha_of_isDigit
  cases k <;> cases k' <;> simp only [Kind.Begins] at h h' <;> simp_all

namespace Lexeme

/-! ### What lexemes begin with -/

lemma IsName.exists_cons {v : Text} (h : IsName v) : ∃ c u, v = c :: u ∧ c.isAlpha = true := by
  obtain ⟨hlen, halpha⟩ := h
  cases v with
  | nil => simp at hlen
  | cons c u => exact ⟨c, u, rfl, halpha c List.mem_cons_self⟩

end Lexeme

/-- **The first character of a lexeme tells its kind.** -/
lemma Kind.Language.exists_cons {k : Kind} {v : Text} (h : k.Language v) :
    ∃ c u, v = c :: u ∧ k.Begins c := by
  cases k with
  | number =>
    obtain ⟨hne, hdigit⟩ := h
    obtain ⟨c, u, rfl⟩ := List.exists_cons_of_ne_nil hne
    exact ⟨c, u, rfl, hdigit c List.mem_cons_self⟩
  | operator =>
    obtain ⟨c, hc, rfl⟩ := h
    exact ⟨c, [], rfl, hc⟩
  | component =>
    rcases h with ⟨name, mark, hname, -, rfl⟩ | ⟨name, mark, target, hname, -, -, rfl⟩
    all_goals
      obtain ⟨c, u, rfl, hc⟩ := hname.exists_cons
      exact ⟨c, _, by simp only [List.cons_append]; rfl, hc⟩

namespace Lexeme

/-! ### How a lexeme can go on -/

lemma IsNumber.append_singleton {v : Text} {c : Char} (hv : IsNumber v) (hc : c.isDigit = true) :
    IsNumber (v ++ [c]) := by
  refine ⟨by simp, fun d hd => ?_⟩
  rcases List.mem_append.mp hd with hd | hd
  · exact hv.2 d hd
  · rwa [List.mem_singleton.mp hd]

/-- A number goes on with digits. -/
lemma IsNumber.extend {v w : Text} (hvw : IsNumber (v ++ w)) : ∀ c ∈ w, c.isDigit = true :=
  fun c hc => hvw.2 c (List.mem_append_right v hc)

/-- An operator does not go on. -/
lemma IsOperator.extend {v w : Text} (hv : IsOperator v) (hvw : IsOperator (v ++ w)) : w = [] := by
  obtain ⟨c, -, rfl⟩ := hv
  obtain ⟨d, -, hd⟩ := hvw
  exact (List.cons.inj hd).2

/-- A name is determined by a text that begins with it. -/
lemma IsName.append_inj {n n' u u' : Text} (h : IsName n) (h' : IsName n')
    (heq : n ++ u = n' ++ u') : n = n' ∧ u = u' :=
  List.append_inj heq (h.1.trans h'.1.symm)

/-- Behind its name, and its marker if it has one, a component goes on with the marker that it lacks
or with an arrow and a target, or not at all. -/
lemma IsName.extend {name mark w : Text} (hname : IsName name) (hmark : IsMark mark)
    (h : IsComponent (name ++ mark ++ w)) :
    w = [] ∨ (mark = [] ∧ "~R+".toList <+: w) ∨
      ∃ target, IsTarget target ∧ w = "->".toList ++ target := by
  rw [List.append_assoc] at h
  rcases h with ⟨name', mark', hname', hmark', heq⟩ |
    ⟨name', mark', target, hname', hmark', htarget, heq⟩
  · obtain ⟨-, htail⟩ := hname.append_inj hname' heq
    rcases hmark with rfl | rfl <;> rcases hmark' with rfl | rfl <;> simp_all
  · rw [List.append_assoc, List.append_assoc] at heq
    obtain ⟨-, htail⟩ := hname.append_inj hname' heq
    rcases hmark with rfl | rfl <;> rcases hmark' with rfl | rfl <;> simp_all

/-- A bare component goes on with a marker or with an arrow, or not at all. -/
lemma IsBare.extend {v w : Text} (hv : IsBare v) (hvw : IsComponent (v ++ w)) :
    w = [] ∨ (∃ u, w = '~' :: u) ∨ ∃ u, w = '-' :: '>' :: u := by
  obtain ⟨name, mark, hname, hmark, rfl⟩ := hv
  rcases hname.extend hmark hvw with hnil | ⟨-, u, rfl⟩ | ⟨target, -, rfl⟩
  · exact .inl hnil
  · exact .inr (.inl ⟨_, rfl⟩)
  · exact .inr (.inr ⟨_, rfl⟩)

/-- A component with a target goes on with further characters of the target. -/
lemma IsAimed.extend {v w : Text} (hv : IsAimed v) (hvw : IsComponent (v ++ w)) :
    ∀ c ∈ w, c ∉ "+-*/() ".toList := by
  obtain ⟨name, mark, target, hname, hmark, htarget, rfl⟩ := hv
  simp only [List.append_assoc] at hvw
  rcases hvw with ⟨name', mark', hname', hmark', heq⟩ |
    ⟨name', mark', target', hname', hmark', htarget', heq⟩
  · obtain ⟨-, htail⟩ := hname.append_inj hname' heq
    rcases hmark with rfl | rfl <;> rcases hmark' with rfl | rfl <;> simp at htail
  · simp only [List.append_assoc] at heq
    obtain ⟨-, htail⟩ := hname.append_inj hname' heq
    have : target ++ w = target' := by
      rcases hmark with rfl | rfl <;> rcases hmark' with rfl | rfl <;> simp at htail <;>
        exact htail
    intro c hc
    exact htarget'.2 c (this ▸ List.mem_append_right target hc)

lemma IsAimed.append_singleton {v : Text} {c : Char} (hv : IsAimed v)
    (hc : c ∉ "+-*/() ".toList) : IsAimed (v ++ [c]) := by
  obtain ⟨name, mark, target, hname, hmark, htarget, rfl⟩ := hv
  refine ⟨name, mark, target ++ [c], hname, hmark, ⟨by simp, fun d hd => ?_⟩, by simp⟩
  rcases List.mem_append.mp hd with hd | hd
  · exact htarget.2 d hd
  · rwa [List.mem_singleton.mp hd]

end Lexeme

end ExprLexer
