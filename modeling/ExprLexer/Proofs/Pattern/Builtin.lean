import ExprLexer.Proofs.Grammar.Precedence
import ExprLexer.Proofs.Lexeme.Language
import ExprLexer.Proofs.Pattern.Meaning

/-!
The built-in classes as patterns.

Each class can be written as a pattern, so rules with these patterns can stand in for the built-in
ones. The patterns read greedily: a run of characters of a set is read as far as it goes, and a part
that can be left out is read if it is there. What stands behind such a part never fails, so the
first attempt counts, and it is what the reader of the class splits off.
-/

namespace ExprLexer

namespace Regex

/-! ### First attempts -/

/-- The end of the match that an expression tries first. -/
def first? (r : Regex) (u : Spot) : Option Spot := (r.ways u).head?

lemma head?_flatMap_toList {α β : Type} (o : Option α) (f : α → List β) :
    (o.toList.flatMap f).head? = o.bind fun x => (f x).head? := by
  cases o <;> simp

/-- Where there is one way at most, what follows has one start at most. -/
lemma first?_seq_of_toList {a b : Regex} {u : Spot} {o : Option Spot} (h : a.ways u = o.toList) :
    (seq a b).first? u = o.bind b.first? := by
  have hways : (seq a b).ways u = o.toList.flatMap b.ways := by rw [← h]; rfl
  rw [first?, hways, head?_flatMap_toList]
  rfl

/-- What never fails never sends what is in front of it back. -/
lemma first?_seq_of_isSome {a b : Regex} (h : ∀ v, (b.first? v).isSome = true) (u : Spot) :
    (seq a b).first? u = (a.first? u).bind b.first? := by
  rw [first?, first?, ways, List.head?_flatMap]
  cases a.ways u with
  | nil => rfl
  | cons v vs =>
    obtain ⟨w, hw⟩ := Option.isSome_iff_exists.mp (h v)
    rw [List.findSome?_cons, List.head?_cons, Option.bind_some, ← first?, hw]

/-- What can be left out is read if it can be read. -/
lemma first?_optional (r : Regex) (u : Spot) :
    (rep r 0 (some 1) true).first? u = some ((r.first? u).getD u) := by
  have hways : (rep r 0 (some 1) true).ways u = r.ways u ++ [u] := by
    simp [ways, exactly, upTo, oneMore]
  rw [first?, hways, List.head?_append, first?]
  cases (r.ways u).head? <;> rfl

lemma ways_literal (t b a : Text) :
    (literal t).ways ⟨b, a⟩ =
      ((Text.dropLiteral? t a).map fun rest => Spot.mk (b ++ t) rest).toList := by
  induction t generalizing b a with
  | nil => simp [ways, Text.dropLiteral?]
  | cons c t ih =>
    have hways (u : Spot) : (literal (c :: t)).ways u =
        (u.read? (.single c)).toList.flatMap (literal t).ways := rfl
    cases a with
    | nil => simp [hways, Text.dropLiteral?]
    | cons d a =>
      by_cases hd : d = c
      · simp [hways, Text.dropLiteral?, hd, ih]
      · simp [hways, Text.dropLiteral?, hd, Ne.symm hd]

/-! ### Runs of characters of a set -/

section Runs

variable (s : CharSet)

/-- A run is read as far as it goes. -/
lemma head?_upTo_set (b a : Text) :
    (upTo (fun u => (u.read? s).toList) true a.length ⟨b, a⟩).head? =
      some ⟨b ++ a.takeWhile s.contains, a.dropWhile s.contains⟩ := by
  induction a generalizing b with
  | nil => simp [upTo]
  | cons c a ih =>
    rw [List.length_cons, upTo_succ, oneMore, if_pos rfl, List.head?_append, head?_flatMap_toList]
    by_cases hc : s.contains c = true
    · simp [hc, ih]
    · simp [hc]

lemma first?_plus_set (bytes : Bool) (b a : Text) :
    (rep (set s bytes) 1 none true).first? ⟨b, a⟩ =
      if a.takeWhile s.contains = [] then none
      else some ⟨b ++ a.takeWhile s.contains, a.dropWhile s.contains⟩ := by
  cases a with
  | nil => simp [first?, ways, exactly]
  | cons c a =>
    by_cases hc : s.contains c = true
    · simp [first?, ways, exactly, hc, head?_upTo_set]
    · simp [first?, ways, exactly, hc]

lemma exactly_succ (w : Spot → List Spot) (n : Nat) (u : Spot) :
    exactly w (n + 1) u = (w u).flatMap (exactly w n) := by
  induction n with
  | zero => simp [exactly]
  | succ n ih =>
    rw [exactly, ih, List.flatMap_assoc]
    rfl

/-- Just `n` characters. -/
lemma exactly_set (n : Nat) (b a : Text) :
    exactly (fun u => (u.read? s).toList) n ⟨b, a⟩ =
      (if (a.take n).length = n ∧ (a.take n).all s.contains then
        some (Spot.mk (b ++ a.take n) (a.drop n)) else none).toList := by
  induction n generalizing b a with
  | zero => simp [exactly]
  | succ n ih =>
    rw [exactly_succ]
    cases a with
    | nil => simp
    | cons c a =>
      by_cases hc : s.contains c = true
      · simp [hc, ih]
      · simp [hc]

end Runs

end Regex

namespace Lexeme

open Regex (first?)

/-! ### The characters of the classes -/

def digits : CharSet := ⟨[⟨48, 57⟩]⟩

def signs : CharSet := ⟨[⟨42, 43⟩, ⟨45, 45⟩, ⟨47, 47⟩]⟩

def letters : CharSet := ⟨[⟨65, 90⟩, ⟨97, 122⟩]⟩

/-- All that does not end a target. -/
def targets : CharSet := ⟨[⟨0, 31⟩, ⟨33, 39⟩, ⟨44, 44⟩, ⟨46, 46⟩, ⟨48, 0x10FFFF⟩]⟩

lemma contains_digits : digits.contains = Char.isDigit := by
  funext c
  rw [Bool.eq_iff_iff, Char.isDigit_iff_toNat]
  simp [digits, CharSet.contains, CharRange.contains]

lemma contains_letters : letters.contains = Char.isAlpha := by
  funext c
  rw [Bool.eq_iff_iff, isAlpha_iff_toNat]
  simp [letters, CharSet.contains, CharRange.contains]

lemma isOperatorSign_iff_toNat {c : Char} : isOperatorSign c = true ↔
    c.toNat = 43 ∨ c.toNat = 45 ∨ c.toNat = 42 ∨ c.toNat = 47 := by
  simp [isOperatorSign, ← Char.toNat_inj, or_assoc]

lemma contains_signs : signs.contains = isOperatorSign := by
  funext c
  have hranges : signs.contains c = true ↔ (42 ≤ c.toNat ∧ c.toNat ≤ 43) ∨
      (45 ≤ c.toNat ∧ c.toNat ≤ 45) ∨ (47 ≤ c.toNat ∧ c.toNat ≤ 47) := by
    simp [signs, CharSet.contains, CharRange.contains]
  rw [Bool.eq_iff_iff, hranges, isOperatorSign_iff_toNat]
  omega

lemma contains_targets : targets.contains = (!endsTarget ·) := by
  funext c
  have htop : c.toNat < 0x110000 := by
    rcases c.valid with h | ⟨-, h⟩
    · exact h.trans (by decide)
    · exact h
  have hends : endsTarget c = true ↔
      isOperatorSign c = true ∨ c.toNat = 40 ∨ c.toNat = 41 ∨ c.toNat = 32 := by
    simp [endsTarget, ← Char.toNat_inj, or_assoc]
  have hranges : targets.contains c = true ↔ c.toNat ≤ 31 ∨ (33 ≤ c.toNat ∧ c.toNat ≤ 39) ∨
      (44 ≤ c.toNat ∧ c.toNat ≤ 44) ∨ (46 ≤ c.toNat ∧ c.toNat ≤ 46) ∨
      (48 ≤ c.toNat ∧ c.toNat ≤ 0x10FFFF) := by
    simp [targets, CharSet.contains, CharRange.contains]
  rw [Bool.eq_iff_iff, hranges, Bool.not_eq_true', ← Bool.not_eq_true, hends,
    isOperatorSign_iff_toNat]
  omega

/-! ### The readers as expressions -/

lemma first?_marker (b t : Text) :
    (Regex.rep (.literal marker) 0 (some 1) true).first? ⟨b, t⟩ =
      some ⟨b ++ (splitMarker t).1, (splitMarker t).2⟩ := by
  rw [Regex.first?_optional, first?, Regex.ways_literal, splitMarker]
  cases Text.dropLiteral? marker t <;> simp

/-- An arrow with at least one character behind it. -/
def aim : Regex := .seq (.literal arrow) (.rep (.set targets false) 1 none true)

lemma first?_aim (b t : Text) :
    (Regex.rep aim 0 (some 1) true).first? ⟨b, t⟩ =
      some ⟨b ++ (splitTarget t).1, (splitTarget t).2⟩ := by
  rw [Regex.first?_optional, aim, Regex.first?_seq_of_toList (Regex.ways_literal arrow b t),
    splitTarget]
  cases Text.dropLiteral? arrow t with
  | none => simp
  | some rest =>
    simp only [Option.map_some, Option.bind_some, Regex.first?_plus_set, contains_targets]
    cases rest.takeWhile (!endsTarget ·) <;> simp

/-- What may stand behind the name of a component. -/
def suffix : Regex :=
  .seq (.rep (.literal marker) 0 (some 1) true) (.rep aim 0 (some 1) true)

lemma first?_suffix (b t : Text) :
    suffix.first? ⟨b, t⟩ =
      some ⟨b ++ (splitMarker t).1 ++ (splitTarget (splitMarker t).2).1,
        (splitTarget (splitMarker t).2).2⟩ := by
  rw [suffix, Regex.first?_seq_of_isSome fun v => by rw [first?_aim]; rfl, first?_marker,
    Option.bind_some, first?_aim]

lemma ways_name (b t : Text) :
    (Regex.rep (.set letters false) letterCount (some 0) true).ways ⟨b, t⟩ =
      ((letters? t).map fun (name, rest) => Spot.mk (b ++ name) rest).toList := by
  have hways : (Regex.rep (.set letters false) letterCount (some 0) true).ways ⟨b, t⟩ =
      Regex.exactly (fun u => (u.read? letters).toList) letterCount ⟨b, t⟩ := by
    simp [Regex.ways, Regex.upTo]
  rw [hways, Regex.exactly_set, contains_letters, letters?]
  split <;> simp

end Lexeme

namespace Kind

open Lexeme

/-- A pattern for the class. -/
def pattern : Kind → Text
  | .number => "[0-9]+".toList
  | .operator => "[+\\-*/]".toList
  | .component => "[A-Za-z]\x7b5\x7d(?:~R\\+)?(?:->[^+\\-*/() ]+)?".toList

/-- What the pattern of the class is read as. -/
def regex : Kind → Regex
  | .number => .rep (.set digits false) 1 none true
  | .operator => .set signs false
  | .component => .seq (.rep (.set letters false) letterCount (some 0) true) suffix

lemma tree?_pattern (k : Kind) : Pattern.tree? k.pattern = some k.regex := by
  cases k <;> rfl

lemma loopsRead_regex (k : Kind) : k.regex.loopsRead = true := by
  cases k <;> rfl

/-- **What the expression of a class tries first is what its reader splits off.** -/
lemma first?_regex (k : Kind) (b t : Text) :
    k.regex.first? ⟨b, t⟩ = (k.lexeme? t).map fun (m, rest) => ⟨b ++ m, rest⟩ := by
  cases k with
  | number =>
    rw [regex, Regex.first?_plus_set, contains_digits, lexeme?, number?]
    cases t.takeWhile Char.isDigit <;> simp
  | operator =>
    cases t with
    | nil => rfl
    | cons c t =>
      rw [regex, Regex.first?, Regex.ways, lexeme?, operator?]
      by_cases hc : isOperatorSign c = true <;> simp [contains_signs, hc]
  | component =>
    rw [regex, Regex.first?_seq_of_toList (ways_name b t), lexeme?, component?]
    cases letters? t <;> simp [first?_suffix]

lemma compile_pattern (k : Kind) :
    Pattern.compile k.pattern =
      .ok ⟨Pattern.anchored k.pattern, .ofRegex k.regex.behindAnchor⟩ := by
  cases k <;> rfl

/-- **The pattern of a class answers as the class does.** -/
lemma matchEnd?_pattern {k : Kind} {p : Pattern} (hp : Pattern.compile k.pattern = .ok p)
    (t : Text) : p.matchEnd? t = (Matcher.ofKind k).length? t := by
  have hfirst : k.regex.preferred? (.front t) = (k.lexeme? t).map fun (m, rest) => ⟨m, rest⟩ := by
    rw [Regex.preferred?_eq_head?_ways k.loopsRead_regex]
    exact k.first?_regex [] t
  rw [Pattern.matchEnd?_eq k.tree?_pattern hp, hfirst, Option.map_map]
  rfl

end Kind

namespace Grammar

/-- Rules of the same kinds that take as many bytes read alike. -/
lemma tokens_map_eq {α : Type} (xs : List α) {r r' : α → Rule}
    (hkind : ∀ x, (r x).kind = (r' x).kind)
    (hlength : ∀ x t, (r x).matcher.length? t = (r' x).matcher.length? t) (e : Text) :
    tokens ⟨xs.map r⟩ e = tokens ⟨xs.map r'⟩ e := by
  refine tokens_eq_of_alike (fun s _ => ?_) e
  simp only [first?_eq_findSome?, List.findSome?_map, Function.comp_def, Rule.read?, hkind, hlength]

/-- **Patterns can stand in for the built-in classes.** Each class has one that answers alike on
every text, and a grammar whose rules use these reads every expression as the built-in grammar. -/
theorem exists_patterns_like_builtin :
    ∃ p : Kind → Pattern,
      (∀ k, Pattern.compile k.pattern = .ok (p k)) ∧
      (∀ k t, (Matcher.ofPattern (p k)).length? t = (Matcher.ofKind k).length? t) ∧
      ∀ e, tokens ⟨Kind.all.map fun k => ⟨k, .ofPattern (p k)⟩⟩ e = builtin.tokens e :=
  ⟨_, Kind.compile_pattern, fun k t => Kind.matchEnd?_pattern (Kind.compile_pattern k) t,
    tokens_map_eq Kind.all (fun _ => rfl)
      fun k t => Kind.matchEnd?_pattern (Kind.compile_pattern k) t⟩

end Grammar

end ExprLexer
