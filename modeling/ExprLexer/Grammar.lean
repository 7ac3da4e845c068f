import ExprLexer.Lexeme
import ExprLexer.Log
import ExprLexer.Pattern

/-!
Rules and grammars.

A rule pairs a kind with a matcher, a function that says how many bytes of a text it takes. The
answer counts only if it is positive and ends between two characters, so what a rule reads is a
non-empty prefix. A grammar is an ordered list of rules; the first that reads anything wins, even
where a later one would read more.
-/

namespace ExprLexer

structure Matcher where
  /-- The number of bytes taken from the front of a text. -/
  length? : Text → Option Nat
  /-- The built-in class it stands for; attempts of those are logged. -/
  builtin? : Option Kind

namespace Matcher

/-- The lexeme class of a kind. -/
def ofKind (k : Kind) : Matcher :=
  ⟨fun t => (k.lexeme? t).map fun (m, _) => Text.byteLength m, some k⟩

/-- Always answers `n`. -/
def fixed (n : Nat) : Matcher := ⟨fun _ => some n, none⟩

/-- Takes the given text, when it comes first. -/
def literal (p : Text) : Matcher :=
  ⟨fun t => (Text.dropLiteral? p t).map fun _ => Text.byteLength p, none⟩

/-- Takes what the pattern matches. -/
def ofPattern (p : Pattern) : Matcher := ⟨p.matchEnd?, none⟩

def never : Matcher := ⟨fun _ => none, none⟩

end Matcher

structure Rule where
  kind : Kind
  matcher : Matcher

namespace Rule

/-- What the rule reads off the front of `t`, and the rest. -/
def read? (r : Rule) (t : Text) : Option (Text × Text) :=
  match r.matcher.length? t with
  | none => none
  | some 0 => none
  | some (n + 1) => Text.splitAtByte? (n + 1) t

/-- The rule of a built-in class. -/
def ofKind (k : Kind) : Rule := ⟨k, .ofKind k⟩

/-- The rule by its kind alone. -/
def describe (r : Rule) : Text :=
  "TokenRule \x7b kind: ".toList ++ r.kind.constructorName ++ ", .. \x7d".toList

theorem append_of_read? {r : Rule} {t m rest : Text} (h : r.read? t = some (m, rest)) :
    m ++ rest = t := by
  unfold read? at h
  split at h
  · simp at h
  · simp at h
  · exact Text.append_of_splitAtByte? h

theorem ne_nil_of_read? {r : Rule} {t m rest : Text} (h : r.read? t = some (m, rest)) :
    m ≠ [] := by
  unfold read? at h
  split at h
  · simp at h
  · simp at h
  · rintro rfl
    simpa using Text.byteLength_of_splitAtByte? h

theorem length_lt_of_read? {r : Rule} {t m rest : Text} (h : r.read? t = some (m, rest)) :
    rest.length < t.length := by
  have h₁ := append_of_read? h
  have h₂ := List.length_pos_iff.mpr (ne_nil_of_read? h)
  rw [← h₁, List.length_append]
  omega

end Rule

/-- An ordered list of rules. -/
structure Grammar where
  rules : List Rule

namespace Grammar

/-- Rules on the way to becoming a grammar. -/
structure Draft where
  rules : List Rule

namespace Draft

def empty : Draft := ⟨[]⟩

/-- One rule for each built-in class, in order of precedence. -/
def builtin : Draft := ⟨Kind.all.map .ofKind⟩

/-- Appends a rule after those already there. -/
def add (d : Draft) (r : Rule) : Draft := ⟨d.rules ++ [r]⟩

def finish (d : Draft) : Grammar := ⟨d.rules⟩

end Draft

/-- The grammar of the built-in classes. -/
def builtin : Grammar := Draft.builtin.finish

/-- Tries rules in order, up to the first that reads something. Returns the attempts that are
logged, and what was read with the rest. -/
def tryRules : List Rule → Text → List Log.Record × Option (Token × Text)
  | [], _ => ([], none)
  | r :: rs, t =>
    let attempt := r.matcher.builtin?.toList.map fun k => .span (.attempt k)
    match r.read? t with
    | some (m, rest) => (attempt, some (⟨r.kind, m⟩, rest))
    | none =>
      let (log, found) := tryRules rs t
      (attempt ++ log, found)

/-- What the first rule that applies reads off the front of `t`, and the rest. -/
def first? (g : Grammar) (t : Text) : Option (Token × Text) := (tryRules g.rules t).2

theorem length_lt_of_tryRules {rs : List Rule} {t rest : Text} {tok : Token}
    (h : (tryRules rs t).2 = some (tok, rest)) : rest.length < t.length := by
  induction rs with
  | nil => simp [tryRules] at h
  | cons r rs ih =>
    unfold tryRules at h
    dsimp only at h
    split at h
    · rename_i m r' hr
      simp only [Option.some.injEq, Prod.mk.injEq] at h
      exact h.2 ▸ Rule.length_lt_of_read? hr
    · exact ih h

theorem length_lt_of_first? {g : Grammar} {t rest : Text} {tok : Token}
    (h : g.first? t = some (tok, rest)) : rest.length < t.length :=
  length_lt_of_tryRules h

/-- The rules in brackets, under a heading. -/
def describeRules (heading : String) (rs : List Rule) : Text :=
  heading.toList ++ " \x7b rules: [".toList ++ Text.join ", ".toList (rs.map Rule.describe) ++
    "] \x7d".toList

def Draft.describe (d : Draft) : Text := describeRules "RuleSetBuilder" d.rules

def describe (g : Grammar) : Text := describeRules "RuleSet" g.rules

end Grammar

end ExprLexer
