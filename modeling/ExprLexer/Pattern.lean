import ExprLexer.Pattern.Reader
import ExprLexer.Regex.Match
import ExprLexer.Regex.Size

/-!
Patterns: regular expressions as users write them, for use in rules.

A pattern is put into a group behind a start anchor, as text, and the whole is read. So a match
begins at the front of the text it is tried on, unless the pattern closes the group early.
-/

namespace ExprLexer

/-- Why a pattern is refused. -/
inductive PatternError where
  | malformed
  | tooLarge
deriving DecidableEq

namespace Pattern

/-- How deeply the parts of a pattern can be nested. -/
def depthLimit : Nat := 250

/-- The memory that the automaton of a pattern may take, in bytes. -/
def memoryLimit : Nat := 10 * Nat.pow 2 20

/-- Reads a regular expression. -/
def parse (t : Text) : Except PatternError Regex :=
  match (State.start.run? t).bind State.finish? with
  | none => .error .malformed
  | some p =>
    if depthLimit < p.depth then .error .malformed
    else if memoryLimit < p.regex.memory .forward ∨ memoryLimit < p.regex.memory .backward then
      .error .tooLarge
    else .ok p.regex

/-- The pattern in a group behind a start anchor. -/
def anchored (pattern : Text) : Text := "^(?:".toList ++ pattern ++ [')']

end Pattern

/-- A pattern that has been read. -/
structure Pattern where
  /-- The text behind the anchor included. -/
  text : Text
  program : Program

namespace Pattern

def compile (pattern : Text) : Except PatternError Pattern :=
  (parse (anchored pattern)).map fun r => ⟨anchored pattern, .ofRegex r⟩

/-- The end of the leftmost match in `t`, in bytes. -/
def matchEnd? (p : Pattern) (t : Text) : Option Nat := p.program.find? t

end Pattern

end ExprLexer
