import ExprLexer.Filler
import ExprLexer.Grammar

/-!
Tokenizing by rules.

The significant characters are read from left to right: at every position the grammar's first
applicable rule gives the next token, and the whole run fails where none applies. There is no going
back across rules. The run writes its log as it goes.
-/

namespace ExprLexer.Grammar

variable (g : Grammar)

/-- Reads a text without filler to its end; `position` characters are already behind. -/
def scan (position : Nat) : Text → List Log.Record × Except Unmatched (List Token)
  | [] => ([], .ok [])
  | c :: t =>
    match _h : tryRules g.rules (c :: t) with
    | (attempts, none) => (attempts ++ [.event (.failed ⟨c, position⟩)], .error ⟨c, position⟩)
    | (attempts, some (tok, rest)) =>
      let (log, result) := scan (position + tok.value.length) rest
      (attempts ++ .event (.token tok position) :: log, result.map (tok :: ·))
termination_by t => t.length
decreasing_by exact length_lt_of_tryRules (congrArg Prod.snd _h)

/-- The log and the outcome of tokenizing an expression. -/
def run (expression : Text) : List Log.Record × Except Unmatched (List Token) :=
  let (log, result) := g.scan 0 (significant expression)
  match result with
  | .ok ts => (.span .scan :: log ++ [.event (.finished ts.length)], .ok ts)
  | .error e => (.span .scan :: log, .error e)

/-- The tokens of an expression. -/
def tokens (expression : Text) : Except Unmatched (List Token) := (g.run expression).2

/-- The values of the tokens of an expression. -/
def values (expression : Text) : Except Unmatched (List Text) :=
  (g.tokens expression).map (·.map Token.value)

end ExprLexer.Grammar
