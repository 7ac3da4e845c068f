import ExprLexer.Text.Quoted

/-!
What can go wrong, and how it is told.

`Unmatched` is the one way in which tokenizing fails. Its position counts the significant
characters before it. `Failure` adds the other failures of a run.
-/

namespace ExprLexer

/-- No rule reads anything at `position`, where `character` stands. -/
structure Unmatched where
  character : Char
  position : Nat
deriving DecidableEq

namespace Unmatched

def message (e : Unmatched) : Text :=
  "Unexpected token at position ".toList ++ Text.ofNat e.position ++ ": \"".toList ++
    [e.character, '"']

/-- The error as a record with named fields. -/
def describe (e : Unmatched) : Text :=
  "UnmatchedToken \x7b character: ".toList ++ Text.quotedSingle e.character ++
    ", position: ".toList ++ Text.ofNat e.position ++ " \x7d".toList

end Unmatched

inductive Failure where
  | tokenizer (cause : Unmatched)
  | config (text : Text)
  | internal (text : Text)
deriving DecidableEq

namespace Failure

def message : Failure → Text
  | tokenizer e => "Tokenizer error: ".toList ++ e.message
  | config t => "Config error: ".toList ++ t
  | internal t => "Internal error: ".toList ++ t

/-- The failure as a constructor applied to its argument. -/
def describe : Failure → Text
  | tokenizer e => "Tokenizer(".toList ++ e.describe ++ [')']
  | config t => "Config(".toList ++ Text.quoted t ++ [')']
  | internal t => "Internal(".toList ++ Text.quoted t ++ [')']

end Failure

end ExprLexer
