import ExprLexer.Failure
import ExprLexer.Token

/-!
The log of a run, as data.

A record opens a span, the extent of some piece of work, or tells of one event. Every record has a
level, and a reader who asks for a level sees the records at that level and the more severe ones.
What is shown of a log may also be decided by other means, so a filter is any map of logs.
-/

namespace ExprLexer.Log

/-- Severity, most severe first. -/
inductive Level where
  | error
  | warn
  | info
  | debug
  | trace
deriving DecidableEq

namespace Level

def rank : Level → Nat
  | error => 0
  | warn => 1
  | info => 2
  | debug => 3
  | trace => 4

def name : Level → Text
  | error => "ERROR".toList
  | warn => "WARN".toList
  | info => "INFO".toList
  | debug => "DEBUG".toList
  | trace => "TRACE".toList

def all : List Level := [error, warn, info, debug, trace]

def ofName? (t : Text) : Option Level := all.find? fun l => l.name = t

end Level

/-- A piece of work. -/
inductive Span where
  /-- Tokenizing by rules. -/
  | scan
  /-- Splitting at operators. -/
  | split
  /-- One attempt at a built-in lexeme class. -/
  | attempt (kind : Kind)
  /-- Both readings of one expression. -/
  | comparison (expression : Text)
deriving DecidableEq

namespace Span

def level : Span → Level := fun _ => .debug

def name : Span → Text
  | scan => "tokenize".toList
  | split => "quick_tokenize".toList
  | attempt k => "parse_".toList ++ k.name
  | comparison _ => "run".toList

def fields : Span → List (Text × Text)
  | comparison e => [("expression".toList, Text.quoted e)]
  | _ => []

end Span

inductive Event where
  /-- A token was read at a position, counted in significant characters. -/
  | token (token : Token) (position : Nat)
  /-- The run ended with this many tokens. -/
  | finished (count : Nat)
  /-- The run ended because no rule applied. -/
  | failed (cause : Unmatched)
  /-- A demonstration has its settings. -/
  | loaded
  /-- What the settings of a demonstration are. -/
  | settings (description : Text)
deriving DecidableEq

namespace Event

def level : Event → Level
  | token _ _ => .trace
  | finished _ => .debug
  | failed _ => .debug
  | loaded => .info
  | settings _ => .debug

def message : Event → Text
  | token t p => t.kind.name ++ ' ' :: Text.quoted t.value ++ " at ".toList ++ Text.ofNat p
  | finished n => "tokenized ".toList ++ Text.ofNat n ++ " tokens".toList
  | failed e => e.message
  | loaded => "config loaded.".toList
  | settings t => "config: ".toList ++ t

end Event

inductive Record where
  | span (span : Span)
  | event (event : Event)
deriving DecidableEq

def Record.level : Record → Level
  | span s => s.level
  | event e => e.level

/-- What is shown of a log. -/
abbrev Filter := List Record → List Record

/-- The records that a reader at level `l` sees. -/
def visible (l : Level) : Filter := fun log => log.filter fun r => r.level.rank ≤ l.rank

/-- The events, a line each. A span has no line of its own. -/
def written (log : List Record) : Text :=
  log.flatMap fun
    | .span _ => []
    | .event e => e.level.name ++ ' ' :: e.message ++ ['\n']

end ExprLexer.Log
