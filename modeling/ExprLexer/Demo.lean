import ExprLexer.CommandLine
import ExprLexer.Report
import ExprLexer.Settings

/-!
A demonstration run: a block for every selected expression, then one line that shows how an error is
reported. The log goes to the error output. How much of it is shown is set from outside, but a
verbose run has a filter of its own.
-/

namespace ExprLexer

/-- What a run leaves behind. -/
structure Outcome where
  code : Nat
  stdout : Text
  /-- The error output apart from the log. -/
  stderr : Text
  /-- The records of the log that are shown. -/
  log : List Log.Record
deriving DecidableEq

namespace Demo

/-- The last lines of a run. -/
def trailer (faulty : Text) : Text :=
  let told :=
    match Grammar.builtin.tokens faulty with
    | .ok ts => "Tokenized without error: ".toList ++ Text.ofNat ts.length ++ " tokens\n".toList
    | .error e => "Caught error: ".toList ++ e.message ++ ['\n']
  "Error handling demo:\n".toList ++ told

/-- The blocks of some expressions, under each other. -/
def blocks (asJson : Bool) (es : List Text) : Text :=
  es.flatMap fun e => (Report.ofExpression e).block asJson

/-- The log of reading some expressions with settings. -/
def log (s : Settings) (es : List Text) : List Log.Record :=
  .event .loaded :: .event (.settings s.describe) ::
    es.flatMap Report.log ++ (Grammar.builtin.run s.faulty).1

/-- What is shown of the log, if `ambient` is the filter that is set from outside. -/
def filter (o : Options) (ambient : Log.Filter) : Log.Filter :=
  if o.verbose then Log.visible .debug else ambient

/-- Runs with options, given the filter from outside and what there is under the path of the
settings. -/
def run (o : Options) (ambient : Log.Filter) (stored : Settings.Stored) : Outcome :=
  match Settings.load stored with
  | .error f => ⟨1, [], "Error: ".toList ++ f.message ++ ['\n'], []⟩
  | .ok s =>
    let es := s.selected o.expressions
    ⟨0, blocks (o.json || s.json) es ++ trailer s.faulty, [], filter o ambient (log s es)⟩

/-- What is left behind when the command line gives no options. -/
def exit : Exit → Outcome
  | .help => ⟨0, CommandLine.helpText, [], []⟩
  | .version => ⟨0, CommandLine.versionText, [], []⟩
  | .usage => ⟨2, [], "error: wrong arguments, try \x27--help\x27\n".toList, []⟩

/-- Runs with the arguments of a command line; `stored` says what there is under a path. -/
def outcome (args : List Text) (ambient : Log.Filter) (stored : Text → Settings.Stored) :
    Outcome :=
  match CommandLine.parse args with
  | .error e => exit e
  | .ok o => run o ambient (stored o.config)

end Demo

end ExprLexer
