import ExprLexer.Text

/-!
The command line: options, and the expressions among them.

Arguments are read from left to right. The first that asks for help or for the version, or that is
wrong, decides; what comes after it is not seen. Behind two hyphens everything is an expression.
-/

namespace ExprLexer

structure Options where
  expressions : List Text
  /-- The path of the settings file. -/
  config : Text
  json : Bool
  verbose : Bool
deriving DecidableEq

/-- Why a command line gives no options. -/
inductive Exit where
  | help
  | version
  | usage
deriving DecidableEq

namespace CommandLine

def defaultConfig : Text := "tokenizer.json".toList

/-- What has been read of a command line. -/
structure Reading where
  /-- Last first. -/
  expressions : List Text
  config : Option Text
  json : Bool
  verbose : Bool
  /-- An option came last that needs a value. -/
  awaiting : Bool
  /-- Two hyphens have come. -/
  plain : Bool

namespace Reading

def start : Reading := ⟨[], none, false, false, false, false⟩

def addExpression (r : Reading) (t : Text) : Reading :=
  { r with expressions := t :: r.expressions }

/-- An option must have a value that is not empty, and must not be given twice. -/
def setConfig (r : Reading) (t : Text) : Except Exit Reading :=
  if t.isEmpty || r.config.isSome then .error .usage
  else .ok { r with config := some t, awaiting := false }

def setJson (r : Reading) : Except Exit Reading :=
  if r.json then .error .usage else .ok { r with json := true }

def setVerbose (r : Reading) : Except Exit Reading :=
  if r.verbose then .error .usage else .ok { r with verbose := true }

/-- An argument that begins with two hyphens, and what stands behind its equals sign. -/
def long (r : Reading) (name : Text) (value : Option Text) : Except Exit Reading :=
  if name = "config".toList then
    match value with
    | some v => r.setConfig v
    | none => .ok { r with awaiting := true }
  else if value.isSome then .error .usage
  else if name = "json".toList then r.setJson
  else if name = "verbose".toList then r.setVerbose
  else if name = "help".toList then .error .help
  else if name = "version".toList then .error .version
  else .error .usage

/-- The letters behind one hyphen. An option takes what is left of them as its value. -/
def short (r : Reading) : Text → Except Exit Reading
  | [] => .ok r
  | 'c' :: [] => .ok { r with awaiting := true }
  | 'c' :: '=' :: value => r.setConfig value
  | 'c' :: value => r.setConfig value
  | 'v' :: rest =>
    match r.setVerbose with
    | .ok r => r.short rest
    | .error e => .error e
  | 'h' :: _ => .error .help
  | 'V' :: _ => .error .version
  | _ :: _ => .error .usage

def step (r : Reading) (arg : Text) : Except Exit Reading :=
  if r.plain then .ok (r.addExpression arg)
  else
    match arg with
    | '-' :: c :: rest =>
      if r.awaiting then .error .usage
      else if c ≠ '-' then r.short (c :: rest)
      else if rest.isEmpty then .ok { r with plain := true }
      else
        let name := rest.takeWhile (· ≠ '=')
        r.long name (if rest.contains '=' then some (rest.drop (name.length + 1)) else none)
    | _ => if r.awaiting then r.setConfig arg else .ok (r.addExpression arg)

def finish (r : Reading) : Except Exit Options :=
  if r.awaiting then .error .usage
  else .ok ⟨r.expressions.reverse, r.config.getD defaultConfig, r.json, r.verbose⟩

end Reading

/-- Reads the arguments. -/
def parse (args : List Text) : Except Exit Options := do
  (← args.foldlM Reading.step Reading.start).finish

def versionText : Text := "expr-tokenizer 0.1.0\n".toList

def helpLines : List String :=
  ["Usage: expr-tokenizer [OPTIONS] [EXPRESSIONS]...",
   "",
   "Arguments:",
   "  [EXPRESSIONS]...  Expressions to tokenize. Falls back to the config file\x27s list",
   "",
   "Options:",
   "  -c, --config <CONFIG>  Path to config file [default: tokenizer.json]",
   "      --json             Print each comparison as JSON",
   "  -v, --verbose          Enable debug mode",
   "  -h, --help             Print help",
   "  -V, --version          Print version"]

def helpText : Text := helpLines.flatMap fun l => l.toList ++ ['\n']

end CommandLine

end ExprLexer
