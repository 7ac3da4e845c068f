import ExprLexer.Failure
import ExprLexer.Json.Reader
import ExprLexer.Json.Value

/-!
The settings of a demonstration run.

Settings are a JSON object with three members, each of which may be left out and then keeps its
default. A file that does not exist stands for the defaults as well.
-/

namespace ExprLexer

structure Settings where
  /-- The expressions to compare when none are given on the command line. -/
  expressions : List Text
  /-- The expression that shows how errors are reported. -/
  faulty : Text
  json : Bool
deriving DecidableEq

namespace Settings

def sampleExpressions : List Text := ["Bjaeq + kPlzs * qWeTt-(100/zzAbv)".toList]
def sampleFaulty : Text := "invalid@symbol".toList

def default : Settings := ⟨sampleExpressions, sampleFaulty, false⟩

/-- The given expressions, else the configured ones, else the default. -/
def selected (s : Settings) (given : List Text) : List Text :=
  if !given.isEmpty then given
  else if !s.expressions.isEmpty then s.expressions
  else sampleExpressions

/-- The settings as a record with named fields. -/
def describe (s : Settings) : Text :=
  "DemoConfig \x7b expressions: ".toList ++ Text.quotedList s.expressions ++
    ", error_demo: ".toList ++ Text.quoted s.faulty ++
    ", json: ".toList ++ (if s.json then "true" else "false").toList ++ " \x7d".toList

def toJson (s : Settings) : Json :=
  .object
    [("expressions".toList, .list (s.expressions.map .text)),
     ("error_demo".toList, .text s.faulty),
     ("json".toList, .bool s.json)]

/-! ### Reading -/

/-- Settings that are being read. -/
structure Partial where
  expressions : Option (List Text)
  faulty : Option Text
  json : Option Bool

/-- What has not been read has its default. -/
def Partial.complete (p : Partial) : Settings :=
  ⟨p.expressions.getD default.expressions, p.faulty.getD default.faulty,
    p.json.getD default.json⟩

def shape : Json.Shape Partial Settings where
  title := "struct DemoConfig"
  whole := "struct DemoConfig with 3 elements"
  fields :=
    [⟨"expressions".toList, fun p => p.expressions.isSome,
      fun p c => do
        let (ts, c) ← Json.readTexts c
        return ({ p with expressions := some ts }, c)⟩,
     ⟨"error_demo".toList, fun p => p.faulty.isSome,
      fun p c => do
        let (t, c) ← Json.readText "a string" c
        return ({ p with faulty := some t }, c)⟩,
     ⟨"json".toList, fun p => p.json.isSome,
      fun p c => do
        let (b, c) ← Json.readBool c
        return ({ p with json := some b }, c)⟩]
  start := ⟨none, none, none⟩
  finish p := .ok p.complete

/-- Reads settings from a JSON text. -/
def ofText (t : Text) : Except Failure Settings :=
  match Json.readDocument shape.read false (Json.Symbol.ofText t) with
  | .ok s => .ok s
  | .error e => .error (.config ("Failed to parse config: ".toList ++ e.message))

/-- What there is under a path. -/
inductive Stored where
  /-- Nothing that the path leads to. -/
  | missing
  /-- Something that cannot be opened, and the system's word on why. -/
  | locked (reason : Text)
  /-- Something that can be opened but not read, such as a directory, and the system's word on
  why. -/
  | unreadable (reason : Text)
  | file (bytes : List UInt8)

/-- Reads settings from a file. -/
def ofFile : Stored → Except Failure Settings
  | .missing =>
    .error (.config
      "Failed to open config file: No such file or directory (os error 2)".toList)
  | .locked reason => .error (.config ("Failed to open config file: ".toList ++ reason))
  | .unreadable reason => .error (.config ("Failed to parse config file: ".toList ++ reason))
  | .file bytes =>
    match Json.readDocument shape.read true (Json.Symbol.ofBytes 0 bytes) with
    | .ok s => .ok s
    | .error e => .error (.config ("Failed to parse config file: ".toList ++ e.message))

/-- Reads settings from a file if there is one. -/
def load : Stored → Except Failure Settings
  | .missing => .ok default
  | stored => ofFile stored

end Settings

end ExprLexer
