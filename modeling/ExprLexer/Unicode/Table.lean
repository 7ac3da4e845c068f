import ExprLexer.CharSet
import ExprLexer.Text.Digit

/-!
Tables over the code points: runs that cover all of them, and texts that list ranges.

A table of runs is searched by bisection: `lastAtMost` is the index of the last run that starts no
later than the number looked up.
-/

namespace ExprLexer.Unicode

/-- Bisects an ascending array between `lo`, known to be low enough, and `hi`. -/
def lastAtMost (a : Array Nat) (x lo hi : Nat) : Nat :=
  if _h : lo + 1 < hi then
    let mid := (lo + hi) / 2
    if a.getD mid 0 ≤ x then lastAtMost a x mid hi else lastAtMost a x lo mid
  else lo
termination_by hi - lo
decreasing_by all_goals omega

/-- A value for every number, constant on runs; `starts` is ascending and begins with zero. -/
structure RunTable (α : Type) where
  starts : Array Nat
  values : Array α

namespace RunTable

variable {α : Type}

def ofRuns (runs : List (α × Nat)) : RunTable α :=
  let (starts, _) := runs.foldl (fun (s, at_) run => (s.push at_, at_ + run.2)) (#[], 0)
  ⟨starts, (runs.map Prod.fst).toArray⟩

def get (t : RunTable α) (fallback : α) (n : Nat) : α :=
  t.values.getD (lastAtMost t.starts n 0 t.starts.size) fallback

end RunTable

/-! ### Reading the table texts -/

def hexValue (t : Text) : Nat := t.foldl (fun n c => 16 * n + (Text.hexDigit? c).getD 0) 0

def decimalValue (t : Text) : Nat := t.foldl (fun n c => 10 * n + (Text.decimalDigit? c).getD 0) 0

/-- The parts of a text between spaces. -/
def words (t : Text) : List Text :=
  t.foldr (fun c ws => if c = ' ' then [] :: ws else (c :: ws.headD []) :: ws.tail) [[]]

/-- Some code points at equal distances. -/
structure Progression where
  first : Nat
  last : Nat
  step : Nat

namespace Progression

/-- A hexadecimal code point, or two with dots between them, perhaps with a decimal step behind a
slash. -/
def ofWord (w : Text) : Progression :=
  let ends := w.takeWhile (· ≠ '/')
  let first := hexValue (ends.takeWhile (· ≠ '.'))
  let last :=
    match ends.dropWhile (· ≠ '.') with
    | [] => first
    | rest => hexValue (rest.dropWhile (· = '.'))
  match w.dropWhile (· ≠ '/') with
  | [] => ⟨first, last, 1⟩
  | _ :: step => ⟨first, last, decimalValue step⟩

def contains (p : Progression) (n : Nat) : Bool :=
  p.first ≤ n && n ≤ p.last && (n - p.first) % p.step = 0

/-- The members in order. -/
def members (p : Progression) : List Nat :=
  (List.range ((p.last - p.first) / p.step + 1)).map fun i => p.first + i * p.step

def ranges (p : Progression) : List CharRange :=
  if p.step = 1 then [⟨p.first, p.last⟩] else p.members.map fun n => ⟨n, n⟩

end Progression

/-- The words of all lines of a table text. -/
def tableWords (lines : List String) : List Text := lines.flatMap fun l => words l.toList

/-- The set whose ranges a table text lists in order. -/
def tableSet (lines : List String) : CharSet :=
  ⟨(tableWords lines).flatMap fun w => (Progression.ofWord w).ranges⟩

end ExprLexer.Unicode
