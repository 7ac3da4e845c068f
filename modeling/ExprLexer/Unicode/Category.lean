import ExprLexer.Unicode.Table
import ExprLexer.Unicode.CategoryTable

/-!
The general category of a character.
-/

namespace ExprLexer.Unicode

inductive Category where
  | lu | ll | lt | lm | lo
  | mn | mc | me
  | nd | nl | no
  | pc | pd | ps | pe | pi | pf | po
  | sm | sc | sk | so
  | zs | zl | zp
  | cc | cf | cs | co | cn
deriving DecidableEq

namespace Category

/-- The two letters of each category. -/
def letters : List (Category × Char × Char) :=
  [(lu, 'L', 'u'), (ll, 'L', 'l'), (lt, 'L', 't'), (lm, 'L', 'm'), (lo, 'L', 'o'),
   (mn, 'M', 'n'), (mc, 'M', 'c'), (me, 'M', 'e'),
   (nd, 'N', 'd'), (nl, 'N', 'l'), (no, 'N', 'o'),
   (pc, 'P', 'c'), (pd, 'P', 'd'), (ps, 'P', 's'), (pe, 'P', 'e'), (pi, 'P', 'i'), (pf, 'P', 'f'),
   (po, 'P', 'o'),
   (sm, 'S', 'm'), (sc, 'S', 'c'), (sk, 'S', 'k'), (so, 'S', 'o'),
   (zs, 'Z', 's'), (zl, 'Z', 'l'), (zp, 'Z', 'p'),
   (cc, 'C', 'c'), (cf, 'C', 'f'), (cs, 'C', 's'), (co, 'C', 'o'), (cn, 'C', 'n')]

/-- The category written with these two letters; anything else reads as unassigned. -/
def ofLetters (a b : Char) : Category :=
  match letters.find? fun (_, x, y) => x = a && y = b with
  | some (cat, _) => cat
  | none => cn

/-- One character of the run text: a capital letter opens a run, a small one completes its
category, a digit extends its length. -/
def readRun (runs : List (Char × Char × Nat)) (c : Char) : List (Char × Char × Nat) :=
  match runs with
  | [] => [(c, ' ', 0)]
  | (a, b, n) :: rest =>
    if c.isUpper then (c, ' ', 0) :: runs
    else if c.isLower then (a, c, n) :: rest
    else (a, b, 10 * n + (Text.decimalDigit? c).getD 0) :: rest

/-- A run without a length has length one. -/
def runs (lines : List String) : List (Category × Nat) :=
  ((lines.flatMap String.toList).foldl readRun []).reverse.map fun (a, b, n) =>
    (ofLetters a b, max n 1)

def runList : List (Category × Nat) := runs categoryRuns

def table : RunTable Category := .ofRuns runList

/-- The category with these two letters. -/
def ofText (t : Text) : Category := ofLetters (t.getD 0 ' ') (t.getD 1 ' ')

def laterTable : List (Category × CharSet) :=
  laterCategories.map fun (name, lines) => (ofText name.toList, tableSet lines)

/-- The ranges of the runs that begin at `n` and have one of the given categories. -/
def rangesFrom (cats : List Category) (n : Nat) : List (Category × Nat) → List CharRange
  | [] => []
  | (cat, count) :: rest =>
    let others := rangesFrom cats (n + count) rest
    if cat ∈ cats then ⟨n, n + count - 1⟩ :: others else others

/-- The characters of some categories, by edition 16. -/
def set (cats : List Category) : CharSet := .ofRanges (rangesFrom cats 0 runList)

end Category

/-- The editions of the standard in use: characters are added by each, and seldom changed. -/
inductive Edition where
  | v16
  | v17
deriving DecidableEq

def category (e : Edition) (c : Char) : Category :=
  let early := Category.table.get .cn c.toNat
  match e with
  | .v16 => early
  | .v17 =>
    match Category.laterTable.find? fun (_, s) => s.contains c with
    | some (cat, _) => cat
    | none => early

end ExprLexer.Unicode
