import ExprLexer.Unicode.Table
import ExprLexer.Unicode.FoldTable

/-!
Simple case folding: two characters differ in case only when they fold to the same one.
-/

namespace ExprLexer.Unicode

/-- Some code points at equal distances, each of which folds to itself plus `shift`. -/
structure FoldRow where
  sources : Progression
  shift : Int

namespace FoldRow

def ofWord (w : Text) : FoldRow :=
  let isSign (c : Char) := c = '+' || c = '-'
  let shift : Int :=
    match w.dropWhile (!isSign ·) with
    | '-' :: digits => -(decimalValue digits : Int)
    | _ :: digits => decimalValue digits
    | [] => 0
  ⟨.ofWord (w.takeWhile (!isSign ·)), shift⟩

/-- The code points of the row, each with the one it folds to. -/
def pairs (r : FoldRow) : List (Nat × Nat) :=
  r.sources.members.map fun n => (n, (n + r.shift).toNat)

end FoldRow

/-- Every code point that does not fold to itself, with the one it folds to. -/
def foldPairs : List (Nat × Nat) :=
  (tableWords foldRows).flatMap fun w => (FoldRow.ofWord w).pairs

end ExprLexer.Unicode

namespace ExprLexer.CharSet

open Unicode

/-- With every character that differs from a member in case only. -/
def foldCase (s : CharSet) : CharSet :=
  let has (s : CharSet) (n : Nat) : Bool := s.ranges.any (·.contains n)
  let add (s : CharSet) (ns : List Nat) : CharSet := s.union (.ofRanges (ns.map fun n => ⟨n, n⟩))
  let down := add s (foldPairs.filterMap fun (n, m) => if has s n then some m else none)
  add down (foldPairs.filterMap fun (n, m) => if has down m then some n else none)

/-- With every ASCII letter that differs from a member in case only. -/
def foldAsciiCase (s : CharSet) : CharSet :=
  let moved (lo hi : Char) (shift : Int) : List CharRange :=
    (s.inter (range lo hi)).ranges.map fun r =>
      ⟨(r.first + shift).toNat, (r.last + shift).toNat⟩
  s.union (.ofRanges (moved 'A' 'Z' 32 ++ moved 'a' 'z' (-32)))

end ExprLexer.CharSet
