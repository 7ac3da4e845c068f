import ExprLexer.Text

/-!
Sets of characters, as ascending ranges of code points.

Two ranges that meet are one, so a set of characters has one written form. The code points of the
surrogates are no characters: the character after U+D7FF is U+E000, yet ranges that end and begin
there are kept apart.
-/

namespace ExprLexer

/-- All code points from `first` to `last`. -/
structure CharRange where
  first : Nat
  last : Nat
deriving DecidableEq

namespace CharRange

/-- The greatest code point. -/
def top : Nat := 0x10FFFF

/-- The code point of the next character. -/
def following (n : Nat) : Nat := if n = 0xD7FF then 0xE000 else n + 1

/-- The code point of the character before. -/
def preceding (n : Nat) : Nat := if n = 0xE000 then 0xD7FF else n - 1

/-- The range between two code points, in whichever order they are given. -/
def between (m n : Nat) : CharRange := ⟨min m n, max m n⟩

def contains (r : CharRange) (n : Nat) : Bool := r.first ≤ n && n ≤ r.last

/-- The least range that holds both. -/
def join (r s : CharRange) : CharRange := ⟨min r.first s.first, max r.last s.last⟩

/-- What two ranges have in common. -/
def meet? (r s : CharRange) : Option CharRange :=
  let lo := max r.first s.first
  let hi := min r.last s.last
  if lo ≤ hi then some ⟨lo, hi⟩ else none

/-- What is left of `r` without `s`. -/
def minus (r s : CharRange) : List CharRange :=
  if (r.meet? s).isNone then [r]
  else
    (if r.first < s.first then [⟨r.first, preceding s.first⟩] else []) ++
      (if s.last < r.last then [⟨following s.last, r.last⟩] else [])

/-- What lies between two ranges that are apart. -/
def gap (r s : CharRange) : CharRange := between (following r.last) (preceding s.first)

end CharRange

structure CharSet where
  ranges : List CharRange
deriving DecidableEq

namespace CharSet

def contains (s : CharSet) (c : Char) : Bool := s.ranges.any (·.contains c.toNat)

def empty : CharSet := ⟨[]⟩

def all : CharSet := ⟨[⟨0, CharRange.top⟩]⟩

def range (lo hi : Char) : CharSet := ⟨[.between lo.toNat hi.toNat]⟩

def single (c : Char) : CharSet := range c c

/-- Puts a range among ascending ranges that are apart, and joins it with those it meets. -/
def insertRange (r : CharRange) : List CharRange → List CharRange
  | [] => [r]
  | s :: rest =>
    if r.last + 1 < s.first then r :: s :: rest
    else if s.last + 1 < r.first then s :: insertRange r rest
    else insertRange (r.join s) rest

/-- The set of the code points in any ranges. -/
def ofRanges (rs : List CharRange) : CharSet := ⟨rs.foldr insertRange []⟩

def union (s t : CharSet) : CharSet := ⟨t.ranges.foldr insertRange s.ranges⟩

def inter (s t : CharSet) : CharSet :=
  ⟨s.ranges.flatMap fun r => t.ranges.filterMap r.meet?⟩

def diff (s t : CharSet) : CharSet :=
  ⟨t.ranges.foldl (fun acc r => acc.flatMap (·.minus r)) s.ranges⟩

def symmDiff (s t : CharSet) : CharSet := (s.union t).diff (s.inter t)

/-- The gaps between neighbours, with the one behind the last range. -/
def gapsFrom (r : CharRange) : List CharRange → List CharRange
  | [] => if r.last < CharRange.top then [⟨CharRange.following r.last, CharRange.top⟩] else []
  | s :: rest => r.gap s :: gapsFrom s rest

def compl (s : CharSet) : CharSet :=
  match s.ranges with
  | [] => all
  | r :: rest =>
    let front : List CharRange := if 0 < r.first then [⟨0, CharRange.preceding r.first⟩] else []
    ⟨front ++ gapsFrom r rest⟩

/-- The only member, if there is exactly one. -/
def member? (s : CharSet) : Option Char :=
  match s.ranges with
  | [r] => if r.first = r.last then some (Char.ofNat r.first) else none
  | _ => none

def isAscii (s : CharSet) : Bool := s.ranges.all (·.last < 0x80)

@[simp] theorem contains_single (a c : Char) : (single a).contains c = decide (c = a) := by
  simp only [contains, single, range, CharRange.between, CharRange.contains, List.any_cons,
    List.any_nil, Bool.or_false, Nat.min_self, Nat.max_self, ← Bool.decide_and]
  exact decide_eq_decide.mpr ⟨fun h => Char.toNat_inj.mp (by omega), fun h => by subst h; simp⟩

end CharSet

end ExprLexer
