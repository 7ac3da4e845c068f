import ExprLexer.Regex.Basic

/-!
Expressions in normal form.

A sequence has no empty part and no two literals side by side, an alternation of single characters
is a set, and what all branches of an alternation of sequences begin with is taken out of it. The
last changes which match is preferred: in `.*a|.*b` the branches share `.*`, so the longer run of
the two is preferred, and not the first branch.
-/

namespace ExprLexer.Regex

/-- A character of a set; a set of one character is a literal. -/
def ofSet (s : CharSet) (bytes : Bool) : Regex :=
  if s.ranges.isEmpty then fail
  else
    match s.member? with
    | some c => literal [c]
    | none => set s bytes

/-- In front of the parts of a sequence. -/
def consItem (r : Regex) (rs : List Regex) : List Regex :=
  match r, rs with
  | literal s, literal t :: rest => literal (s ++ t) :: rest
  | _, _ => r :: rs

/-- One after the other. -/
def concat (rs : List Regex) : Regex := ofItems ((rs.flatMap items).foldr consItem [])

/-- Some rounds. Rounds that can only be empty are as good as one. -/
def repeated (r : Regex) (least : Nat) (extra : Option Nat) (greedy : Bool) : Regex :=
  let build (least : Nat) (extra : Option Nat) : Regex :=
    if extra = some 0 ∧ least = 0 then empty
    else if extra = some 0 ∧ least = 1 then r
    else rep r least extra greedy
  if r.maxLength? = some 0 then
    build (min least 1) (some (extra.elim 1 (fun n => min (least + n) 1) - min least 1))
  else build least extra

/-! ### Alternations -/

/-- The character that a literal of one character stands for. -/
def char? : Regex → Option Char
  | literal [c] => some c
  | _ => none

def set? : Regex → Option CharSet
  | set s _ => some s
  | _ => none

/-- The set that stands for all branches, if all are single characters or all are sets. -/
def commonSet? (rs : List Regex) : Option CharSet :=
  ((rs.mapM char?).map fun cs => .ofRanges (cs.map fun c => ⟨c.toNat, c.toNat⟩)).or
    ((rs.mapM set?).map fun ss => ss.foldl .union .empty)

/-- One or the other, with nothing taken out. -/
def choice (rs : List Regex) : Regex :=
  match rs with
  | [] => fail
  | [r] => r
  | _ =>
    match commonSet? rs with
    | some s => ofSet s false
    | none => ofBranches rs

/-- What two lists begin with in common. -/
def commonStart : List Regex → List Regex → List Regex
  | r :: rs, s :: ss => if r = s then r :: commonStart rs ss else []
  | _, _ => []

/-- The parts of a sequence of two parts or more. -/
def seqItems? (r : Regex) : Option (List Regex) :=
  match r with
  | seq _ _ => some r.items
  | _ => none

/-- What all branches begin with, and what is left of each; none if that is nothing. -/
def sharedStart? (rs : List Regex) : Option (List Regex × List (List Regex)) :=
  match rs.mapM seqItems? with
  | some (is :: iss) =>
    match iss.foldl commonStart is with
    | [] => none
    | start => some (start, (is :: iss).map (·.drop start.length))
  | _ => none

/-- One or the other. -/
def alternation (rs : List Regex) : Regex :=
  let rs := rs.flatMap branches
  if rs.length < 2 ∨ (commonSet? rs).isSome then choice rs
  else
    match sharedStart? rs with
    | some (start, rests) => concat (start ++ [choice ((rests.map concat).flatMap branches)])
    | none => choice rs

end ExprLexer.Regex
