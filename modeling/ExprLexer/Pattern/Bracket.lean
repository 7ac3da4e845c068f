import ExprLexer.Pattern.Escape

/-!
Bracketed classes, read one character at a time.

A class is a union of items, and of classes inside it; two unions can be joined by an operator,
`&&`, `--` or `~~`, all of one precedence and read from the left. A closing bracket that comes first
is an item, and so are hyphens that come first, or that have nothing on one side. Brackets,
operators and unions of two items or more can be nested, and how deeply they are is kept beside the
set.
-/

namespace ExprLexer.Pattern

inductive SetOp where
  | inter
  | diff
  | symmDiff
deriving DecidableEq

def SetOp.apply : SetOp → CharSet → CharSet → CharSet
  | inter => .inter
  | diff => .diff
  | symmDiff => .symmDiff

/-- The operator that is written by doubling `c`. -/
def SetOp.ofChar? : Char → Option SetOp
  | '&' => some .inter
  | '-' => some .diff
  | '~' => some .symmDiff
  | _ => none

/-- How deeply the parts of something are nested in it, if each is nested this deeply itself. What
has only one part is that part. -/
def nesting : List Nat → Nat
  | [] => 0
  | [d] => d
  | ds => 1 + ds.foldl max 0

/-- A set as it was written. -/
structure NestedSet where
  set : CharSet
  depth : Nat

def SetOp.join (op : SetOp) (f : Flags) (l r : NestedSet) : NestedSet :=
  ⟨op.apply (f.closeCase l.set) (f.closeCase r.set), 1 + max l.depth r.depth⟩

/-- One open bracket. -/
structure BracketFrame where
  negated : Bool
  /-- The operator in front of the union being read, with its left side. -/
  left : Option (SetOp × NestedSet)
  /-- The union being read. -/
  items : CharSet
  /-- How deeply each of its items is nested. -/
  depths : List Nat

namespace BracketFrame

def empty : BracketFrame := ⟨false, none, .empty, []⟩

def add (b : BracketFrame) (s : CharSet) (depth : Nat) : BracketFrame :=
  { b with items := .union b.items s, depths := depth :: b.depths }

/-- The union being read, joined with what stands left of it. -/
def joined (f : Flags) (b : BracketFrame) : NestedSet :=
  let right : NestedSet := ⟨b.items, nesting b.depths⟩
  b.left.elim right fun (op, l) => op.join f l right

def operate (f : Flags) (b : BracketFrame) (op : SetOp) : BracketFrame :=
  { b with left := some (op, b.joined f), items := .empty, depths := [] }

def close? (f : Flags) (b : BracketFrame) : Option NestedSet :=
  let inside := b.joined f
  (f.signed? b.negated (f.closeCase inside.set)).map (⟨·, 1 + inside.depth⟩)

end BracketFrame

/-- What has been read since the last complete item. -/
inductive BracketMode where
  /-- The bracket: a caret may come. -/
  | opening
  /-- The bracket with its caret, and perhaps hyphens. -/
  | leading (hyphens : Bool)
  | items
  /-- One of the characters that make an operator when doubled. -/
  | single (c : Char)
  /-- An item: a hyphen may make it the lower end of a range. -/
  | item (p : Primitive)
  /-- An item and a hyphen; white space that does not count may have come after it. -/
  | hyphen (p : Primitive) (spaced : Bool)
  /-- Another bracket. -/
  | inner
  /-- A bracket, a colon and letters, which may be a class with a name. -/
  | name (negated : Bool) (read : Text) (closing : Bool)
  /-- A backslash and more; `low` is the lower end of the range it may be the upper end of. -/
  | escape (e : Escape) (low : Option Primitive)

structure Bracket where
  frame : BracketFrame
  outer : List BracketFrame
  mode : BracketMode

namespace Bracket

inductive Result where
  | pending (b : Bracket)
  | closed (s : NestedSet)

def start : Bracket := ⟨.empty, [], .opening⟩

def skipsSpace (b : Bracket) : Bool :=
  match b.mode with
  | .opening | .leading _ | .items | .item _ | .hyphen _ _ => true
  | .single _ | .inner | .name _ _ _ => false
  | .escape e _ => e.skipsSpace

def noteSpace (b : Bracket) : Bracket :=
  match b.mode with
  | .hyphen p _ => { b with mode := .hyphen p true }
  | _ => b

def add (b : Bracket) (s : CharSet) : Bracket := { b with frame := b.frame.add s 0 }

def addItem? (f : Flags) (b : Bracket) (p : Primitive) : Option Bracket := (p.members? f).map b.add

def addRange? (f : Flags) (b : Bracket) (lo hi : Primitive) : Option Bracket := do
  let l ← lo.member? f
  let h ← hi.member? f
  guard (l ≤ h)
  return { b.add (.range l h) with mode := .items }

/-- A bracket inside a bracket. -/
def push (b : Bracket) : Bracket := ⟨.empty, b.frame :: b.outer, .opening⟩

def closeFrame (f : Flags) (b : Bracket) : Option Result := do
  let s ← b.frame.close? f
  match b.outer with
  | [] => return .closed s
  | g :: outer => return .pending ⟨g.add s.set s.depth, outer, .items⟩

/-! ### One character in each mode -/

def itemsStep (f : Flags) (b : Bracket) (c : Char) : Option Result :=
  match c with
  | '[' => some (.pending { b with mode := .inner })
  | ']' => b.closeFrame f
  | '\\' => some (.pending { b with mode := .escape .start none })
  | '&' | '-' | '~' => some (.pending { b with mode := .single c })
  | _ => some (.pending { b with mode := .item (.literal c false) })

def itemStep (f : Flags) (b : Bracket) (p : Primitive) (c : Char) : Option Result :=
  if c = '-' then some (.pending { b with mode := .hyphen p false })
  else do itemsStep f (← b.addItem? f p) c

def hyphenStep (f : Flags) (b : Bracket) (p : Primitive) (spaced : Bool) (c : Char) :
    Option Result :=
  match c with
  | ']' => do itemsStep f ((← b.addItem? f p).add (.single '-')) c
  | '-' => do
    let b ← b.addItem? f p
    if spaced then return .pending { b with mode := .hyphen (.literal '-' false) false }
    else return .pending { b with frame := b.frame.operate f .diff, mode := .items }
  | '\\' => some (.pending { b with mode := .escape .start (some p) })
  | _ => (b.addRange? f p (.literal c false)).map .pending

def leadingStep (f : Flags) (b : Bracket) (hyphens : Bool) (c : Char) : Option Result :=
  if c = '-' then some (.pending { b.add (.single '-') with mode := .leading true })
  else if c = ']' && !hyphens then some (.pending { b.add (.single ']') with mode := .items })
  else itemsStep f b c

def openingStep (f : Flags) (b : Bracket) (c : Char) : Option Result :=
  if c = '^' then
    some (.pending { b with frame := { b.frame with negated := true }, mode := .leading false })
  else leadingStep f b false c

def escapeStep (f : Flags) (b : Bracket) (e : Escape) (low : Option Primitive) (c : Char) :
    Option Result := do
  match ← e.step f c with
  | .pending e => return .pending { b with mode := .escape e low }
  | .done p =>
    match low with
    | none => return .pending { b with mode := .item p }
    | some lo => return .pending (← b.addRange? f lo p)

/-- Reads a character in a mode that does not wait to see what comes next. -/
def step (f : Flags) (b : Bracket) (c : Char) : Option Result :=
  match b.mode with
  | .opening => openingStep f b c
  | .leading hyphens => leadingStep f b hyphens c
  | .items => itemsStep f b c
  | .item p => itemStep f b p c
  | .hyphen p spaced => hyphenStep f b p spaced c
  | .escape e low => escapeStep f b e low c
  | .single _ | .inner | .name _ _ _ => none

/-! ### Modes that wait to see what comes next -/

/-- What was read as the start of a named class, as the items of an ordinary one. -/
def nameAsItems (b : Bracket) (negated : Bool) (read : Text) (closing : Bool) : Bracket :=
  let chars := [':'] ++ (if negated then ['^'] else []) ++ read.reverse ++
    (if closing then [':'] else [])
  let inside := chars.dropLast.foldl (fun b c => b.add (.single c)) b.push
  { inside with mode := .item (.literal (chars.getLastD ':') false) }

/-- Settles a mode that waited for `c`: either `c` completes it, or it becomes another mode, in
which `c` is still to be read. -/
inductive Settled where
  | reads (b : Bracket)
  | leaves (b : Bracket)

def nameStep (f : Flags) (b : Bracket) (negated : Bool) (read : Text) (closing : Bool)
    (c : Char) : Option Settled :=
  let onwards (n : Bool) (r : Text) (x : Bool) : Option Settled :=
    some (.reads { b with mode := .name n r x })
  let ordinary : Option Settled := some (.leaves (b.nameAsItems negated read closing))
  if closing then
    match AsciiClass.ofName? read.reverse with
    | some s =>
      if c = ']' then do
        let s ← f.signed? negated (f.closeCase s)
        return .reads { b.add s with mode := .items }
      else ordinary
    | none => ordinary
  else if c = '^' && read = [] && !negated then onwards true [] false
  else if c.isLower then onwards negated (c :: read) false
  else if c = ':' then onwards negated read true
  else ordinary

def settle (f : Flags) (b : Bracket) (c : Char) : Option Settled :=
  match b.mode with
  | .single d =>
    match SetOp.ofChar? d with
    | some op =>
      if c = d then some (.reads { b with frame := b.frame.operate f op, mode := .items })
      else some (.leaves { b with mode := .item (.literal d false) })
    | none => none
  | .inner =>
    if c = ':' then some (.reads { b with mode := .name false [] false })
    else some (.leaves b.push)
  | .name negated read closing => b.nameStep f negated read closing c
  | _ => some (.leaves b)

end Bracket

end ExprLexer.Pattern
