import ExprLexer.Pattern.Bracket
import ExprLexer.Pattern.Count
import ExprLexer.Pattern.Group

/-!
Reading a pattern, one character at a time.

The state holds the group being read, the groups around it, and what has been read since the last
complete item. A character is first shown to a mode that waits to see what comes next, such as an
operator that a question mark would make lazy; then it is skipped, if it is white space that does
not count, or read. A step looks at the groups around only to open or to close one.
-/

namespace ExprLexer.Pattern

/-- What has been read since the last complete item. -/
inductive Mode where
  | item
  /-- A repetition, with bounds; a question mark would make it lazy. After a counted one white
  space may come first. -/
  | repeated (least : Nat) (extra : Option Nat) (counted : Bool)
  | count (k : Count)
  /-- An escaped `b`; a brace may follow. -/
  | edge
  /-- The brace, and the name of a special word edge, last character first. -/
  | edgeName (read : Text)
  | escape (e : Escape)
  | opening (o : Opening)
  | bracket (b : Bracket)

/-- Part of a pattern, and how deeply groups, repetitions, brackets, sequences and alternations are
nested in it. -/
structure Part where
  regex : Regex
  depth : Nat

inductive Item where
  | part (p : Part)
  /-- Flags that hold from here on. -/
  | directive

namespace Item

def regex : Item → Regex
  | part p => p.regex
  | directive => .empty

def depth : Item → Nat
  | part p => p.depth
  | directive => 0

end Item

/-- A group around the one being read. -/
structure Frame where
  /-- The flags that hold again behind it. -/
  flags : Flags
  branches : List Part
  items : List Item
  /-- The number of the group inside it, unless that is a plain one. -/
  number : Option Nat

structure State where
  flags : Flags
  /-- The finished branches of the group being read, last first. -/
  branches : List Part
  /-- The items of the branch being read, last first. -/
  items : List Item
  outer : List Frame
  /-- How many groups that are not plain have been opened. -/
  groups : Nat
  /-- The group names so far. -/
  names : List Text
  mode : Mode
  /-- Inside a comment. -/
  comment : Bool

namespace State

def start : State := ⟨.initial, [], [], [], 0, [], .item, false⟩

def withMode (s : State) (m : Mode) : State := { s with mode := m }

def push (s : State) (r : Regex) (depth : Nat) : State :=
  { s with items := .part ⟨r, depth⟩ :: s.items, mode := .item }

def pushLook (s : State) (a : Assertion) : State := s.push (.look a) 0

def pushEdge (s : State) (e : WordEdge) : State := s.pushLook (s.flags.wordEdge e)

def pushSet (s : State) (set : CharSet) (depth : Nat) : State := s.push (s.flags.setRegex set) depth

def pushPrimitive? (s : State) (p : Primitive) : Option State :=
  (p.regex? s.flags).map fun r => s.push r 0

/-- Whether there is an item to repeat. -/
def canRepeat (s : State) : Bool :=
  match s.items with
  | .part _ :: _ => true
  | _ => false

def repeatLast (s : State) (least : Nat) (extra : Option Nat) (lazily : Bool) : State :=
  match s.items with
  | .part p :: rest =>
    { s with items := rest }.push (.repeated p.regex least extra (lazily == s.flags.swapGreed))
      (p.depth + 1)
  | _ => s

/-- The branch being read. -/
def branch (s : State) : Part :=
  let items := s.items.reverse
  ⟨.concat (items.map Item.regex), nesting (items.map Item.depth)⟩

/-- The contents of the group being read. -/
def body (s : State) : Part :=
  let branches := s.branches.reverse ++ [s.branch]
  ⟨.alternation (branches.map Part.regex), nesting (branches.map Part.depth)⟩

def nextBranch (s : State) : State := { s with branches := s.branch :: s.branches, items := [] }

/-- Opens a group with the given flags inside. -/
def openGroup (s : State) (inside : Flags) (plain : Bool) : State :=
  { s with
    flags := inside, branches := [], items := [], mode := .item
    outer := ⟨s.flags, s.branches, s.items, if plain then none else some (s.groups + 1)⟩ :: s.outer
    groups := if plain then s.groups else s.groups + 1 }

/-- Opens a group that has a name, which must be new. -/
def openNamed? (s : State) (inside : Flags) (name : Text) : Option State :=
  if name ∈ s.names then none
  else some { s.openGroup inside false with names := name :: s.names }

def closeGroup? (s : State) : Option State :=
  match s.outer with
  | [] => none
  | g :: outer =>
    let r := s.body.regex
    some
      ({ s with flags := g.flags, branches := g.branches, items := g.items, outer := outer }.push
        (g.number.elim r (.capture · r)) (s.body.depth + 1))

/-! ### One character in each mode -/

def startRepeat? (s : State) (m : Mode) : Option State :=
  if s.canRepeat then some (s.withMode m) else none

def itemStep (s : State) (c : Char) : Option State :=
  match c with
  | '(' => some (s.withMode (.opening .start))
  | ')' => s.closeGroup?
  | '|' => some s.nextBranch
  | '[' => some (s.withMode (.bracket .start))
  | '?' => s.startRepeat? (.repeated 0 (some 1) false)
  | '*' => s.startRepeat? (.repeated 0 none false)
  | '+' => s.startRepeat? (.repeated 1 none false)
  | '\x7b' => s.startRepeat? (.count .least)
  | '\\' => some (s.withMode (.escape .start))
  | '.' => s.flags.dot?.map fun d => s.pushSet d 0
  | '^' => some (s.pushLook s.flags.lineStart)
  | '$' => some (s.pushLook s.flags.lineEnd)
  | _ => s.pushPrimitive? (.literal c false)

def countStep (s : State) (k : Count) (c : Char) : Option State := do
  match ← k.step c with
  | .pending k => return s.withMode (.count k)
  | .done least extra => return s.withMode (.repeated least extra true)

/-- The special word edges by name. -/
def edgeOfName? (name : Text) : Option WordEdge :=
  ([("start", .start), ("end", .stop), ("start-half", .startHalf), ("end-half", .stopHalf)].find?
    fun (n, _) => n.toList = name).map Prod.snd

/-- A name in braces makes a special edge; anything else in braces repeats an ordinary one. -/
def edgeNameStep (s : State) (read : Text) (c : Char) : Option State :=
  if c.isAlpha || c = '-' then some (s.withMode (.edgeName (c :: read)))
  else if read.isEmpty then (s.pushEdge .boundary).countStep .least c
  else if c = '\x7d' then
    (edgeOfName? read.reverse).map s.pushEdge
  else none

def escapeStep (s : State) (e : Escape) (c : Char) : Option State := do
  if e = .start && c = 'b' then return s.withMode .edge
  match ← e.step s.flags c with
  | .pending e => return s.withMode (.escape e)
  | .done p => s.pushPrimitive? p

def openingStep (s : State) (o : Opening) (c : Char) : Option State :=
  match o with
  | .start =>
    if c = '?' then some (s.withMode (.opening .question))
    else (s.openGroup s.flags false).itemStep c
  | o => do
    match ← o.step s.flags c with
    | .pending o => return s.withMode (.opening o)
    | .group f none => return s.openGroup f true
    | .group f (some name) => s.openNamed? f name
    | .directive f => return { s with flags := f, items := .directive :: s.items, mode := .item }

def bracketStep (s : State) (b : Bracket) (c : Char) : Option State := do
  match ← b.step s.flags c with
  | .pending b => return s.withMode (.bracket b)
  | .closed c => return s.pushSet c.set c.depth

/-- Reads a character in a mode that does not wait to see what comes next. -/
def consume (s : State) (c : Char) : Option State :=
  match s.mode with
  | .item => s.itemStep c
  | .count k => s.countStep k c
  | .edgeName read => s.edgeNameStep read c
  | .escape e => s.escapeStep e c
  | .opening o => s.openingStep o c
  | .bracket b => s.bracketStep b c
  | .repeated _ _ _ | .edge => none

/-! ### White space and comments -/

def skipsSpace (s : State) : Bool :=
  match s.mode with
  | .item | .count _ | .edgeName _ => true
  | .repeated _ _ counted => counted
  | .edge => false
  | .escape e => e.skipsSpace
  | .opening o => o.skipsSpace
  | .bracket b => b.skipsSpace

/-- Whether `c` is white space, or opens a comment, in a place where these do not count. -/
def isSpace (s : State) (c : Char) : Bool :=
  s.flags.extended && s.skipsSpace && (Text.isBlank c || c = '#')

def skip (s : State) (c : Char) : State :=
  let mode : Mode :=
    match s.mode with
    | .bracket b => .bracket b.noteSpace
    | m => m
  { s with mode := mode, comment := c = '#' }

/-- Reads or skips a character. -/
def enter (s : State) (c : Char) : Option State :=
  if s.isSpace c then some (s.skip c) else s.consume c

/-! ### Steps -/

/-- Shows a character to a mode that waits for it. -/
def step (s : State) (c : Char) : Option State :=
  if s.comment then some { s with comment := c ≠ '\n' }
  else
    match s.mode with
    | .repeated least extra _ =>
      if c = '?' then some (s.repeatLast least extra true)
      else if s.isSpace c then some (s.skip c)
      else (s.repeatLast least extra false).enter c
    | .edge =>
      if c = '\x7b' then some (s.withMode (.edgeName []))
      else (s.pushEdge .boundary).enter c
    | .bracket b => do
      match ← b.settle s.flags c with
      | .reads b => return s.withMode (.bracket b)
      | .leaves b => (s.withMode (.bracket b)).enter c
    | _ => s.enter c

/-- What has been read when nothing more comes, if it can end there. -/
def finish? (s : State) : Option Part :=
  let settled? : Option State :=
    match s.mode with
    | .item => some s
    | .repeated least extra _ => some (s.repeatLast least extra false)
    | .edge => some (s.pushEdge .boundary)
    | _ => none
  settled?.bind fun s => if s.outer.isEmpty then some s.body else none

/-- Reads a text. -/
def run? (s : State) (t : Text) : Option State := t.foldlM step s

@[simp] theorem run?_nil (s : State) : run? s [] = some s := rfl
@[simp] theorem run?_cons (s : State) (c : Char) (t : Text) :
    run? s (c :: t) = (step s c).bind (run? · t) := rfl
theorem run?_append (s : State) (t u : Text) :
    run? s (t ++ u) = (run? s t).bind (run? · u) := by
  simp [run?, List.foldlM_append, Option.bind_eq_bind]

end State

end ExprLexer.Pattern
