import ExprLexer.Regex.Basic

/-!
Programs that read what an expression matches.

A program is a list of operations, each with the places where to go on. It is put together from the
end: every part is given the place that follows it, and adds its operations behind those that are
there. So what is there keeps its place, whatever is put in front.
-/

namespace ExprLexer

inductive Op where
  /-- Reads a character of a set. -/
  | read (s : CharSet) (next : Nat)
  /-- Goes on if a condition holds. -/
  | look (a : Assertion) (next : Nat)
  /-- Goes on in two ways, the first of them preferred. -/
  | split (first second : Nat)
  /-- The end of a match. -/
  | done
deriving DecidableEq

/-- Puts operations in front of a place. Gives the place where they begin, and all operations. -/
abbrev Emitter := Nat → Array Op → Nat × Array Op

namespace Emitter

def add (op : Nat → Op) : Emitter := fun next ops => (ops.size, ops.push (op next))

/-- Two ways: a greedy choice prefers the first. -/
def split (greedy : Bool) (x y : Nat) : Op := if greedy then .split x y else .split y x

/-- Some rounds. -/
def times (e : Emitter) : Nat → Emitter
  | 0 => fun next ops => (next, ops)
  | n + 1 => fun next ops =>
    let (x, ops) := e next ops
    times e n x ops

/-- Up to `n` rounds, with a way out to `exit` in front of each. -/
def optional (e : Emitter) (greedy : Bool) (exit : Nat) : Nat → Emitter
  | 0 => fun next ops => (next, ops)
  | n + 1 => fun next ops =>
    let (x, ops) := e next ops
    optional e greedy exit n ops.size (ops.push (split greedy x exit))

/-- A choice behind each round: another round, or the way out. Gives the place of the first round
and that of the choice. -/
def loop (e : Emitter) (greedy : Bool) (next : Nat) (ops : Array Op) : Nat × Nat × Array Op :=
  -- The choice has its place before the round that it leads back to.
  let (x, all) := e ops.size (ops.push .done)
  (x, ops.size, all.setIfInBounds ops.size (split greedy x next))

/-- Any number of rounds, at least one. -/
def plus (e : Emitter) (greedy : Bool) : Emitter := fun next ops =>
  let (x, _, ops) := loop e greedy next ops
  (x, ops)

/-- Any number of rounds. If a round can be empty, the choice in front of the first round is not
the one behind each. -/
def star (e : Emitter) (greedy positive : Bool) : Emitter := fun next ops =>
  let (x, choice, ops) := loop e greedy next ops
  if positive then (choice, ops) else (ops.size, ops.push (split greedy x next))

def rounds (e : Emitter) (positive : Bool) (least : Nat) (extra : Option Nat) (greedy : Bool) :
    Emitter := fun next ops =>
  match extra, least with
  | some n, _ =>
    let (x, ops) := optional e greedy next n next ops
    times e least x ops
  | none, 0 => star e greedy positive next ops
  | none, n + 1 =>
    let (x, ops) := plus e greedy next ops
    times e n x ops

end Emitter

/-- The operations of an expression. -/
def Regex.emit : Regex → Emitter
  | empty => fun next ops => (next, ops)
  | literal t => fun next ops =>
    t.foldr (fun c (next, ops) => Emitter.add (.read (.single c)) next ops) (next, ops)
  | set s _ => Emitter.add (.read s)
  | look a => Emitter.add (.look a)
  | capture _ r => emit r
  | rep r least extra greedy => Emitter.rounds (emit r) r.isPositive least extra greedy
  | seq a b => fun next ops =>
    let (x, ops) := emit b next ops
    emit a x ops
  | alt a b => fun next ops =>
    let (y, ops) := emit b next ops
    let (x, ops) := emit a next ops
    (ops.size, ops.push (.split x y))

structure Program where
  ops : Array Op
  entry : Nat

namespace Program

/-- Matches an expression at the front of a text. -/
def atFront (r : Regex) : Program :=
  let (entry, ops) := r.emit 0 #[.done]
  ⟨ops, entry⟩

/-- Passes over characters first, as few as possible. -/
def anywhere (p : Program) : Program :=
  let (entry, ops) := Emitter.star (Emitter.add (.read .all)) false true p.entry p.ops
  ⟨ops, entry⟩

/-- Finds the leftmost match of an expression in a text. -/
def ofRegex (r : Regex) : Program := if r.isAnchored then atFront r else (atFront r).anywhere

end Program

end ExprLexer
