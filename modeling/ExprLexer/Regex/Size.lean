import ExprLexer.Regex.Basic
import ExprLexer.Regex.ByteRange

/-!
The memory that an expression takes as an automaton over bytes.

There is an automaton for either direction. Each state takes `stateSize` bytes, and more for the
transitions and the choices it lists. A set of characters beyond ASCII is spelled out as sequences
of byte ranges: forward, two states with the same ways on are one; backward, two sequences share the
states of the bytes that they begin with.
-/

namespace ExprLexer

/-! ### Words that begin alike -/

namespace Words

variable {α : Type} [DecidableEq α]

/-- What words begin with. -/
def firsts (ws : List (List α)) : List α := (ws.filterMap List.head?).eraseDups

/-- What is left of the words that begin with `a`. -/
def restsBehind (a : α) (ws : List (List α)) : List (List α) :=
  ws.filterMap fun w =>
    match w with
    | b :: rest => if a = b then some rest else none
    | [] => none

/-- The number of ways that words of limited length begin, the empty way aside. -/
def countPrefixes : Nat → List (List α) → Nat
  | 0, _ => 0
  | n + 1, ws =>
    (firsts ws).foldl (fun sum a => sum + 1 + countPrefixes n (restsBehind a ws)) 0

/-- What some of the words can go on with, for each way to begin one that is not a whole word. -/
def continuations : Nat → List (List α) → List (List (List α))
  | 0, _ => []
  | n + 1, ws =>
    if ws.all (·.isEmpty) then []
    else ws :: (firsts ws).flatMap fun a => continuations n (restsBehind a ws)

/-- Cuts a list of words at the empty ones. -/
def chunks : List (List α) → List (List (List α))
  | [] => [[]]
  | w :: ws =>
    let cs := chunks ws
    if w.isEmpty then [] :: cs else (w :: cs.headD []) :: cs.tail

end Words

namespace Regex

open Words

/-! ### Memory -/

inductive Direction where
  | forward
  | backward
deriving DecidableEq

def stateSize : Nat := 32

def transitionSize : Nat := 8

def choiceSize : Nat := 4

/-- A state with two ways on. -/
def forkSize : Nat := stateSize + 2 * choiceSize

/-- A state for each chunk of words that begin alike, in front of what they go on with; where words
end, and where there is more than one chunk, the choice is one more state. -/
def wordsMemory : Nat → List (List Nat) → Nat
  | 0, _ => 0
  | n + 1, ws =>
    if ws.all (·.isEmpty) then 0
    else
      -- Empty words in front of all others count as one.
      let cs := chunks ws
      let cs := if (cs.headD []).isEmpty then [] :: cs.dropWhile (·.isEmpty) else cs
      let full := cs.filter (!·.isEmpty)
      full.foldl
        (fun sum c =>
          let bytes := firsts c
          let state := stateSize + (if bytes.length = 1 then 0 else transitionSize * bytes.length)
          bytes.foldl (fun sum b => sum + wordsMemory n (restsBehind b c)) (sum + state))
        (stateSize + choiceSize * (full.length + (cs.length - 1)))

def literal? : Regex → Option Text
  | literal t => some t
  | _ => none

/-- An alternation of literals is one automaton for all of them. -/
def literalsMemory (d : Direction) (ts : List Text) : Nat :=
  let words := ts.map fun t =>
    let bytes := t.flatMap fun c => codePointBytes c.toNat
    match d with
    | .forward => bytes
    | .backward => bytes.reverse
  stateSize + wordsMemory (words.foldl (fun n w => max n w.length) 0) words

def setMemory (d : Direction) (s : CharSet) : Nat :=
  if s.isAscii then 2 * stateSize + transitionSize * s.ranges.length
  else
    let seqs := s.byteSequences
    match d with
    | .forward =>
      (continuations 4 seqs).eraseDups.foldl
        (fun sum ws => sum + stateSize + transitionSize * (firsts ws).length) stateSize
    | .backward => 2 * stateSize + choiceSize * seqs.length + stateSize * countPrefixes 4 seqs

/-- Some rounds that take `m` each. -/
def roundsMemory (m : Nat) (positive : Bool) (least : Nat) (extra : Option Nat) : Nat :=
  match extra with
  | none =>
    if 0 < least then least * m + forkSize
    else if positive then m + forkSize
    else m + 2 * forkSize + stateSize
  | some n =>
    let fixed := if least = 0 then stateSize else least * m
    if n = 0 then fixed
    else if least = 0 ∧ n = 1 then m + forkSize + stateSize
    else fixed + stateSize + n * (m + forkSize)

/-- The memory of an expression whose branches take `parts` together. -/
def joined (d : Direction) (r : Regex) (parts : Nat) : Nat :=
  match r with
  | alt _ _ =>
    match r.branches.mapM literal? with
    | some ts => literalsMemory d ts
    | none => parts + 2 * stateSize + choiceSize * r.branches.length
  | _ => parts

/-- The memory of all branches of an expression together. -/
def branchMemory (d : Direction) : Regex → Nat
  | empty | look _ => stateSize
  | literal t => stateSize * Text.byteLength t
  | set s _ => setMemory d s
  | capture _ r => joined d r (branchMemory d r) + if d = .forward then 2 * stateSize else 0
  | rep r least extra _ =>
    roundsMemory (joined d r (branchMemory d r)) r.isPositive least extra
  | seq a b => joined d a (branchMemory d a) + joined d b (branchMemory d b)
  | alt a b => joined d a (branchMemory d a) + branchMemory d b

/-- Passing over characters in front of a match. -/
def leadInMemory (anchored : Bool) : Nat :=
  if anchored then stateSize else setMemory .forward (.range '\x00' '\x7f') + forkSize

/-- The memory of the whole automaton: the end of a match is one state, and going forward the match
is a group as well. -/
def memory (d : Direction) (r : Regex) : Nat :=
  let body := joined d r (branchMemory d r)
  match d with
  | .forward => leadInMemory r.isAnchored + body + 3 * stateSize
  | .backward => leadInMemory r.isAnchoredBehind + body + stateSize

end Regex

end ExprLexer
