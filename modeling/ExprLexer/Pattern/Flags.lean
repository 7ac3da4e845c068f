import ExprLexer.Regex.Normal
import ExprLexer.Unicode.CaseFolding

/-!
The flags of a pattern, and what the simplest items mean under them.

An item can be one that no text should be matched against: without `unicode` an item would stand
for bytes, and those that take more than ASCII bytes are refused.
-/

namespace ExprLexer.Pattern

structure Flags where
  ignoreCase : Bool
  multiLine : Bool
  dotAll : Bool
  swapGreed : Bool
  unicode : Bool
  crlf : Bool
  /-- White space and comments in the pattern do not count. -/
  extended : Bool
deriving DecidableEq

namespace Flags

def initial : Flags := ⟨false, false, false, false, true, false, false⟩

/-- Sets one flag by its letter. -/
def set? (f : Flags) (letter : Char) (value : Bool) : Option Flags :=
  match letter with
  | 'i' => some { f with ignoreCase := value }
  | 'm' => some { f with multiLine := value }
  | 's' => some { f with dotAll := value }
  | 'U' => some { f with swapGreed := value }
  | 'u' => some { f with unicode := value }
  | 'R' => some { f with crlf := value }
  | 'x' => some { f with extended := value }
  | _ => none

/-- Closes a set under case if case does not count. -/
def closeCase (f : Flags) (s : CharSet) : CharSet :=
  if f.ignoreCase then (if f.unicode then s.foldCase else s.foldAsciiCase) else s

/-- The complement, if it may be taken. -/
def complement? (f : Flags) (s : CharSet) : Option CharSet :=
  if f.unicode then some s.compl else none

/-- A set, or its complement. -/
def signed? (f : Flags) (negated : Bool) (s : CharSet) : Option CharSet :=
  if negated then f.complement? s else some s

/-- The dot: any character, in general not the end of a line. -/
def dot? (f : Flags) : Option CharSet :=
  if !f.unicode then none
  else if f.dotAll then some .all
  else if f.crlf then some (CharSet.union (.single '\n') (.single '\r')).compl
  else some (CharSet.single '\n').compl

def lineStart (f : Flags) : Assertion := if f.multiLine then .lineStart f.crlf else .textStart

def lineEnd (f : Flags) : Assertion := if f.multiLine then .lineEnd f.crlf else .textEnd

def wordEdge (f : Flags) (e : WordEdge) : Assertion := .word e (!f.unicode)

def digit (f : Flags) : CharSet := if f.unicode then Unicode.digitSet else AsciiClass.digit

def space (f : Flags) : CharSet := if f.unicode then Unicode.spaceSet else AsciiClass.space

def word (f : Flags) : CharSet := if f.unicode then Unicode.wordSet else AsciiClass.word

end Flags

/-- What a single item of a pattern stands for. -/
inductive Primitive where
  /-- A character; `raw` if it was written as a byte. -/
  | literal (c : Char) (raw : Bool)
  | set (s : CharSet)
  | look (a : Assertion)
deriving DecidableEq

/-- The expression for a character of a set. -/
def Flags.setRegex (f : Flags) (s : CharSet) : Regex := .ofSet s (!f.unicode)

/-- The expression that an item stands for outside a bracketed class. -/
def Primitive.regex? (f : Flags) : Primitive → Option Regex
  | literal c raw =>
    if raw && !f.unicode && 0x7f < c.toNat then none
    else if f.ignoreCase then some (f.setRegex (f.closeCase (.single c)))
    else some (.literal [c])
  | set s => some (f.setRegex s)
  | look a => some (.look a)

/-- The character that an item stands for as a member of a bracketed class. -/
def Primitive.member? (f : Flags) : Primitive → Option Char
  | literal c _ => if !f.unicode && 0x7f < c.toNat then none else some c
  | _ => none

/-- The set that an item stands for as a member of a bracketed class. -/
def Primitive.members? (f : Flags) : Primitive → Option CharSet
  | set s => some s
  | p => (p.member? f).map .single

end ExprLexer.Pattern
