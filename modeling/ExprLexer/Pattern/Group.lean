import ExprLexer.Pattern.Flags

/-!
The opening of a group, read one character at a time: what follows a parenthesis and a question
mark.
-/

namespace ExprLexer.Pattern

/-- Flags being read. -/
structure FlagReading where
  /-- The letters so far. -/
  seen : List Char
  /-- Whether the minus sign has come. -/
  negating : Bool
  /-- Whether the minus sign came last. -/
  dangling : Bool
  flags : Flags

/-- How far the opening of a group has been read. -/
inductive Opening where
  /-- The parenthesis. -/
  | start
  /-- The question mark. -/
  | question
  /-- The question mark and a capital P. -/
  | named
  /-- The name of a group, last character first. -/
  | name (read : Text)
  | flags (r : FlagReading)

namespace Opening

inductive Result where
  | pending (o : Opening)
  /-- A group with a name, or one that is plain, and the flags inside it. -/
  | group (f : Flags) (name : Option Text)
  /-- No group: the flags hold from here on. -/
  | directive (f : Flags)

def skipsSpace : Opening → Bool
  | start => true
  | _ => false

/-- Whether a name may have this character, in first place or later. -/
def isNameChar (isFirst : Bool) (c : Char) : Bool :=
  c = '_' || Unicode.isAlphabetic c ||
    (!isFirst && (c = '.' || c = '[' || c = ']' || Unicode.isNumeric c))

def flagStep (r : FlagReading) (c : Char) : Option Result :=
  if c = ':' then if r.dangling then none else some (.group r.flags none)
  else if c = ')' then
    if r.dangling || r.seen.isEmpty then none else some (.directive r.flags)
  else if c = '-' then
    if r.negating then none
    else some (.pending (flags { r with negating := true, dangling := true }))
  else if c ∈ r.seen then none
  else
    (r.flags.set? c (!r.negating)).map fun f =>
      .pending (flags ⟨c :: r.seen, r.negating, false, f⟩)

/-- One character after the question mark, under the flags `f`; none if no group opens so. -/
def step (f : Flags) (o : Opening) (c : Char) : Option Result :=
  match o with
  | start => none
  | question =>
    if c = '<' then some (.pending (name []))
    else if c = 'P' then some (.pending named)
    else flagStep ⟨[], false, false, f⟩ c
  | named => if c = '<' then some (.pending (name [])) else none
  | name read =>
    if c = '>' then if read.isEmpty then none else some (.group f (some read.reverse))
    else if isNameChar read.isEmpty c then some (.pending (name (c :: read)))
    else none
  | flags r => flagStep r c

end Opening

end ExprLexer.Pattern
