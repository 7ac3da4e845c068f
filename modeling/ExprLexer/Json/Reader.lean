import ExprLexer.Json.Skip

/-!
Reading JSON documents of a known shape.

A value of another type is read as far as it has to be to say what it is. A record is read from an
object, whose members may come in any order and among members that are not wanted, or from a list
of its fields in order. An error about the record as a whole is placed behind the closing bracket,
if that comes next.
-/

namespace ExprLexer.Json

/-- The error for a value that is not of the expected type. -/
def unexpected (expected : String) (c : Cursor) : ReadError :=
  let wrong (found : Found) (c : Cursor) : ReadError := c.failHere (.wrongType found expected)
  let word (w : String) (found : Found) : ReadError :=
    match c.advance.takeWord w.toList with
    | .ok c => wrong found c
    | .error e => e
  let number (negative : Bool) (c : Cursor) : ReadError :=
    match takeNumber negative c with
    | .ok (n, c) => wrong (.number n) c
    | .error e => e
  match c.next? with
  | some 'n' => word "ull" .null
  | some 't' => word "rue" (.bool true)
  | some 'f' => word "alse" (.bool false)
  | some '-' => number true c.advance
  | some '"' =>
    match takeText c.advance with
    | .ok (t, c) => wrong (.text t) c
    | .error e => e
  | some '[' => wrong .list c
  | some '\x7b' => wrong .object c
  | _ => if c.digit?.isSome then number false c else c.failAhead .expectedValue

/-- In front of a value. -/
def startValue (c : Cursor) : Except ReadError Cursor :=
  let c := c.skipSpace
  if c.atEnd then .error (c.failAhead .endInValue) else .ok c

def readText (expected : String) : Reader Text := fun c => do
  let c ← startValue c
  if c.next? = some '"' then takeText c.advance else throw (unexpected expected c)

def readBool : Reader Bool := fun c => do
  let c ← startValue c
  match c.next? with
  | some 't' => return (true, ← c.advance.takeWord "rue".toList)
  | some 'f' => return (false, ← c.advance.takeWord "alse".toList)
  | _ => throw (unexpected "a boolean" c)

def readNull : Reader Unit := fun c => do
  let c ← startValue c
  match c.next? with
  | some 'n' => return ((), ← c.advance.takeWord "ull".toList)
  | _ => throw (unexpected "unit" c)

/-! ### Lists -/

/-- Whether another item of a list follows, and the cursor in front of it. -/
def nextItem (isFirst : Bool) : Reader Bool := fun c =>
  let c := c.skipSpace
  if c.atEnd then .error (c.failAhead .endInList)
  else if c.next? = some ']' then .ok (false, c)
  else if isFirst then .ok (true, c)
  else if c.next? = some ',' then
    let c := c.advance.skipSpace
    if c.atEnd then .error (c.failAhead .endInValue)
    else if c.next? = some ']' then .error (c.failAhead .trailingComma)
    else .ok (true, c)
  else .error (c.failAhead .expectedCommaInList)

/-- Tries to read the end of a list. Gives the cursor behind what was read, and the cause if the
list does not end there. -/
def closeList (c : Cursor) : Cursor × Option Cause :=
  let c := c.skipSpace
  if c.next? = some ']' then (c.advance, none)
  else if c.next? = some ',' then
    let c := c.advance.skipSpace
    (c, some (if c.next? = some ']' then .trailingComma else .trailingCharacters))
  else (c, some (if c.atEnd then .endInList else .trailingCharacters))

def endList (c : Cursor) : Except ReadError Cursor :=
  match closeList c with
  | (c, none) => .ok c
  | (c, some cause) => .error (c.failAhead cause)

/-- Reads texts up to the end of a list, `fuel` of them at most. -/
def readItems : Nat → Bool → Reader (List Text)
  | 0, _, c => .error (c.failAhead .expectedValue)
  | fuel + 1, isFirst, c => do
    let (more, c) ← nextItem isFirst c
    if more then
      let (t, c) ← readText "a string" c
      let (ts, c) ← readItems fuel false c
      return (t :: ts, c)
    else return ([], c)

def readTexts : Reader (List Text) := fun c => do
  let c ← startValue c
  if c.next? = some '[' then
    let c := c.advance
    let (ts, c) ← readItems (c.rest.length + 1) true c
    return (ts, ← endList c)
  else throw (unexpected "a sequence" c)

/-! ### Records -/

/-- A field of a record that is being put together as a `σ`. -/
structure Field (σ : Type) where
  name : Text
  /-- Whether the field has been read. -/
  isSet : σ → Bool
  /-- Reads the field. -/
  read : σ → Reader σ

/-- A record `α` that is put together as a `σ`. -/
structure Shape (σ α : Type) where
  /-- What an error calls the record. -/
  title : String
  /-- What an error calls a list with an item for every field. -/
  whole : String
  fields : List (Field σ)
  start : σ
  /-- The record, or the first field that must not be left out and has been. -/
  finish : σ → Except Text α

/-- Tries to read the end of an object. -/
def closeObject (c : Cursor) : Cursor × Option Cause :=
  let c := c.skipSpace
  if c.next? = some '\x7d' then (c.advance, none)
  else if c.next? = some ',' then (c, some .trailingComma)
  else (c, some (if c.atEnd then .endInObject else .trailingCharacters))

/-- Whether another member of an object follows, and the cursor in front of its key. -/
def nextKey (isFirst : Bool) : Reader Bool := fun c =>
  let c := c.skipSpace
  if c.atEnd then .error (c.failAhead .endInObject)
  else if c.next? = some '\x7d' then .ok (false, c)
  else if isFirst then
    if c.next? = some '"' then .ok (true, c) else .error (c.failAhead .expectedKey)
  else if c.next? = some ',' then
    let c := c.advance.skipSpace
    if c.atEnd then .error (c.failAhead .endInValue)
    else if c.next? = some '"' then .ok (true, c)
    else if c.next? = some '\x7d' then .error (c.failAhead .trailingComma)
    else .error (c.failAhead .expectedKey)
  else .error (c.failAhead .expectedCommaInObject)

namespace Shape

variable {σ α : Type} (shape : Shape σ α)

/-- Reads the member behind its key. -/
def readMember (key : Text) (s : σ) : Reader σ := fun c =>
  match shape.fields.find? fun f => f.name = key with
  | none => do return (s, ← skipValue (← takeColon c))
  | some f =>
    if f.isSet s then .error ((closeObject c).1.failHere (.duplicateField key))
    else do f.read s (← takeColon c)

/-- Reads members up to the end of an object, `fuel` of them at most. -/
def readMembers : Nat → Bool → σ → Reader σ
  | 0, _, _, c => .error (c.failAhead .expectedValue)
  | fuel + 1, isFirst, s, c => do
    let (more, c) ← nextKey isFirst c
    if more then
      let (key, c) ← takeText c.advance
      let (s, c) ← shape.readMember key s c
      readMembers fuel false s c
    else return (s, c)

/-- Reads fields as the items of a list, `count` of which have been read, up to the end of the
list or of the fields. Gives the count as well. -/
def readFields (count : Nat) : List (Field σ) → σ → Reader (σ × Nat)
  | [], s, c => .ok ((s, count), c)
  | f :: fs, s, c => do
    let (more, c) ← nextItem (count = 0) c
    if more then
      let (s, c) ← f.read s c
      readFields (count + 1) fs s c
    else return ((s, count), c)

/-- Reads the record, from an object or from a list. -/
def read : Reader α := fun c => do
  let c ← startValue c
  match c.next? with
  | some '[' =>
    let ((s, count), c) ← readFields 0 shape.fields shape.start c.advance
    match shape.finish s with
    | .ok x => return (x, ← endList c)
    | .error _ => throw ((closeList c).1.failHere (.wrongLength count shape.whole))
  | some '\x7b' =>
    let c := c.advance
    let (s, c) ← shape.readMembers (c.rest.length + 1) true shape.start c
    let (c, _) := closeObject c
    match shape.finish s with
    | .ok x => return (x, c)
    | .error name => throw (c.failHere (.missingField name))
  | _ => throw (unexpected shape.title c)

end Shape

/-! ### Names out of a fixed set -/

/-- A text that is one of the known names. -/
def readName {α : Type} (known : List (Text × α)) : Reader α := fun c => do
  let (t, c) ← readText "variant identifier" c
  match known.lookup t with
  | some x => return (x, c)
  | none => throw (c.failHere (.unknownVariant t (known.map Prod.fst)))

/-- A name, as a text or as an object that gives it the value null. -/
def readVariant {α : Type} (known : List (Text × α)) : Reader α := fun c => do
  let c ← startValue c
  match c.next? with
  | some '"' => readName known c
  | some '\x7b' =>
    let c := c.advance.skipSpace
    if c.atEnd then throw (c.failAhead .endInObject)
    if c.next? = some '\x7d' then throw (c.failAhead .expectedValue)
    if c.next? ≠ some '"' then throw (c.failAhead .expectedKey)
    let (x, c) ← readName known c
    let ((), c) ← readNull (← takeColon c)
    let c := c.skipSpace
    if c.next? = some '\x7d' then return (x, c.advance)
    else throw (c.failHere (if c.atEnd then .endInObject else .expectedValue))
  | _ => throw (c.failAhead .expectedValue)

/-! ### Documents -/

/-- Reads a whole document. -/
def readDocument {α : Type} (r : Reader α) (streamed : Bool) (input : List Symbol) :
    Except ReadError α := do
  let (x, c) ← r (.ofSymbols streamed input)
  let c := c.skipSpace
  if c.atEnd then return x else throw (c.failAhead .trailingCharacters)

end ExprLexer.Json
