import ExprLexer.Json.Reader
import ExprLexer.Json.Value
import ExprLexer.Token

/-!
Tokens as JSON: an object with the members `value` and `type`, in this order.

Reading takes the members in any order, among others that do not count, or a list of the two.
-/

namespace ExprLexer

namespace Kind

/-- The kinds by name. -/
def byName : List (Text × Kind) := all.map fun k => (k.name, k)

def read : Json.Reader Kind := Json.readVariant byName

end Kind

namespace Token

def json (t : Token) : Json :=
  .object [("value".toList, .text t.value), ("type".toList, .text t.kind.name)]

/-- A token that is being read. -/
structure Partial where
  value : Option Text
  kind : Option Kind

def shape : Json.Shape Partial Token where
  title := "struct Token"
  whole := "struct Token with 2 elements"
  fields :=
    [⟨"value".toList, fun p => p.value.isSome,
      fun p c => do
        let (t, c) ← Json.readText "a string" c
        return ({ p with value := some t }, c)⟩,
     ⟨"type".toList, fun p => p.kind.isSome,
      fun p c => do
        let (k, c) ← Kind.read c
        return ({ p with kind := some k }, c)⟩]
  start := ⟨none, none⟩
  finish p :=
    match p.value, p.kind with
    | none, _ => .error "value".toList
    | _, none => .error "type".toList
    | some v, some k => .ok ⟨k, v⟩

/-- Reads a token from a JSON document. -/
def ofJsonText (t : Text) : Except Json.ReadError Token :=
  Json.readDocument shape.read false (Json.Symbol.ofText t)

/-- The token as a record with named fields. -/
def describe (t : Token) : Text :=
  "Token \x7b value: ".toList ++ Text.quoted t.value ++ ", kind: ".toList ++
    t.kind.constructorName ++ " \x7d".toList

end Token

end ExprLexer
