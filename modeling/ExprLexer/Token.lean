import ExprLexer.Text

/-!
Tokens: a kind and the text it was read from.

The names of the kinds are their spelling in every output; `ofName?` reads exactly those names.
-/

namespace ExprLexer

/-- The closed set of token kinds. -/
inductive Kind where
  | number
  | operator
  | component
deriving DecidableEq

namespace Kind

/-- All kinds, in order of precedence. -/
def all : List Kind := [number, operator, component]

def name : Kind → Text
  | number => "number".toList
  | operator => "operator".toList
  | component => "component".toList

/-- The kind as a constructor, with a capital letter. -/
def constructorName : Kind → Text
  | number => "Number".toList
  | operator => "Operator".toList
  | component => "Component".toList

def ofName? (t : Text) : Option Kind := all.find? fun k => k.name = t

theorem mem_all (k : Kind) : k ∈ all := by cases k <;> decide

theorem ofName?_name (k : Kind) : ofName? k.name = some k := by
  cases k <;> decide

theorem name_injective {k l : Kind} (h : k.name = l.name) : k = l := by
  have hk := ofName?_name k
  rw [h, ofName?_name] at hk
  exact (Option.some.inj hk).symm

/-- A name has nothing but letters. -/
theorem not_mem_name {c : Char} (h : c.isAlpha = false) (k : Kind) : c ∉ k.name := by
  have hall : k.name.all Char.isAlpha = true := by cases k <;> rfl
  intro hmem
  rw [List.all_eq_true.mp hall c hmem] at h
  cases h

end Kind

/-- What a rule read off an expression, with the kind of the rule. -/
@[ext]
structure Token where
  kind : Kind
  value : Text
deriving DecidableEq

/-- The kind's name with the value in parentheses. -/
def Token.render (t : Token) : Text := t.kind.name ++ '(' :: t.value ++ [')']

end ExprLexer
