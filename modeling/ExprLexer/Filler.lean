import ExprLexer.Text.Blank

/-!
Filler: the characters of an expression that stand for nothing.

White space and grouping parentheses are filler wherever they are. The other characters are the
significant ones; those are what is read, and what positions count.
-/

namespace ExprLexer

/-- White space and parentheses. -/
def isFiller (c : Char) : Bool := Text.isBlank c || c = '(' || c = ')'

/-- The expression without filler. -/
def significant (expression : Text) : Text := expression.filter (!isFiller ·)

@[simp] theorem significant_nil : significant [] = [] := rfl
theorem significant_append (s t : Text) :
    significant (s ++ t) = significant s ++ significant t := by simp [significant]

theorem not_isFiller_of_mem_significant {e : Text} {c : Char} (h : c ∈ significant e) :
    isFiller c = false := by
  simpa using (List.mem_filter.mp h).2

end ExprLexer
