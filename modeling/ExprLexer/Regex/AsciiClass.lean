import ExprLexer.CharSet

/-!
The classes of ASCII characters that have a name.
-/

namespace ExprLexer.AsciiClass

def digit : CharSet := .range '0' '9'

def lower : CharSet := .range 'a' 'z'

def upper : CharSet := .range 'A' 'Z'

def alpha : CharSet := upper.union lower

def alnum : CharSet := digit.union alpha

def word : CharSet := alnum.union (.single '_')

def space : CharSet := (CharSet.range '\t' '\r').union (.single ' ')

def punct : CharSet := (CharSet.range '!' '~').diff alnum

def named : List (String × CharSet) :=
  [("alnum", alnum), ("alpha", alpha), ("ascii", .range '\x00' '\x7f'),
   ("blank", (CharSet.single '\t').union (.single ' ')),
   ("cntrl", (CharSet.range '\x00' '\x1f').union (.single '\x7f')),
   ("digit", digit), ("graph", .range '!' '~'), ("lower", lower), ("print", .range ' ' '~'),
   ("punct", punct), ("space", space), ("upper", upper), ("word", word),
   ("xdigit", (digit.union (.range 'A' 'F')).union (.range 'a' 'f'))]

def ofName? (name : Text) : Option CharSet :=
  (named.find? fun (n, _) => n.toList = name).map Prod.snd

end ExprLexer.AsciiClass
