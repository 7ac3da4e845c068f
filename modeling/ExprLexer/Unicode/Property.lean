import ExprLexer.Unicode.Category
import ExprLexer.Unicode.PropertyTable

/-!
Properties of characters that are put together from general categories and listed ranges.

Sets of characters follow edition 16 of the standard; what is asked of a single character here
follows edition 17.
-/

namespace ExprLexer.Unicode

/-! ### Sets, by edition 16 -/

/-- What a set of characters is put together from. -/
inductive Source where
  | ranges (lines : List String)
  | categories (cats : List Category)
  | union (a b : Source)
  | diff (a b : Source)

namespace Source

def set : Source → CharSet
  | ranges lines => tableSet lines
  | categories cats => Category.set cats
  | union a b => a.set.union b.set
  | diff a b => a.set.diff b.set

def letter : Source := categories [.lu, .ll, .lt, .lm, .lo]

def alphabetic : Source := union (union letter (categories [.nl])) (ranges otherAlphabetic)

def lowercase : Source := union (categories [.ll]) (ranges otherLowercase)

def uppercase : Source := union (categories [.lu]) (ranges otherUppercase)

def cased : Source := union (union lowercase uppercase) (categories [.lt])

/-- Does not come between a cased letter and the next. -/
def caseIgnorable : Source := union (categories [.mn, .me, .cf, .lm, .sk]) (ranges midWord)

def math : Source := union (categories [.sm]) (ranges otherMath)

def graphemeExtend : Source := union (categories [.mn, .me]) (ranges otherGraphemeExtend)

/-- Shows, and does not attach to what is before it. -/
def graphemeBase : Source :=
  diff
    (categories
      [.lu, .ll, .lt, .lm, .lo, .mn, .mc, .me, .nd, .nl, .no, .pc, .pd, .ps, .pe, .pi, .pf, .po,
       .sm, .sc, .sk, .so, .zs])
    graphemeExtend

/-- Keeps its meaning in patterns. -/
def patternReserved : Source := union (ranges patternSyntaxRanges) (ranges patternWhiteSpaceRanges)

def idStart : Source :=
  diff (union (union letter (categories [.nl])) (ranges otherIdStart)) patternReserved

def idContinue : Source :=
  diff (union (union idStart (categories [.mn, .mc, .nd, .pc])) (ranges otherIdContinue))
    patternReserved

def xidStart : Source := diff idStart (ranges notXidStart)

def xidContinue : Source := diff idContinue (ranges notXidContinue)

def changesTitlecased : Source :=
  union (diff (ranges changesUppercased) (ranges upperOnly)) (ranges titleOnly)

def changesCasefolded : Source :=
  union (diff (ranges changesLowercased) (ranges lowerOnly)) (ranges foldOnly)

def changesCasemapped : Source :=
  union (union (ranges changesLowercased) (ranges changesUppercased)) changesTitlecased

/-- Alphabetic, a mark, a decimal digit, connector punctuation or a joiner. -/
def word : Source :=
  union (union alphabetic (categories [.mn, .mc, .me, .nd, .pc])) (ranges joinControlRanges)

end Source

def wordSet : CharSet := Source.word.set

def digitSet : CharSet := Category.set [.nd]

def spaceSet : CharSet := tableSet whiteSpaceRanges

def isWord (c : Char) : Bool := wordSet.contains c

/-! ### Single characters, by edition 17 -/

def otherAlphabeticSet : CharSet := (tableSet otherAlphabetic).union (tableSet laterOtherAlphabetic)

def otherGraphemeExtendSet : CharSet := tableSet otherGraphemeExtend

def defaultIgnorableSet : CharSet := tableSet defaultIgnorableCodePointRanges

def isAlphabetic (c : Char) : Bool :=
  category .v17 c ∈ [.lu, .ll, .lt, .lm, .lo, .nl] || otherAlphabeticSet.contains c

/-- A digit, a letter number or another number. -/
def isNumeric (c : Char) : Bool := category .v17 c ∈ [.nd, .nl, .no]

/-- A mark that attaches to the character before it. -/
def isAttached (c : Char) : Bool :=
  category .v17 c ∈ [.mn, .me] || (category .v17 c = .mc && otherGraphemeExtendSet.contains c)

/-- Whether a character shows: it is neither a control, a format character, a separator other than
the space, private, unassigned, nor meant to be ignored where it cannot be shown. -/
def isPrintable (c : Char) : Bool :=
  c = ' ' ||
    (category .v17 c ∉ [.cc, .cf, .zs, .zl, .zp, .cs, .co, .cn] && !defaultIgnorableSet.contains c)

end ExprLexer.Unicode
