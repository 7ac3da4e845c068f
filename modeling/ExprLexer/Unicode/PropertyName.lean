import ExprLexer.Unicode.Property
import ExprLexer.Unicode.AgeTable
import ExprLexer.Unicode.BreakTable
import ExprLexer.Unicode.ScriptTable

/-!
Named sets of characters, as patterns refer to them.

Names are compared loosely: case, spaces, hyphens, underscores and a leading `is` do not count. A
name alone is that of a binary property, of a general category or of a script; a name with a value
is that of a property with more values than two.
-/

namespace ExprLexer.Unicode

/-- The binary properties by name. -/
def binaryProperties : List (List String × Source) :=
  [(["asciihexdigit", "ahex"], .ranges asciiHexDigitRanges),
   (["alphabetic", "alpha"], .alphabetic),
   (["bidicontrol", "bidic"], .ranges bidiControlRanges),
   (["bidimirrored", "bidim"], .ranges bidiMirroredRanges),
   (["caseignorable", "ci"], .caseIgnorable),
   (["cased"], .cased),
   (["changeswhencasefolded", "cwcf"], .changesCasefolded),
   (["changeswhencasemapped", "cwcm"], .changesCasemapped),
   (["changeswhenlowercased", "cwl"], .ranges changesLowercased),
   (["changeswhentitlecased", "cwt"], .changesTitlecased),
   (["changeswhenuppercased", "cwu"], .ranges changesUppercased),
   (["dash"], .ranges dashRanges),
   (["defaultignorablecodepoint", "di"], .ranges defaultIgnorableCodePointRanges),
   (["deprecated", "dep"], .ranges deprecatedRanges),
   (["diacritic", "dia"], .ranges diacriticRanges),
   (["emoji"], .ranges emojiRanges),
   (["emojicomponent", "ecomp"], .ranges emojiComponentRanges),
   (["emojimodifier", "emod"], .ranges emojiModifierRanges),
   (["emojimodifierbase", "ebase"], .ranges emojiModifierBaseRanges),
   (["emojipresentation", "epres"], .ranges emojiPresentationRanges),
   (["extendedpictographic", "extpict"], .ranges extendedPictographicRanges),
   (["extender", "ext"], .ranges extenderRanges),
   (["graphemebase", "grbase"], .graphemeBase),
   (["graphemeextend", "grext"], .graphemeExtend),
   (["graphemelink", "grlink"], .ranges graphemeLinkRanges),
   (["hexdigit", "hex"], .ranges hexDigitRanges),
   (["hyphen"], .ranges hyphenRanges),
   (["idsbinaryoperator", "idsb"], .ranges idsBinaryOperatorRanges),
   (["idstrinaryoperator", "idst"], .ranges idsTrinaryOperatorRanges),
   (["idsunaryoperator", "idsu"], .ranges idsUnaryOperatorRanges),
   (["idcompatmathcontinue"], .ranges idCompatMathContinueRanges),
   (["idcompatmathstart"], .ranges idCompatMathStartRanges),
   (["idcontinue", "idc"], .idContinue),
   (["idstart", "ids"], .idStart),
   (["ideographic", "ideo"], .ranges ideographicRanges),
   (["joincontrol", "joinc"], .ranges joinControlRanges),
   (["logicalorderexception", "loe"], .ranges logicalOrderExceptionRanges),
   (["lowercase", "lower"], .lowercase),
   (["math"], .math),
   (["modifiercombiningmark", "mcm"], .ranges modifierCombiningMarkRanges),
   (["noncharactercodepoint", "nchar"], .ranges noncharacterCodePointRanges),
   (["otheralphabetic", "oalpha"], .ranges contributedAlphabetic),
   (["otherdefaultignorablecodepoint", "odi"], .ranges otherDefaultIgnorable),
   (["othergraphemeextend", "ogrext"], .ranges otherGraphemeExtend),
   (["otheridcontinue", "oidc"], .ranges otherIdContinue),
   (["otheridstart", "oids"], .ranges otherIdStart),
   (["otherlowercase", "olower"], .ranges otherLowercase),
   (["othermath", "omath"], .ranges otherMath),
   (["otheruppercase", "oupper"], .ranges otherUppercase),
   (["patternsyntax", "patsyn"], .ranges patternSyntaxRanges),
   (["patternwhitespace", "patws"], .ranges patternWhiteSpaceRanges),
   (["prependedconcatenationmark", "pcm"], .ranges prependedConcatenationMarkRanges),
   (["quotationmark", "qmark"], .ranges quotationMarkRanges),
   (["radical"], .ranges radicalRanges),
   (["regionalindicator", "ri"], .ranges regionalIndicatorRanges),
   (["sentenceterminal", "sterm"], .ranges sentenceTerminalRanges),
   (["softdotted", "sd"], .ranges softDottedRanges),
   (["terminalpunctuation", "term"], .ranges terminalPunctuationRanges),
   (["unifiedideograph", "uideo"], .ranges unifiedIdeographRanges),
   (["uppercase", "upper"], .uppercase),
   (["variationselector", "vs"], .ranges variationSelectorRanges),
   (["whitespace", "wspace", "space"], .ranges whiteSpaceRanges),
   (["xidcontinue", "xidc"], .xidContinue),
   (["xidstart", "xids"], .xidStart)]

/-- The names of the general categories and of their unions. -/
def categoryNames : List (List String × List Category) :=
  [(["l", "letter"], [.lu, .ll, .lt, .lm, .lo]),
   (["lc", "casedletter"], [.lu, .ll, .lt]),
   (["lu", "uppercaseletter"], [.lu]),
   (["ll", "lowercaseletter"], [.ll]),
   (["lt", "titlecaseletter"], [.lt]),
   (["lm", "modifierletter"], [.lm]),
   (["lo", "otherletter"], [.lo]),
   (["m", "mark", "combiningmark"], [.mn, .mc, .me]),
   (["mn", "nonspacingmark"], [.mn]),
   (["mc", "spacingmark"], [.mc]),
   (["me", "enclosingmark"], [.me]),
   (["n", "number"], [.nd, .nl, .no]),
   (["nd", "decimalnumber", "digit"], [.nd]),
   (["nl", "letternumber"], [.nl]),
   (["no", "othernumber"], [.no]),
   (["p", "punctuation", "punct"], [.pc, .pd, .ps, .pe, .pi, .pf, .po]),
   (["pc", "connectorpunctuation"], [.pc]),
   (["pd", "dashpunctuation"], [.pd]),
   (["ps", "openpunctuation"], [.ps]),
   (["pe", "closepunctuation"], [.pe]),
   (["pi", "initialpunctuation"], [.pi]),
   (["pf", "finalpunctuation"], [.pf]),
   (["po", "otherpunctuation"], [.po]),
   (["s", "symbol"], [.sm, .sc, .sk, .so]),
   (["sm", "mathsymbol"], [.sm]),
   (["sc", "currencysymbol"], [.sc]),
   (["sk", "modifiersymbol"], [.sk]),
   (["so", "othersymbol"], [.so]),
   (["z", "separator"], [.zs, .zl, .zp]),
   (["zs", "spaceseparator"], [.zs]),
   (["zl", "lineseparator"], [.zl]),
   (["zp", "paragraphseparator"], [.zp]),
   (["c", "other"], [.cc, .cf, .cs, .co, .cn]),
   (["cc", "control", "cntrl"], [.cc]),
   (["cf", "format"], [.cf]),
   (["co", "privateuse"], [.co]),
   (["cn", "unassigned"], [.cn])]

/-- A name without what does not count. The `is` stays if it would leave no more than a `c`. -/
def normalize (name : Text) : Text :=
  let bare (t : Text) : Text :=
    (t.filter fun c => c.toNat < 0x80 && c ≠ ' ' && c ≠ '_' && c ≠ '-').map Char.toLower
  match name with
  | a :: b :: rest =>
    if a.toLower = 'i' ∧ b.toLower = 's' then
      if bare rest = ['c'] then "isc".toList else bare rest
    else bare name
  | _ => bare name

/-- The entry that lists a name. -/
def lookup {α : Type} (table : List (List String × α)) (name : Text) : Option α :=
  (table.find? fun (names, _) => names.any fun n => n.toList = name).map Prod.snd

/-- The characters of a general category. -/
def categorySet? (name : Text) : Option CharSet :=
  if name = "any".toList then some .all
  else if name = "ascii".toList then some (.range '\x00' '\x7f')
  else if name = "assigned".toList then some (Category.set [.cn]).compl
  else (lookup categoryNames name).map Category.set

/-- The characters of a script. -/
def scriptSet? (name : Text) : Option CharSet := (lookup scriptRanges name).map tableSet

/-- The characters that a script uses, those of several scripts among them. -/
def extendedScriptSet? (name : Text) : Option CharSet := do
  let (names, lines) ← scriptRanges.find? fun (names, _) => names.any fun n => n.toList = name
  let shared (p : List String → Bool) : CharSet :=
    (extendedScripts.filter fun (codes, _) => p codes).foldr (fun (_, l) s => (tableSet l).union s)
      .empty
  return ((tableSet lines).diff (shared fun _ => true)).union
    (shared fun codes => codes.any names.contains)

/-- The characters that had been assigned by an edition. -/
def ageSet? (name : Text) : Option CharSet := do
  let i ← ageRanges.findIdx? fun (names, _) => names.any fun n => n.toList = name
  return (ageRanges.take (i + 1)).foldr (fun (_, lines) s => (tableSet lines).union s) .empty

/-- The set with a name. -/
def setOfName? (name : Text) : Option CharSet :=
  let n := normalize name
  ((lookup binaryProperties n).map Source.set).or ((categorySet? n).or (scriptSet? n))

/-- The set of a property's name and a value, such as `gc` and `Lu`. -/
def setOfNameValue? (name value : Text) : Option CharSet :=
  let n := normalize name
  let v := normalize value
  let named (names : List String) : Bool := names.any fun m => m.toList = n
  if named ["generalcategory", "gc"] then categorySet? v
  else if named ["script", "sc"] then scriptSet? v
  else if named ["scriptextensions", "scx"] then extendedScriptSet? v
  else if named ["age"] then ageSet? v
  else if named ["graphemeclusterbreak", "gcb"] then (lookup graphemeBreaks v).map tableSet
  else if named ["wordbreak", "wb"] then (lookup wordBreaks v).map tableSet
  else if named ["sentencebreak", "sb"] then (lookup sentenceBreaks v).map tableSet
  else none

end ExprLexer.Unicode
