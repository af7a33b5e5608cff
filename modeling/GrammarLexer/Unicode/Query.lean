import GrammarLexer.Unicode.Age
import GrammarLexer.Unicode.Break
import GrammarLexer.Unicode.CaseChange

/-!
# Sets of characters by name

A set of characters can be asked for by the name of a property, a general category
or a script, or by the name of a property and one of its values. All names are in
the form of `comparableName`, which spells alike what is to be taken for the same.
-/

namespace GrammarLexer.Unicode

open Text

/-- A name in the form in which names are compared: in lower case and without blanks,
dashes and underscores, and without a leading `is`. -/
def comparableName (name : String) : String :=
  let chars := name.toList
  let folded := chars.take 2 |>.map Char.toLower
  let kept (cs : List Char) : String :=
    String.ofList ((cs.filter fun c => c.toNat ≤ 0x7F && c != ' ' && c != '_' && c != '-').map
      Char.toLower)
  if folded = ['i', 's'] then
    let rest := kept (chars.drop 2)
    if rest = "c" then "isc" else rest
  else kept chars

namespace Property

/-- The two last code points of each plane, and a block of others: no characters. -/
def noncharacter : CharSet :=
  (CharSet.ofBounds [0xFDD0, 0xFDEF]).union
    ⟨(List.range 17).map fun plane => ⟨plane * 0x10000 + 0xFFFE, plane * 0x10000 + 0xFFFF⟩⟩

/-- The mathematical signs that an identifier may begin with, where these are allowed. -/
def mathStart : CharSet :=
  .ofBounds
    [0x2202, 0x2202, 0x2207, 0x2207, 0x221E, 0x221E, 0x1D6C1, 0x1D6C1, 0x1D6DB, 0x1D6DB,
     0x1D6FB, 0x1D6FB, 0x1D715, 0x1D715, 0x1D735, 0x1D735, 0x1D74F, 0x1D74F, 0x1D76F, 0x1D76F,
     0x1D789, 0x1D789, 0x1D7A9, 0x1D7A9, 0x1D7C3, 0x1D7C3]

/-- The properties of identifiers and of the syntax of patterns. -/
def syntaxProperties : List (List String × CharSet) :=
  [(["idstart", "ids"], identifierStart),
   (["idcontinue", "idc"], identifierContinue),
   (["xidstart", "xids"], identifierStart.diff (.ofBounds PropertyTable.unstableIdentifierStart)),
   (["xidcontinue", "xidc"],
    identifierContinue.diff (.ofBounds PropertyTable.unstableIdentifierContinue)),
   (["otheridstart", "oids"], otherIdentifierStart),
   (["otheridcontinue", "oidc"], otherIdentifierContinue),
   (["idcompatmathstart"], mathStart),
   (["idcompatmathcontinue"],
    mathStart.union
      (.ofBounds [0xB2, 0xB3, 0xB9, 0xB9, 0x2070, 0x2070, 0x2074, 0x207E, 0x2080, 0x208E])),
   (["patternsyntax", "patsyn"], .ofBounds PropertyTable.patternSyntax),
   (["patternwhitespace", "patws"],
    .ofBounds [0x9, 0xD, 0x20, 0x20, 0x85, 0x85, 0x200E, 0x200F, 0x2028, 0x2029]),
   (["whitespace", "wspace", "space"], whiteSpace),
   (["asciihexdigit", "ahex"], asciiHexDigit),
   (["hexdigit", "hex"], hexDigit)]

/-- The properties of letters and of case. -/
def letterProperties : List (List String × CharSet) :=
  [(["alphabetic", "alpha"], alphabetic),
   (["otheralphabetic", "oalpha"], .ofBounds PropertyTable.otherAlphabetic),
   (["lowercase", "lower"], lowercase),
   (["otherlowercase", "olower"], .ofBounds PropertyTable.otherLowercase),
   (["uppercase", "upper"], uppercase),
   (["otheruppercase", "oupper"], .ofBounds PropertyTable.otherUppercase),
   (["cased"], cased),
   (["caseignorable", "ci"], caseIgnorable),
   (["changeswhenlowercased", "cwl"], changesWhenLowercased),
   (["changeswhenuppercased", "cwu"], changesWhenUppercased),
   (["changeswhentitlecased", "cwt"], changesWhenTitlecased),
   (["changeswhencasefolded", "cwcf"], changesWhenCasefolded),
   (["changeswhencasemapped", "cwcm"], changesWhenCasemapped),
   (["softdotted", "sd"], .ofBounds PropertyTable.softDotted),
   (["diacritic", "dia"], .ofBounds PropertyTable.diacritic),
   (["extender", "ext"], .ofBounds PropertyTable.extender),
   (["logicalorderexception", "loe"],
    .ofBounds
      [0xE40, 0xE44, 0xEC0, 0xEC4, 0x19B5, 0x19B7, 0x19BA, 0x19BA, 0xAAB5, 0xAAB6, 0xAAB9, 0xAAB9,
       0xAABB, 0xAABC]),
   (["modifiercombiningmark", "mcm"],
    .ofBounds
      [0x654, 0x655, 0x658, 0x658, 0x6DC, 0x6DC, 0x6E3, 0x6E3, 0x6E7, 0x6E8, 0x8CA, 0x8CB,
       0x8CD, 0x8CF, 0x8D3, 0x8D3, 0x8F3, 0x8F3])]

/-- The properties of ideographs. -/
def ideographProperties : List (List String × CharSet) :=
  [(["ideographic", "ideo"], ideographic),
   (["unifiedideograph", "uideo"],
    ideographic.diff (.ofBounds PropertyTable.compatibilityIdeographic)),
   (["radical"], .ofBounds [0x2E80, 0x2E99, 0x2E9B, 0x2EF3, 0x2F00, 0x2FD5]),
   (["idsbinaryoperator", "idsb"], .ofBounds [0x2FF0, 0x2FF1, 0x2FF4, 0x2FFD, 0x31EF, 0x31EF]),
   (["idstrinaryoperator", "idst"], .ofBounds [0x2FF2, 0x2FF3]),
   (["idsunaryoperator", "idsu"], .ofBounds [0x2FFE, 0x2FFF])]

/-- The properties of punctuation and symbols. -/
def symbolProperties : List (List String × CharSet) :=
  [(["math"], math),
   (["othermath", "omath"], .ofBounds PropertyTable.otherMath),
   (["dash"], .ofBounds PropertyTable.dash),
   (["hyphen"],
    .ofBounds
      [0x2D, 0x2D, 0xAD, 0xAD, 0x58A, 0x58A, 0x1806, 0x1806, 0x2010, 0x2011, 0x2E17, 0x2E17,
       0x30FB, 0x30FB, 0xFE63, 0xFE63, 0xFF0D, 0xFF0D, 0xFF65, 0xFF65]),
   (["quotationmark", "qmark"],
    .ofBounds
      [0x22, 0x22, 0x27, 0x27, 0xAB, 0xAB, 0xBB, 0xBB, 0x2018, 0x201F, 0x2039, 0x203A,
       0x2E42, 0x2E42, 0x300C, 0x300F, 0x301D, 0x301F, 0xFE41, 0xFE44, 0xFF02, 0xFF02,
       0xFF07, 0xFF07, 0xFF62, 0xFF63]),
   (["sentenceterminal", "sterm"], sentenceTerminal),
   (["terminalpunctuation", "term"],
    sentenceTerminal.union (.ofBounds PropertyTable.clauseTerminal)),
   (["bidimirrored", "bidim"], .ofBounds PropertyTable.mirrored),
   (["emoji"], .ofBounds PropertyTable.emoji),
   (["emojipresentation", "epres"], .ofBounds PropertyTable.emojiPresentation),
   (["emojimodifier", "emod"], emojiModifier),
   (["emojimodifierbase", "ebase"], .ofBounds PropertyTable.emojiModifierBase),
   (["emojicomponent", "ecomp"],
    .ofBounds
      [0x23, 0x23, 0x2A, 0x2A, 0x30, 0x39, 0x200D, 0x200D, 0x20E3, 0x20E3, 0xFE0F, 0xFE0F,
       0x1F1E6, 0x1F1FF, 0x1F3FB, 0x1F3FF, 0x1F9B0, 0x1F9B3, 0xE0020, 0xE007F]),
   (["extendedpictographic", "extpict"], .ofBounds PropertyTable.extendedPictographic),
   (["regionalindicator", "ri"], regionalIndicator)]

/-- The properties of characters that act on others, and of code points that are not
to be used. -/
def controlProperties : List (List String × CharSet) :=
  [(["graphemebase", "grbase"], graphemeBase),
   (["graphemeextend", "grext"], graphemeExtend),
   (["othergraphemeextend", "ogrext"], .ofBounds PropertyTable.otherGraphemeExtend),
   (["graphemelink", "grlink"], .ofBounds PropertyTable.graphemeLink),
   (["joincontrol", "joinc"], joinControl),
   (["bidicontrol", "bidic"],
    .ofBounds [0x61C, 0x61C, 0x200E, 0x200F, 0x202A, 0x202E, 0x2066, 0x2069]),
   (["variationselector", "vs"], variationSelector),
   (["prependedconcatenationmark", "pcm"], prependedMark),
   (["defaultignorablecodepoint", "di"], defaultIgnorable),
   (["otherdefaultignorablecodepoint", "odi"], otherDefaultIgnorable),
   (["noncharactercodepoint", "nchar"], noncharacter),
   (["deprecated", "dep"],
    .ofBounds
      [0x149, 0x149, 0x673, 0x673, 0xF77, 0xF77, 0xF79, 0xF79, 0x17A3, 0x17A4, 0x206A, 0x206F,
       0x2329, 0x232A, 0xE0001, 0xE0001])]

/-- The characters that have the property of a name. -/
def ofName? (name : String) : Option CharSet :=
  kindOfName?
    (syntaxProperties ++ letterProperties ++ ideographProperties ++ symbolProperties ++
      controlProperties) name

end Property

/-- The set of characters of a name: of a property, of a general category, or of a
script, in this order. -/
def charsOfName? (name : String) : Option CharSet :=
  let name := comparableName name
  Property.ofName? name <|> Category.ofName? name <|> Script.ofName? name

/-- The set of the characters for which a property has a value. -/
def charsOfValue? (property value : String) : Option CharSet :=
  let value := comparableName value
  match comparableName property with
  | "gc" | "generalcategory" => Category.ofName? value
  | "sc" | "script" => Script.ofName? value
  | "scx" | "scriptextensions" => Script.usedByName? value
  | "age" => Age.ofName? value
  | "gcb" | "graphemeclusterbreak" => GraphemeBreak.ofName? value
  | "wb" | "wordbreak" => WordBreak.ofName? value
  | "sb" | "sentencebreak" => SentenceBreak.ofName? value
  | _ => none

end GrammarLexer.Unicode
