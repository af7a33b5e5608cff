import GrammarLexer.Unicode.Category
import GrammarLexer.Unicode.PropertyTable

/-!
# Character properties

The properties of characters that matching and the other properties ask for. Each
is a union of general categories and the exceptions of `PropertyTable`.
-/

namespace GrammarLexer.Unicode

open Text

namespace Property

/-- White space: the separators, and the controls that move to a new column or line. -/
def whiteSpace : CharSet :=
  (CharSet.ofBounds [0x9, 0xD, 0x85, 0x85]).union (Category.charsOf Category.separators)

/-- Letters, letterlike numbers, and the marks and symbols that serve as letters. -/
def alphabetic : CharSet :=
  (CharSet.ofBounds PropertyTable.otherAlphabetic).union
    (Category.charsOf (.letterNumber :: Category.letters))

/-- The joiners, which have no width. -/
def joinControl : CharSet := .ofBounds [0x200C, 0x200D]

/-- Decimal digits. -/
def digit : CharSet := Category.decimalNumber.chars

/-- Characters of a word: alphabetic characters, marks, decimal digits,
connectors and joiners. -/
def word : CharSet :=
  (alphabetic.union joinControl).union
    (Category.charsOf (.decimalNumber :: .connectorPunctuation :: Category.marks))

/-- Lowercase characters. -/
def lowercase : CharSet :=
  Category.lowercaseLetter.chars.union (.ofBounds PropertyTable.otherLowercase)

/-- Uppercase characters. -/
def uppercase : CharSet :=
  Category.uppercaseLetter.chars.union (.ofBounds PropertyTable.otherUppercase)

/-- Characters that have case. -/
def cased : CharSet := (lowercase.union uppercase).union Category.titlecaseLetter.chars

/-- Characters that the rules of case look through. -/
def caseIgnorable : CharSet :=
  (CharSet.ofBounds PropertyTable.otherCaseIgnorable).union
    (Category.charsOf [.nonspacingMark, .enclosingMark, .format, .modifierLetter, .modifierSymbol])

/-- Characters that belong to the grapheme of the character before them. -/
def graphemeExtend : CharSet :=
  (CharSet.ofBounds PropertyTable.otherGraphemeExtend).union
    (Category.charsOf [.nonspacingMark, .enclosingMark])

/-- Characters that a grapheme can begin with. -/
def graphemeBase : CharSet :=
  CharSet.all.diff
    ((Category.charsOf [.control, .format, .privateUse, .unassigned, .lineSeparator,
      .paragraphSeparator]).union graphemeExtend)

/-- Digits of hexadecimal numbers in ASCII. -/
def asciiHexDigit : CharSet := .ofBounds [0x30, 0x39, 0x41, 0x46, 0x61, 0x66]

/-- Digits of hexadecimal numbers, the fullwidth ones included. -/
def hexDigit : CharSet :=
  asciiHexDigit.union (.ofBounds [0xFF10, 0xFF19, 0xFF21, 0xFF26, 0xFF41, 0xFF46])

/-- Characters that start an identifier and are neither letters nor letterlike numbers. -/
def otherIdentifierStart : CharSet :=
  .ofBounds [0x1885, 0x1886, 0x2118, 0x2118, 0x212E, 0x212E, 0x309B, 0x309C]

/-- Characters that continue an identifier by exception. -/
def otherIdentifierContinue : CharSet :=
  .ofBounds
    [0xB7, 0xB7, 0x387, 0x387, 0x1369, 0x1371, 0x19DA, 0x19DA, 0x200C, 0x200D, 0x30FB, 0x30FB,
     0xFF65, 0xFF65]

/-- Characters that may start an identifier: letters but one, which is syntax. -/
def identifierStart : CharSet :=
  (otherIdentifierStart.union
    (Category.charsOf (.letterNumber :: Category.letters))).diff (.ofBounds [0x2E2F, 0x2E2F])

/-- Characters that may continue an identifier. -/
def identifierContinue : CharSet :=
  (identifierStart.union otherIdentifierContinue).union
    (Category.charsOf [.nonspacingMark, .spacingMark, .decimalNumber, .connectorPunctuation])

/-- Mathematical characters. -/
def math : CharSet := Category.mathSymbol.chars.union (.ofBounds PropertyTable.otherMath)

/-- Ideographs. -/
def ideographic : CharSet := .ofBounds PropertyTable.ideographic

/-- Characters that choose how the one before them is drawn. -/
def variationSelector : CharSet :=
  .ofBounds [0x180B, 0x180D, 0x180F, 0x180F, 0xFE00, 0xFE0F, 0xE0100, 0xE01EF]

/-- Signs that enclose the digits or letters after them. -/
def prependedMark : CharSet :=
  .ofBounds
    [0x600, 0x605, 0x6DD, 0x6DD, 0x70F, 0x70F, 0x890, 0x891, 0x8E2, 0x8E2, 0x110BD, 0x110BD,
     0x110CD, 0x110CD]

/-- Code points that show nothing where they are not known, but for format characters and
variation selectors. -/
def otherDefaultIgnorable : CharSet :=
  .ofBounds
    [0x34F, 0x34F, 0x115F, 0x1160, 0x17B4, 0x17B5, 0x2065, 0x2065, 0x3164, 0x3164, 0xFFA0, 0xFFA0,
     0xFFF0, 0xFFF8, 0xE0000, 0xE0000, 0xE0002, 0xE001F, 0xE0080, 0xE00FF, 0xE01F0, 0xE0FFF]

/-- Code points that show nothing where they are not known. -/
def defaultIgnorable : CharSet :=
  ((otherDefaultIgnorable.union variationSelector).union Category.format.chars).diff
    (prependedMark.union (.ofBounds [0xFFF9, 0xFFFB, 0x13430, 0x1343F]))

/-- Skin tones. -/
def emojiModifier : CharSet := .ofBounds [0x1F3FB, 0x1F3FF]

/-- Letters that make a flag in pairs. -/
def regionalIndicator : CharSet := .ofBounds [0x1F1E6, 0x1F1FF]

/-- Punctuation that ends a sentence. -/
def sentenceTerminal : CharSet := .ofBounds PropertyTable.sentenceTerminal

end Property

end GrammarLexer.Unicode
