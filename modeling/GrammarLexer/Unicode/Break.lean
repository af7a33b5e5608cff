import GrammarLexer.Unicode.BreakTable
import GrammarLexer.Unicode.Property
import GrammarLexer.Unicode.Script

/-!
# Places to divide a text

The kinds of characters by which a text is divided into graphemes, words and
sentences. Each division sorts the characters anew, mostly by their other
properties. A character that is of no kind has no name here.
-/

namespace GrammarLexer.Unicode

open Text

/-- The characters of the kind with a name, in a list of kinds. -/
def kindOfName? (kinds : List (List String × CharSet)) (name : String) : Option CharSet :=
  (kinds.find? fun kind => kind.1.contains name).map (·.2)

/-- The joiner without width. -/
def zeroWidthJoiner : CharSet := .ofBounds [0x200D, 0x200D]

/-- The characters that belong to a script. -/
def scriptChars (script : ScriptEntry) : CharSet := .ofBounds script.bounds

namespace GraphemeBreak

/-- What joins the grapheme before it. -/
def extend : CharSet := Property.graphemeExtend.union Property.emojiModifier

/-- What stands alone: controls, separators, and the ignorable code points that
have no character. -/
def control : CharSet :=
  ((Category.charsOf [.lineSeparator, .paragraphSeparator, .control, .format]).union
    (Category.unassigned.chars.inter Property.defaultIgnorable)).diff
    (.unionAll
      [.single '\n', .single '\r', zeroWidthJoiner, Property.prependedMark, extend])

/-- What the grapheme after it joins. -/
def prepend : CharSet :=
  (CharSet.ofBounds BreakTable.preposed).union Property.prependedMark

/-- Marks with a width, which join the grapheme before them. -/
def spacingMark : CharSet :=
  (Category.spacingMark.chars.diff
    (extend.union (.ofBounds BreakTable.detachedMark))).union
    (.ofBounds [0xE33, 0xE33, 0xEB3, 0xEB3])

/-- Syllables of two letters: one in twenty-eight. -/
def openSyllable : CharSet :=
  ⟨(List.range 399).map fun k => ⟨0xAC00 + 28 * k, 0xAC00 + 28 * k⟩⟩

/-- Every kind, with its names in lower case and without separators. -/
def kinds : List (List String × CharSet) :=
  [(["cr"], .single '\r'), (["lf"], .single '\n'), (["control", "cn"], control),
   (["extend", "ex"], extend), (["zwj"], zeroWidthJoiner),
   (["regionalindicator", "ri"], Property.regionalIndicator), (["prepend", "pp"], prepend),
   (["spacingmark", "sm"], spacingMark),
   (["l"], .ofBounds [0x1100, 0x115F, 0xA960, 0xA97C]),
   (["v"], .ofBounds [0x1160, 0x11A7, 0xD7B0, 0xD7C6, 0x16D63, 0x16D63, 0x16D67, 0x16D6A]),
   (["t"], .ofBounds [0x11A8, 0x11FF, 0xD7CB, 0xD7FB]),
   (["lv"], openSyllable), (["lvt"], (CharSet.ofBounds [0xAC00, 0xD7A3]).diff openSyllable)]

/-- The characters of the kind with a name. -/
def ofName? (name : String) : Option CharSet := kindOfName? kinds name

end GraphemeBreak

namespace WordBreak

/-- What goes with the character before it. -/
def extend : CharSet := GraphemeBreak.extend.union Category.spacingMark.chars

/-- Format characters, which words look through. -/
def format : CharSet :=
  Category.format.chars.diff
    (.unionAll
      [zeroWidthJoiner, .ofBounds [0x200B, 0x200B], Property.prependedMark, GraphemeBreak.extend])

/-- Digits, and what is written like one. -/
def numeric : CharSet :=
  (Category.decimalNumber.chars.union (.ofBounds [0x66B, 0x66B, 0x19DA, 0x19DA])).union
    (Property.prependedMark.diff (.ofBounds [0x70F, 0x70F]))

/-- Katakana with the marks used in them. -/
def katakana : CharSet :=
  (scriptChars ScriptTable.katakana).union
    (.ofBounds [0x3031, 0x3035, 0x309B, 0x309C, 0x30A0, 0x30A0, 0x30FC, 0x30FC, 0xFF70, 0xFF70])

/-- Hebrew letters. -/
def hebrewLetter : CharSet := (scriptChars ScriptTable.hebrew).inter Category.otherLetter.chars

/-- Letters of scripts that put blanks between words. -/
def letter : CharSet :=
  (Property.alphabetic.diff
    (.unionAll
      [Property.ideographic, katakana, .ofBounds BreakTable.complexContext,
       scriptChars ScriptTable.hiragana, extend, hebrewLetter])).union
    (.ofBounds BreakTable.wordLetter)

/-- Every kind, with its names in lower case and without separators. -/
def kinds : List (List String × CharSet) :=
  [(["cr"], .single '\r'), (["lf"], .single '\n'),
   (["newline", "nl"], .ofBounds [0xB, 0xC, 0x85, 0x85, 0x2028, 0x2029]),
   (["extend"], extend), (["zwj"], zeroWidthJoiner),
   (["regionalindicator", "ri"], Property.regionalIndicator), (["format", "fo"], format),
   (["katakana", "ka"], katakana), (["hebrewletter", "hl"], hebrewLetter),
   (["aletter", "le"], letter), (["singlequote", "sq"], .single '\''),
   (["doublequote", "dq"], .single '"'),
   (["midnumlet", "mb"], .ofBounds BreakTable.midNumberLetter),
   (["midletter", "ml"], .ofBounds BreakTable.midLetter),
   (["midnum", "mn"], .ofBounds BreakTable.midNumber), (["numeric", "nu"], numeric),
   (["extendnumlet", "ex"], .ofBounds BreakTable.wordConnector),
   (["wsegspace"], .ofBounds BreakTable.wordBlank)]

/-- The characters of the kind with a name. -/
def ofName? (name : String) : Option CharSet := kindOfName? kinds name

end WordBreak

namespace SentenceBreak

/-- What goes with the character before it. -/
def extend : CharSet :=
  (Property.graphemeExtend.union Category.spacingMark.chars).union zeroWidthJoiner

/-- Small letters. Those of Georgian are written like letters without case. -/
def lower : CharSet :=
  Property.lowercase.diff
    (Property.graphemeExtend.union (.ofBounds [0x10D0, 0x10FA, 0x10FD, 0x10FF]))

/-- Capital letters, but for those of Georgian. -/
def upper : CharSet :=
  (Property.uppercase.union Category.titlecaseLetter.chars).diff
    (.ofBounds [0x1C90, 0x1CBA, 0x1CBD, 0x1CBF])

/-- Other letters. -/
def otherLetter : CharSet :=
  (Property.alphabetic.diff (.unionAll [lower, upper, extend])).union
    (.ofBounds [0x5F3, 0x5F3])

/-- Stops that end some words, too. -/
def ambiguousStop : CharSet :=
  .ofBounds [0x2E, 0x2E, 0x2024, 0x2024, 0xFE52, 0xFE52, 0xFF0E, 0xFF0E]

/-- What begins a new line wherever it stands. -/
def separator : CharSet := .ofBounds [0x85, 0x85, 0x2028, 0x2029]

/-- Every kind, with its names in lower case and without separators. -/
def kinds : List (List String × CharSet) :=
  [(["cr"], .single '\r'), (["lf"], .single '\n'), (["sep", "se"], separator),
   (["extend", "ex"], extend),
   (["format", "fo"],
    WordBreak.format.union (.ofBounds [0x70F, 0x70F, 0x200B, 0x200B])),
   (["sp"],
    Property.whiteSpace.diff (.unionAll [separator, .single '\n', .single '\r'])),
   (["lower", "lo"], lower), (["upper", "up"], upper), (["oletter", "le"], otherLetter),
   (["numeric", "nu"], WordBreak.numeric.union (.ofBounds [0x66C, 0x66C])),
   (["aterm", "at"], ambiguousStop),
   (["sterm", "st"], Property.sentenceTerminal.diff ambiguousStop),
   (["close", "cl"],
    (Category.charsOf
      [.openPunctuation, .closePunctuation, .initialPunctuation, .finalPunctuation]).union
      (.ofBounds BreakTable.sentenceQuote)),
   (["scontinue", "sc"], .ofBounds BreakTable.sentenceContinue)]

/-- The characters of the kind with a name. -/
def ofName? (name : String) : Option CharSet := kindOfName? kinds name

end SentenceBreak

end GrammarLexer.Unicode
