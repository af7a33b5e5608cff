/-!
# Places to divide a text: the exceptions

The rules for graphemes, words and sentences sort the characters by their other
properties, but for these, given as the first and last code point of every range in
ascending order.
-/

namespace GrammarLexer.Unicode.BreakTable

/-- Letters that stand in front of the grapheme they belong to. -/
def preposed : List Nat :=
  [0xD4E, 0xD4E, 0x111C2, 0x111C3, 0x113D1, 0x113D1, 0x1193F, 0x1193F, 0x11941, 0x11941, 0x11A84,
   0x11A89, 0x11D46, 0x11D46, 0x11F02, 0x11F02]

/-- Spacing marks that are graphemes of their own. -/
def detachedMark : List Nat :=
  [0x102B, 0x102C, 0x1038, 0x1038, 0x1062, 0x1064, 0x1067, 0x106D, 0x1083, 0x1083, 0x1087, 0x108C,
   0x108F, 0x108F, 0x109A, 0x109C, 0x1A61, 0x1A61, 0x1A63, 0x1A64, 0xAA7B, 0xAA7B, 0xAA7D, 0xAA7D,
   0x11720, 0x11721]

/-- Characters of scripts that put no blanks between words. -/
def complexContext : List Nat :=
  [0xE01, 0xE3A, 0xE40, 0xE4E, 0xE81, 0xE82, 0xE84, 0xE84, 0xE86, 0xE8A, 0xE8C, 0xEA3, 0xEA5,
   0xEA5, 0xEA7, 0xEBD, 0xEC0, 0xEC4, 0xEC6, 0xEC6, 0xEC8, 0xECE, 0xEDC, 0xEDF, 0x1000, 0x103F,
   0x1050, 0x108F, 0x109A, 0x109F, 0x1780, 0x17D3, 0x17D7, 0x17D7, 0x17DC, 0x17DD, 0x1950, 0x196D,
   0x1970, 0x1974, 0x1980, 0x19AB, 0x19B0, 0x19C9, 0x19DA, 0x19DA, 0x19DE, 0x19DF, 0x1A20, 0x1A5E,
   0x1A60, 0x1A7C, 0x1AA0, 0x1AAD, 0xA9E0, 0xA9EF, 0xA9FA, 0xA9FE, 0xAA60, 0xAAC2, 0xAADB, 0xAADF,
   0x11700, 0x1171A, 0x1171D, 0x1172B, 0x1173A, 0x1173B, 0x1173F, 0x11746]

/-- Letters of a word that are not alphabetic. -/
def wordLetter : List Nat :=
  [0xB8, 0xB8, 0x2C2, 0x2C5, 0x2D2, 0x2D7, 0x2DE, 0x2DF, 0x2E5, 0x2EB, 0x2ED, 0x2ED, 0x2EF, 0x2FF,
   0x55A, 0x55C, 0x55E, 0x55E, 0x58A, 0x58A, 0x5F3, 0x5F3, 0x70F, 0x70F, 0xA708, 0xA716, 0xA720,
   0xA721, 0xA789, 0xA78A, 0xAB5B, 0xAB5B]

/-- What may stand between the digits of a number. -/
def midNumber : List Nat :=
  [0x2C, 0x2C, 0x3B, 0x3B, 0x37E, 0x37E, 0x589, 0x589, 0x60C, 0x60D, 0x66C, 0x66C, 0x7F8, 0x7F8,
   0x2044, 0x2044, 0xFE50, 0xFE50, 0xFE54, 0xFE54, 0xFF0C, 0xFF0C, 0xFF1B, 0xFF1B]

/-- What may stand within a number or between letters. -/
def midNumberLetter : List Nat :=
  [0x2E, 0x2E, 0x2018, 0x2019, 0x2024, 0x2024, 0xFE52, 0xFE52, 0xFF07, 0xFF07, 0xFF0E, 0xFF0E]

/-- What may stand between the letters of a word. -/
def midLetter : List Nat :=
  [0x3A, 0x3A, 0xB7, 0xB7, 0x387, 0x387, 0x55F, 0x55F, 0x5F4, 0x5F4, 0x2027, 0x2027, 0xFE13,
   0xFE13, 0xFE55, 0xFE55, 0xFF1A, 0xFF1A]

/-- What joins letters, digits and kana to one word. -/
def wordConnector : List Nat :=
  [0x5F, 0x5F, 0x202F, 0x202F, 0x203F, 0x2040, 0x2054, 0x2054, 0xFE33, 0xFE34, 0xFE4D, 0xFE4F,
   0xFF3F, 0xFF3F]

/-- Blanks that stand together. -/
def wordBlank : List Nat :=
  [0x20, 0x20, 0x1680, 0x1680, 0x2000, 0x2006, 0x2008, 0x200A, 0x205F, 0x205F, 0x3000, 0x3000]

/-- Quotation marks that are not in pairs. -/
def sentenceQuote : List Nat :=
  [0x22, 0x22, 0x27, 0x27, 0x275B, 0x2760, 0x2E00, 0x2E01, 0x2E06, 0x2E08, 0x2E0B, 0x2E0B,
   0x1F676, 0x1F678]

/-- What follows a stop that ends no sentence. -/
def sentenceContinue : List Nat :=
  [0x2C, 0x2D, 0x3A, 0x3B, 0x37E, 0x37E, 0x55D, 0x55D, 0x60C, 0x60D, 0x7F8, 0x7F8, 0x1802, 0x1802,
   0x1808, 0x1808, 0x2013, 0x2014, 0x3001, 0x3001, 0xFE10, 0xFE11, 0xFE13, 0xFE14, 0xFE31, 0xFE32,
   0xFE50, 0xFE51, 0xFE54, 0xFE55, 0xFE58, 0xFE58, 0xFE63, 0xFE63, 0xFF0C, 0xFF0D, 0xFF1A, 0xFF1B,
   0xFF64, 0xFF64]

end GrammarLexer.Unicode.BreakTable
