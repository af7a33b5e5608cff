import GrammarLexer.Unicode.Current

/-!
# Quoted texts

A text is shown between double quotes. The quote and the backslash are escaped,
and so is every character that has no glyph of its own on the page: controls by
name where they have one, all others by code point.
-/

namespace GrammarLexer.Text

open Unicode

/-- Characters that join the glyph before them. The halfwidth sound marks count as
such, but they have a width of their own and can be shown alone. -/
def joining : CharSet := Current.graphemeExtend.diff (.range 'ﾞ' 'ﾟ')

/-- Characters that are shown by code point: those that are no glyph, or that join
the glyph before them. The space is the one separator shown as it is. -/
def hidden : CharSet :=
  ((Category.charsOf
      [.control, .format, .privateUse, .lineSeparator, .paragraphSeparator,
       .spaceSeparator]).diff (.single ' ')).union (Current.unassigned.union joining)

/-- A code point in braces. -/
def codePointEscape (c : Char) : List Char :=
  ['\\', 'u', '\x7b'] ++ Nat.toDigits 16 c.toNat ++ ['\x7d']

/-- A character as it is shown between quotes. -/
def showChar : Char → List Char
  | '"' => ['\\', '"']
  | '\\' => ['\\', '\\']
  | '\n' => ['\\', 'n']
  | '\r' => ['\\', 'r']
  | '\t' => ['\\', 't']
  | '\x00' => ['\\', '0']
  | c => if hidden.contains c then codePointEscape c else [c]

/-- A text between quotes. -/
def quoted (text : String) : String :=
  String.ofList ('"' :: (text.toList.flatMap showChar ++ ['"']))

end GrammarLexer.Text
