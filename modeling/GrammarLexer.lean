import GrammarLexer.Catalog.Basic
import GrammarLexer.Proofs.Lexer.LineEnding
import GrammarLexer.Proofs.Lexer.Resume
import GrammarLexer.Proofs.Lexer.Tiling
import GrammarLexer.Proofs.Machine.Acceptance
import GrammarLexer.Proofs.Lexer.Likeness
import GrammarLexer.Proofs.Machine.Specification
import GrammarLexer.Proofs.Lexer.Splicing
import GrammarLexer.Proofs.Lexer.Combined
import GrammarLexer.Machine.Table
import GrammarLexer.Proofs.Lexer.Merging
import GrammarLexer.Proofs.Lexer.Bookkeeping
import GrammarLexer.Proofs.Machine.Numbering
import GrammarLexer.Proofs.Machine.Tabulation
import GrammarLexer.Proofs.Machine.Table
import GrammarLexer.Proofs.Lexer.Renaming
import GrammarLexer.Scan.Session
import GrammarLexer.Proofs.Text.Cursor
import GrammarLexer.Proofs.Scan.Session
import GrammarLexer.Proofs.Scan.Nesting
import GrammarLexer.Proofs.Scan.Termination
import GrammarLexer.Lexer.Stream
import GrammarLexer.Proofs.Lexer.Stream
import GrammarLexer.Proofs.Text.Offsets
import GrammarLexer.Proofs.Lexer.Breakpoints
import GrammarLexer.Proofs.Lexer.Coverage
import GrammarLexer.Proofs.Lexer.CharRange
import GrammarLexer.Proofs.Lexer.History
import GrammarLexer.Proofs.Scan.Attribution
import GrammarLexer.Proofs.Machine.Resolution
import GrammarLexer.Proofs.Machine.Dangling
import GrammarLexer.Proofs.Token.Partition
import GrammarLexer.Lexer.Word
import GrammarLexer.Proofs.Token.Words
import GrammarLexer.Proofs.Grammar.Priority
import GrammarLexer.Proofs.Catalog.Registration
import GrammarLexer.Proofs.Catalog.Selection
import GrammarLexer.Proofs.Unicode.Lowercase
import GrammarLexer.Proofs.Catalog.Naming
import GrammarLexer.Proofs.Catalog.Redirection
import GrammarLexer.Proofs.Lexer.Agreement
import GrammarLexer.Proofs.Machine.Parallel
import GrammarLexer.Proofs.Lexer.PlainText
import GrammarLexer.Proofs.Machine.Shedding
import GrammarLexer.Proofs.Machine.Repetition
import GrammarLexer.Proofs.Lexer.Shadowing
