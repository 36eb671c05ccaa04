import SourceMetrics.Python.Lexer

/-!
# Reading Python source

Python as a language for the parser, and the syntax tree of a source text.
-/

namespace SourceMetrics.Python

open SourceMetrics.Grammar

/-- The names under which the tokens of Python show. -/
def tokenDisplay (token : Nat) : TokenDisplay :=
  if token = endToken then ⟨"end", false, true, false⟩
  else if token = TokenNumber.backslash then ⟨"\\", false, false, false⟩
  else if token < table.firstLiteral then
    let name := (namedTokens[token - 1]?).getD ""
    ⟨name, true, name.startsWith "_", extras.contains token⟩
  else ⟨table.literals.getD (token - table.firstLiteral) "", false, false, false⟩

def display : Display where
  token := tokenDisplay
  rule i := table.rules.getD i ("", true)

/-- Python as a language. The module is the first rule. -/
def language : Grammar.Language Layout where
  table := table
  display := display
  startRule := 0
  initial := .start
  lexeme := lexeme

/-- The syntax tree of a source text, if the grammar derives the text. -/
def sourceTree? (text : String) : Option Tree := language.parse text

end SourceMetrics.Python
