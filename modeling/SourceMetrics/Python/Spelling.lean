import SourceMetrics.Text.Identifier
import SourceMetrics.Text.Pattern

/-!
# How Python tokens are spelled

Patterns for the tokens that have no fixed text. The null character belongs to no comment, format
text or character name.
-/

namespace SourceMetrics.Python

open SourceMetrics.Text
open SourceMetrics.Text.Pattern

/-- The start of an identifier and what goes on it. -/
def identifierPattern : Pattern :=
  seq (char fun c => c = '_' || Text.identifierStart.contains c)
    (star (char fun c => c = '_' || Text.identifierContinue.contains c))

/-- Digits of a number with a base mark: `0x`, single underscores between digits, perhaps an `L`. -/
def basedNumber (marks : String) (digit : Char → Bool) : Pattern :=
  all [only '0', oneOf marks, many (seq (optional (only '_')) (char digit)),
    optional (oneOf "lL")]

/-- Decimal digits with single underscores between them and perhaps one at the end. -/
def decimalDigits : Pattern :=
  all [between '0' '9', star (seq (optional (only '_')) (between '0' '9')), optional (only '_')]

def integerPattern : Pattern :=
  any [
    basedNumber "xX" (fun c => (Text.Ranges.hexDigit? c).isSome),
    basedNumber "oO" (fun c => '0' ≤ c && c ≤ '7'),
    basedNumber "bB" (fun c => c = '0' || c = '1'),
    seq decimalDigits (optional (oneOf "lLjJ"))]

def floatPattern : Pattern :=
  let exponent := all [oneOf "eE", optional (oneOf "+-"), decimalDigits]
  seq
    (any [
      all [decimalDigits, only '.', optional decimalDigits, optional exponent],
      all [optional decimalDigits, only '.', decimalDigits, optional exponent],
      seq decimalDigits exponent])
    (optional (oneOf "jJ"))

def escapePattern : Pattern :=
  let hex := char fun c => (Text.Ranges.hexDigit? c).isSome
  let digit := between '0' '9'
  seq (only '\\') (any [
    seq (only 'u') (times 4 hex),
    seq (only 'U') (times 8 hex),
    seq (only 'x') (times 2 hex),
    all [digit, optional digit, optional digit],
    seq (optional (only '\r')) (only '\n'),
    oneOf "'\"abfrntv\\",
    all [only 'N', only '\x7b', many (noneOf "\x7d"), only '\x7d']])

def commentPattern : Pattern := seq (only '#') (star (noneOf "\n"))

def lineContinuationPattern : Pattern :=
  seq (only '\\') (alt (seq (optional (only '\r')) (only '\n')) (only '\x00'))

def formatTextPattern : Pattern := many (noneOf "\x7b\x7d\n")

def typeConversionPattern : Pattern := seq (only '!') (between 'a' 'z')

end SourceMetrics.Python
