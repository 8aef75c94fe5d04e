import Callout.Text.Lowercase
import Callout.Text.Space

namespace Callout.Text

def isWordChar (c : Char) : Bool :=
  isAlphanumeric c || c == '\x27'

/-- One piece between white space as a word: surrounding punctuation is dropped, then case. -/
def wordOf (piece : List Char) : List Char :=
  lowerChars (trimBy (!isWordChar ·) piece)

def wordsOf (cs : List Char) : List (List Char) :=
  ((runs isSpace cs).map wordOf).filter (!·.isEmpty)

def words (s : String) : List String :=
  (wordsOf s.toList).map .ofList

end Callout.Text
