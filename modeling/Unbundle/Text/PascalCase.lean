-- SUMMARY: Splitting text into words and writing them in PascalCase.
import Unbundle.Text.LetterCase

/-!
# PascalCase

Words are split at characters that are neither letters nor digits, and where the case changes: after
a small letter before a capital (`fooBar`), and before the last of a row of capitals that a small
letter follows (`XMLHttp`). Each word starts with a capital and goes on in small letters.
-/

namespace Unbundle.Text

/-- The case of the last cased character of the current word. -/
inductive WordCase where
  | unknown | lower | upper
deriving DecidableEq, Repr, Inhabited

/-- The case after one more character. -/
def WordCase.next (mode : WordCase) (c : Char) : WordCase :=
  if isLowercase c then .lower
  else if isUppercase c then .upper
  else mode

/-- Splits a text at changes of case; `word` holds the current word backwards. -/
def caseWords (mode : WordCase) (word : List Char) : List Char → List (List Char)
  | [] => if word.isEmpty then [] else [word.reverse]
  | [c] => [(c :: word).reverse]
  | c :: next :: rest =>
    if mode.next c == .lower && isUppercase next then
      (c :: word).reverse :: caseWords .unknown [] (next :: rest)
    else if mode == .upper && isUppercase c && isLowercase next then
      word.reverse :: caseWords .unknown [c] (next :: rest)
    else caseWords (mode.next c) (c :: word) (next :: rest)

/-- The words of a text. -/
def words (text : List Char) : List (List Char) :=
  (text.splitOnP fun c => !isAlphanumeric c).flatMap (caseWords .unknown [])

/-- Small letters; a sigma at the end of a word has a form of its own. -/
def lowerRest : List Char → List Char
  | [] => []
  | ['Σ'] => ['ς']
  | c :: rest => downcase c ++ lowerRest rest

/-- A word with a capital first. -/
def capitalize : List Char → List Char
  | [] => []
  | c :: rest => upcase c ++ lowerRest rest

def pascalCase (text : List Char) : List Char :=
  (words text).flatMap capitalize

end Unbundle.Text
