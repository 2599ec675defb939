import DebugShell.Text.Blank

/-!
# Cutting an argument line into words

Words are separated by runs of blanks. Quotes `"…"` and `'…'` group characters, also in the middle
of a word, and a backslash outside single quotes makes the next character an ordinary one. A quoted
empty text is a word. A quote that is left open ends with the line, and a backslash at the very end
stands for nothing.
-/

namespace DebugShell.Text

/-- The words of the rest of a line. `quote` is the quote that is open; `word` is the word that has
been started, if one has. -/
def wordsFrom : Option Char → Option (List Char) → List Char → List (List Char)
  | _, word, [] => word.toList
  | some q, word, c :: rest =>
    if c = q then wordsFrom none word rest
    else if q = '\'' then wordsFrom (some q) (some (word.getD [] ++ [c])) rest
    else if c = '\\' then
      match rest with
      | [] => word.toList
      | d :: rest => wordsFrom (some q) (some (word.getD [] ++ [d])) rest
    else wordsFrom (some q) (some (word.getD [] ++ [c])) rest
  | none, word, c :: rest =>
    if c = '"' ∨ c = '\'' then wordsFrom (some c) (some (word.getD [])) rest
    else if c = '\\' then
      match rest with
      | [] => word.toList
      | d :: rest => wordsFrom none (some (word.getD [] ++ [d])) rest
    else if isBlank c then word.toList ++ wordsFrom none none rest
    else wordsFrom none (some (word.getD [] ++ [c])) rest

/-- The words of an argument line. -/
def words (line : List Char) : List (List Char) :=
  wordsFrom none none line

end DebugShell.Text

namespace String

/-- The words of an argument line, with quotes and backslashes taken away. -/
def argumentWords (line : String) : List String :=
  (DebugShell.Text.words line.toList).map ofList

end String
