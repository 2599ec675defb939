/-!
# Blanks, words and lines

The blanks are the characters with the `White_Space` property of the Unicode standard. Everything
that cuts an operator's line into pieces (trimming, the first word, the lines of a longer text) is
built on them here, over lists of characters.
-/

namespace DebugShell.Text

/-- The characters with the `White_Space` property. -/
def isBlank (c : Char) : Bool :=
  let n := c.toNat
  (9 ≤ n && n ≤ 13) || n == 0x20 || n == 0x85 || n == 0xA0 || n == 0x1680 ||
    (0x2000 ≤ n && n ≤ 0x200A) || n == 0x2028 || n == 0x2029 || n == 0x202F || n == 0x205F ||
    n == 0x3000

/-- The text without the blanks before it. -/
def trimStart (cs : List Char) : List Char :=
  cs.dropWhile isBlank

/-- The text without the blanks after it. -/
def trimEnd (cs : List Char) : List Char :=
  (cs.reverse.dropWhile isBlank).reverse

/-- The text without the blanks around it. -/
def trim (cs : List Char) : List Char :=
  trimEnd (trimStart cs)

/-- Everything before the first blank. -/
def firstWord (cs : List Char) : List Char :=
  cs.takeWhile fun c => !isBlank c

/-- The first blank and everything after it. -/
def afterFirstWord (cs : List Char) : List Char :=
  cs.dropWhile fun c => !isBlank c

/-- A line with its final carriage return taken off. -/
def dropCarriageReturn (line : List Char) : List Char :=
  if line.getLast? = some '\r' then line.dropLast else line

/-- The lines of `line ++ rest`, where `line` has been read and holds no line feed. -/
def linesFrom (line : List Char) : List Char → List (List Char)
  | [] => if line = [] then [] else [line]
  | c :: rest =>
    if c = '\n' then dropCarriageReturn line :: linesFrom [] rest
    else linesFrom (line ++ [c]) rest

/-- The lines of a text. A line ends at a line feed, which may have one carriage return before it;
a text that ends with a line feed has no further, empty line. -/
def lines (cs : List Char) : List (List Char) :=
  linesFrom [] cs

/-- `a` followed by spaces up to a width counted in characters. -/
def padRight (width : Nat) (a : List Char) : List Char :=
  a ++ List.replicate (width - a.length) ' '

/-- `a` preceded by as many `fill` as reach a width counted in characters. -/
def padLeftWith (fill : Char) (width : Nat) (a : List Char) : List Char :=
  List.replicate (width - a.length) fill ++ a

/-- Spaces followed by `a`, up to a width counted in characters. -/
def padLeft (width : Nat) (a : List Char) : List Char :=
  padLeftWith ' ' width a

end DebugShell.Text

namespace String

/-- The string without the blanks around it. -/
def trimBlanks (s : String) : String :=
  ofList (DebugShell.Text.trim s.toList)

/-- The string without the blanks after it. -/
def trimBlanksEnd (s : String) : String :=
  ofList (DebugShell.Text.trimEnd s.toList)

/-- The lines of a string, without their line ends. -/
def textLines (s : String) : List String :=
  (DebugShell.Text.lines s.toList).map ofList

/-- The string followed by spaces up to a width counted in characters. -/
def padTo (width : Nat) (s : String) : String :=
  ofList (DebugShell.Text.padRight width s.toList)

end String
