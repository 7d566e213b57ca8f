/-! # Lines of a text

A line ends at a carriage return, at a line feed, or at the two in this order; the last line needs
no ending. A text that is read as a stream of records may instead end its lines at line feeds
only. -/

namespace MailScript.Text

/-- Put a character in front of the first of some lines. -/
def pushFront (c : Char) : List (List Char) → List (List Char)
  | [] => [[c]]
  | line :: rest => (c :: line) :: rest

/-- The lines of a text, each without its ending. -/
def splitLines : List Char → List (List Char)
  | [] => []
  | '\r' :: '\n' :: rest => [] :: splitLines rest
  | c :: rest =>
    if c = '\r' || c = '\n' then [] :: splitLines rest
    else pushFront c (splitLines rest)

/-- The lines of a text that ends its lines at line feeds only. -/
def splitRecords : List Char → List (List Char)
  | [] => []
  | c :: rest => if c = '\n' then [] :: splitRecords rest else pushFront c (splitRecords rest)

/-- A text in which a line feed ends every line. -/
def unifyLineBreaks : List Char → List Char
  | [] => []
  | '\r' :: '\n' :: rest => '\n' :: unifyLineBreaks rest
  | c :: rest => (if c = '\r' then '\n' else c) :: unifyLineBreaks rest

def isLineBreak (c : Char) : Bool :=
  c = '\r' || c = '\n'

/-- Drop all line break characters from the end. -/
def dropLineBreaks (line : List Char) : List Char :=
  (line.reverse.dropWhile isLineBreak).reverse

end MailScript.Text
