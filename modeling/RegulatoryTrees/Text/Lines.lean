/-!
# Line ends

Files end their lines in one of several ways; texts end them with a newline.
-/

namespace RegulatoryTrees

namespace Text

/-- A carriage return, alone or before a newline, becomes a newline. -/
def newlinesOnly : List Char → List Char
  | '\r' :: '\n' :: rest => '\n' :: newlinesOnly rest
  | c :: rest => (if c = '\r' then '\n' else c) :: newlinesOnly rest
  | [] => []

end Text

end RegulatoryTrees
