/-!
# Cutting texts

A text is cut at every separator; joining the parts again gives the text.
-/

namespace RegulatoryTrees

namespace Text

/-- The parts of a text between separators; there is always one more part than separators. -/
def splitAt (separator : Char) : List Char → List (List Char)
  | [] => [[]]
  | c :: rest =>
    match splitAt separator rest with
    | [] => [[]]
    | part :: parts => if c = separator then [] :: part :: parts else (c :: part) :: parts

end Text

end RegulatoryTrees
