/-!
# Placing values by their keys

A list with one place for each key, in the order in which the keys came: what the files of a folder, the registry of rules and
the cache of evaluations are kept in.
-/

namespace RegulatoryTrees

/-- Put a value in the place of the one with its key, or at the end. -/
def placeBy {α : Type} (key : α → String) (x : α) : List α → List α
  | [] => [x]
  | y :: rest => if key y = key x then x :: rest else y :: placeBy key x rest

end RegulatoryTrees
