import RegulatoryTrees.Text.Split

/-!
# Endpoints

Where the service answers what: each endpoint has a method and a path, one part of which may be free.
-/

namespace RegulatoryTrees

/-- What the service can be asked for. -/
inductive Endpoint where
  | welcome
  | health
  | evaluate
  | evaluatePartial
  | listRules
  | rule (id : String)
  | ruleGraph (id : String)
  | reload
  | layout
  | conflicts
  | cacheStats
  | clearCache
  | forget (key : String)
  deriving DecidableEq

namespace Endpoint

/-- A part of the path of an entry. -/
inductive Segment where
  | word (w : String)
  | free
  deriving DecidableEq

/-- An entry of the table of endpoints; the endpoint is made from the free part of the path. -/
structure Entry where
  method : String
  path : List Segment
  endpoint : String → Endpoint

/-- A part of a path is a word; at the end of a path a newline after the word does not count. -/
def isWord (word part : String) (atEnd : Bool) : Bool := part == word || (atEnd && part == word ++ "\n")

/-- The free part of a path that goes along segments; it is not empty. -/
def along? : List Segment → List String → Option String
  | [], [] => some ""
  | .word w :: segments, part :: parts => if isWord w part parts.isEmpty then along? segments parts else none
  | .free :: segments, part :: parts => if part.isEmpty then none else (along? segments parts).map (part ++ ·)
  | _, _ => none

/-- The table of endpoints. -/
def table : List Entry := [
  ⟨"POST", [.word "evaluate"], fun _ => .evaluate⟩,
  ⟨"POST", [.word "evaluate", .word "partial"], fun _ => .evaluatePartial⟩,
  ⟨"GET", [.word "rules"], fun _ => .listRules⟩,
  ⟨"GET", [.word "rules", .free], .rule⟩,
  ⟨"GET", [.word "rules", .free, .word "graph"], .ruleGraph⟩,
  ⟨"POST", [.word "rules", .word "reload"], fun _ => .reload⟩,
  ⟨"POST", [.word "layout"], fun _ => .layout⟩,
  ⟨"POST", [.word "conflicts"], fun _ => .conflicts⟩,
  ⟨"GET", [.word "cache", .word "stats"], fun _ => .cacheStats⟩,
  ⟨"POST", [.word "cache", .word "clear"], fun _ => .clearCache⟩,
  ⟨"DELETE", [.word "cache", .free], .forget⟩,
  ⟨"GET", [.word ""], fun _ => .welcome⟩,
  ⟨"GET", [.word "health"], fun _ => .health⟩]

/-- The endpoints that a path leads to, with their methods. -/
def offers (path : String) : List (String × Endpoint) :=
  let parts := ((Text.splitAt '/' path.toList).drop 1).map String.ofList
  table.filterMap fun entry => (along? entry.path parts).map fun part => (entry.method, entry.endpoint part)

/-- Where a method and a path lead to. -/
inductive Direction where
  | endpoint (e : Endpoint)
  | wrongMethod
  /-- There is an endpoint at the path without slashes at its end. -/
  | redirected
  | nowhere
  deriving DecidableEq

/-- A path without slashes at its end. -/
def withoutSlashes (path : String) : String := String.ofList (path.toList.reverse.dropWhile (· == '/')).reverse

/-- Find where a method and a path lead to. -/
def direction (method path : String) : Direction :=
  match (offers path).lookup method with
  | some e => .endpoint e
  | none =>
    if !(offers path).isEmpty then .wrongMethod
    else if path.endsWith "/" && !(offers (withoutSlashes path)).isEmpty then .redirected
    else .nowhere

end Endpoint

end RegulatoryTrees
