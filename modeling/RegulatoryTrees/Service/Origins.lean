import RegulatoryTrees.Service.Message

/-!
# Requests from other origins

Browsers tell the origin of the page that makes a request and ask beforehand whether the page may do so.
-/

namespace RegulatoryTrees

/-- The origins whose pages may use the service; an asterisk stands for all. -/
structure Origins where
  names : List String

namespace Origins

/-- Origins from a text with commas between them; without a text all are allowed. -/
def ofText (text : Option String) : Origins := ⟨(Text.splitAt ',' (text.getD "*").toList).map String.ofList⟩

/-- The pages of an origin may use the service. -/
def allows (o : Origins) (origin : String) : Bool := o.names.contains "*" || o.names.contains origin

/-- The methods that pages may ask for. -/
def methods : List String := ["DELETE", "GET", "HEAD", "OPTIONS", "PATCH", "POST", "PUT"]

/-- What is told to a page of an origin. -/
def sharing (o : Origins) (origin : String) : Bindings String :=
  (if o.allows origin then [("access-control-allow-origin", origin)] else []) ++
    [("access-control-allow-credentials", "true")]

/-- A question beforehand: the origin of the page, the method of the request to come, and whether the page lies in a wider
network than the service, which no page may. -/
structure Question where
  origin : String
  method : String
  crossesNetworks : Bool

/-- What speaks against the request that is asked about. -/
def objections (o : Origins) (q : Question) : List String :=
  (if o.allows q.origin then [] else ["origin"]) ++ (if methods.contains q.method then [] else ["method"]) ++
    (if q.crossesNetworks then ["private-network"] else [])

/-- The response to a question beforehand. -/
def preflight (o : Origins) (q : Question) : Response :=
  match o.objections q with
  | [] => { status := 200, content := .text "OK", sharing := o.sharing q.origin }
  | objections =>
    { status := 400, content := .text ("Disallowed CORS " ++ String.intercalate ", " objections),
      sharing := o.sharing q.origin }

/-- The response to a request that only asks beforehand. -/
def preflight? (o : Origins) (r : Request) : Option Response := do
  let origin ← r.header? "origin"
  let method ← r.header? "access-control-request-method"
  let crossesNetworks := (r.header? "access-control-request-private-network").isSome
  if r.method = "OPTIONS" then some (o.preflight ⟨origin, method, crossesNetworks⟩) else none

/-- A response with what is told to the origin of the request; where the handling broke down nothing is told. -/
def share (o : Origins) (r : Request) (response : Response) : Response :=
  match r.header? "origin" with
  | some origin => if response.status = 500 then response else { response with sharing := o.sharing origin }
  | none => response

end Origins

end RegulatoryTrees
