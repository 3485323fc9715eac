import RegulatoryTrees.Format
import RegulatoryTrees.Service.Target

/-!
# Requests and responses

Requests come with headers, whose names are known in any case, and a body. Responses have a status and hold JSON or a plain
text.
-/

namespace RegulatoryTrees

/-! ## Values that JSON can hold -/

namespace Value

/-- A time as JSON text holds it: universal time is marked by the letter Z. -/
def momentText (m : Moment) : String :=
  if m.offset = some 0 then { m with offset := none }.iso "T" ++ "Z" else m.iso "T"

/-- The text of bytes in UTF-8. -/
def bytesText? (bs : List UInt8) : Option String := String.fromUTF8? (ByteArray.mk bs.toArray)

/-- A scalar as JSON can hold it; bytes that are no text cannot be held. -/
def jsonScalar? (s : Scalar) : Option Scalar :=
  match s with
  | .double d =>
    match d with
    | .finite _ _ => some s
    | _ => some .null
  | .bytes bs => (bytesText? bs).map .text
  | .date d => some (.text d.iso)
  | .moment m => some (.text (momentText m))
  | s => some s

/-- A key as JSON can hold it; doubles that are not finite are like null. -/
def jsonKey? (s : Scalar) : Option Scalar :=
  match s with
  | .double d =>
    match d with
    | .finite _ _ => some (.text s.plain)
    | _ => some (.text Scalar.null.plain)
  | .bool b => some (.text (if b then "true" else "false"))
  | .bytes bs => (bytesText? bs).map .text
  | .moment m => some (.text (momentText m))
  | s => some (.text s.plain)

mutual

/-- A value as JSON can hold it: dates become texts, and doubles that are not finite become null. A value that contains itself
cannot be held. -/
def json? : Value → Option Value
  | .scalar s => (jsonScalar? s).map .scalar
  | .missing => some .null
  | .recurrence _ _ => none
  | .sequence _ items => (jsonItems? items).map .list
  | .mapping entries => (jsonEntries? entries).map fun entries => .mapping (ofEntries entries)

/-- The items of a sequence as JSON can hold them. -/
def jsonItems? : List Value → Option (List Value)
  | [] => some []
  | v :: rest => do
    let first ← json? v
    let others ← jsonItems? rest
    some (first :: others)

/-- The entries of a mapping as JSON can hold them. -/
def jsonEntries? : List (Scalar × Value) → Option (List (Scalar × Value))
  | [] => some []
  | (k, v) :: rest => do
    let key ← jsonKey? k
    let first ← json? v
    let others ← jsonEntries? rest
    some ((key, first) :: others)

end

mutual

/-- Every double in a value is finite. -/
def isFinite : Value → Bool
  | .double d =>
    match d with
    | .finite _ _ => true
    | _ => false
  | .scalar _ | .missing | .recurrence _ _ => true
  | .sequence _ items => areFinite items
  | .mapping entries => entriesAreFinite entries

/-- Every double in some values is finite. -/
def areFinite : List Value → Bool
  | [] => true
  | v :: rest => isFinite v && areFinite rest

/-- Every double in the values of some entries is finite. -/
def entriesAreFinite : List (Scalar × Value) → Bool
  | [] => true
  | (_, v) :: rest => isFinite v && entriesAreFinite rest

end

end Value

/-! ## Requests -/

/-- A request. -/
structure Request where
  method : String
  target : Target
  headers : Bindings String
  body : String

namespace Request

/-- The value of a header. -/
def header? (r : Request) (name : String) : Option String :=
  (r.headers.find? fun (other, _) => other.toLower == name.toLower).map Prod.snd

/-- The body is said to be JSON, or of a kind that is written as JSON. -/
def isJson (r : Request) : Bool :=
  let kind := (((r.header? "content-type").getD "").toList.takeWhile (· != ';')).map Char.toLower
  match Text.splitAt '/' ((kind.dropWhile Text.isBlank).reverse.dropWhile Text.isBlank).reverse with
  | [main, sub] => main == "application".toList && (sub == "json".toList || "+json".toList.isSuffixOf sub)
  | _ => false

end Request

/-! ## Responses -/

/-- What a response holds. -/
inductive Content where
  | json (v : Value)
  | text (s : String)

/-- A response. -/
structure Response where
  status : Nat
  content : Content
  /-- What the response tells about requests from other origins. -/
  sharing : Bindings String := []

namespace Response

/-- The response to a request whose handling broke down. -/
def breakdown : Response := { status := 500, content := .text "Internal Server Error" }

/-- The response with a value; a value that JSON cannot hold breaks the handling down. -/
def ok (v : Value) : Response :=
  match v.json? with
  | some v => { status := 200, content := .json v }
  | none => breakdown

/-- A refusal with its reason. -/
def refusal (status : Nat) (reason : String) : Response :=
  { status := status, content := .json (.record [("detail", .text reason)]) }

/-- The response to a request with faults. The faults are told with the values at fault, which has to be possible in strict
JSON. -/
def invalid (faults : List Format.Fault) : Response :=
  let detail := Value.list (faults.map Format.Fault.fullRecord)
  if detail.isFinite then { status := 422, content := .json (.record [("detail", detail)]) } else breakdown

/-- The response that sends the client to the path without slashes at its end. -/
def redirection : Response := { status := 307, content := .text "" }

end Response

end RegulatoryTrees
