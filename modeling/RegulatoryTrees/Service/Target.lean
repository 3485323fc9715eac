import RegulatoryTrees.EnvironmentFile
import RegulatoryTrees.Text.PercentForm
import RegulatoryTrees.Text.Quoted
import RegulatoryTrees.Text.Split

/-!
# Request targets

A target is a path with a query. It is told by a reference, which may name a scheme and an authority before the path. A
reference that names both stands for itself; any other is taken from the root of the service.
-/

namespace RegulatoryTrees

/-! ## References -/

/-- A reference to a resource in its parts. What follows a number sign does not count. -/
structure Reference where
  /-- What stands before the first colon, if it is a name or nothing. -/
  scheme : List Char
  /-- What stands between two slashes and the path. -/
  authority : List Char
  path : List Char
  query : List Char

namespace Reference

/-- Why a text is no reference. -/
inductive Failure where
  | tooLong
  | unprintable (c : Char) (position : Nat)
  | badPort (text : String)
  | leadingSlashes
  | leadingColon
  | unknownScheme (scheme : String)
  deriving DecidableEq

/-- A failure in words. -/
def Failure.message : Failure → String
  | .tooLong => "URL too long"
  | .unprintable c position =>
    "Invalid non-printable ASCII character in URL, " ++ Text.quoted c.toString ++ " at position " ++
      Decimal.ofNat position ++ "."
  | .badPort text => "Invalid port: " ++ Text.quoted text
  | .leadingSlashes => "Relative URLs cannot have a path starting with '//'"
  | .leadingColon => "Relative URLs cannot have a path starting with ':'"
  | .unknownScheme scheme => Text.quoted scheme

/-- A character that the name of a scheme goes on with. -/
def isSchemeCharacter (c : Char) : Bool := Text.isAsciiLetter c || Text.isAsciiDigit c || c == '+' || c == '.' || c == '-'

/-- The scheme that a text begins with, and what follows its colon. -/
def splitScheme (cs : List Char) : List Char × List Char :=
  match cs.span isSchemeCharacter with
  | (name, ':' :: rest) => if name.head?.all Text.isAsciiLetter then (name, rest) else ([], cs)
  | _ => ([], cs)

/-- The authority that a text begins with, and what follows it. -/
def splitAuthority : List Char → List Char × List Char
  | '/' :: '/' :: rest => rest.span fun c => c != '/' && c != '?' && c != '#'
  | cs => ([], cs)

/-- The parts of a text. -/
def ofChars (cs : List Char) : Reference :=
  let (scheme, rest) := splitScheme cs
  let (authority, rest) := splitAuthority rest
  let shown := rest.takeWhile (· != '#')
  ⟨scheme.map Char.toLower, authority, shown.takeWhile (· != '?'), (shown.dropWhile (· != '?')).drop 1⟩

/-- The name of the user before the last at sign of the authority. -/
def user (r : Reference) : List Char := ((r.authority.reverse.dropWhile (· != '@')).drop 1).reverse

/-- The part of the authority after the user. -/
def location (r : Reference) : List Char := (r.authority.reverse.takeWhile (· != '@')).reverse

/-- The host and what follows it; a host between brackets may hold colons. -/
def splitHost (r : Reference) : List Char × List Char :=
  match r.location with
  | '[' :: rest =>
    if rest.contains ']' then
      let inner := (rest.reverse.dropWhile (· != ']')).reverse
      ('[' :: inner, rest.drop inner.length)
    else r.location.span (· != ':')
  | cs => cs.span (· != ':')

/-- The host. -/
def host (r : Reference) : List Char := r.splitHost.1

/-- The port, without the colon before it. -/
def port (r : Reference) : List Char :=
  match r.splitHost.2 with
  | ':' :: rest => rest
  | rest => rest

/-- A reference with a scheme and a host stands for itself. -/
def isAbsolute (r : Reference) : Bool := !r.scheme.isEmpty && !r.host.isEmpty

/-- The schemes that the service is asked with. -/
def schemes : List (List Char) := ["http".toList, "https".toList]

/-- Where a text may hold characters below the space, it holds none. -/
def unprintable? (cs : List Char) : Option Failure :=
  (cs.findIdx? fun c => c.toNat < 32 || c.toNat = 127).bind fun i => cs[i]?.map (.unprintable · i)

/-- The reference that a text is. -/
def read (cs : List Char) : Except Failure Reference := do
  if 65536 < cs.length then throw .tooLong
  if let some failure := unprintable? cs then throw failure
  let r := ofChars cs
  if !r.port.all Text.isAsciiDigit then throw (.badPort (String.ofList r.port))
  if r.scheme.isEmpty && r.user.isEmpty && r.host.isEmpty && r.port.isEmpty then
    if ['/', '/'].isPrefixOf r.path then throw .leadingSlashes
    if [':'].isPrefixOf r.path then throw .leadingColon
  if r.isAbsolute && !schemes.contains r.scheme then throw (.unknownScheme (String.ofList r.scheme))
  return r

/-- Leave out the single points among the parts of a path; two points take the part before them away. -/
def withoutPoints (done : List (List Char)) : List (List Char) → List (List Char)
  | [] => done.reverse
  | part :: rest =>
    if part = ['.'] then withoutPoints done rest
    else if part = ['.', '.'] then withoutPoints (if done = [[]] then done else done.drop 1) rest
    else withoutPoints (part :: done) rest

/-- A path without points among its parts. -/
def straight (path : List Char) : List Char := List.intercalate ['/'] (withoutPoints [] (Text.splitAt '/' path))

/-- The path from the root of the service. Points count for nothing once the reference names a scheme or an authority, and
when it is put behind the root. -/
def fullPath (r : Reference) : List Char :=
  let path := if r.scheme.isEmpty && r.authority.isEmpty then r.path else straight r.path
  if r.isAbsolute then if path.isEmpty then ['/'] else path
  else straight ('/' :: path.dropWhile (· == '/'))

end Reference

/-! ## Targets -/

/-- What a request is for. -/
structure Target where
  /-- The path, which begins with a slash. -/
  path : String
  query : Bindings String
  deriving DecidableEq

namespace Target

/-- A name or value of a query; a plus sign is a space. -/
def queryText (cs : List Char) : String :=
  String.ofList (Text.percentDecoded (cs.map fun c => if c = '+' then ' ' else c))

/-- The names and values of a query. -/
def queryOf (cs : List Char) : Bindings String :=
  ((Text.splitAt '&' cs).filter (!·.isEmpty)).map fun part =>
    (queryText (part.takeWhile (· != '=')), queryText ((part.dropWhile (· != '=')).drop 1))

/-- The target of a reference. The bytes of the path are read twice, once on the way and once on arrival. -/
def ofReference (r : Reference) : Target :=
  ⟨String.ofList (Text.percentDecoded (Text.percentDecoded r.fullPath)), queryOf r.query⟩

/-- The target that a text stands for. -/
def ofText (text : String) : Except Reference.Failure Target := ofReference <$> Reference.read text.toList

/-- The value of a name in the query; the last one counts. -/
def parameter? (t : Target) (name : String) : Option String := t.query.reverse.lookup name

end Target

end RegulatoryTrees
