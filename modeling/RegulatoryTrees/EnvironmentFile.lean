import RegulatoryTrees.Text.Letters
import RegulatoryTrees.Text.Lines

/-!
# Environment files

An environment file names values, one a line: `NAME=value`. A value may stand between quotes, where escapes count and lines may
end; a value without quotes ends before a comment. Values may refer to values named before and to the environment. A line that
is no binding is left out.
-/

namespace RegulatoryTrees

/-- What texts are known by their names, in the order in which the names came in. -/
abbrev Bindings (α : Type) := List (String × α)

namespace Bindings

/-- Bind a name, in the place where it is bound already or at the end. -/
def assign {α : Type} (name : String) (value : α) : Bindings α → Bindings α
  | [] => [(name, value)]
  | (other, old) :: rest => if other = name then (name, value) :: rest else (other, old) :: assign name value rest

end Bindings

namespace EnvironmentFile

/-! ## Lines -/

/-- A blank that does not end a line. -/
def isInnerBlank (c : Char) : Bool := Text.isBlank c && c != '\n' && c != '\r'

/-- What follows blanks of a line. -/
def afterBlanks (cs : List Char) : List Char := cs.dropWhile isInnerBlank

/-- What follows a text at the beginning of another. -/
def after? (start : String) (cs : List Char) : Option (List Char) :=
  if start.toList.isPrefixOf cs then some (cs.drop start.length) else none

/-- What follows the word `export` with blanks after it, if it is there. -/
def afterExport (cs : List Char) : List Char :=
  match after? "export" cs with
  | some (c :: rest) => if isInnerBlank c then afterBlanks rest else cs
  | _ => cs

/-- The beginning of the next line. -/
def nextLine (cs : List Char) : List Char := (cs.dropWhile (· != '\n')).drop 1

/-- What follows a comment, if there is one after blanks. -/
def afterComment (cs : List Char) : List Char :=
  match afterBlanks cs with
  | '#' :: rest => rest.dropWhile (· != '\n')
  | _ => cs

/-- What follows the end of a line. -/
def afterLineEnd? (cs : List Char) : Option (List Char) :=
  match afterBlanks cs with
  | [] => some []
  | '\n' :: rest => some rest
  | _ => none

/-! ## Names and values -/

/-- A character of a name without quotes. -/
def isNameCharacter (c : Char) : Bool := c != '=' && c != '#' && !Text.isBlank c

/-- A name and what follows it; a comment has none. -/
def name? (cs : List Char) : Option (Option String × List Char) :=
  match cs with
  | '#' :: _ => some (none, cs)
  | '\'' :: rest =>
    match rest.span (· != '\'') with
    | (c :: name, '\'' :: rest) => some (some (String.ofList (c :: name)), rest)
    | _ => none
  | _ =>
    match cs.span isNameCharacter with
    | ([], _) => none
    | (name, rest) => some (some (String.ofList name), rest)

/-- What stands before a closing quote, and what follows it. A quote after a backslash does not close, unless no other quote
follows. -/
def quoted? (quote : Char) : List Char → Option (List Char × List Char)
  | [] => none
  | c :: rest =>
    if c = quote then some ([], rest)
    else if c = '\\' then
      match rest with
      | d :: rest' =>
        if d = quote then
          match quoted? quote rest' with
          | some (body, rest) => some (c :: d :: body, rest)
          | none => some ([c], rest')
        else (quoted? quote (d :: rest')).map fun (body, rest) => (c :: body, rest)
      | [] => none
    else (quoted? quote rest).map fun (body, rest) => (c :: body, rest)

/-- The text that escapes stand for; other backslashes stand for themselves. -/
def unescape (escapes : List (Char × Char)) : List Char → List Char
  | '\\' :: c :: rest =>
    match escapes.lookup c with
    | some d => d :: unescape escapes rest
    | none => '\\' :: unescape escapes (c :: rest)
  | c :: rest => c :: unescape escapes rest
  | [] => []

/-- The escapes between single quotes. -/
def singleQuoteEscapes : List (Char × Char) := [('\\', '\\'), ('\'', '\'')]

/-- The escapes between double quotes. -/
def doubleQuoteEscapes : List (Char × Char) :=
  [('\\', '\\'), ('\'', '\''), ('"', '"'), ('a', '\x07'), ('b', '\x08'), ('f', '\x0c'), ('n', '\n'), ('r', '\r'),
    ('t', '\t'), ('v', '\x0b')]

/-- A line up to a number sign after blanks. -/
def beforeComment : List Char → List Char
  | [] => []
  | c :: rest =>
    if Text.isBlank c && (rest.dropWhile Text.isBlank).head? == some '#' then [] else c :: beforeComment rest

/-- A text without blanks at its end. -/
def trimEnd (cs : List Char) : List Char := (cs.reverse.dropWhile Text.isBlank).reverse

/-- A value and what follows it, or what follows the last thing that could be read. -/
def value (cs : List Char) : Except (List Char) (List Char × List Char) :=
  let between (quote : Char) (escapes : List (Char × Char)) (rest : List Char) :=
    match quoted? quote rest with
    | some (body, rest) => .ok (unescape escapes body, rest)
    | none => .error cs
  match cs with
  | '\'' :: rest => between '\'' singleQuoteEscapes rest
  | '"' :: rest => between '"' doubleQuoteEscapes rest
  | _ =>
    let (line, rest) := cs.span (· != '\n')
    .ok (trimEnd (beforeComment line), rest)

/-! ## Bindings -/

/-- A name with the value it is given, if there is one. -/
structure Binding where
  name : String
  value : Option (List Char)

/-- The binding that a text begins with and what follows its line, or where reading it fails. A comment binds nothing. -/
def binding (cs : List Char) : Except (List Char) (Option Binding × List Char) := do
  let cs := afterExport cs
  match name? cs with
  | none => .error cs
  | some (name, rest) =>
    let (value, rest) ← match afterBlanks rest with
      | '=' :: rest => (fun (v, rest) => (some v, rest)) <$> value (afterBlanks rest)
      | rest => .ok (none, rest)
    let rest := afterComment rest
    match afterLineEnd? rest with
    | none => .error rest
    | some rest => .ok (name.map (⟨·, value⟩), rest)

/-- The bindings of a text of at most `fuel` characters. -/
def bindingsWithin : (fuel : Nat) → List Char → List Binding
  | 0, _ => []
  | fuel + 1, cs =>
    match cs.dropWhile Text.isBlank with
    | [] => []
    | cs =>
      match binding cs with
      | .ok (b, rest) => b.toList ++ bindingsWithin fuel rest
      | .error rest => bindingsWithin fuel (nextLine rest)

/-- The bindings of a text; each of them takes up at least one character. -/
def bindings (cs : List Char) : List Binding := bindingsWithin cs.length cs

/-! ## References -/

/-- A reference to a value by its name, with a text for when there is none. -/
structure Reference where
  name : String
  default : String

/-- The reference that a text begins with, `$` and an opening brace left out, and what follows it. -/
def reference? (cs : List Char) : Option (Reference × List Char) :=
  let (name, rest) := cs.span fun c => c != '}' && c != ':'
  match rest with
  | '}' :: rest => some (⟨String.ofList name, ""⟩, rest)
  | ':' :: '-' :: rest =>
    match rest.span (· != '}') with
    | (default, '}' :: rest) => some (⟨String.ofList name, String.ofList default⟩, rest)
    | _ => none
  | _ => none

/-- What a reference stands for: the value bound in the file or else in the environment. A name without a value stands for no
text. -/
def Reference.resolve (environment : Bindings String) (bound : Bindings (Option String)) (r : Reference) : String :=
  match bound.lookup r.name with
  | some value => value.getD ""
  | none => (environment.lookup r.name).getD r.default

/-- A text of at most `fuel` characters with what its references stand for in their places. -/
def expandWithin (environment : Bindings String) (bound : Bindings (Option String)) : (fuel : Nat) → List Char → List Char
  | 0, cs => cs
  | _ + 1, [] => []
  | fuel + 1, c :: rest =>
    match c, rest with
    | '$', '{' :: inner =>
      match reference? inner with
      | some (r, rest) => (r.resolve environment bound).toList ++ expandWithin environment bound fuel rest
      | none => c :: expandWithin environment bound fuel rest
    | _, _ => c :: expandWithin environment bound fuel rest

/-- A text with what its references stand for in their places. -/
def expand (environment : Bindings String) (bound : Bindings (Option String)) (cs : List Char) : String :=
  String.ofList (expandWithin environment bound cs.length cs)

/-- Bind the name of a binding, its value expanded. -/
def bind (environment : Bindings String) (bound : Bindings (Option String)) (b : Binding) : Bindings (Option String) :=
  bound.assign b.name (b.value.map (expand environment bound))

/-- What a file binds in an environment. -/
def read (environment : Bindings String) (text : String) : Bindings (Option String) :=
  (bindings (Text.newlinesOnly text.toList)).foldl (bind environment) []

end EnvironmentFile

end RegulatoryTrees
