import RegulatoryTrees.Pattern.Complaint
import RegulatoryTrees.Pattern.Folding
import RegulatoryTrees.Text.CharacterNames
import RegulatoryTrees.Value.Rendering

/-!
# Reading patterns

The reader goes through a pattern text once, token by token, where a token is a character or a backslash with the character
after it. Flags for the whole pattern can only stand before its first item, so every item is read with the modes that hold
for it. What concerns the finished pattern (the width of what is looked back at) is checked at the end.
-/

namespace RegulatoryTrees

namespace Pattern

/-- The least number of rounds that is too large for a repetition. -/
def repetitionLimit : Nat := 4294967295

/-- The least group number that is too large. -/
def groupLimit : Nat := 1073741823

/-- The least width that is too large to look back at. -/
def lookbehindLimit : Nat := 2147483648

/-- A letter that sets a mode. -/
inductive Flag where
  | ignoreCase
  | locale
  | multiline
  | dotAll
  | verbose
  | ascii
  | template
  | unicode
  deriving DecidableEq

namespace Flag

/-- The flag of a letter. -/
def ofLetter? : Char → Option Flag
  | 'i' => some .ignoreCase
  | 'L' => some .locale
  | 'm' => some .multiline
  | 's' => some .dotAll
  | 'x' => some .verbose
  | 'a' => some .ascii
  | 't' => some .template
  | 'u' => some .unicode
  | _ => none

/-- A flag that chooses the characters that classes are drawn from. -/
def isScript : Flag → Bool
  | .ascii | .locale | .unicode => true
  | _ => false

end Flag

/-- The modes that hold for an item. -/
structure Modes where
  ignoreCase : Bool := false
  multiline : Bool := false
  dotAll : Bool := false
  verbose : Bool := false
  ascii : Bool := false

namespace Modes

/-- Set or clear the mode of a flag. -/
def set (value : Bool) (m : Modes) : Flag → Modes
  | .ignoreCase => { m with ignoreCase := value }
  | .multiline => { m with multiline := value }
  | .dotAll => { m with dotAll := value }
  | .verbose => { m with verbose := value }
  | .ascii => { m with ascii := value }
  | .unicode => { m with ascii := !value }
  | .locale | .template => m

/-- The modes inside a group that sets some flags and clears others. -/
def change (m : Modes) (on off : List Flag) : Modes :=
  off.foldl (set false) (on.foldl (set true) m)

/-- How characters are compared. -/
def fold (m : Modes) : CaseFold :=
  if m.ignoreCase then if m.ascii then .ascii else .unicode else .exact

end Modes

/-- What an item is, as far as the items and signs beside it can tell. -/
inductive ItemKind where
  | anchor
  | repetition
  /-- A single character that is in one of the parts of a set. -/
  | unit (items : List SetItem)
  /-- A single character outside a set, any character, or a reference to a group. -/
  | plain
  | compound
  deriving DecidableEq

/-- An item of a sequence. -/
structure Item where
  kind : ItemKind
  pattern : Pattern
  deriving DecidableEq

/-- The state of the reader. -/
structure Reading where
  rest : List Char
  position : Nat
  /-- The flags set for the whole pattern. -/
  flags : List Flag
  /-- The least and greatest width of each group, absent while the group is open; the first one is the whole pattern. -/
  widths : List (Option (Nat × Nat))
  names : List (String × Nat)
  /-- While something is looked back at: the number of groups before it. -/
  groupsBefore : Option Nat
  /-- Groups asked for by number, each with the position at which it was first asked for. -/
  asked : List (Nat × Nat)

/-- A step of the reader. -/
abbrev Reader := StateT Reading (Except Rejection)

/-- A character, or a backslash with the character after it. -/
inductive Token where
  | plain (c : Char)
  | escaped (c : Char)
  deriving DecidableEq

/-- The text of a token. -/
def Token.text : Token → String
  | .plain c => c.toString
  | .escaped c => String.ofList ['\\', c]

namespace Reader

/-- Refuse the text, the complaint lying a number of characters back. -/
def refuse {α : Type} (complaint : Complaint) (back : Nat) : Reader α := fun s =>
  .error (.malformed complaint (some (s.position - back)))

/-- Refuse the text at a position. -/
def refuseAt {α : Type} (complaint : Complaint) (position : Nat) : Reader α := fun _ =>
  .error (.malformed complaint (some position))

/-- The next token. -/
def peek : Reader (Option Token) := fun s =>
  match s.rest with
  | '\\' :: c :: _ => .ok (some (.escaped c), s)
  | c :: _ => .ok (some (.plain c), s)
  | [] => .ok (none, s)

/-- A backslash may not end the text. -/
def check (s : Reading) : Except Rejection Reading :=
  match s.rest with
  | ['\\'] => .error (.malformed .danglingEscape (some s.position))
  | _ => .ok s

/-- Take the next token. -/
def take : Reader (Option Token) := fun s =>
  match s.rest with
  | '\\' :: c :: rest => do .ok (some (.escaped c), ← check { s with rest, position := s.position + 2 })
  | c :: rest => do .ok (some (.plain c), ← check { s with rest, position := s.position + 1 })
  | [] => .ok (none, s)

/-- Take a character if it is the next token. -/
def accept (c : Char) : Reader Bool := do
  if (← peek) = some (.plain c) then
    let _ ← take
    return true
  else return false

/-- Take up to a number of characters that pass a test. -/
def takeWhile (test : Char → Bool) : Nat → Reader (List Char)
  | 0 => return []
  | n + 1 => do
    match ← peek with
    | some (.plain c) =>
      if test c then
        let _ ← take
        return c :: (← takeWhile test n)
      else return []
    | _ => return []

/-- The position of the next token. -/
def position : Reader Nat := return (← get).position

/-- The number of characters left. -/
def left : Reader Nat := return (← get).rest.length

/-- The tokens up to a terminator, which is taken too. -/
def untilLoop (terminator : Char) (what : String) : Nat → List Char → Reader String
  | 0, _ => refuse .unexpectedEnd 0
  | fuel + 1, done => do
    match ← take with
    | none => if done.isEmpty then refuse (.missingName what) 0 else refuse (.unterminatedName terminator) done.length
    | some (.plain c) =>
      if c = terminator then
        if done.isEmpty then refuse (.missingName what) 1 else return String.ofList done.reverse
      else untilLoop terminator what fuel (c :: done)
    | some (.escaped c) => untilLoop terminator what fuel (c :: '\\' :: done)

/-- A name up to a terminator. -/
def nameUntil (terminator : Char) (what : String) : Reader String := do
  untilLoop terminator what ((← left) + 1) []

end Reader

open Reader

/-! ## Escapes -/

/-- An octal digit. -/
def isOctal (c : Char) : Bool := '0' ≤ c && c ≤ '7'

/-- A hexadecimal digit. -/
def hexValue? (c : Char) : Option Nat :=
  if Text.isAsciiDigit c then some (c.toNat - 48)
  else if 'a' ≤ c && c ≤ 'f' then some (c.toNat - 87)
  else if 'A' ≤ c && c ≤ 'F' then some (c.toNat - 55)
  else none

/-- The value of digits in a base. -/
def numeral (base : Nat) (ds : List Char) : Nat := ds.foldl (fun n c => base * n + (hexValue? c).getD 0) 0

/-- The text of an escape. -/
def escapeText (c : Char) (more : List Char) : String := String.ofList ('\\' :: c :: more)

/-- A code point in a fixed number of hexadecimal digits. -/
def hexEscape (c : Char) (width : Nat) : Reader Nat := do
  let ds ← takeWhile (fun d => (hexValue? d).isSome) width
  let text := escapeText c ds
  if ds.length ≠ width then refuse (.incompleteEscape text) text.length
  else if numeral 16 ds > 0x10FFFF then refuse (.badEscape text) text.length
  else return numeral 16 ds

/-- A code point by the name of its character. -/
def namedEscape : Reader Nat := do
  if !(← accept '{') then refuse .missingBrace 0
  let name ← nameUntil '}' "character name"
  match Text.characterNamed? name with
  | some code => return code
  | none => refuse (.unknownCharacterName name) (name.length + 4)

/-- The code point of an escape in hexadecimal digits or by name. -/
def codeEscape? (c : Char) : Reader (Option Nat) := do
  match c with
  | 'x' => return some (← hexEscape c 2)
  | 'u' => return some (← hexEscape c 4)
  | 'U' => return some (← hexEscape c 8)
  | 'N' => return some (← namedEscape)
  | _ => return none

/-- The control character that a letter stands for, except for the word edge or backspace. -/
def controlEscape? : Char → Option Nat
  | 'a' => some 7
  | 'f' => some 12
  | 'n' => some 10
  | 'r' => some 13
  | 't' => some 9
  | 'v' => some 11
  | '\\' => some 92
  | _ => none

/-- The class that a letter stands for; capitals stand for what is outside it. -/
def classEscape? (ascii : Bool) : Char → Option SetItem
  | 'd' => some (.ofClass .digit ascii false)
  | 'D' => some (.ofClass .digit ascii true)
  | 's' => some (.ofClass .space ascii false)
  | 'S' => some (.ofClass .space ascii true)
  | 'w' => some (.ofClass .word ascii false)
  | 'W' => some (.ofClass .word ascii true)
  | _ => none

/-- The anchor that a letter stands for. -/
def anchorEscape? (ascii : Bool) : Char → Option Anchor
  | 'A' => some .textStart
  | 'Z' => some .textEnd
  | 'b' => some (.wordEdge ascii false)
  | 'B' => some (.wordEdge ascii true)
  | _ => none

/-- An octal escape may not name a code point above 255. -/
def octalValue (text : String) (ds : List Char) : Reader Nat :=
  if numeral 8 ds > 0o377 then refuse (.octalTooLarge text) text.length else return numeral 8 ds

/-- A backslash inside a set. -/
def setEscape (modes : Modes) (c : Char) : Reader SetItem := do
  if c = 'b' then return .point 8
  if let some code := controlEscape? c then return .point code
  if let some item := classEscape? modes.ascii c then return item
  if let some code ← codeEscape? c then return .point code
  if isOctal c then
    let ds ← takeWhile isOctal 2
    return .point (← octalValue (escapeText c ds) (c :: ds))
  if Text.isAsciiDigit c || Text.isAsciiLetter c then refuse (.badEscape (escapeText c [])) 2
  return .point c.toNat

/-- A group that is referred to must be closed and, in something looked back at, lie before all of it. -/
def checkLookbehind (index : Nat) : Reader Unit := do
  let s ← get
  match s.groupsBefore with
  | none => return
  | some before =>
    if (s.widths[index]?.join).isNone then refuse .openGroup 0
    else if before ≤ index then refuse .groupOfSameLookbehind 0

/-- The item of a character that stands for itself. -/
def literalItem (modes : Modes) (code : Nat) : Item :=
  ⟨.unit [.point code], .char (.literal modes.fold false code)⟩

/-- The item of a character set; a set of one character that is not a class is that character. -/
def setItem (modes : Modes) (negated : Bool) (items : List SetItem) : Item :=
  match items.eraseDups with
  | [.point code] =>
    if negated then ⟨.plain, .char (.literal modes.fold true code)⟩ else literalItem modes code
  | items => ⟨if negated then .plain else .unit items, .char (.ofSet modes.fold negated items)⟩

/-- A reference to a group by a number that begins with the given digit, or three octal digits. -/
def numberEscape (modes : Modes) (c : Char) : Reader Item := do
  let more ← takeWhile Text.isAsciiDigit 1
  if isOctal c && !more.isEmpty && more.all isOctal then
    let last ← takeWhile isOctal 1
    if !last.isEmpty then
      let ds := c :: more ++ last
      return literalItem modes (← octalValue (String.ofList ('\\' :: ds)) ds)
  let ds := c :: more
  let index := numeral 10 ds
  let s ← get
  if s.widths.length ≤ index then refuse (.invalidGroup index) ds.length
  if (s.widths[index]?.join).isNone then refuse .openGroup (ds.length + 1)
  checkLookbehind index
  return ⟨.plain, .sameAs index modes.fold⟩

/-- A backslash outside sets. -/
def itemEscape (modes : Modes) (c : Char) : Reader Item := do
  if let some place := anchorEscape? modes.ascii c then return ⟨.anchor, .anchor place⟩
  if let some item := classEscape? modes.ascii c then return setItem modes false [item]
  if let some code := controlEscape? c then return literalItem modes code
  if let some code ← codeEscape? c then return literalItem modes code
  if c = '0' then
    let ds ← takeWhile isOctal 2
    return literalItem modes (numeral 8 ds)
  if Text.isAsciiDigit c then return ← numberEscape modes c
  if Text.isAsciiLetter c then refuse (.badEscape (escapeText c [])) 2
  return literalItem modes c.toNat

/-! ## Sets -/

/-- One end of a range or a part of its own. -/
def setPart (modes : Modes) : Token → Reader SetItem
  | .escaped c => setEscape modes c
  | .plain c => return .point c.toNat

/-- The parts of a set up to its closing bracket; `opening` is the position of the opening one. -/
def setParts (modes : Modes) (opening : Nat) : Nat → List SetItem → Reader (List SetItem)
  | 0, _ => refuseAt .unterminatedSet opening
  | fuel + 1, done => do
    match ← take with
    | none => refuseAt .unterminatedSet opening
    | some token =>
      if token = .plain ']' && !done.isEmpty then return done
      let first ← setPart modes token
      if !(← accept '-') then setParts modes opening fuel (done ++ [first])
      else
        match ← take with
        | none => refuseAt .unterminatedSet opening
        | some (.plain ']') => return done ++ [first, .point '-'.toNat]
        | some that =>
          let last ← setPart modes that
          let complaint := Complaint.badRange token.text that.text
          let size := token.text.length + 1 + that.text.length
          match first, last with
          | .point low, .point high =>
            if high < low then refuse complaint size
            else setParts modes opening fuel (done ++ [.range low high])
          | _, _ => refuse complaint size

/-- A set after its opening bracket. -/
def bracketed (modes : Modes) : Reader Item := do
  let opening := (← position) - 1
  let negated ← accept '^'
  return setItem modes negated (← setParts modes opening ((← left) + 1) [])

/-! ## Repetitions -/

/-- The value of digits, unless there are too many. -/
def count (ds : List Char) : Reader Nat := fun s =>
  if ds.length > Decimal.digitLimit then .error (.numeralTooLong ds.length) else .ok (numeral 10 ds, s)

/-- The number of rounds that digits ask for. -/
def rounds (ds : List Char) : Reader Nat := do
  let n ← count ds
  if repetitionLimit ≤ n then fun _ => .error .repetitionTooLarge else return n

/-- The bounds between braces after the opening one, or nothing if what follows is no pair of bounds. -/
def bounds? : Reader (Option (Nat × Option Nat)) := do
  if (← peek) = some (.plain '}') then return none
  let here ← get
  let low ← takeWhile Text.isAsciiDigit (← left)
  let high ← if ← accept ',' then takeWhile Text.isAsciiDigit (← left) else pure low
  if !(← accept '}') then
    set here
    return none
  let least ← if low.isEmpty then pure 0 else rounds low
  let most ← if high.isEmpty then pure none else some <$> rounds high
  if most.any (· < least) then refuseAt .leastAboveMost here.position
  return some (least, most)

/-- The bounds that a repetition sign stands for, the sign having been taken. -/
def signBounds? (sign : Char) : Reader (Option (Nat × Option Nat)) :=
  match sign with
  | '?' => return some (0, some 1)
  | '*' => return some (0, none)
  | '+' => return some (1, none)
  | _ => bounds?

/-- The way a repetition chooses its rounds, by the sign after it. -/
def repetitionMode : Reader Repetition := do
  if ← accept '?' then return .lazy
  if ← accept '+' then return .possessive
  return .greedy

/-- Repeat the last of the items read, which come last one first; `sign` is the position after the sign's first character. -/
def repeatLast (sign : Nat) (least : Nat) (most : Option Nat) : List Item → Reader (List Item)
  | [] => refuseAt .nothingToRepeat (sign - 1)
  | item :: before => do
    match item.kind with
    | .anchor => refuseAt .nothingToRepeat (sign - 1)
    | .repetition => refuseAt .multipleRepeat (sign - 1)
    | _ =>
      let mode ← repetitionMode
      return ⟨.repetition, .repeated mode least most item.pattern⟩ :: before

/-! ## Widths -/

/-- The widths of a pattern, counted no further than repetitions go: the greatest width may reach the repetition limit, the
least one stays below it. -/
def bounded (least most : Nat) : Nat × Nat := (min least (repetitionLimit - 1), min most repetitionLimit)

/-- The least and greatest number of characters that a pattern matches. -/
def width (groups : List (Option (Nat × Nat))) : Pattern → Nat × Nat
  | .empty | .anchor _ | .ahead _ _ | .behind _ _ _ _ => (0, 0)
  | .char _ => (1, 1)
  | .sequence a b =>
    let (x, y) := (width groups a, width groups b)
    bounded (x.1 + y.1) (x.2 + y.2)
  | .either a b | .ifGroup _ a b =>
    let (x, y) := (width groups a, width groups b)
    (min x.1 y.1, max x.2 y.2)
  | .repeated _ least most body =>
    let x := width groups body
    bounded (x.1 * least) (x.2 * most.getD repetitionLimit)
  | .group _ body | .atomic body => width groups body
  | .sameAs index _ => (groups[index]?.join).getD (0, 0)

/-! ## Groups and flags -/

/-- Open a new group; a name may be given once only. -/
def openGroup (name : Option String) : Reader Nat := do
  let s ← get
  let index := s.widths.length
  match name with
  | none => set { s with widths := s.widths ++ [none] }
  | some name =>
    match s.names.lookup name with
    | some previous => refuse (.redefinedGroup name index previous) (name.length + 1)
    | none => set { s with widths := s.widths ++ [none], names := (name, index) :: s.names }
  return index

/-- Close a group and record its width. -/
def closeGroup (index : Nat) (body : Pattern) : Reader Unit :=
  modify fun s => { s with widths := s.widths.set index (some (width s.widths body)) }

/-- A name must be an identifier. -/
def checkName (name : String) : Reader Unit := do
  if !Text.isIdentifier name.toList then refuse (.badGroupName name) (name.length + 1)

/-- Digits of any script with single underscores between them. -/
def digitsWithUnderscores? : List Char → Option (List Nat)
  | [] => none
  | [c] => (Text.digitValue? c).map ([·])
  | c :: '_' :: rest => do some ((← Text.digitValue? c) :: (← digitsWithUnderscores? rest))
  | c :: rest => do some ((← Text.digitValue? c) :: (← digitsWithUnderscores? rest))

/-- A group number as it may be written: blanks around it, a sign, digits of any script. -/
def groupNumber? (text : String) : Option Nat :=
  let trimmed := ((text.toList.dropWhile Text.isBlank).reverse.dropWhile Text.isBlank).reverse
  let (negative, unsigned) := match trimmed with
    | '-' :: rest => (true, rest)
    | '+' :: rest => (false, rest)
    | rest => (false, rest)
  match digitsWithUnderscores? unsigned with
  | some ds =>
    let n := ds.foldl (fun n d => 10 * n + d) 0
    if ds.length > Decimal.digitLimit || (negative && n ≠ 0) then none else some n
  | none => none

/-- The group that a condition asks for, by name or number. -/
def askedGroup (name : String) : Reader Nat := do
  let back := name.length + 1
  if Text.isIdentifier name.toList then
    match (← get).names.lookup name with
    | some index => return index
    | none => refuse (.unknownGroupName name) back
  else
    match groupNumber? name with
    | none => refuse (.badGroupName name) back
    | some index =>
      if index = 0 then refuse .badGroupNumber back
      if groupLimit ≤ index then refuse (.invalidGroup index) back
      modify fun s =>
        if s.asked.any (·.1 == index) then s else { s with asked := s.asked ++ [(index, s.position - back)] }
      return index

/-- The flag that a token names, or the complaint that it names none, one for letters and one for all else. -/
def flagOf (other : Complaint) (token : Token) : Reader Flag :=
  match token with
  | .plain c =>
    match Flag.ofLetter? c with
    | some flag => return flag
    | none => refuse (if Text.isAlphabetic c then .unknownFlag else other) 1
  | .escaped _ => refuse other 2

/-- Flags that are set, from the given one on, and the sign after them. -/
def flagsOn : Nat → Flag → List Flag → Reader (List Flag × Char)
  | 0, _, _ => refuse .missingFlagEnd 0
  | fuel + 1, flag, done => do
    if flag = .locale then refuse .localeFlag 0
    let on := done ++ [flag]
    if flag.isScript && on.any (fun f => f.isScript && f != flag) then refuse .incompatibleFlags 0
    match ← take with
    | none => refuse .missingFlagEnd 0
    | some token =>
      match token with
      | .plain ')' => return (on, ')')
      | .plain '-' => return (on, '-')
      | .plain ':' => return (on, ':')
      | token => flagsOn fuel (← flagOf .missingFlagEnd token) on

/-- Flags that are cleared, from the given one on, up to the colon. -/
def flagsOff : Nat → Flag → List Flag → Reader (List Flag)
  | 0, _, _ => refuse .missingColon 0
  | fuel + 1, flag, done => do
    if flag.isScript then refuse .scriptFlagOff 0
    let off := done ++ [flag]
    match ← take with
    | none => refuse .missingColon 0
    | some (.plain ':') => return off
    | some token => flagsOff fuel (← flagOf .missingColon token) off

/-- The flags of a group, set and cleared, or nothing if they are set for the whole pattern. -/
def groupFlags (first : Char) : Reader (Option (List Flag × List Flag)) := do
  let fuel := (← left) + 1
  let (on, sign) ← match Flag.ofLetter? first with
    | some flag => flagsOn fuel flag []
    | none => pure ([], first)
  if sign = ')' then
    modify fun s => { s with flags := s.flags ++ on }
    return none
  if on.contains .template then refuse .wholePatternFlagOn 1
  if sign = '-' then
    match ← take with
    | none => refuse .missingFlag 0
    | some token =>
      let off ← flagsOff fuel (← flagOf .missingFlag token) []
      if off.contains .template then refuse .wholePatternFlagOff 1
      if on.any off.contains then refuse .flagOnAndOff 1
      return some (on, off)
  else return some (on, [])

/-- The modes of the whole pattern. -/
def wholeModes : Reader Modes := return ({} : Modes).change (← get).flags []

/-- What a group that begins with a question mark is. -/
inductive Opening where
  | comment
  | item (item : Item)
  | wholeFlags
  | capturing (name : Option String)
  | plain (modes : Modes)
  | atomic
  | look (behind negated : Bool)
  | condition (group : Nat)

/-- A reference to a group by name, after its opening. -/
def nameReference (modes : Modes) : Reader Opening := do
  let name ← nameUntil ')' "group name"
  checkName name
  let s ← get
  match s.names.lookup name with
  | none => refuse (.unknownGroupName name) (name.length + 1)
  | some index =>
    if (s.widths[index]?.join).isNone then refuse .openGroup (name.length + 1)
    checkLookbehind index
    return .item ⟨.plain, .sameAs index modes.fold⟩

/-- Skip a comment up to its closing parenthesis; `opening` is the position of the opening one. -/
def skipComment (opening : Nat) : Nat → Reader Unit
  | 0 => refuseAt .unterminatedComment opening
  | fuel + 1 => do
    match ← peek with
    | none => refuseAt .unterminatedComment opening
    | some token =>
      let _ ← take
      if token = .plain ')' then return else skipComment opening fuel

/-- What stands after an opening parenthesis and a question mark. -/
def extension (modes : Modes) (opening : Nat) : Reader Opening := do
  match ← take with
  | none => refuse .unexpectedEnd 0
  | some (.plain 'P') =>
    if ← accept '<' then
      let name ← nameUntil '>' "group name"
      checkName name
      return .capturing (some name)
    else if ← accept '=' then nameReference modes
    else
      match ← take with
      | none => refuse .unexpectedEnd 0
      | some token => refuse (.unknownExtension ("P" ++ token.text)) (token.text.length + 2)
  | some (.plain ':') => return .plain modes
  | some (.plain '#') =>
    skipComment opening ((← left) + 1)
    return .comment
  | some (.plain '=') => return .look false false
  | some (.plain '!') => return .look false true
  | some (.plain '<') =>
    match ← take with
    | none => refuse .unexpectedEnd 0
    | some (.plain '=') => return .look true false
    | some (.plain '!') => return .look true true
    | some token => refuse (.unknownExtension ("<" ++ token.text)) (token.text.length + 2)
  | some (.plain '(') =>
    let name ← nameUntil ')' "group name"
    let index ← askedGroup name
    checkLookbehind index
    return .condition index
  | some (.plain '>') => return .atomic
  | some token =>
    match token with
    | .plain c =>
      if c = '-' || (Flag.ofLetter? c).isSome then
        match ← groupFlags c with
        | none => return .wholeFlags
        | some (on, off) => return .plain (modes.change on off)
      else refuse (.unknownExtension token.text) (token.text.length + 1)
    | .escaped _ => refuse (.unknownExtension token.text) (token.text.length + 1)

/-! ## Sequences and alternatives -/

/-- A blank between items in verbose mode. -/
def isVerboseBlank (c : Char) : Bool := c == ' ' || (9 ≤ c.toNat && c.toNat ≤ 13)

/-- Skip a verbose comment up to the end of its line. -/
def skipLine : Nat → Reader Unit
  | 0 => return
  | fuel + 1 => do
    match ← take with
    | none => return
    | some token => if token = .plain '\n' then return else skipLine fuel

/-- Items that all alternatives begin with are moved in front of them, as long as they have no parts. -/
def commonStart : Nat → List (List Item) → List Item × List (List Item)
  | 0, branches => ([], branches)
  | fuel + 1, branches =>
    match branches with
    | (item :: _) :: _ =>
      if branches.all (fun b => b.head? == some item) && item.kind != .compound && item.kind != .repetition then
        let (start, rest) := commonStart fuel (branches.map List.tail)
        (item :: start, rest)
      else ([], branches)
    | _ => ([], branches)

/-- The parts of the set that alternatives of one character each amount to. -/
def unionOf? : List (List Item) → Option (List SetItem)
  | [] => some []
  | [⟨.unit items, _⟩] :: rest => (items ++ ·) <$> unionOf? rest
  | _ => none

/-- The pattern of alternatives. Alternatives that are all single characters are one set. -/
def ofBranches (modes : Modes) : List (List Item) → Pattern
  | [branch] => .ofSequence (branch.map Item.pattern)
  | branches =>
    let (start, rest) := commonStart (branches.foldl (fun n branch => n + branch.length) 1) branches
    let choice := match unionOf? rest with
      | some items => .char (.ofSet modes.fold false items.eraseDups)
      | none => .ofAlternatives (rest.map fun branch => .ofSequence (branch.map Item.pattern))
    .ofSequence (start.map Item.pattern ++ [choice])

/-- The closing parenthesis of a group that was opened at a position. -/
def close (opening : Nat) : Reader Unit := do
  if !(← accept ')') then refuseAt .unterminatedGroup opening

mutual

/-- Alternatives up to a closing parenthesis or the end; `top` says that they are the whole pattern. -/
def alternatives (fuel : Nat) (modes : Modes) (top : Bool) (done : List (List Item)) : Reader Pattern :=
  match fuel with
  | 0 => refuse .unexpectedEnd 0
  | fuel + 1 => do
    let branch ← items fuel modes (top && done.isEmpty) []
    let modes ← if top then wholeModes else pure modes
    let branches := done ++ [branch]
    if ← accept '|' then alternatives fuel modes top branches else return ofBranches modes branches

/-- Items up to a bar, a closing parenthesis or the end, after those already read, the last one first; `first` says that
flags for the whole pattern may still come. -/
def items (fuel : Nat) (modes : Modes) (first : Bool) (done : List Item) : Reader (List Item) :=
  match fuel with
  | 0 => refuse .unexpectedEnd 0
  | fuel + 1 => do
    match ← peek with
    | none => return done.reverse
    | some (.plain '|') => return done.reverse
    | some (.plain ')') => return done.reverse
    | some token =>
      let _ ← take
      match token with
      | .escaped c => items fuel modes first ((← itemEscape modes c) :: done)
      | .plain c =>
        if modes.verbose && isVerboseBlank c then items fuel modes first done
        else if modes.verbose && c = '#' then
          skipLine ((← left) + 1)
          items fuel modes first done
        else
          match c with
          | '[' => items fuel modes first ((← bracketed modes) :: done)
          | '.' => items fuel modes first (⟨.plain, .char (if modes.dotAll then .any else .anyButNewline)⟩ :: done)
          | '^' => items fuel modes first (⟨.anchor, .anchor (if modes.multiline then .lineStart else .textStart)⟩ :: done)
          | '$' => items fuel modes first (⟨.anchor, .anchor (if modes.multiline then .lineEnd else .lastLineEnd)⟩ :: done)
          | '(' =>
            let opening := (← position) - 1
            let kind ← if ← accept '?' then extension modes opening else pure (.capturing none)
            match kind with
            | .comment => items fuel modes first done
            | .wholeFlags =>
              if !first || !done.isEmpty then refuseAt .lateGlobalFlags opening
              items fuel (← wholeModes) first done
            | .item item => items fuel modes first (item :: done)
            | kind => items fuel modes first ((← groupBody fuel modes opening kind) :: done)
          | _ =>
            if c = '?' || c = '*' || c = '+' || c = '{' then
              let sign ← position
              match ← signBounds? c with
              | none => items fuel modes first (literalItem modes c.toNat :: done)
              | some (least, most) => items fuel modes first (← repeatLast sign least most done)
            else items fuel modes first (literalItem modes c.toNat :: done)

/-- The rest of a group whose opening has been read. -/
def groupBody (fuel : Nat) (modes : Modes) (opening : Nat) (kind : Opening) : Reader Item :=
  match fuel with
  | 0 => refuse .unexpectedEnd 0
  | fuel + 1 => do
    match kind with
    | .capturing name =>
      let index ← openGroup name
      let body ← alternatives fuel modes false []
      close opening
      closeGroup index body
      return ⟨.compound, .group index body⟩
    | .plain modes =>
      let body ← alternatives fuel modes false []
      close opening
      return ⟨.compound, body⟩
    | .atomic =>
      let body ← alternatives fuel modes false []
      close opening
      return ⟨.compound, .atomic body⟩
    | .look back negated =>
      let outer := (← get).groupsBefore
      if back && outer.isNone then modify fun s => { s with groupsBefore := some s.widths.length }
      let body ← alternatives fuel modes false []
      if back && outer.isNone then modify fun s => { s with groupsBefore := none }
      close opening
      if back then
        let (shortest, longest) := width (← get).widths body
        return ⟨.compound, .behind negated shortest longest body⟩
      else return ⟨.compound, .ahead negated body⟩
    | .condition index =>
      let present ← items fuel modes false []
      let absent ← if ← accept '|' then items fuel modes false [] else pure []
      if (← peek) = some (.plain '|') then refuse .tooManyBranches 0
      close opening
      return ⟨.compound, .ifGroup index (.ofSequence (present.map Item.pattern)) (.ofSequence (absent.map Item.pattern))⟩
    | .comment | .wholeFlags => return ⟨.compound, .empty⟩
    | .item item => return item

end

/-! ## Whole patterns -/

/-- The first complaint about a finished pattern: what is looked back at must have one width, and a template may not repeat. -/
def lateComplaint? (template : Bool) : Pattern → Option Complaint
  | .empty | .char _ | .anchor _ | .sameAs _ _ => none
  | .sequence a b | .either a b | .ifGroup _ a b => (lateComplaint? template a).or (lateComplaint? template b)
  | .repeated mode _ _ body => if template then some (.repetitionInTemplate mode) else lateComplaint? template body
  | .group _ body | .atomic body | .ahead _ body => lateComplaint? template body
  | .behind _ shortest longest body =>
    if shortest ≠ longest then some .variableLookbehind
    else lateComplaint? template body

/-- Something is looked back at that is too wide. -/
def looksTooFarBack : Pattern → Bool
  | .empty | .char _ | .anchor _ | .sameAs _ _ => false
  | .sequence a b | .either a b | .ifGroup _ a b => looksTooFarBack a || looksTooFarBack b
  | .repeated _ _ _ body | .group _ body | .atomic body | .ahead _ body => looksTooFarBack body
  | .behind _ shortest _ body => lookbehindLimit ≤ shortest || looksTooFarBack body

/-- Read a whole pattern. -/
def whole : Reader Pattern := do
  let p ← alternatives (4 * (← left) + 8) (← wholeModes) true []
  let s ← get
  if s.flags.contains .ascii && s.flags.contains .unicode then fun _ => .error .conflictingScripts
  if (← peek).isSome then refuse .unbalancedParenthesis 0
  match s.asked.find? fun (index, _) => s.widths.length ≤ index with
  | some (index, position) => refuseAt (.invalidGroup index) position
  | none =>
    match lateComplaint? (s.flags.contains .template) p with
    | some complaint => fun _ => .error (.malformed complaint none)
    | none => if looksTooFarBack p then fun _ => .error .lookbehindTooWide else return p

/-- The pattern that a text is under some flags. -/
def readWith (flags : List Flag) (text : String) : Except Rejection Pattern := do
  let s ← Reader.check ⟨text.toList, 0, flags, [none], [], none, []⟩
  let (p, _) ← whole.run s
  return p

/-- The pattern that a text is. -/
def read (text : String) : Except Rejection Pattern := readWith [] text

/-- The pattern that a text is where case does not matter. -/
def readIgnoringCase (text : String) : Except Rejection Pattern := readWith [.ignoreCase] text

end Pattern

end RegulatoryTrees
