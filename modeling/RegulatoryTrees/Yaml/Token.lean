import RegulatoryTrees.Yaml.ScalarText

/-!
# YAML tokens

The signs, scalars and collections that a text is made of. Where a block begins or ends is told from the indentation. That a
scalar was a key shows only at the colon after it, so a place that may turn out to be the beginning of a key is remembered,
and the token for the key is put there afterwards.
-/

namespace RegulatoryTrees

namespace Yaml

/-- A directive at the beginning of a document. -/
inductive Directive where
  | version (major minor : Nat)
  | tagHandle (handle beginning : String)
  | unknown
  deriving DecidableEq

/-- A token. -/
inductive Token where
  | directive (d : Directive)
  | documentStart
  | documentEnd
  | blockSequence
  | blockMapping
  | blockEnd
  | flowSequence
  | flowMapping
  | flowSequenceEnd
  | flowMappingEnd
  | key
  | value
  | blockEntry
  | flowEntry
  | alias (name : String)
  | anchor (name : String)
  /-- A tag: a handle that stands for the beginning of its name, and the rest of the name. -/
  | tag (handle : Option String) (suffix : String)
  | scalar (text : String) (plain : Bool)
  deriving DecidableEq

/-- A place that may turn out to be the beginning of a key: the depth of brackets and the number of tokens before it, where it
is, and whether nothing but a key may stand there. -/
structure PendingKey where
  depth : Nat
  position : Nat
  index : Nat
  line : Nat
  column : Nat
  needed : Bool

/-- The greatest number of characters of a key that is not marked. -/
def keyLimit : Nat := 1024

/-- A key that is not marked lies on one line and is not too long. -/
def PendingKey.isStale (k : PendingKey) (c : Cursor) : Bool := k.line != c.line || c.index - k.index > keyLimit

/-- The state of the lexer. -/
structure Lexer where
  cursor : Cursor
  /-- The depth of brackets. -/
  depth : Nat := 0
  /-- The tokens so far, the latest one first. -/
  tokens : List Token := []
  /-- Their number. -/
  count : Nat := 0
  /-- The column of the block around the cursor, below zero outside of all blocks. -/
  indent : Int := -1
  /-- The columns of the blocks further out, the nearest one first. -/
  outer : List Int := []
  /-- A key may begin here. -/
  keyAllowed : Bool := true
  pending : List PendingKey := []

/-- The state after a further token. -/
def Lexer.push (t : Token) (s : Lexer) : Lexer := { s with tokens := t :: s.tokens, count := s.count + 1 }

/-- A step of the lexer. -/
abbrev Lex := StateT Lexer (Except Failure)

namespace Lex

/-- Give up. -/
def refuse {α : Type} : Lex α := throw .malformed

/-- The place reached. -/
def cursor : Lex Cursor := return (← get).cursor

/-- Go to a place. -/
def moveTo (c : Cursor) : Lex Unit := modify fun s => { s with cursor := c }

/-- Go some characters further. -/
def advance (n : Nat) : Lex Unit := modify fun s => { s with cursor := s.cursor.skip n }

/-- Add a token. -/
def emit (t : Token) : Lex Unit := modify (·.push t)

/-- Say whether a key may begin here. -/
def allowKey (allowed : Bool) : Lex Unit := modify fun s => { s with keyAllowed := allowed }

/-- Blocks have no meaning inside brackets. -/
def inFlow : Lex Bool := return 0 < (← get).depth

/-- Put a token behind the first `position` tokens. -/
def insertAt (position : Nat) (t : Token) : Lex Unit := modify fun s =>
  let later := s.count - position
  { s with tokens := s.tokens.take later ++ t :: s.tokens.drop later, count := s.count + 1 }

/-! ## Keys -/

/-- Places too far back to be the beginning of a key are forgotten. -/
def dropStaleKeys : Lex Unit := do
  let s ← get
  if s.pending.any fun k => k.isStale s.cursor && k.needed then refuse
  set { s with pending := s.pending.filter fun k => !k.isStale s.cursor }

/-- The place remembered at the present depth is no key. -/
def dropKey : Lex Unit := do
  let s ← get
  if s.pending.any fun k => k.depth == s.depth && k.needed then refuse
  set { s with pending := s.pending.filter (·.depth != s.depth) }

/-- A key may begin here. -/
def rememberKey : Lex Unit := do
  if (← get).keyAllowed then
    dropKey
    modify fun s =>
      let c := s.cursor
      let needed := s.depth == 0 && s.indent == c.column
      { s with pending := ⟨s.depth, s.count, c.index, c.line, c.column, needed⟩ :: s.pending }

/-! ## Blocks -/

/-- Close the blocks that lie further in than a column. -/
def closeBlocks (column : Int) : Lex Unit := modify fun s => go s.outer s
where
  /-- Close blocks of which the outer columns are given. -/
  go : List Int → Lexer → Lexer
    | [], s => s
    | next :: outer, s =>
      if column < s.indent then go outer { s.push .blockEnd with indent := next, outer := outer }
      else s

/-- Begin a block at a column unless it is the column of the present one; says whether a block begins. -/
def openBlock (column : Nat) : Lex Bool := do
  let s ← get
  if s.indent < column then
    set { s with indent := (column : Int), outer := s.indent :: s.outer }
    return true
  else return false

/-- Outside brackets, begin a block here if need be; a key must be allowed. -/
def enterBlock (opening : Token) : Lex Unit := do
  if !(← inFlow) then
    if !(← get).keyAllowed then refuse
    if ← openBlock (← cursor).column then emit opening

/-! ## Tokens of several characters -/

/-- A character of a name. -/
def isNameCharacter (c : Char) : Bool := Text.isAsciiDigit c || Text.isAsciiLetter c || c == '-' || c == '_'

/-- A name, which must not be empty. -/
def name : Lex String := do
  let (cs, c) := (← cursor).spanWhile isNameCharacter
  if cs.isEmpty then refuse
  moveTo c
  return String.ofList cs

/-- The name after the sign of an anchor or alias. -/
def anchorName : Lex String := do
  advance 1
  let s ← name
  let c ← cursor
  let ends := c.gapAt 0 || c.sees fun ch => "?:,]\x7d%@`".toList.contains ch
  if !ends then refuse
  return s

/-- A handle of tags: an exclamation mark, or a name between two. -/
def tagHandle : Lex String := do
  let c ← cursor
  if !c.sees (· == '!') then refuse
  let (cs, d) := c.next.spanWhile isNameCharacter
  if d.sees (· == '!') then
    moveTo d.next
    return String.ofList ('!' :: cs ++ ['!'])
  else if cs.isEmpty && d.sees (· == ' ') then
    moveTo d
    return "!"
  else refuse

/-- A character of the name of a tag. -/
def isTagCharacter (c : Char) : Bool :=
  Text.isAsciiDigit c || Text.isAsciiLetter c || "-;/?:@&=+$,_.!~*'()[]".toList.contains c

/-- Bytes written after percent signs. -/
def escapedBytes : List Char → Except Failure (List UInt8)
  | '%' :: rest =>
    match rest with
    | a :: b :: rest =>
      match Json.hexNumber? [a, b] with
      | some n => (UInt8.ofNat n :: ·) <$> escapedBytes rest
      | none => .error .malformed
    | _ => .error .malformed
  | _ => .ok []

/-- The name of a tag from here on, percent signs resolved. -/
def tagText (fuel : Nat) : Lex String :=
  match fuel with
  | 0 => refuse
  | fuel + 1 => do
    let (cs, c) := (← cursor).spanWhile isTagCharacter
    let begun := String.ofList cs
    if c.sees (· == '%') then
      let bytes ← escapedBytes c.rest
      match String.fromUTF8? (ByteArray.mk bytes.toArray) with
      | none => refuse
      | some s =>
        moveTo (c.skip (3 * bytes.length))
        return begun ++ s ++ (← tagText fuel)
    else
      moveTo c
      return begun

/-- The name of a tag, which must not be empty. -/
def tagName : Lex String := do
  let c ← cursor
  if !c.sees fun ch => isTagCharacter ch || ch == '%' then refuse
  tagText (c.rest.length + 1)

/-- A tag. -/
def tag : Lex Token := do
  let c ← cursor
  let t ← if c.peek? 1 = some '<' then do
      advance 2
      let s ← tagName
      let d ← cursor
      if !d.sees (· == '>') then refuse
      advance 1
      pure (Token.tag none s)
    else if c.gapAt 1 then do
      advance 1
      pure (Token.tag none "!")
    else do
      let word := c.next.rest.takeWhile fun ch => ch != ' ' && !isBreak ch
      let handle ← if word.contains '!' then tagHandle else do
        advance 1
        pure "!"
      pure (Token.tag (some handle) (← tagName))
  if !(← cursor).atWordEnd then refuse
  return t

/-- A number of a version. -/
def versionNumber : Lex Nat := do
  let (ds, c) := (← cursor).spanWhile Text.isAsciiDigit
  if ds.isEmpty then refuse
  moveTo c
  match Decimal.read ds with
  | .ok n => return n
  | .error e => throw (.numeralTooLong e.digits)

/-- Skip spaces. -/
def skipSpaces : Lex Unit := do moveTo (← cursor).skipSpaces

/-- A directive, up to the end of its line. -/
def directive : Lex Directive := do
  advance 1
  let kind ← name
  if !(← cursor).atWordEnd then refuse
  let d ← match kind with
    | "YAML" => do
      skipSpaces
      let major ← versionNumber
      if !(← cursor).sees (· == '.') then refuse
      advance 1
      let minor ← versionNumber
      if !(← cursor).atWordEnd then refuse
      pure (Directive.version major minor)
    | "TAG" => do
      skipSpaces
      let handle ← tagHandle
      if !(← cursor).sees (· == ' ') then refuse
      skipSpaces
      let beginning ← tagName
      if !(← cursor).atWordEnd then refuse
      pure (Directive.tagHandle handle beginning)
    | _ => do
      moveTo ((← cursor).skipWhile (!isBreak ·))
      pure Directive.unknown
  moveTo (← ignoredLine (← cursor))
  return d

/-! ## The next token -/

/-- Skip spaces, comments and line ends; after a line end a key may begin, unless inside brackets. -/
def skipToToken (fuel : Nat) : Lex Unit :=
  match fuel with
  | 0 => pure ()
  | fuel + 1 => do
    let c := (← cursor).skipSpaces.skipComment
    match c.lineBreak with
    | ([], _) => moveTo c
    | (_, d) =>
      moveTo d
      if !(← inFlow) then allowKey true
      skipToToken fuel

/-- Add a token of one character. -/
def sign (t : Token) : Lex Unit := do
  emit t
  advance 1

/-- Leave all blocks before what stands between documents. -/
def leaveDocument : Lex Unit := do
  closeBlocks (-1)
  dropKey
  allowKey false

/-- The opening bracket of a collection, which may be a key. -/
def openFlow (t : Token) : Lex Unit := do
  rememberKey
  modify fun s => { s with depth := s.depth + 1 }
  allowKey true
  sign t

/-- The closing bracket of a collection. -/
def closeFlow (t : Token) : Lex Unit := do
  dropKey
  if !(← inFlow) then refuse
  modify fun s => { s with depth := s.depth - 1 }
  allowKey false
  sign t

/-- The hyphen of an item of a block. -/
def blockEntry : Lex Unit := do
  enterBlock .blockSequence
  allowKey true
  dropKey
  sign .blockEntry

/-- The question mark of a key. -/
def markedKey : Lex Unit := do
  enterBlock .blockMapping
  allowKey !(← inFlow)
  dropKey
  sign .key

/-- The colon of a value. What stands before it is a key if its beginning is still remembered. -/
def value : Lex Unit := do
  let s ← get
  match s.pending.find? (·.depth == s.depth) with
  | some k =>
    set { s with pending := s.pending.filter (·.depth != s.depth) }
    insertAt k.position .key
    if !(← inFlow) then
      if ← openBlock k.column then insertAt k.position .blockMapping
    allowKey false
  | none =>
    enterBlock .blockMapping
    allowKey !(← inFlow)
    dropKey
  sign .value

/-- A token that may be a key, after which no key may begin. -/
def possibleKey (read : Lex Token) : Lex Unit := do
  rememberKey
  allowKey false
  let t ← read
  emit t

/-- A scalar between quotes. -/
def quoted (double : Bool) : Lex Token := do
  let (cs, c) ← quotedText double (← cursor)
  moveTo c
  return .scalar (String.ofList cs) false

/-- A plain scalar. A key may begin after it if its end is on another line. -/
def plain : Lex Token := do
  let (cs, crossed, c) := plainText (← inFlow) ((← get).indent + 1) (← cursor)
  moveTo c
  if crossed then allowKey true
  return .scalar (String.ofList cs) true

/-- A block scalar. -/
def block (foldLines : Bool) : Lex Unit := do
  allowKey true
  dropKey
  let (cs, c) ← blockText foldLines (← get).indent (← cursor)
  moveTo c
  emit (.scalar (String.ofList cs) false)

/-- A plain scalar may begin here. -/
def startsPlain (inFlow : Bool) (ch : Char) (c : Cursor) : Bool :=
  !(isGap ch || "-?:,[]\x7b\x7d#&*!|>'\"%@`".toList.contains ch) ||
    (!c.gapAt 1 && (ch == '-' || (!inFlow && (ch == '?' || ch == ':'))))

/-- The next token, of which the first character is given. -/
def token (ch : Char) : Lex Unit := do
  let c ← cursor
  let inFlow ← inFlow
  if c.column = 0 && ch = '%' then
    leaveDocument
    emit (.directive (← directive))
  else if c.column = 0 && c.atSeparator then
    leaveDocument
    emit (if ch = '-' then .documentStart else .documentEnd)
    advance 3
  else
    match ch with
    | '[' => openFlow .flowSequence
    | '{' => openFlow .flowMapping
    | ']' => closeFlow .flowSequenceEnd
    | '}' => closeFlow .flowMappingEnd
    | ',' =>
      allowKey true
      dropKey
      sign .flowEntry
    | '*' => possibleKey (return .alias (← anchorName))
    | '&' => possibleKey (return .anchor (← anchorName))
    | '!' => possibleKey tag
    | '\'' => possibleKey (quoted false)
    | '"' => possibleKey (quoted true)
    | _ =>
      if ch = '-' && c.gapAt 1 then blockEntry
      else if ch = '?' && (inFlow || c.gapAt 1) then markedKey
      else if ch = ':' && (inFlow || c.gapAt 1) then value
      else if (ch = '|' || ch = '>') && !inFlow then block (ch == '>')
      else if startsPlain inFlow ch c then possibleKey plain
      else refuse

/-- Go on to what stands next: a token, or the end of the text, which ends all blocks. Says whether it is a token. -/
def step : Lex Bool := do
  skipToToken ((← cursor).rest.length + 1)
  dropStaleKeys
  if !(← inFlow) then closeBlocks (← cursor).column
  match (← cursor).rest with
  | [] =>
    if !(← inFlow) then closeBlocks (-1)
    dropKey
    return false
  | ch :: _ =>
    token ch
    return true

end Lex

/-- The tokens of a text, or those before something that is none. -/
structure TokenList where
  tokens : List Token
  obstacle : Option Failure

namespace Lexer

/-- The tokens that stay as they are whatever follows: those before the first place that may still turn out to be a key. -/
def settled (s : Lexer) : List Token :=
  let pending := s.pending.filter fun k => !k.isStale s.cursor
  match (pending.map PendingKey.position).min? with
  | some position => s.tokens.reverse.take position
  | none => s.tokens.reverse

/-- All tokens up to the end of the text. Each takes at least one character, so `fuel` above their number is enough. -/
def all : (fuel : Nat) → Lexer → TokenList
  | 0, s => ⟨s.settled, some .malformed⟩
  | fuel + 1, s =>
    match Lex.step.run s with
    | .ok (true, s) => all fuel s
    | .ok (false, s) => ⟨s.tokens.reverse, none⟩
    | .error failure => ⟨s.settled, some failure⟩

end Lexer

/-- The characters that a text may hold. -/
def isAllowed (c : Char) : Bool :=
  let n := c.toNat
  n == 9 || n == 10 || n == 13 || (32 ≤ n && n ≤ 126) || n == 0x85 || (0xa0 ≤ n && n ≤ 0xd7ff) ||
    (0xe000 ≤ n && n ≤ 0xfffd) || 0x10000 ≤ n

/-- The tokens of a text. A mark at the beginning that tells the order of bytes is left out. -/
def tokens (text : String) : TokenList :=
  let cs := text.toList
  if !cs.all isAllowed then ⟨[], some .malformed⟩
  else
    let start : Cursor := ⟨cs, 0, 0, 0⟩
    let start := if start.sees (· == byteOrderMark) then start.next else start
    Lexer.all (cs.length + 2) { cursor := start }

end Yaml

end RegulatoryTrees
