import RegulatoryTrees.Pattern.Folding

/-!
# Matching

A matcher takes where a match stands and a continuation that says how the match goes on, and gives the first way to go on
that leads to an end. Choices are tried in their order; what follows a choice decides whether the next one is tried.

An attempt that fails leaves traces. Marks of groups that it set stay set unless the choice that it was part of lies in the
body of a repetition, and a possessive repetition goes on from where the last choice of its failed round began.
-/

namespace RegulatoryTrees

/-- A place in a text: the characters before it, the nearest one first, those after it, and how many lie before. -/
structure Place where
  before : List Char
  after : List Char
  offset : Nat

namespace Place

/-- The place at the beginning of a text. -/
def start (text : List Char) : Place := ⟨[], text, 0⟩

/-- The place one character further on. -/
def next? (p : Place) : Option (Char × Place) :=
  match p.after with
  | [] => none
  | c :: rest => some (c, ⟨c :: p.before, rest, p.offset + 1⟩)

/-- The place a number of characters back. -/
def back? : Nat → Place → Option Place
  | 0, p => some p
  | n + 1, p =>
    match p.before with
    | [] => none
    | c :: rest => back? n ⟨rest, c :: p.after, p.offset - 1⟩

/-- The text between two offsets. -/
def between (first last : Nat) (p : Place) : List Char :=
  ((p.before.reverse ++ p.after).drop first).take (last - first)

/-- The next character is the given one. -/
def begins (code : Nat) (p : Place) : Bool := p.after.head?.any (·.toNat == code)

/-- The place after a text that must stand here, compared under a fold. -/
def skip? (fold : CaseFold) : List Char → Place → Option Place
  | [], p => some p
  | c :: rest, p =>
    match p.next? with
    | some (d, q) => if fold.lower c = fold.lower d then skip? fold rest q else none
    | none => none

end Place

/-- Where a match stands. -/
structure Progress where
  place : Place
  /-- The place where the last choice began. -/
  choice : Place
  /-- The offsets at which groups were opened and closed last, by turns from the first group on, up to the last known one. -/
  marks : List (Option Nat)

namespace Progress

/-- The beginning of a match. -/
def start (place : Place) : Progress := ⟨place, place, []⟩

/-- A choice begins here. -/
def choosing (s : Progress) : Progress := { s with choice := s.place }

/-- Set a mark at the present offset. -/
def mark (index : Nat) (s : Progress) : Progress :=
  let known := s.marks ++ List.replicate (index + 1 - s.marks.length) none
  { s with marks := known.set index (some s.place.offset) }

/-- Open a group; groups are counted from one. -/
def openGroup (index : Nat) (s : Progress) : Progress := s.mark (2 * index - 2)

/-- Close a group. -/
def closeGroup (index : Nat) (s : Progress) : Progress := s.mark (2 * index - 1)

/-- The text that a group matched last. A group that was opened again counts as matched again if it begins where it ended, and
as unmatched if it begins later. -/
def captured? (s : Progress) (index : Nat) : Option (List Char) :=
  match s.marks[2 * index - 2]?.join, s.marks[2 * index - 1]?.join with
  | some first, some last => if first ≤ last then some (s.place.between first last) else none
  | _, _ => none

/-- The state from which another choice is tried after one has failed. Inside the body of a repetition all marks are as they
were; elsewhere only marks beyond the last known one are forgotten. -/
def retry (s : Progress) (inRounds : Bool) (failed : Progress) : Progress :=
  { s with
    choice := failed.choice
    marks := if inRounds then s.marks else failed.marks.take s.marks.length }

end Progress

/-- How a match goes on: how it ends, or what a failure leaves. -/
abbrev Continuation := Progress → Except Progress Progress

/-- A way to match: it is given what follows. -/
abbrev Matcher := Continuation → Continuation

namespace CharacterClass

/-- A character belongs to a class, of all scripts or of ASCII only. -/
def holds (kind : CharacterClass) (ascii : Bool) (c : Char) : Bool :=
  if ascii && 128 ≤ c.toNat then false
  else
    match kind with
    | .digit => Text.isDecimal c
    | .space => if ascii && 14 ≤ c.toNat && c.toNat < 32 then false else Text.isBlank c
    | .word => Text.isAlphanumeric c || c == '_'

end CharacterClass

namespace SetItem

/-- A character is in a part of a set. -/
def holds (item : SetItem) (c : Char) : Bool :=
  match item with
  | .point code => c.toNat == code
  | .range first last => first ≤ c.toNat && c.toNat ≤ last
  | .lowerOfRange first last fold => fold.isLowerOfRange first last c.toNat
  | .rangeOrUpper first last =>
    let upper := (Text.upperChar c).toNat
    (first ≤ c.toNat && c.toNat ≤ last) || (first ≤ upper && upper ≤ last)
  | .ofClass kind ascii outside => kind.holds ascii c != outside

end SetItem

namespace CharTest

/-- A character passes a test. -/
def holds (test : CharTest) (c : Char) : Bool :=
  match test with
  | .any => true
  | .anyButNewline => c != '\n'
  | .oneOf fold negated items => items.any (·.holds (fold.lower c)) != negated

/-- The character that the test asks for, if it asks for one as it is. -/
def only? : CharTest → Option Nat
  | .oneOf .exact false [.point code] => some code
  | _ => none

/-- The next character can be seen to fail the test before a choice begins. Only tests that compare characters as they are
look ahead in this way, and among these not one that shuts out a single character. -/
def rulesOut (test : CharTest) (p : Place) : Bool :=
  match test with
  | .oneOf .exact true [.point _] => false
  | .oneOf .exact _ _ => !p.after.head?.any test.holds
  | _ => false

end CharTest

namespace Anchor

/-- A place satisfies an anchor. An empty text has neither word edges nor places that are none. -/
def holds (kind : Anchor) (p : Place) : Bool :=
  match kind with
  | .textStart => p.before.isEmpty
  | .textEnd => p.after.isEmpty
  | .lastLineEnd => p.after.isEmpty || p.after == ['\n']
  | .lineStart => p.before.isEmpty || p.before.head? == some '\n'
  | .lineEnd => p.after.isEmpty || p.after.head? == some '\n'
  | .wordEdge ascii negated =>
    let isWord (c : Option Char) := c.any (CharacterClass.word.holds ascii)
    let edge := isWord p.before.head? != isWord p.after.head?
    !(p.before.isEmpty && p.after.isEmpty) && edge != negated

end Anchor

/-- What surrounds a part of a pattern. -/
structure Surroundings where
  /-- The part lies in the body of a repetition. -/
  inRounds : Bool
  /-- The character that the match goes on with, if a single character follows. -/
  next : Option Nat

/-! ## Choices -/

namespace Matcher

/-- One attempt and, if it fails, another. A failure of the other counts as one of this choice. -/
def orElse (inRounds : Bool) (first second : Continuation) : Continuation := fun s =>
  match first s with
  | .ok done => .ok done
  | .error failed =>
    let s := s.retry inRounds failed
    match second s with
    | .ok done => .ok done
    | .error failed => .error (s.retry inRounds failed)

/-- The places that follow one another as long as characters pass a test, up to a number of them; they come in front of the
given ones, the farthest first. -/
def reach (test : CharTest) : (limit : Nat) → Place → List Place → List Place
  | 0, p, nearer => p :: nearer
  | n + 1, p, nearer =>
    match p.next? with
    | some (c, further) => if test.holds c then reach test n further (p :: nearer) else p :: nearer
    | none => p :: nearer

/-- Go on from the first of some places that leads to an end. Places before other characters than the next one are left out. -/
def firstOf (around : Surroundings) (k : Continuation) : List Place → Continuation
  | [], s => .error s
  | place :: others, s =>
    if around.next.all place.begins then
      match k { s with place, choice := place } with
      | .ok done => .ok done
      | .error failed => firstOf around k others (s.retry around.inRounds failed)
    else firstOf around k others s

/-- Go on from here or, if that fails, a character further on, as long as characters pass a test and the limit allows. -/
def nearest (around : Surroundings) (test : CharTest) (k : Continuation) : (limit : Nat) → Continuation
  | 0, s =>
    match k s.choosing with
    | .ok done => .ok done
    | .error failed => .error (s.retry around.inRounds failed).choosing
  | n + 1, s =>
    match k s.choosing with
    | .ok done => .ok done
    | .error failed =>
      let s := (s.retry around.inRounds failed).choosing
      match s.place.next? with
      | some (c, place) => if test.holds c then nearest around test k n { s with place } else .error s
      | none => .error s

/-- A run of characters that pass a test. -/
def run (mode : Repetition) (least : Nat) (most : Option Nat) (test : CharTest) (around : Surroundings) : Matcher := fun k s =>
  if 0 < least && (s.place.after.drop (least - 1)).isEmpty then .error s
  else
    let s := s.choosing
    let limit := most.getD s.place.after.length
    match mode with
    | .greedy =>
      let places := reach test limit s.place []
      firstOf around k (places.take (places.length - least)) s
    | .lazy =>
      match reach test least s.place [] with
      | place :: before => if before.length < least then .error s else nearest around test k (limit - least) { s with place }
      | [] => .error s
    | .possessive =>
      match reach test limit s.place [] with
      | place :: before => if before.length < least then .error s else k { s with place, choice := place }
      | [] => .error s

/-! ## Rounds -/

/-- A further round is allowed. -/
def allowsMore (most : Option Nat) (count : Nat) : Bool := most.all (count < ·)

/-- A failure leaves the choice at the place where this one began. -/
def fromHere (k : Continuation) : Continuation := fun s =>
  (k s.choosing).mapError fun failed => { failed with choice := s.place }

/-- Rounds of a body, as many as can be first. Once the least number is reached a round is only begun where the last such
round did not begin, so a round that takes no character is the last one. -/
def greedy (body : Matcher) (least : Nat) (most : Option Nat) (k : Continuation) :
    (fuel count : Nat) → (last : Option Nat) → Continuation
  | 0, _, _ => k
  | fuel + 1, count, last => fromHere fun s =>
    if count < least then body (greedy body least most k fuel (count + 1) last) s
    else if allowsMore most count && last != some s.place.offset then
      match body (greedy body least most k fuel (count + 1) (some s.place.offset)) s with
      | .ok done => .ok done
      | .error _ => k s
    else k s

/-- Rounds of a body, as few as can be first. -/
def lazy (inRounds : Bool) (body : Matcher) (least : Nat) (most : Option Nat) (k : Continuation) :
    (fuel count : Nat) → (last : Option Nat) → Continuation
  | 0, _, _ => k
  | fuel + 1, count, last => fromHere fun s =>
    if count < least then body (lazy inRounds body least most k fuel (count + 1) last) s
    else
      match k s with
      | .ok done => .ok done
      | .error failed =>
        let s := (s.retry inRounds failed).choosing
        if allowsMore most count && last != some s.place.offset then
          body (lazy inRounds body least most k fuel (count + 1) (some s.place.offset)) s
        else .error s

/-- A match that ends here; no choice is left in it. -/
def ending : Continuation := fun s => .ok s.choosing

/-- The state after as many rounds of a body as can be, each taken the first way it matches. A round beyond the least number
that fails is given up at the place where its last choice began. -/
def possessive (body : Matcher) (least : Nat) (most : Option Nat) :
    (fuel count : Nat) → (last : Option Nat) → Continuation
  | 0, _, _, s => .ok s
  | fuel + 1, count, last, s =>
    if count < least then
      match body ending s with
      | .ok t => possessive body least most fuel (count + 1) last t
      | .error failed => .error failed
    else if allowsMore most count && last != some s.place.offset then
      match body ending s with
      | .ok t => possessive body least most fuel (count + 1) (some s.place.offset) t
      | .error failed => .ok { s with place := failed.choice, choice := failed.choice }
    else .ok s

/-- Rounds that a repetition can have at most: the least number, one for each character that is left, and two that take none. -/
def roundsFrom (least : Nat) (s : Progress) : Nat := least + s.place.after.length + 2

/-- Rounds of a body that is no single character. -/
def rounds (mode : Repetition) (least : Nat) (most : Option Nat) (body : Matcher) (inRounds : Bool) : Matcher := fun k s =>
  match mode with
  | .greedy => greedy body least most k (roundsFrom least s) 0 none s
  | .lazy => lazy inRounds body least most k (roundsFrom least s) 0 none s
  | .possessive =>
    match fromHere (possessive body least most (roundsFrom least s) 0 none) s with
    | .ok t => k t
    | .error failed => .error failed

/-- A look at the text that takes nothing of it. What its groups match is kept. -/
def look (inRounds negated : Bool) (body : Matcher) (place : Place) : Matcher := fun k s =>
  match body ending { s with place, choice := place } with
  | .ok t => if negated then .error t else k { t with place := s.place }
  | .error failed => if negated then k (s.retry inRounds failed) else .error failed

end Matcher

namespace Pattern

/-- The pattern takes nothing and asks for nothing. -/
def isVoid : Pattern → Bool
  | .empty => true
  | .sequence first second => first.isVoid && second.isVoid
  | _ => false

/-- The test of the character that a match begins with, if the pattern begins with a single character. -/
def opening? : Pattern → Option CharTest
  | .char test => some test
  | .sequence first second => if first.isVoid then second.opening? else first.opening?
  | _ => none

/-- The alternative is tried here: its first character is not ruled out. -/
def isTried (place : Place) : Pattern → Bool
  | .either first second => first.isTried place || second.isTried place
  | p => p.opening?.all (!·.rulesOut place)

/-- The surroundings of what comes before a pattern. -/
def inFront (p : Pattern) (around : Surroundings) : Surroundings :=
  { around with next := if p.isVoid then around.next else p.opening?.bind CharTest.only? }

/-- The matcher of a pattern. -/
def matcher : Pattern → Surroundings → Matcher
  | .empty, _ => fun k s => k s
  | .char test, _ => fun k s =>
    match s.place.next? with
    | some (c, place) => if test.holds c then k { s with place } else .error s
    | none => .error s
  | .sequence first second, around => fun k => matcher first (second.inFront around) (matcher second around k)
  | .either first second, around => fun k =>
    let inside := { around with next := none }
    Matcher.orElse around.inRounds
      (fun s => if first.isTried s.place then matcher first inside k s.choosing else .error s)
      (fun s => if second.isTried s.place then matcher second inside k s.choosing else .error s)
  | .repeated mode least most body, around =>
    match body with
    | .char test => Matcher.run mode least most test around
    | body =>
      let inRounds := around.inRounds || mode != .possessive
      Matcher.rounds mode least most (matcher body ⟨inRounds, none⟩) around.inRounds
  | .group index body, around => fun k s =>
    matcher body { around with next := none } (fun t => k (t.closeGroup index)) (s.openGroup index)
  | .sameAs index fold, _ => fun k s =>
    match (s.captured? index).bind fun text => s.place.skip? fold text with
    | some place => k { s with place }
    | none => .error s
  | .ifGroup index present absent, around => fun k s =>
    match s.captured? index with
    | some _ => matcher present (if absent.isVoid then around else { around with next := none }) k s
    | none => matcher absent around k s
  | .ahead negated body, around => fun k s =>
    Matcher.look around.inRounds negated (matcher body { around with next := none }) s.place k s
  | .behind negated width _ body, around => fun k s =>
    match s.place.back? width with
    | some place => Matcher.look around.inRounds negated (matcher body { around with next := none }) place k s
    | none => if negated then k s else .error s
  | .atomic body, around => fun k s =>
    match Matcher.fromHere (matcher body { around with next := none } Matcher.ending) s with
    | .ok t => k t
    | .error failed => .error failed
  | .anchor kind, _ => fun k s => if kind.holds s.place then k s else .error s

/-- The first way in which a pattern matches at a place. -/
def matchAt (p : Pattern) (place : Place) : Option Progress :=
  (p.matcher ⟨false, none⟩ .ok (.start place)).toOption

/-- The first match that begins at or after a place: where it begins and how it ends. -/
def searchFrom (p : Pattern) (before : List Char) (offset : Nat) : List Char → Option (Place × Progress)
  | [] => (p.matchAt ⟨before, [], offset⟩).map (⟨before, [], offset⟩, ·)
  | c :: rest =>
    match p.matchAt ⟨before, c :: rest, offset⟩ with
    | some done => some (⟨before, c :: rest, offset⟩, done)
    | none => searchFrom p (c :: before) (offset + 1) rest

/-- The first match in a text. -/
def search (p : Pattern) (text : List Char) : Option (Place × Progress) := p.searchFrom [] 0 text

/-- The pattern matches somewhere in the text. -/
def occursIn (p : Pattern) (text : String) : Bool := (p.search text.toList).isSome

/-- The matches in a text that follow one another without overlap; one that takes nothing is followed by the search for one
that begins later. `fuel` above the number of characters is never used up. -/
def allFrom (p : Pattern) : (fuel : Nat) → Place → List Progress
  | 0, _ => []
  | fuel + 1, place =>
    match p.searchFrom place.before place.offset place.after with
    | none => []
    | some (_, done) =>
      if done.place.offset = place.offset then
        match place.next? with
        | some (_, further) => done :: allFrom p fuel further
        | none => [done]
      else done :: allFrom p fuel done.place

/-- All matches in a text, from left to right. -/
def allIn (p : Pattern) (text : String) : List Progress :=
  p.allFrom (text.length + 1) (.start text.toList)

end Pattern

end RegulatoryTrees
