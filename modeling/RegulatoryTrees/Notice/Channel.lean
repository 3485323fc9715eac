import RegulatoryTrees.Notice
import RegulatoryTrees.Text.Quoted

/-!
# The channel of notices

A channel lets notices from a threshold on through, and may write them on a console as well.
-/

namespace RegulatoryTrees

/-- A channel of notices. -/
structure NoticeChannel where
  /-- The rank from which on notices are let through; zero leaves it to the surroundings. -/
  threshold : Nat
  /-- Notices are written on a console. -/
  console : Bool
  deriving DecidableEq

namespace NoticeChannel

/-- The form of a line on the console. -/
def lineForm : String := "%(asctime)s | %(levelname)s | %(name)s | %(message)s"

/-- Why a word sets no threshold. -/
inductive Failure where
  /-- The word stands for a text that names no level. -/
  | unknownLevel (text : String)
  /-- The word stands for something that is neither a level nor a text. -/
  | noLevel (shown : String)
  deriving DecidableEq

/-- A failure in words. -/
def Failure.message : Failure → String
  | .unknownLevel text => "Unknown level: " ++ Text.quoted text
  | .noLevel shown => "Level not an integer or a valid string: " ++ shown

/-- The ranks that words stand for. -/
def ranks : List (String × Nat) :=
  [("NOTSET", 0), ("DEBUG", 10), ("INFO", 20), ("WARN", 30), ("WARNING", 30), ("ERROR", 40), ("CRITICAL", 50), ("FATAL", 50)]

/-- The words that are taken for something else than a rank. -/
def taken : List (String × Failure) :=
  [("BASIC_FORMAT", .unknownLevel "%(levelname)s:%(name)s:%(message)s"),
    ("_STYLES", .noLevel (String.intercalate ", " [
      "\x7b'%': (<class 'logging.PercentStyle'>, '%(levelname)s:%(name)s:%(message)s')",
      "'\x7b': (<class 'logging.StrFormatStyle'>, '\x7blevelname\x7d:\x7bname\x7d:\x7bmessage\x7d')",
      "'$': (<class 'logging.StringTemplateStyle'>, '$\x7blevelname\x7d:$\x7bname\x7d:$\x7bmessage\x7d')\x7d"]))]

/-- The capitals of a letter of a word. Of the letters beyond ASCII only those are told whose capitals occur in a word above. -/
def capitals (c : Char) : List Char :=
  match c with
  | 'ı' => ['I']
  | 'ſ' => ['S']
  | 'ﬅ' | 'ﬆ' => ['S', 'T']
  | c => [c.toUpper]

/-- The rank that a word stands for in any case; an unknown word stands for the rank of information. -/
def rankOf (word : String) : Except Failure Nat :=
  let word := String.ofList (word.toList.flatMap capitals)
  match taken.lookup word with
  | some failure => .error failure
  | none => .ok ((ranks.lookup word).getD Level.info.rank)

/-- The channel for a word. -/
def named (word : String) (console : Bool) : Except Failure NoticeChannel := (rankOf word).map (⟨·, console⟩)

/-- The rank from which on notices are let through: the threshold, or that of warnings if it is left open. -/
def lowest (channel : NoticeChannel) : Nat := if channel.threshold = 0 then Level.warning.rank else channel.threshold

/-- The notices that are let through. -/
def filter (channel : NoticeChannel) (notices : List Notice) : List Notice :=
  notices.filter fun n => channel.lowest ≤ n.level.rank

end NoticeChannel

end RegulatoryTrees
