import RegulatoryTrees.Bundled
import RegulatoryTrees.Placement
import RegulatoryTrees.RuleFile

/-!
# Where rules come from

Rules are read from the files of a folder or come with the library.
-/

namespace RegulatoryTrees

/-- A folder of rule files. -/
structure Folder where
  path : String
  files : List RuleFile

namespace Folder

/-- The parts of a name. Empty parts and single points do not count. -/
def partsOf (name : String) : List String :=
  ((Text.splitAt '/' name.toList).filter fun part => part != [] && part != ['.']).map String.ofList

/-- The path of a file of a folder. -/
def pathOf (folder : Folder) (name : String) : String := String.intercalate "/" (folder.path :: partsOf name)

/-- Where a name leads to. -/
inductive Place where
  /-- A folder in the folder of the rules, by the parts of its name. -/
  | within (parts : List String)
  /-- A folder around the folder of the rules, so many levels further out. -/
  | around (levels : Nat)
  | file (f : RuleFile)
  | nothing
  | nameTooLong

/-- The greatest number of bytes of a part of a name. -/
def partLimit : Nat := 255

/-- The number of bytes that a path has to stay below. -/
def pathLimit : Nat := 4096

/-- The name of the folder itself. -/
def ownName (folder : Folder) : Option String := (partsOf folder.path).getLast?

/-- What a name in the folder of the rules leads to, by its parts. -/
def inside (folder : Folder) (parts : List String) : Place :=
  match folder.files.find? fun f => partsOf f.name == parts with
  | some f => .file f
  | none => if folder.files.any fun f => parts.isPrefixOf (partsOf f.name) then .within parts else .nothing

/-- Where a part of a name leads to from a place; two points lead out of a folder. Outside the folder of the rules only that
folder is known. -/
def step (folder : Folder) (place : Place) (part : String) : Place :=
  match place with
  | .within parts =>
    if part = ".." then if parts.isEmpty then .around 0 else .within parts.dropLast
    else if partLimit < part.utf8ByteSize then .nameTooLong
    else folder.inside (parts ++ [part])
  | .around levels =>
    if part = ".." then .around (levels + 1)
    else if partLimit < part.utf8ByteSize then .nameTooLong
    else if levels = 0 && folder.ownName == some part then .within []
    else .nothing
  | .file _ => .nothing
  | .nothing => .nothing
  | .nameTooLong => .nameTooLong

/-- Where a name leads to. -/
def place (folder : Folder) (name : String) : Place :=
  if pathLimit ≤ (folder.pathOf name).utf8ByteSize then .nameTooLong
  else (partsOf name).foldl folder.step (.within [])

/-- What lies right in a folder. -/
inductive Entry where
  | file (f : RuleFile)
  | folder (name : String)

/-- The name of an entry. -/
def Entry.name : Entry → String
  | .file f => f.name
  | .folder name => name

/-- The folder right in a folder that a file further in lies in. -/
def outermost? (f : RuleFile) : Option String :=
  match partsOf f.name with
  | name :: _ :: _ => some name
  | _ => none

/-- The files and folders that lie right in a folder. -/
def entries (folder : Folder) : List Entry :=
  (folder.files.filter fun f => !f.name.toList.contains '/').map .file ++ (folder.files.filterMap outermost?).eraseDups.map .folder

/-- The entries of a folder that are taken for rule files, in the order of their names. -/
def ruleEntries (folder : Folder) : List Entry :=
  (folder.entries.filter fun e => RuleFile.isRuleName e.name).mergeSort fun a b => a.name ≤ b.name

/-- The folder after some files have been written, each in the place of the one with its name. -/
def write (folder : Folder) (files : List RuleFile) : Folder :=
  { folder with files := files.foldl (fun files f => placeBy RuleFile.name f files) folder.files }

end Folder

/-- Where rules come from. -/
inductive RuleSource where
  | folder (folder : Folder)
  | bundled
  /-- A path where there is nothing. -/
  | absent (path : String)

namespace RuleSource

/-- What stands for the path of the rules that come with the library. -/
def bundledPath : String := "<bundled>"

/-- The path of a source. -/
def path : RuleSource → String
  | .folder f => f.path
  | .bundled => bundledPath
  | .absent path => path

end RuleSource

end RegulatoryTrees
