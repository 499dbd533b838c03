/-
Module: SqlLineage.Files.Tree
Purpose: Files and directories as values, and the paths that lead to them. What a path says is followed
  from a directory on; nothing is known outside of it.
Main exports: Entry, Fault, Found, Entry.locate, Found.text, Entry.files, Entry.insert
-/
import SqlLineage.Text.Cut

namespace SqlLineage.Files

/-- A file, or a directory with what it holds by name. -/
inductive Entry where
  | file (content : ByteArray)
  | directory (entries : List (String × Entry))
deriving Inhabited

/-- Why a file cannot be read. -/
inductive Fault where
  | missing
  /-- The path goes on behind something that is no directory. -/
  | notDirectory
  | isDirectory
  | notText
  /-- The path, or a name in it, has more bytes than any that leads somewhere. -/
  | nameTooLong
  /-- The path holds the character that ends paths elsewhere. -/
  | nulInName
deriving Repr, Inhabited, DecidableEq

def Fault.message : Fault → String
  | missing => "No such file or directory (os error 2)"
  | notDirectory => "Not a directory (os error 20)"
  | isDirectory => "Is a directory (os error 21)"
  | notText => "stream did not contain valid UTF-8"
  | nameTooLong => "File name too long (os error 36)"
  | nulInName => "file name contained an unexpected NUL byte"

/-- What stands at a path. -/
abbrev Found := Except Fault Entry

namespace Found

/-- Whether something stands there. -/
def isPresent : Found → Bool
  | .ok _ => true
  | .error _ => false

/-- The text of the file that stands there. -/
def text : Found → Except Fault String
  | .ok (.file content) =>
    match String.fromUTF8? content with
    | some text => .ok text
    | none => .error .notText
  | .ok (.directory _) => .error .isDirectory
  | .error fault => .error fault

end Found

namespace Entry

/-! ### Paths -/

/-- The steps of a path, cut at its slashes. -/
def steps (path : String) : List String :=
  (Text.pieces ['/'] path.toList).map String.ofList

/-- How many bytes a name may have. -/
def maxNameLength : Nat := 255

/-- How many bytes a path may have. -/
def maxPathLength : Nat := 4095

/-- Follows steps from an entry on, given the directories around it, the innermost first. An empty step
stays in a directory, as a dot does. -/
def follow (around : List Entry) : Entry → List String → Found
  | entry, [] => .ok entry
  | file _, _ :: _ => .error .notDirectory
  | directory entries, step :: rest =>
    if step = "" || step = "." then follow around (directory entries) rest
    else if step = ".." then
      match around with
      | parent :: outer => follow outer parent rest
      | [] => .error .missing
    else if step.utf8ByteSize > maxNameLength then .error .nameTooLong
    else
      match entries.lookup step with
      | some entry => follow (directory entries :: around) entry rest
      | none => .error .missing

/-- What a path leads to from a directory on. The empty path leads nowhere, and neither does one that
starts elsewhere. -/
def locate (root : Entry) (path : String) : Found :=
  if path.contains '\x00' then .error .nulInName
  else if path.utf8ByteSize > maxPathLength then .error .nameTooLong
  else if path.isEmpty || path.startsWith "/" then .error .missing
  else follow [] root (steps path)

/-- The path of an entry of a directory. -/
def join (path name : String) : String :=
  if path.endsWith "/" then path ++ name else path ++ "/" ++ name

/-! ### Contents -/

mutual

/-- The files below an entry with the names that lead to them. -/
def files : Entry → List (List String × ByteArray)
  | file content => [([], content)]
  | directory entries => filesOf entries

/-- The files below the entries of a directory. -/
def filesOf : List (String × Entry) → List (List String × ByteArray)
  | [] => []
  | entry :: rest => filesUnder entry ++ filesOf rest

/-- The files below one entry of a directory. -/
def filesUnder : String × Entry → List (List String × ByteArray)
  | (name, entry) => entry.files.map fun (names, content) => (name :: names, content)

end

/-- An entry with another one put below it. Directories on the way are made if they are missing. -/
def insert (new : Entry) : List String → Entry → Entry
  | [], _ => new
  | name :: rest, entry =>
    let entries :=
      match entry with
      | directory entries => entries
      | file _ => []
    let inner := (entries.lookup name).getD (directory [])
    directory (entries.filter (·.1 != name) ++ [(name, insert new rest inner)])


end Entry

end SqlLineage.Files
