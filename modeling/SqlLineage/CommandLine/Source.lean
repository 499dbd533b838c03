/-
Module: SqlLineage.CommandLine.Source
Purpose: Where scripts come from: a text, the standard input, a file, or all the files with scripts below
  a directory, in the order of their paths.
Main exports: SqlInput, SqlSource, SourceError, isScriptName, scriptPaths, loadSources
-/
import SqlLineage.Config.File

namespace SqlLineage.CommandLine

open Config (FileView)
open Files (Entry Fault Found)

/-- Where the scripts to parse come from. -/
inductive SqlInput where
  | inline (sql : String)
  | stdin
  | path (path : String)
deriving Repr, Inhabited, DecidableEq

/-- The input that a file argument means. A lone dash is the standard input. -/
def SqlInput.ofFileArgument (argument : String) : SqlInput :=
  if argument = "-" then stdin else path argument

/-- A script and the name it is reported under. -/
structure SqlSource where
  name : String
  sql : String
deriving Repr, Inhabited, DecidableEq

/-- Why scripts cannot be read. -/
inductive SourceError where
  | notDirectory (path : String)
  | unreadable (path : String) (fault : Fault)
  | unreadableStdin (fault : Fault)
deriving Repr, Inhabited, DecidableEq

def SourceError.message : SourceError → String
  | notDirectory path => "Not a directory: " ++ path
  | unreadable path fault => "Failed to read SQL file: " ++ path ++ ": " ++ fault.message
  | unreadableStdin fault => "Failed to read SQL from stdin: " ++ fault.message

/-! ### Directories -/

/-- Whether a file of this name holds a script: it ends in `.sql`, with something in front. -/
def isScriptName (name : String) : Bool :=
  match Text.cutLast '.' name.toList with
  | some (stem, extension) => !stem.isEmpty && extension == "sql".toList
  | none => false

/-- Whether the names that lead to a file end in that of a script. -/
def leadsToScript (names : List String) : Bool := names.getLast?.any isScriptName

/-- Whether one path comes before another or is the same. Paths are compared name by name, so what is
below a directory stays together. -/
def pathLE : List String → List String → Bool
  | [], _ => true
  | _ :: _, [] => false
  | name :: rest, other :: others => if name = other then pathLE rest others else name ≤ other

/-- The files with scripts below an entry, in the order of their paths: the names that lead to each and
what it holds. -/
def scriptsBelow (entry : Entry) : List (List String × ByteArray) :=
  (entry.files.filter fun file => leadsToScript file.1).mergeSort
    fun file other => pathLE file.1 other.1

/-- A path followed by names. -/
def pathTo (path : String) (names : List String) : String := names.foldl Entry.join path

/-- The files with scripts below a directory. -/
def scriptPaths (files : FileView) (path : String) : Except SourceError (List String) :=
  match files.look path with
  | .ok (.directory entries) =>
    .ok ((scriptsBelow (.directory entries)).map fun file => pathTo path file.1)
  | _ => .error (.notDirectory path)

/-! ### Loading -/

/-- The script in what stands at a path. -/
def sourceIn (path : String) (found : Found) : Except SourceError SqlSource :=
  match found.text with
  | .ok sql => .ok { name := path, sql }
  | .error fault => .error (.unreadable path fault)

/-- The scripts of an input, with their names. The standard input is given as bytes. One file that
cannot be read spoils all. -/
def loadSources (files : FileView) (stdin : ByteArray) : SqlInput →
    Except SourceError (List SqlSource)
  | .inline sql => .ok [{ name := "<inline>", sql }]
  | .stdin =>
    match Found.text (.ok (.file stdin)) with
    | .ok sql => .ok [{ name := "<stdin>", sql }]
    | .error fault => .error (.unreadableStdin fault)
  | .path path =>
    match files.look path with
    | .ok (.directory entries) =>
      (scriptsBelow (.directory entries)).mapM fun file =>
        sourceIn (pathTo path file.1) (.ok (.file file.2))
    | found => (sourceIn path found).map ([·])

end SqlLineage.CommandLine
