/-
Module: SqlLineage.Main
Purpose: The program: it looks at the files that the arguments name, and prints what the run comes to. There
  is no connection to a remote service here, so each request to one stays unanswered.
Main exports: main
-/
import SqlLineage.CommandLine.Run

namespace SqlLineage.CommandLine

open Files (Entry Fault Found)

/-- What stands at a path on the disk. Of a directory only scripts are read, and directories below it
that are not elsewhere: `expected` is the full path of one that is met below another. -/
partial def lookOnDisk (path : String) (expected : Option String) : IO Found := do
  match (← (IO.FS.realPath path).toBaseIO) with
  | .error _ => pure (.error .missing)
  | .ok place =>
    if ← place.isDir then
      let fullPath := toString place
      if expected.any (· != fullPath) then return .error .missing
      let listing ← place.readDir
      let entries ← listing.toList.filterMapM fun item => do
        let name := item.fileName
        if isScriptName name || (← item.path.isDir) then
          match (← lookOnDisk (Entry.join path name) (some (Entry.join fullPath name))) with
          | .ok entry => pure (some (name, entry))
          | .error _ => pure none
        else pure none
      pure (.ok (.directory entries))
    else
      match (← (IO.FS.readBinFile place).toBaseIO) with
      | .ok content => pure (.ok (.file content))
      | .error _ => pure (.error .missing)

/-- The paths that a command looks at. -/
def Command.paths : Command → List String
  | .parse command =>
    let input :=
      match command.input with
      | .path path => [path]
      | _ => []
    command.config.getD Config.defaultName :: input
  | _ => []

/-- The paths that arguments make the tool look at. -/
def pathsOf (arguments : List String) : List String :=
  match readCommand arguments with
  | .ok command => command.paths
  | .error _ => []

/-- Whether arguments make the tool read the standard input. -/
def readsStdin (arguments : List String) : Bool :=
  match readCommand arguments with
  | .ok (.parse command) => command.input == .stdin
  | _ => false

/-- The time between two readings of the clock. -/
def elapsedText (nanoseconds : Nat) : String :=
  let hundredths := nanoseconds / 10000
  toString (hundredths / 100) ++ "." ++ toString (hundredths % 100 / 10) ++
    toString (hundredths % 10) ++ "ms"

/-- Runs the tool and gives its exit code. -/
def runOnDisk (arguments : List String) : IO UInt32 := do
  let begun ← IO.monoNanosNow
  let found ← (pathsOf arguments).mapM fun path => do pure (path, ← lookOnDisk path none)
  let stdin ← if readsStdin arguments then (← IO.getStdin).readBinToEnd else pure .empty
  let result := run
    { files := {
        directory := toString (← IO.currentDir)
        look := fun path => (found.lookup path).getD (.error .missing) }
      stdin
      ask := fun _ _ => .unanswered
      colours := ← (← IO.getStdout).isTty }
    arguments
  IO.print result.output
  for message in result.messages do
    IO.eprintln message
  if let some count := result.processed then
    let ended ← IO.monoNanosNow
    IO.eprintln ("Processed " ++ toString count ++ " SQL source(s) in " ++
      elapsedText (ended - begun))
  pure result.code.toUInt32

end SqlLineage.CommandLine

/-- The tool. -/
def main (arguments : List String) : IO UInt32 :=
  SqlLineage.CommandLine.runOnDisk arguments
