/-
Module: SqlLineage.Config.File
Purpose: Where the configuration is found: in a file that is named, or else in one of a fixed name in the
  working directory, which need not exist.
Main exports: FileView, ConfigError, configurationOf, configurationAt
-/
import SqlLineage.Config.Yaml
import SqlLineage.Files.Tree

namespace SqlLineage.Config

open Files (Fault Found)

/-- The files as they are seen from a working directory. -/
structure FileView where
  /-- The full path of the working directory. -/
  directory : String
  /-- What stands at a path. -/
  look : String → Found

/-- The name of the file that is read if none is given. -/
def defaultName : String := "sqlflow.yaml"

/-- Why there is no configuration. -/
inductive ConfigError where
  | notFound (path : String)
  | unreadable (path : String) (fault : Fault)
  | invalid
  /-- The file does not hold a configuration. -/
  | invalidFile (path : String)
deriving Repr, Inhabited, DecidableEq

def ConfigError.message : ConfigError → String
  | notFound path => "Configuration file not found at: " ++ path
  | unreadable path fault =>
    "Failed to read configuration file: " ++ path ++ ": " ++ fault.message
  | invalid => "Invalid configuration"
  | invalidFile path => "In " ++ path ++ ": Invalid configuration"

/-- The configuration that a text holds, or what is wrong with it. -/
def configurationOf (text : String) : Except ConfigError Configuration :=
  match parseConfiguration text with
  | some configuration => .ok configuration
  | none => .error .invalid

/-- The configuration in a file that is there, told by this path. -/
def configurationIn (path : String) (found : Found) : Except ConfigError Configuration :=
  match found.text with
  | .error fault => .error (.unreadable path fault)
  | .ok text =>
    match parseConfiguration text with
    | some configuration => .ok configuration
    | none => .error (.invalidFile path)

/-- The configuration at a path, or in the file of the fixed name. -/
def configurationAt (files : FileView) : Option String → Except ConfigError Configuration
  | some path =>
    let found := files.look path
    if found.isPresent then configurationIn path found else .error (.notFound path)
  | none =>
    let found := files.look defaultName
    if found.isPresent then configurationIn (Files.Entry.join files.directory defaultName) found
    else .ok {}

end SqlLineage.Config
