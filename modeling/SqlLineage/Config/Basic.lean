/-
Module: SqlLineage.Config.Basic
Purpose: What the tool can be told: the dialect of the scripts, a remote parse service, the rules for
  roles, and the layout.
Main exports: RemoteOptions, Configuration
-/
import SqlLineage.Flow.Layout

namespace SqlLineage.Config

/-- The remote parse service, which is optional. -/
structure RemoteOptions where
  enabled : Bool := false
  endpoint : String := "http://localhost:8080/api/parse"
  /-- The longest time, in milliseconds, that a call may take before the local parser takes over. -/
  timeoutMillis : Nat := 2000
deriving Repr, Inhabited, DecidableEq

/-- The configuration of the tool. -/
structure Configuration where
  /-- The name of the dialect that the local parser uses. -/
  dialect : String := "generic"
  remote : RemoteOptions := {}
  classification : Flow.ClassificationOptions := {}
  layout : Flow.LayoutOptions := {}
deriving Repr, Inhabited

end SqlLineage.Config
