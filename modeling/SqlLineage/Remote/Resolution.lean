/-
Module: SqlLineage.Remote.Resolution
Purpose: Parsing a script in two tiers: by the remote service if there is one and its answer counts, and
  otherwise here.
Main exports: ParseSource, Resolution, Resolver, Resolver.resolve
-/
import SqlLineage.Lineage.Script
import SqlLineage.Remote.Reply

namespace SqlLineage.Remote

open Lineage (ParsedScript)

/-- The tier that parsed a script. -/
inductive ParseSource where
  | remoteService
  | localParser
deriving Repr, Inhabited, DecidableEq

def ParseSource.name : ParseSource → String
  | remoteService => "remote"
  | localParser => "local"

/-- A parsed script and where it comes from. -/
structure Resolution where
  script : ParsedScript
  source : ParseSource
deriving Repr, Inhabited

/-- Which tiers there are: the local parser, which is that of a dialect unless another one is given, and
whether a remote service is asked first. -/
structure Resolver where
  dialect : Sql.Dialect
  asksRemote : Bool := false
  parse : String → ParsedScript := Lineage.parseScript dialect
deriving Inhabited

namespace Resolver

/-- The parse of a script by the local tier. -/
def resolveLocally (resolver : Resolver) (sql : String) : Resolution :=
  { script := resolver.parse sql, source := .localParser }

/-- The parse of a script, given what became of the request to the service. Whatever goes wrong with the
service, the local tier takes over. -/
def resolve (resolver : Resolver) (exchange : Exchange) (sql : String) : Resolution :=
  if resolver.asksRemote then
    match exchange.script with
    | .ok script => { script, source := .remoteService }
    | .error _ => resolver.resolveLocally sql
  else resolver.resolveLocally sql

/-- Without a remote tier the exchange does not matter. -/
theorem resolve_of_local {resolver : Resolver} (localOnly : resolver.asksRemote = false)
    (exchange : Exchange) (sql : String) :
    resolver.resolve exchange sql = resolver.resolveLocally sql := by
  simp [resolve, localOnly]

/-- A failure of the service is answered by the local tier. -/
theorem resolve_of_error {resolver : Resolver} {exchange : Exchange} {problem : RemoteError}
    (failed : exchange.script = .error problem) (sql : String) :
    resolver.resolve exchange sql = resolver.resolveLocally sql := by
  simp [resolve, failed]

end Resolver

end SqlLineage.Remote
