/-
Module: SqlLineage.Sql.Grammar.Access
Purpose: The parts of a value: names after points, subscripts, and paths into a document. Names after a
  name are a qualified name, which may be the name of a function.
Main exports: Access, subscripts, compound, documentPath
-/
import SqlLineage.Sql.Grammar.Call

namespace SqlLineage.Sql.Grammar

/-- A step from a value into one of its parts. -/
inductive Access where
  | name (ident : Ident)
  | subscript (parts : List Part)

/-- The step as it is written out. -/
def Access.parts : Access → List Part
  | name ident => [.text ("." ++ ident.render)]
  | subscript parts => .text "[" :: parts ++ [.text "]"]

def Access.name? : Access → Option Ident
  | name ident => some ident
  | subscript _ => none

/-- The qualified name that the steps from a value are, if they are one. -/
def qualifiedName? (root : Expr) (steps : List Access) : Option (List Ident) :=
  match root with
  | .column path => (steps.mapM Access.name?).map (path ++ ·)
  | _ => none

/-- The value that the steps lead to. -/
def accessed (root : Expr) (steps : List Access) : Expr :=
  match qualifiedName? root steps with
  | some path => .column path
  | none => if steps.isEmpty then root else .phrase (.operand root :: steps.flatMap Access.parts)

section

variable (r : Rules)

/-! ### Subscripts -/

/-- A position, or positions from one to another in steps, after the opening bracket. -/
def subscriptParts : Reader (List Part) := do
  let bound : Reader (Option (List Part)) := do
    if ← symbol? "]" then pure none else return some [.operand (← r.expression)]
  let range := fun (lower : List Part) => do
    match ← bound with
    | none => pure (lower ++ [.text ":"])
    | some upper =>
      if ← symbol? "]" then pure (lower ++ .text ":" :: upper)
      else
        symbol ":"
        match ← bound with
        | none => pure (lower ++ .text ":" :: upper)
        | some step =>
          symbol "]"
          pure (lower ++ .text ":" :: upper ++ .text ":" :: step)
  if ← symbol? ":" then range []
  else
    let index ← r.expression
    if ← symbol? "]" then pure [.operand index]
    else
      symbol ":"
      range [.operand index]

/-- As many subscripts as there are. -/
def subscripts : Reader (List Access) :=
  many do
    if ← symbol? "[" then return some (.subscript (← subscriptParts r)) else pure none

/-! ### Chains of names -/

/-- The way from a value into one of its parts, as far as it was read. -/
structure Chain where
  steps : List Access
  /-- Whether an asterisk stands at the end. -/
  wildcard : Bool := false
  /-- Whether no step may follow. -/
  isOver : Bool := false

/-- The next step by name, with the subscripts after it. Where brackets start a path into a document the
steps by name end before it. -/
def chainStep (chain : Chain) : Reader (Option Chain) := do
  if chain.isOver then pure none
  else if ← symbol? "." then
    match ← next with
    | .word value _ quote =>
      let steps := chain.steps ++ [.name { value, quote }]
      if r.dialect.documentPaths then
        return some { steps, isOver := ← peekSymbol "[" }
      else return some { steps := steps ++ (← subscripts r) }
    | .text .single value =>
      pure (some { steps := chain.steps ++ [.name { value, quote := some '\x27' }] })
    | .symbol "*" =>
      if r.dialect.wildcardValues then
        pure (some { steps := chain.steps, wildcard := true, isOver := true })
      else unexpected
    | _ => unexpected
  else pure none

/-- Whether the mark of the optional side of a join comes next. -/
def startsOuterJoinMark : Reader Bool := do
  if r.dialect.outerJoinMark then
    return (← peekSymbolAt 0 "(") && (← peekSymbolAt 1 "+") && (← peekSymbolAt 2 ")")
  else pure false

/-- A value and the steps after it, of which the first are read already. What follows a qualified name in
parentheses makes it a call. -/
def compound (root : Expr) (steps : List Access) : Reader Expr := do
  let chain ← iterate (chainStep r) { steps }
  let name := qualifiedName? root chain.steps
  if chain.wildcard then
    match name with
    | some path => pure (.plain (renderWildcard path))
    | none => unexpected
  else if ← startsOuterJoinMark r then
    match name with
    | some path =>
      skip 3
      pure (.phrase [.operand (.column path), " (+)"])
    | none => unexpected
  else if ← peekSymbol "(" then
    match name with
    | some path => return ← withMethods r (← call r path)
    | none => unexpected
  else pure (accessed root chain.steps)

/-! ### Paths into a document -/

/-- A step of a path into a document. -/
def documentStep (isFirst : Bool) : Reader (Option (List Part)) := do
  let key : Reader String := do
    match ← next with
    | .word value _ (some '\x22') => pure (inQuotes '\x22' value)
    | .word value _ none => pure value
    | .text .double value => pure (inQuotes '\x22' value)
    | _ => unexpected
  if ← onlyIf isFirst (symbol? ":") then return some [Part.text (":" ++ (← key))]
  else if ← onlyIf (!isFirst) (symbol? ".") then return some [Part.text ("." ++ (← key))]
  else if ← symbol? "[" then
    let index ← r.expression
    symbol "]"
    pure (some ["[", .operand index, "]"])
  else pure none

/-- A path into the document that an expression gives. -/
def documentPath : Reader (List Part) := do
  let steps ← iterate (fun steps => do
    match ← documentStep r steps.isEmpty with
    | some step => pure (some (steps ++ [step]))
    | none => pure none) []
  pure steps.flatten

end

end SqlLineage.Sql.Grammar
