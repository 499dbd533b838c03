/-
Module: SqlLineage.Script.StatementKind
Purpose: What a statement does and which relation it writes, read off its leading tokens.
Main exports: StatementKind, StatementKind.ofTokens?, Statement.kind?, readObjectName
-/
import SqlLineage.Script.Statement

namespace SqlLineage.Script

/-- The statements that carry lineage. -/
inductive StatementKind where
  | select
  | withSelect
  | insert (target : String)
  | createTableAs (target : String) (temporary : Bool)
  | createViewAs (target : String)
deriving Repr, Inhabited, DecidableEq

namespace StatementKind

/-- The relation that the statement writes. -/
def target? : StatementKind → Option String
  | select => none
  | withSelect => none
  | insert target => some target
  | createTableAs target _ => some target
  | createViewAs target => some target

/-- Whether the statement keeps its result as an intermediate table. -/
def isTempTable : StatementKind → Bool
  | createTableAs _ _ => true
  | _ => false

end StatementKind

/-! ### Reading from the head of a token list -/

/-- The names of `name.name…` at the head of the tokens, unquoted, and the tokens after them. A dot
belongs to the name only if another part follows it. -/
def readNameParts : List Token → List String × List Token
  | [] => ([], [])
  | token :: rest =>
    if token.isName then
      match rest with
      | dot :: next :: more =>
        if dot.isMark "." && next.isName then
          let tail := readNameParts (next :: more)
          (token.unquoted :: tail.1, tail.2)
        else
          ([token.unquoted], dot :: next :: more)
      | left => ([token.unquoted], left)
    else
      ([], token :: rest)
termination_by tokens => tokens.length

/-- The dotted name at the head of the tokens, and the tokens after it. -/
def readObjectName (tokens : List Token) : Option (String × List Token) :=
  match readNameParts tokens with
  | ([], _) => none
  | (parts, rest) => some (Text.joinWith "." parts, rest)

/-- The tokens without the keyword at their head, if it is there. -/
def skipKeyword (word : String) : List Token → List Token
  | [] => []
  | token :: rest => if token.isKeyword word then rest else token :: rest

/-- The tokens after the keyword at their head, if it is there. -/
def afterKeyword? (word : String) : List Token → Option (List Token)
  | [] => none
  | token :: rest => if token.isKeyword word then some rest else none

def containsKeyword (word : String) (tokens : List Token) : Bool :=
  tokens.any (·.isKeyword word)

/-- The tokens after the first occurrence of the keyword outside parentheses. A closing parenthesis
without an opening one changes nothing. -/
def afterTopLevel? (word : String) (depth : Nat) : List Token → Option (List Token)
  | [] => none
  | token :: rest =>
    if token.isMark "(" then afterTopLevel? word (depth + 1) rest
    else if token.isMark ")" then afterTopLevel? word (depth - 1) rest
    else if depth = 0 && token.isKeyword word then some rest
    else afterTopLevel? word depth rest

/-! ### The kinds of statement -/

namespace StatementKind

/-- An `INSERT` statement from the tokens after that keyword. -/
def ofInsert? (tokens : List Token) : Option StatementKind :=
  let afterInto :=
    match (afterKeyword? "INTO" tokens).or (afterKeyword? "OVERWRITE" tokens) with
    | some rest => skipKeyword "TABLE" rest
    | none => tokens
  match readObjectName afterInto with
  | some (target, rest) => if containsKeyword "SELECT" rest then some (insert target) else none
  | none => none

/-- Whether a modifier that may stand between `CREATE` and the kind of object marks it temporary;
nothing for a token that is no such modifier. -/
def modifier? (token : Token) : Option Bool :=
  if token.isAnyKeyword ["TEMP", "TEMPORARY"] then some true
  else if token.isAnyKeyword ["GLOBAL", "LOCAL", "MATERIALIZED"] then some false
  else if token.isWord "VOLATILE" || token.isWord "TRANSIENT" then some false
  else none

/-- Skips the modifiers at the head of the tokens, and says whether one of them means temporary. -/
def readModifiers : List Token → Bool × List Token
  | [] => (false, [])
  | token :: rest =>
    match modifier? token with
    | some temporary =>
      let tail := readModifiers rest
      (temporary || tail.1, tail.2)
    | none => (false, token :: rest)

/-- The tokens without `IF NOT EXISTS`, of which the two later words may be missing. -/
def skipIfNotExists (tokens : List Token) : List Token :=
  match afterKeyword? "IF" tokens with
  | some rest => skipKeyword "EXISTS" (skipKeyword "NOT" rest)
  | none => tokens

/-- The object that a `CREATE` statement makes, from the tokens after its kind. Without a query there
is no lineage: a table given by its columns alone is left out. -/
def ofCreated? (make : String → StatementKind) (tokens : List Token) : Option StatementKind :=
  match readObjectName (skipIfNotExists tokens) with
  | some (target, rest) =>
    if containsKeyword "AS" rest && containsKeyword "SELECT" rest then some (make target) else none
  | none => none

/-- A `CREATE` statement from the tokens after `CREATE` and `OR REPLACE`. -/
def ofCreate? (tokens : List Token) : Option StatementKind :=
  let modifiers := readModifiers tokens
  match afterKeyword? "TABLE" modifiers.2 with
  | some rest => ofCreated? (createTableAs · modifiers.1) rest
  | none =>
    match afterKeyword? "VIEW" modifiers.2 with
    | some rest => ofCreated? createViewAs rest
    | none => none

/-- What a statement with these significant tokens does, or nothing if it carries no lineage that is
understood. Parentheses in front are ignored, and a `WITH` list may stand in front of `INSERT`. -/
def ofTokens? (tokens : List Token) : Option StatementKind :=
  match tokens.dropWhile (·.isMark "(") with
  | [] => none
  | first :: rest =>
    if first.isKeyword "SELECT" then some select
    else if first.isKeyword "WITH" then
      match afterTopLevel? "INSERT" 0 rest with
      | some inserted => ofInsert? inserted
      | none => if containsKeyword "SELECT" rest then some withSelect else none
    else if first.isKeyword "INSERT" then ofInsert? rest
    else if first.isKeyword "CREATE" then
      match afterKeyword? "OR" rest with
      | some replacing =>
        match afterKeyword? "REPLACE" replacing with
        | some created => ofCreate? created
        | none => none
      | none => ofCreate? rest
    else none

end StatementKind

/-- What the statement does, or nothing if it carries no lineage that is understood. -/
def Statement.kind? (statement : Statement) : Option StatementKind :=
  StatementKind.ofTokens? statement.significant

end SqlLineage.Script
