/-
Module: SqlLineage.Sql.Grammar.Operand
Purpose: The operands that a keyword introduces and that have a syntax of their own, and literals of more
  than one value.
Main exports: caseExpression, castExpression, existsExpression, arrayExpression, structExpression
-/
import SqlLineage.Sql.Grammar.Call

namespace SqlLineage.Sql.Grammar

section

variable (r : Rules)

/-! ### Conditionals and conversions -/

def caseExpression : Reader Expr := do
  let operand ← (do if (← peekKeyword) == "WHEN" then pure none else return some (← r.expression))
  keyword "WHEN"
  let branch : Reader (Expr × Expr) := do
    let condition ← r.expression
    keyword "THEN"
    return (condition, ← r.expression)
  let first ← branch
  let rest ← many (afterKeyword "WHEN" branch)
  let otherwise ← afterKeyword "ELSE" r.expression
  keyword "END"
  let branches := first :: rest
  pure (.conditional operand (branches.map Prod.fst) (branches.map Prod.snd) otherwise)

/-- The format of a conversion, with the time zone it is in. -/
def castFormat : Reader String := do
  if ← keyword? "FORMAT" then
    let format ← literal r.dialect
    if ← keywords? ["AT", "TIME", "ZONE"] then
      return " FORMAT " ++ format ++ " AT TIME ZONE " ++ (← literal r.dialect)
    else pure (" FORMAT " ++ format)
  else pure ""

def castExpression (word : String) : Reader Expr := do
  symbol "("
  let value ← r.expression
  keyword "AS"
  let type ← dataType r.dialect
  let format ← castFormat r
  symbol ")"
  pure (.phrase [.text (word ++ "("), value, .text (" AS " ++ type.render ++ format ++ ")")])

def convertExpression (word : String) : Reader Expr := do
  symbol "("
  if r.dialect.convertTypeFirst then
    let type ← dataType r.dialect
    symbol ","
    let value ← r.expression
    let styles ← (do if ← symbol? "," then r.expressions else pure [])
    symbol ")"
    pure (.phrase (.text (word ++ "(" ++ type.render ++ ", ") :: .operand value
      :: styles.flatMap (fun style => [.text ", ", .operand style]) ++ [.text ")"]))
  else
    let value ← r.expression
    let tail ← (do
      if ← keyword? "USING" then return " USING " ++ renderPath (← path r.dialect)
      else
        symbol ","
        let type ← dataType r.dialect
        if ← keywords? ["CHARACTER", "SET"] then
          return ", " ++ type.render ++ " CHARACTER SET " ++ renderPath (← path r.dialect)
        else pure (", " ++ type.render))
    symbol ")"
    pure (.phrase [.text (word ++ "("), value, .text (tail ++ ")")])

def existsExpression (negation : String) : Reader Expr := do
  symbol "("
  let query ← r.query
  symbol ")"
  pure (.phrase [.text (negation ++ "EXISTS ("), query, ")"])

def extractExpression : Reader Expr := do
  symbol "("
  let field ← dateField r
  let separator ← (do
    if ← keyword? "FROM" then pure " FROM "
    else if ← onlyIf (r.dialect.isAnyOf [.generic, .snowflake]) (symbol? ",") then pure ", "
    else unexpected)
  let value ← r.expression
  symbol ")"
  pure (.phrase [.text ("EXTRACT(" ++ field ++ separator), value, ")"])

/-- A number rounded up or down, to a part of a date or to a number of places. -/
def roundExpression (word : String) : Reader Expr := do
  symbol "("
  let value ← r.expression
  let places ← (do
    if ← keyword? "TO" then return " TO " ++ (← dateField r)
    else if ← symbol? "," then
      match ← next with
      | .number digits long => return ", " ++ digits ++ if long then "L" else ""
      | _ => unexpected
    else pure "")
  symbol ")"
  pure (.phrase [.text (word ++ "("), value, .text (places ++ ")")])

def positionExpression (function : Ident) : Reader Expr := do
  let position ← attempt do
    symbol "("
    let part ← r.above .range
    keyword "IN"
    let whole ← r.expression
    symbol ")"
    pure (Expr.phrase ["POSITION(", part, " IN ", whole, ")"])
  match position with
  | some expr => pure expr
  | none => call r [function]

def substringExpression : Reader Expr := do
  symbol "("
  let value ← r.expression
  let byComma ← symbol? ","
  let start ← (do
    if byComma then return [.text ", ", .operand (← r.expression)]
    else if ← keyword? "FROM" then return [.text " FROM ", .operand (← r.expression)]
    else pure [])
  let length ← (do
    if ← firstOf (keyword? "FOR") (symbol? ",") then
      return [.text (if byComma then ", " else " FOR "), .operand (← r.expression)]
    else pure [])
  symbol ")"
  pure (.phrase (.text "SUBSTRING(" :: .operand value :: start ++ length ++ [.text ")"]))

def overlayExpression : Reader Expr := do
  symbol "("
  let value ← r.expression
  keyword "PLACING"
  let replacement ← r.expression
  keyword "FROM"
  let start ← r.expression
  let length ← r.boundAfter "FOR"
  symbol ")"
  pure (.phrase ([.text "OVERLAY(", .operand value, .text " PLACING ", .operand replacement,
    .text " FROM ", .operand start] ++ length ++ [.text ")"]))

/-- A text without some characters at its ends. A comma before the characters is read in all dialects, the
characters in few. -/
def trimExpression : Reader Expr := do
  symbol "("
  let opening :=
    match ← oneOf? ["BOTH", "LEADING", "TRAILING"] with
    | some side => "TRIM(" ++ side ++ " "
    | none => "TRIM("
  let first ← r.expression
  if ← keyword? "FROM" then
    let value ← r.expression
    symbol ")"
    pure (.inverted [.text opening, .operand first] [.text " FROM ", .operand value, .text ")"])
  else
    let byComma ← symbol? ","
    if byComma && r.dialect.isAnyOf [.bigquery, .generic, .snowflake] then
      let characters ← r.expressions
      symbol ")"
      pure (.phrase (.text "TRIM(" :: .operand first :: .text ", " :: commaParts characters
        ++ [.text ")"]))
    else
      symbol ")"
      pure (.phrase [.text opening, first, ")"])

/-! ### Searches -/

/-- A search in the text of these columns, after its keyword. -/
def matchExpression : Reader Expr := do
  let columns ← names r.dialect
  keyword "AGAINST"
  symbol "("
  let value ← literal r.dialect
  let modifier ← (do
    if ← keywords? ["IN", "NATURAL", "LANGUAGE", "MODE"] then
      if ← keywords? ["WITH", "QUERY", "EXPANSION"] then
        pure " IN NATURAL LANGUAGE MODE WITH QUERY EXPANSION"
      else pure " IN NATURAL LANGUAGE MODE"
    else if ← keywords? ["IN", "BOOLEAN", "MODE"] then pure " IN BOOLEAN MODE"
    else if ← keywords? ["WITH", "QUERY", "EXPANSION"] then pure " WITH QUERY EXPANSION"
    else pure "")
  symbol ")"
  pure (.plain
    ("MATCH (" ++ renderNames columns ++ ") AGAINST (" ++ value ++ modifier ++ ")"))

def notExpression : Reader Expr := do
  if ← keyword? "EXISTS" then existsExpression r "NOT "
  else return .phrase ["NOT ", ← r.above .negation]

/-! ### Values made of values -/

/-- The elements of a list, after its opening bracket. -/
def arrayExpression (word : String) : Reader Expr := do
  let elements ← commaSeparatedOrNone r.dialect "]" r.expression
  symbol "]"
  pure (.phrase (.text (word ++ "[") :: commaParts elements ++ [.text "]"]))

/-- A record, after its keyword. Fields of given types have no names of their own. -/
def structExpression : Reader Expr := do
  let (types, isClosed) ← structFields (innerType r.dialect)
  if isClosed then unexpected
  symbol "("
  let fields ← commaSeparated r.dialect do
    let value ← r.expression
    if ← keyword? "AS" then
      if types.isEmpty then return [.operand value, .text (" AS " ++ (← name).render)]
      else unexpected
    else pure [.operand value]
  symbol ")"
  let types := if types.isEmpty then "" else "<" ++ commas types ++ ">"
  pure (.phrase (.text ("STRUCT" ++ types ++ "(") :: commaPieces fields ++ [.text ")"]))

/-- Values by name, after the opening brace. -/
def dictionaryExpression : Reader Expr := do
  let fields ← commaSeparated r.dialect do
    let key ← name
    symbol ":"
    return [.text (key.render ++ ": "), .operand (← r.expression)]
  symbol "\x7d"
  pure (.phrase (.text "\x7b" :: commaPieces fields ++ [.text "\x7d"]))

/-- Values by other values, after the opening brace. -/
def mapExpression : Reader Expr := do
  let entries ← commaSeparatedOrNone r.dialect "\x7d" do
    let key ← r.expression
    symbol ":"
    return [.operand key, .text ": ", .operand (← r.expression)]
  symbol "\x7d"
  pure (.phrase (.text "MAP \x7b" :: commaPieces entries ++ [.text "\x7d"]))

/-- A call in braces, after the opening one, or else values by name. -/
def bracedExpression : Reader Expr := do
  let function ← attempt do
    keyword "FN"
    call r (← path r.dialect)
  match function with
  | some expr =>
    symbol "\x7d"
    pure (.braced expr)
  | none => if r.dialect.dictionaryLiterals then dictionaryExpression r else unexpected

end

end SqlLineage.Sql.Grammar
