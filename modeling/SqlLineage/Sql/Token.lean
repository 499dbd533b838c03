/-
Module: SqlLineage.Sql.Token
Purpose: The tokens that the grammar is written in, and the names that words stand for.
Main exports: Token, closingQuote, writtenWord, Lexeme, Ident, Ident.render
-/
import SqlLineage.Sql.Keyword
import SqlLineage.Sql.Literal

namespace SqlLineage.Sql

/-- The token of a statement. -/
inductive Token where
  /-- A word and the quote it is written in. The keyword is the word in upper case if it has a meaning
  of its own, and empty if it has none or is quoted. -/
  | word (value : String) (keyword : String) (quote : Option Char)
  /-- A number as written, and whether the letter for a long one follows. -/
  | number (digits : String) (long : Bool)
  | text (style : StringStyle) (value : String)
  | placeholder (name : String)
  | symbol (symbol : String)
  /-- An operator that the grammar knows nothing of. -/
  | customOperator (symbol : String)
deriving Repr, Inhabited, DecidableEq

namespace Token

/-- The token of a word that is not quoted. -/
def plain (value : String) : Token := .word value (keywordOf value) none

/-- The keyword that the token is; empty if it is none. -/
def keyword : Token → String
  | .word _ keyword _ => keyword
  | _ => ""

end Token

/-- The quote that closes a quoted name. -/
def closingQuote (quote : Char) : Char := if quote = '[' then ']' else quote

/-- A word between its quotes, if it has any, with nothing in it escaped. -/
def writtenWord (value : String) : Option Char → String
  | none => value
  | some quote => quote.toString ++ value ++ (closingQuote quote).toString

/-- A token and whether it stands apart from the one before it. -/
structure Lexeme where
  token : Token
  afterBlank : Bool := true
deriving Repr, Inhabited, DecidableEq

/-- A name and the quote it is written in. -/
structure Ident where
  value : String
  quote : Option Char := none
deriving Repr, Inhabited, DecidableEq

namespace Ident

/-- The name as the statement is written out. -/
def render (ident : Ident) : String :=
  match ident.quote with
  | none => ident.value
  | some '[' => "[" ++ ident.value ++ "]"
  | some quote => inQuotes quote ident.value

end Ident

end SqlLineage.Sql
