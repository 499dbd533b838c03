/-
Module: SqlLineage.Script.Token
Purpose: The tokens of a SQL script: their kinds, where they stand, and the names they spell.
Main exports: TokenKind, Token, Token.unquoted, keywords, wordKind
-/
import SqlLineage.Text.Ascii
import SqlLineage.Text.Cut

namespace SqlLineage.Script

/-- The lexical class of a token. -/
inductive TokenKind where
  | keyword
  | identifier
  | quotedIdentifier
  | stringLiteral
  | numberLiteral
  | punctuation
  | operator
  | lineComment
  | blockComment
  /-- A character that starts none of the other kinds. -/
  | unknown
deriving Repr, Inhabited, DecidableEq

/-- A lexeme and the byte offset at which it starts in the script. -/
structure Token where
  kind : TokenKind
  text : String
  offset : Nat
deriving Repr, Inhabited, DecidableEq

namespace Token

/-- The byte offset just after the token. -/
def stop (token : Token) : Nat := token.offset + token.text.utf8ByteSize

/-- Whether the token is this keyword, in any letter case. -/
def isKeyword (word : String) (token : Token) : Bool :=
  token.kind = .keyword && Text.sameIgnoringCase token.text word

/-- Whether the token is one of these keywords. -/
def isAnyKeyword (words : List String) (token : Token) : Bool :=
  words.any fun word => token.isKeyword word

/-- Whether the token is this punctuation mark. -/
def isMark (mark : String) (token : Token) : Bool :=
  token.kind = .punctuation && token.text == mark

/-- Whether the token spells this word, whatever its kind. -/
def isWord (word : String) (token : Token) : Bool :=
  Text.sameIgnoringCase token.text word

def isComment (token : Token) : Bool :=
  token.kind = .lineComment || token.kind = .blockComment

/-- Whether the token is a name, quoted or not. -/
def isName (token : Token) : Bool :=
  token.kind = .identifier || token.kind = .quotedIdentifier

/-- The name between the quotes of a quoted text: the closing quote is dropped if it is there, and a
quote written twice stands for one. -/
def unquote (quote : Char) (inner : List Char) : List Char :=
  let name := (Text.stripEnd? [quote] inner).getD inner
  Text.replaceAll [quote, quote] [quote] name

/-- The name a token spells: a quoted identifier without its quotes, any other token as written. -/
def unquoted (token : Token) : String :=
  if token.kind = .quotedIdentifier then
    match token.text.toList with
    | quote :: c :: rest => String.ofList (unquote quote (c :: rest))
    | _ => token.text
  else
    token.text

end Token

/-- The words that give a statement its structure. Every other word is an identifier, so that tables
called `date` or `user` are relations like any other. -/
def keywords : List String := [
  "ALL", "AND", "AS", "BY", "CREATE", "CROSS", "DISTINCT", "EXCEPT", "EXISTS", "FROM", "FULL",
  "GLOBAL", "GROUP", "HAVING", "IF", "IN", "INNER", "INSERT", "INTERSECT", "INTO", "JOIN",
  "LATERAL", "LEFT", "LIMIT", "LOCAL", "MATERIALIZED", "NATURAL", "NOT", "OFFSET", "ON", "OR",
  "ORDER", "OUTER", "OVERWRITE", "QUALIFY", "RECURSIVE", "REPLACE", "RIGHT", "SELECT", "TABLE",
  "TEMP", "TEMPORARY", "UNION", "USING", "VALUES", "VIEW", "WHERE", "WINDOW", "WITH"]

/-- The kind of token a word is. -/
def wordKind (word : String) : TokenKind :=
  if keywords.contains (Text.upper word) then .keyword else .identifier

/-- The tokens as text, with one space wherever the script has a gap between two of them. The first
argument is the offset at which the token before them stops. -/
def renderAfter (last : Nat) : List Token → String
  | [] => ""
  | token :: rest =>
    (if token.offset > last then " " else "") ++ token.text ++ renderAfter token.stop rest

/-- The tokens as text, with one space wherever the script has a gap between two of them. -/
def render : List Token → String
  | [] => ""
  | token :: rest => token.text ++ renderAfter token.stop rest

@[simp] theorem render_singleton (token : Token) : render [token] = token.text := by
  simp [render, renderAfter]

end SqlLineage.Script
