/-
Module: SqlLineage.Script.Statement
Purpose: Cutting a script into statements at its semicolons. A statement that holds comments only
  counts as blank: it is skipped and takes no index.
Main exports: Statement, Statement.split, Statement.significant, Statement.normalized
-/
import SqlLineage.Script.Lexer

namespace SqlLineage.Script

/-- One statement of a script. -/
structure Statement where
  /-- The position among the statements of the script. -/
  index : Nat
  /-- The byte offset of the first token. -/
  start : Nat
  /-- The byte offset at which the statement ends: that of its semicolon, or the end of the script. -/
  stop : Nat
  /-- All tokens of the statement, comments included. -/
  tokens : List Token
deriving Repr, Inhabited, DecidableEq

/-- The tokens between two semicolons, and where the second of them stands. -/
structure TokenGroup where
  tokens : List Token
  stop : Nat
deriving Repr, Inhabited, DecidableEq

namespace TokenGroup

/-- The groups into which the semicolons cut the tokens of a script of this length. -/
def split (scriptEnd : Nat) : List Token → List TokenGroup
  | [] => [⟨[], scriptEnd⟩]
  | token :: rest =>
    if token.isMark ";" then
      ⟨[], token.offset⟩ :: split scriptEnd rest
    else
      match split scriptEnd rest with
      | [] => []
      | group :: groups => ⟨token :: group.tokens, group.stop⟩ :: groups

/-- A script has one group more than it has semicolons, so at least one. -/
theorem split_ne_nil (scriptEnd : Nat) (tokens : List Token) : split scriptEnd tokens ≠ [] := by
  induction tokens with
  | nil => simp [split]
  | cons token rest ih =>
    unfold split
    split
    · simp
    · split
      · contradiction
      · simp

/-- Whether a group is a statement: some token of it is no comment. -/
def isStatement (group : TokenGroup) : Bool := group.tokens.any (!·.isComment)

/-- The statement that a group stands for. -/
def toStatement (index : Nat) (group : TokenGroup) : Statement :=
  { index
    start := (group.tokens.head?.map Token.offset).getD group.stop
    stop := group.stop
    tokens := group.tokens }

end TokenGroup

namespace Statement

/-- The statements of a script, in order and numbered from zero. -/
def split (escapes : QuoteEscapes) (script : String) : List Statement :=
  let groups := TokenGroup.split script.utf8ByteSize (tokenize escapes script)
  (groups.filter TokenGroup.isStatement).mapIdx TokenGroup.toStatement

/-- The tokens that carry meaning, which are all but the comments. -/
def significant (statement : Statement) : List Token :=
  statement.tokens.filter (!·.isComment)

/-- The text of the statement without its comments, each gap between two tokens one space wide. -/
def normalized (statement : Statement) : String := render statement.significant

def containsKeyword (statement : Statement) (word : String) : Bool :=
  statement.significant.any (·.isKeyword word)

end Statement

end SqlLineage.Script
