/-
Module: SqlLineage.Proofs.Script.Quoting
Purpose: Writing a text between quotes, so that the lexer reads it as one token again, and a quoted name as
  that text.
Main exports: inQuotes, enquote, tokensFrom_enquote, unquoted_enquote, EnquotedRead, enquotedRead
-/
import SqlLineage.Proofs.Script.Slices
import SqlLineage.Proofs.Text.Cut

namespace SqlLineage.Script

/-- The characters of a text as they stand between quotes. A quote is written twice, and where backslashes
count a backslash is too. -/
def inQuotes (quote : Char) (backslash : Bool) (cs : List Char) : List Char :=
  cs.flatMap fun c => if c = quote || (c = '\\' && backslash) then [c, c] else [c]

/-- The text between quotes. -/
def enquote (quote : Char) (backslash : Bool) (s : String) : String :=
  String.ofList (quote :: (inQuotes quote backslash s.toList ++ [quote]))

example : enquote '\x22' false "My \x22Table\x22" = "\x22My \x22\x22Table\x22\x22\x22" := by decide

variable {quote c : Char} {backslash : Bool} {cs behind : List Char}

theorem inQuotes_cons_twice (twice : c = quote ∨ c = '\\' ∧ backslash = true) :
    inQuotes quote backslash (c :: cs) = c :: c :: inQuotes quote backslash cs := by
  simp [inQuotes, twice]

theorem inQuotes_cons_once (once : ¬ (c = quote ∨ c = '\\' ∧ backslash = true)) :
    inQuotes quote backslash (c :: cs) = c :: inQuotes quote backslash cs := by
  simp [inQuotes, once]

/-! ### Reading what is written -/

/-- What is written behind the opening quote is closed by the quote at its end and not before. -/
theorem quotedBody_inQuotes (quote : Char) (backslash : Bool) (cs : List Char) :
    QuotedBody quote backslash (inQuotes quote backslash cs ++ [quote]) := by
  induction cs with
  | nil => exact .closing
  | cons c cs ih =>
      by_cases isQuote : c = quote
      · subst isQuote
        rw [inQuotes_cons_twice (.inl rfl)]
        exact .doubled ih
      by_cases escape : c = '\\' ∧ backslash = true
      · obtain ⟨rfl, counts⟩ := escape
        rw [inQuotes_cons_twice (.inr ⟨rfl, counts⟩)]
        exact .escaped '\\' counts ih
      · rw [inQuotes_cons_once (not_or.mpr ⟨isQuote, escape⟩)]
        exact .plain isQuote (fun literal => by simpa [literal] using escape) ih

/-- A text between quotes is one token, unless the quote behind it is doubled by what follows. -/
theorem tokensFrom_enquote {escapes : QuoteEscapes} {kind : TokenKind}
    (chosen : ∀ rest, Lexeme.scan escapes quote rest = Lexeme.quoted kind quote backslash rest)
    (visible : ¬ Text.isBlank quote = true) (noEscape : quote ≠ '\\')
    (single : behind.head? ≠ some quote) (offset : Nat) (s : String) :
    tokensFrom escapes offset ((enquote quote backslash s).toList ++ behind) =
      ⟨kind, enquote quote backslash s, offset⟩ ::
        tokensFrom escapes (offset + (enquote quote backslash s).utf8ByteSize) behind := by
  have body := (quotedBody_inQuotes quote backslash s.toList).readQuoted_append noEscape single
  have lexeme : Lexeme.scan escapes quote (inQuotes quote backslash s.toList ++ [quote] ++ behind) =
      ⟨kind, quote :: (inQuotes quote backslash s.toList ++ [quote]), behind⟩ := by
    rw [chosen, Lexeme.quoted, body]
  rw [enquote, String.toList_ofList, List.cons_append, tokensFrom_lexeme visible, lexeme]
  rfl

/-- A text between quotes alone is one token. -/
theorem tokenize_enquote {escapes : QuoteEscapes} {kind : TokenKind}
    (chosen : ∀ rest, Lexeme.scan escapes quote rest = Lexeme.quoted kind quote backslash rest)
    (visible : ¬ Text.isBlank quote = true) (noEscape : quote ≠ '\\') (s : String) :
    tokenize escapes (enquote quote backslash s) = [⟨kind, enquote quote backslash s, 0⟩] := by
  have single : ([] : List Char).head? ≠ some quote := by simp
  have read := tokensFrom_enquote chosen visible noEscape single 0 s
  rwa [List.append_nil, tokensFrom_nil] at read

/-! ### Taking the quotes off -/

/-- Cutting the written text at its doubled quotes and joining the pieces by single ones restores it. The
characters in front belong to the first piece. -/
theorem intercalate_piecesAfter_inQuotes (quote : Char) (before cs : List Char) :
    [quote].intercalate (Text.piecesAfter [quote, quote] before (inQuotes quote false cs)) =
      before.reverse ++ cs := by
  induction cs generalizing before with
  | nil => simp [inQuotes, Text.piecesAfter]
  | cons c cs ih =>
      by_cases isQuote : c = quote
      · subst isQuote
        have found : Text.stripStart? [c, c] (c :: c :: inQuotes c false cs) =
            some (inQuotes c false cs) := Text.stripStart?_eq_some_iff.mpr rfl
        rw [inQuotes_cons_twice (.inl rfl), Text.piecesAfter_of_some (by simp) found,
          List.intercalate_cons_of_ne_nil (Text.piecesAfter_ne_nil _ _ _), ih]
        simp
      · have found : Text.stripStart? [quote, quote] (c :: inQuotes quote false cs) = none := by
          simp [Text.stripStart?, Ne.symm isQuote]
        rw [inQuotes_cons_once (by simpa using isQuote), Text.piecesAfter_of_none fun _ => found, ih,
          List.reverse_cons, List.append_assoc, List.singleton_append]

theorem unquote_inQuotes (quote : Char) (cs : List Char) :
    Token.unquote quote (inQuotes quote false cs ++ [quote]) = cs := by
  have closing : Text.stripEnd? [quote] (inQuotes quote false cs ++ [quote]) =
      some (inQuotes quote false cs) := by
    simp [Text.stripEnd?, Text.stripStart?]
  rw [Token.unquote, closing, Option.getD_some, Text.replaceAll, Text.pieces,
    intercalate_piecesAfter_inQuotes]
  rfl

/-- A quoted name spells the text that was put between quotes. -/
theorem unquoted_enquote (quote : Char) (s : String) (offset : Nat) :
    Token.unquoted ⟨.quotedIdentifier, enquote quote false s, offset⟩ = s := by
  have restored := unquote_inQuotes quote s.toList
  obtain ⟨c, rest, shape⟩ := List.exists_cons_of_ne_nil
    (List.append_ne_nil_of_right_ne_nil (inQuotes quote false s.toList) (List.cons_ne_nil quote []))
  rw [shape] at restored
  simp [Token.unquoted, enquote, shape, restored]

/-! ### The three kinds of quotes -/

/-- Whether a text is read as one quoted name that spells another text. -/
def ReadsAsName (escapes : QuoteEscapes) (text spelt : String) : Prop :=
  ∃ token, tokenize escapes text = [token] ∧ token.kind = .quotedIdentifier ∧ token.unquoted = spelt

/-- Whether a text is read as one string. -/
def ReadsAsString (escapes : QuoteEscapes) (text : String) : Prop :=
  ∃ token, tokenize escapes text = [token] ∧ token.kind = .stringLiteral

/-- What the lexer makes of a text that is put between quotes. -/
structure EnquotedRead (s : String) : Prop where
  /-- Where quotes are doubled only, double quotes make a name of it. -/
  doubleQuotes : ReadsAsName .doubled (enquote '\x22' false s) s
  /-- Backquotes make a name of it whether or not backslashes count in strings. -/
  backquotes : ∀ escapes, ReadsAsName escapes (enquote '\x60' false s) s
  /-- Single quotes make a string of it, if backslashes are doubled where they count. -/
  singleQuotes : ∀ escapes, ReadsAsString escapes (enquote '\x27' (escapes = .backslash) s)

/-- Every text can be put between quotes and is read as one token then. -/
theorem enquotedRead (s : String) : EnquotedRead s where
  doubleQuotes :=
    ⟨_, tokenize_enquote (fun _ => by simp [Lexeme.scan]) (by decide) (by decide) s, rfl,
      unquoted_enquote '\x22' s 0⟩
  backquotes := fun escapes =>
    ⟨_, tokenize_enquote (fun _ => by simp [Lexeme.scan]) (by decide) (by decide) s, rfl,
      unquoted_enquote '\x60' s 0⟩
  singleQuotes := fun escapes =>
    ⟨_, tokenize_enquote (fun _ => by simp [Lexeme.scan]) (by decide) (by decide) s, rfl⟩

end SqlLineage.Script
