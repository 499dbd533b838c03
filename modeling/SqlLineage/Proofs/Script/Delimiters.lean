/-
Module: SqlLineage.Proofs.Script.Delimiters
Purpose: The rules for what a quoted run and a block comment hold up to the delimiter that closes them, told
  without a reader. A token of these kinds that lacks its delimiter takes all that is left of the text.
Main exports: QuotedBody, CommentBody, Token.IsClosed, isClosed_of_mem_dropLast
-/
import SqlLineage.Proofs.Script.Positions

namespace SqlLineage.Script

/-- What stands behind the opening quote of a run that is closed. A quote that is not the closing one is
written twice, and with `backslash` any character may stand behind a backslash. -/
inductive QuotedBody (quote : Char) (backslash : Bool) : List Char → Prop where
  | closing : QuotedBody quote backslash [quote]
  | doubled {body : List Char} (onward : QuotedBody quote backslash body) :
      QuotedBody quote backslash (quote :: quote :: body)
  | escaped (c : Char) {body : List Char} (counts : backslash = true)
      (onward : QuotedBody quote backslash body) : QuotedBody quote backslash ('\\' :: c :: body)
  | plain {c : Char} {body : List Char} (inside : c ≠ quote) (literal : c = '\\' → backslash = false)
      (onward : QuotedBody quote backslash body) : QuotedBody quote backslash (c :: body)

/-- What stands behind the opening of a block comment that is closed: the closing, and before it none. -/
inductive CommentBody : List Char → Prop where
  | closing : CommentBody ['*', '/']
  | plain {c : Char} {body : List Char} (inside : c = '*' → body.head? ≠ some '/')
      (onward : CommentBody body) : CommentBody (c :: body)

/-- Whether a token has the delimiter that closes it, as the tokens of its kind are written. -/
structure Token.IsClosed (escapes : QuoteEscapes) (token : Token) : Prop where
  string : token.kind = .stringLiteral → ∃ body, token.text.toList = '\x27' :: body ∧
    QuotedBody '\x27' (escapes = .backslash) body
  /-- Between backquotes a backslash never counts. -/
  name : token.kind = .quotedIdentifier → ∃ body,
    (token.text.toList = '\x22' :: body ∧ QuotedBody '\x22' (escapes = .backslash) body) ∨
      (token.text.toList = '\x60' :: body ∧ QuotedBody '\x60' false body)
  comment : token.kind = .blockComment → ∃ body, token.text.toList = '/' :: '*' :: body ∧ CommentBody body

/-! ### Readers -/

/-- A quoted run with something behind it is closed. -/
theorem quotedBody_readQuoted (quote : Char) (backslash : Bool) (cs : List Char)
    (followed : (readQuoted quote backslash cs).2 ≠ []) :
    QuotedBody quote backslash (readQuoted quote backslash cs).1 := by
  fun_induction readQuoted quote backslash cs with
  | case1 => exact absurd rfl followed
  | case2 c => exact absurd rfl followed
  | case3 c d rest pair tail ih =>
      have onward := ih followed
      simp only [Bool.or_eq_true, Bool.and_eq_true, decide_eq_true_eq] at pair
      rcases pair with ⟨rfl, counts⟩ | ⟨rfl, rfl⟩
      · exact .escaped d counts onward
      · exact .doubled onward
  | case4 d rest pair => exact .closing
  | case5 c d rest pair inside tail ih =>
      refine .plain inside ?_ (ih followed)
      rintro rfl
      rw [← Bool.not_eq_true]
      intro counts
      exact pair (by simp [counts])

/-- Behind a quoted run stands no further quote, which would belong to it. -/
theorem head?_readQuoted (quote : Char) (backslash : Bool) (cs : List Char) :
    (readQuoted quote backslash cs).2.head? ≠ some quote := by
  fun_induction readQuoted quote backslash cs with
  | case1 => simp
  | case2 c => simp
  | case3 c d rest pair tail ih => exact ih
  | case4 d rest pair =>
      intro doubled
      simp_all
  | case5 c d rest pair inside tail ih => exact ih

/-- A block comment with something behind it is closed. -/
theorem commentBody_readBlockComment (cs : List Char) (followed : (readBlockComment cs).2 ≠ []) :
    CommentBody (readBlockComment cs).1 := by
  fun_induction readBlockComment cs with
  | case1 => exact absurd rfl followed
  | case2 rest => exact .closing
  | case3 c rest unclosed tail ih =>
      refine .plain ?_ (ih followed)
      rintro rfl first
      -- What is read starts as the text does, so the comment would have been closed here.
      have whole : tail.1 ++ tail.2 = rest := readBlockComment_append rest
      obtain ⟨more, shape⟩ : ∃ more, tail.1 = '/' :: more := List.head?_eq_some_iff.mp first
      exact unclosed (more ++ tail.2) rfl (by rw [← whole, shape, List.cons_append])

/-! ### Tokens -/

variable {escapes : QuoteEscapes} {offset : Nat}

/-- Whether the tokens of a kind are written with a delimiter at the end. -/
def TokenKind.isDelimited (kind : TokenKind) : Bool :=
  kind = .stringLiteral || kind = .quotedIdentifier || kind = .blockComment

theorem isDelimited_wordKind (word : String) : (wordKind word).isDelimited = false := by
  unfold wordKind
  split
  · rfl
  · rfl

theorem Token.isClosed_of_kind {token : Token} (kind : token.kind.isDelimited = false) :
    token.IsClosed escapes := by
  refine ⟨fun isString => ?_, fun isName => ?_, fun isComment => ?_⟩
  · rw [isString] at kind
    cases kind
  · rw [isName] at kind
    cases kind
  · rw [isComment] at kind
    cases kind

theorem Token.isClosed_of_string {token : Token} (kind : token.kind = .stringLiteral) {body : List Char}
    (written : token.text.toList = '\x27' :: body) (closed : QuotedBody '\x27' (escapes = .backslash) body) :
    token.IsClosed escapes where
  string := fun _ => ⟨body, written, closed⟩
  name := fun isName => by cases kind.symm.trans isName
  comment := fun isComment => by cases kind.symm.trans isComment

theorem Token.isClosed_of_name {token : Token} (kind : token.kind = .quotedIdentifier) {body : List Char}
    (closed : (token.text.toList = '\x22' :: body ∧ QuotedBody '\x22' (escapes = .backslash) body) ∨
      (token.text.toList = '\x60' :: body ∧ QuotedBody '\x60' false body)) :
    token.IsClosed escapes where
  string := fun isString => by cases kind.symm.trans isString
  name := fun _ => ⟨body, closed⟩
  comment := fun isComment => by cases kind.symm.trans isComment

theorem Token.isClosed_of_comment {token : Token} (kind : token.kind = .blockComment) {body : List Char}
    (written : token.text.toList = '/' :: '*' :: body) (closed : CommentBody body) :
    token.IsClosed escapes where
  string := fun isString => by cases kind.symm.trans isString
  name := fun isName => by cases kind.symm.trans isName
  comment := fun _ => ⟨body, written, closed⟩

theorem isClosed_dashOrSlash {c : Char} {rest : List Char}
    (followed : (Lexeme.dashOrSlash c rest).rest ≠ []) :
    ((Lexeme.dashOrSlash c rest).toToken offset).IsClosed escapes := by
  revert followed
  fun_cases Lexeme.dashOrSlash c rest with
  | case3 rest slash body =>
      intro followed
      refine Token.isClosed_of_comment rfl ?_ (commentBody_readBlockComment rest followed)
      rw [slash, Lexeme.toToken, String.toList_ofList]
  | case1 | case2 | case4 | case5 => exact fun _ => Token.isClosed_of_kind rfl

/-- A token with something behind it is closed. -/
theorem isClosed_scan {c : Char} {rest : List Char} (followed : (Lexeme.scan escapes c rest).rest ≠ []) :
    ((Lexeme.scan escapes c rest).toToken offset).IsClosed escapes := by
  revert followed
  fun_cases Lexeme.scan escapes c rest with
  | case1 dashOrSlash => exact isClosed_dashOrSlash
  | case2 _ quote =>
      intro followed
      have closed := quotedBody_readQuoted '\x27' (escapes = .backslash) rest (quote ▸ followed)
      refine Token.isClosed_of_string rfl ?_ closed
      rw [Lexeme.quoted, Lexeme.toToken, String.toList_ofList, quote]
  | case3 _ _ quote =>
      intro followed
      have closed := quotedBody_readQuoted '\x22' (escapes = .backslash) rest (quote ▸ followed)
      refine Token.isClosed_of_name rfl (.inl ⟨?_, closed⟩)
      rw [Lexeme.quoted, Lexeme.toToken, String.toList_ofList, quote]
  | case4 _ _ _ quote =>
      intro followed
      have closed := quotedBody_readQuoted '\x60' false rest (quote ▸ followed)
      refine Token.isClosed_of_name rfl (.inr ⟨?_, closed⟩)
      rw [Lexeme.quoted, Lexeme.toToken, String.toList_ofList, quote]
  | case6 =>
      intro _
      apply Token.isClosed_of_kind
      simp only [Lexeme.toToken, Lexeme.word, isDelimited_wordKind]
  | case5 | case7 | case8 | case9 | case10 => exact fun _ => Token.isClosed_of_kind rfl

/-- Only the last token of a text can lack the delimiter that closes it. -/
theorem isClosed_of_mem_dropLast {cs : List Char} {token : Token}
    (member : token ∈ (tokensFrom escapes offset cs).dropLast) : token.IsClosed escapes := by
  induction offset, cs using lexing_induction escapes with
  | done offset =>
      rw [tokensFrom_nil] at member
      cases member
  | blank offset c rest isBlank ih =>
      rw [tokensFrom_blank isBlank] at member
      exact ih member
  | token offset c rest visible ih =>
      rw [tokensFrom_lexeme visible] at member
      by_cases last : tokensFrom escapes ((Lexeme.scan escapes c rest).toToken offset).stop
          (Lexeme.scan escapes c rest).rest = []
      · rw [last] at member
        cases member
      · rw [List.dropLast_cons_of_ne_nil last] at member
        rcases List.mem_cons.mp member with rfl | later
        · refine isClosed_scan fun ended => last ?_
          rw [ended, tokensFrom_nil]
        · exact ih later

end SqlLineage.Script
