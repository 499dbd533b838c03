/-
Module: SqlLineage.Proofs.Script.WriteStatements
Purpose: The statements that write a relation, told by their grammar, and that each of them is recognized
  with the relation it writes.
Main exports: Token.isModifier, Creates, InsertsInto, Writes, recognized_of_writes
-/
import SqlLineage.Proofs.Script.Phrases

namespace SqlLineage.Script

/-! ### The grammar -/

/-- Whether a token is a word that may stand between `CREATE` and the kind of object. The last two are
known as words, not as keywords. -/
def Token.isModifier (token : Token) : Bool :=
  token.isAnyKeyword ["TEMP", "TEMPORARY", "GLOBAL", "LOCAL", "MATERIALIZED"] ||
    token.isWord "VOLATILE" || token.isWord "TRANSIENT"

/-- Whether a modifier marks an object that is dropped at the end of a session. -/
def Token.meansTemporary (token : Token) : Bool := token.isAnyKeyword ["TEMP", "TEMPORARY"]

/-- The tokens of a statement that makes an object of this kind from a query: its name, and whether it is
marked temporary. -/
inductive Creates (object : String) : List Token → String → Bool → Prop where
  | intro {create kind : Token} {replacing modifiers guard name rest : List Token} {names : List String}
      (isCreate : create.isKeyword "CREATE" = true)
      (replaces : SpellsOneOf [[], ["OR", "REPLACE"]] replacing)
      (known : ∀ token ∈ modifiers, token.isModifier = true)
      (isObject : kind.isKeyword object = true)
      (guards : SpellsOneOf [[], ["IF", "NOT", "EXISTS"]] guard)
      (spells : SpellsName name names) (ends : EndsName rest)
      (hasAs : containsKeyword "AS" rest = true) (hasQuery : containsKeyword "SELECT" rest = true) :
      Creates object (create :: (replacing ++ (modifiers ++ kind :: (guard ++ (name ++ rest)))))
        (Text.joinWith "." names) (modifiers.any Token.meansTemporary)

/-- The tokens of a statement that inserts the rows of a query into the relation of a name. -/
inductive InsertsInto : List Token → String → Prop where
  | intro {insert : Token} {lead name rest : List Token} {names : List String}
      (isInsert : insert.isKeyword "INSERT" = true)
      (leads : SpellsOneOf [[], ["INTO"], ["INTO", "TABLE"], ["OVERWRITE"], ["OVERWRITE", "TABLE"]] lead)
      (spells : SpellsName name names) (ends : EndsName rest)
      (hasQuery : containsKeyword "SELECT" rest = true) :
      InsertsInto (insert :: (lead ++ (name ++ rest))) (Text.joinWith "." names)

/-- The tokens of a statement that writes a relation, and its kind. Parentheses may be opened in front of
it, and `INSERT` may stand behind the definitions of a `WITH` list. -/
inductive Writes : List Token → StatementKind → Prop where
  | createTable {tokens : List Token} {target : String} {temporary : Bool}
      (creates : Creates "TABLE" tokens target temporary) : Writes tokens (.createTableAs target temporary)
  | createView {tokens : List Token} {target : String} {temporary : Bool}
      (creates : Creates "VIEW" tokens target temporary) : Writes tokens (.createViewAs target)
  | insert {tokens : List Token} {target : String} (inserts : InsertsInto tokens target) :
      Writes tokens (.insert target)
  | withInsert {word : Token} {definitions tokens : List Token} {target : String}
      (isWith : word.isKeyword "WITH" = true)
      (balanced : Balanced (fun token => token.isKeyword "INSERT" = false) definitions)
      (inserts : InsertsInto tokens target) : Writes (word :: (definitions ++ tokens)) (.insert target)
  | enclosed {mark : Token} {tokens : List Token} {kind : StatementKind}
      (opens : mark.isMark "(" = true) (onward : Writes tokens kind) : Writes (mark :: tokens) kind

/-! ### Statements that insert -/

namespace StatementKind

variable {tokens : List Token} {target : String}

/-- Behind `INTO` or `OVERWRITE` the word `TABLE` is passed over. -/
theorem ofInsert?_cons {word : Token} {name tokens rest : List Token} {names : List String}
    (isLead : word.isAnyKeyword ["INTO", "OVERWRITE"] = true) (spells : SpellsName name names)
    (behind : skipKeyword "TABLE" tokens = name ++ rest) :
    ofInsert? (word :: tokens) = ofInsert? (name ++ rest) := by
  have taken : (afterKeyword? "INTO" (word :: tokens)).or (afterKeyword? "OVERWRITE" (word :: tokens)) =
      some tokens := by
    simp only [Token.isAnyKeyword, List.any_cons, List.any_nil, Bool.or_false, Bool.or_eq_true] at isLead
    rcases isLead with isInto | isOverwrite
    · rw [afterKeyword?_of_isKeyword isInto, Option.some_or]
    · have apart : word.isKeyword "INTO" = false := Token.isKeyword_eq_of_isKeyword isOverwrite "INTO"
      rw [afterKeyword?_of_not apart, afterKeyword?_of_isKeyword isOverwrite, Option.none_or]
  simp only [ofInsert?, taken, behind, spells.afterKeyword?_append, Option.none_or]

/-- Behind `INTO` or `OVERWRITE`, with or without `TABLE`, stands the relation. -/
theorem ofInsert?_lead {lead name : List Token} {names : List String}
    (phrase : SpellsOneOf [[], ["INTO"], ["INTO", "TABLE"], ["OVERWRITE"], ["OVERWRITE", "TABLE"]] lead)
    (spells : SpellsName name names) (rest : List Token) :
    ofInsert? (lead ++ (name ++ rest)) = ofInsert? (name ++ rest) := by
  have shapes : ∀ words ∈ [[], ["INTO"], ["INTO", "TABLE"], ["OVERWRITE"], ["OVERWRITE", "TABLE"]],
      words = [] ∨ ∃ word ∈ ["INTO", "OVERWRITE"], words = [word] ∨ words = [word, "TABLE"] := by
    decide
  obtain ⟨words, listed, isLead⟩ := phrase
  rcases shapes words listed with rfl | ⟨_, among, rfl | rfl⟩
  · rw [spellsWords_nil.mp isLead, List.nil_append]
  · simp only [spellsWords_cons, spellsWords_nil] at isLead
    obtain ⟨word, _, isWord, rfl, rfl⟩ := isLead
    exact ofInsert?_cons (Token.isAnyKeyword_of_mem isWord among) spells
      (spells.skipKeyword_append "TABLE" rest)
  · simp only [spellsWords_cons, spellsWords_nil] at isLead
    obtain ⟨word, _, isWord, ⟨table, _, isTable, rfl, rfl⟩, rfl⟩ := isLead
    exact ofInsert?_cons (Token.isAnyKeyword_of_mem isWord among) spells
      (skipKeyword_of_isKeyword isTable)

/-- What stands behind `INSERT` is read as the relation and a query. -/
theorem ofInsert?_of_insertsInto (inserts : InsertsInto tokens target) :
    ∃ word rest, tokens = word :: rest ∧ word.isKeyword "INSERT" = true ∧
      ofInsert? rest = some (insert target) := by
  obtain ⟨word, lead, spells, ends, hasQuery⟩ := inserts
  refine ⟨_, _, rfl, word, ?_⟩
  rw [ofInsert?_lead lead spells, ofInsert?, spells.afterKeyword?_append, spells.afterKeyword?_append]
  simp [spells.readObjectName_append ends, hasQuery]

/-! ### Statements that create -/

theorem modifier?_of_isModifier {token : Token} (known : token.isModifier = true) :
    modifier? token = some token.meansTemporary := by
  by_cases temporary : token.isAnyKeyword ["TEMP", "TEMPORARY"] = true
  · rw [modifier?, if_pos temporary, Token.meansTemporary, temporary]
  · rw [modifier?, if_neg temporary, Token.meansTemporary, Bool.eq_false_iff.mpr temporary]
    simp only [Token.isModifier, Token.isAnyKeyword, List.any_cons, List.any_nil] at known temporary ⊢
    grind

/-- The word for the kind of object is no modifier. -/
theorem modifier?_of_isKeyword {token : Token} {object : String} (isObject : token.isKeyword object = true)
    (listed : object ∈ ["TABLE", "VIEW"]) : modifier? token = none := by
  simp only [modifier?, Token.isAnyKeyword_eq_of_isKeyword isObject, Token.isWord_eq_of_isKeyword isObject]
  simp only [List.mem_cons, List.not_mem_nil, or_false] at listed
  rcases listed with rfl | rfl
  · decide
  · decide

theorem isKeyword_or_of_isModifier {token : Token} (known : token.isModifier = true) :
    token.isKeyword "OR" = false := by
  rw [Bool.eq_false_iff]
  intro isOr
  rw [Token.isModifier, Token.isAnyKeyword_eq_of_isKeyword isOr, Token.isWord_eq_of_isKeyword isOr,
    Token.isWord_eq_of_isKeyword isOr] at known
  exact absurd known (by decide)

/-- Neither a modifier nor the kind of object is the word of `OR REPLACE`. -/
theorem afterKeyword?_or_append {modifiers : List Token} {object : Token} {word : String}
    (known : ∀ token ∈ modifiers, token.isModifier = true) (isObject : object.isKeyword word = true)
    (listed : word ∈ ["TABLE", "VIEW"]) (rest : List Token) :
    afterKeyword? "OR" (modifiers ++ object :: rest) = none := by
  cases modifiers with
  | nil =>
      refine afterKeyword?_of_not ?_
      rw [Token.isKeyword_eq_of_isKeyword isObject]
      simp only [List.mem_cons, List.not_mem_nil, or_false] at listed
      rcases listed with rfl | rfl
      · decide
      · decide
  | cons token modifiers =>
      exact afterKeyword?_of_not (isKeyword_or_of_isModifier (known token List.mem_cons_self))

theorem readModifiers_append {modifiers : List Token} {object : Token}
    (known : ∀ token ∈ modifiers, token.isModifier = true) (other : modifier? object = none)
    (rest : List Token) :
    readModifiers (modifiers ++ object :: rest) =
      (modifiers.any Token.meansTemporary, object :: rest) := by
  induction modifiers with
  | nil => simp [readModifiers, other]
  | cons token modifiers ih =>
      obtain ⟨first, later⟩ := List.forall_mem_cons.mp known
      rw [List.cons_append, readModifiers, modifier?_of_isModifier first]
      simp [ih later]

theorem skipIfNotExists_append {guard name : List Token} {names : List String}
    (guards : SpellsOneOf [[], ["IF", "NOT", "EXISTS"]] guard) (spells : SpellsName name names)
    (rest : List Token) : skipIfNotExists (guard ++ (name ++ rest)) = name ++ rest := by
  obtain ⟨words, listed, isGuard⟩ := guards
  simp only [List.mem_cons, List.not_mem_nil, or_false] at listed
  rcases listed with rfl | rfl
  · rw [spellsWords_nil.mp isGuard, List.nil_append, skipIfNotExists, spells.afterKeyword?_append]
  · simp only [spellsWords_cons, spellsWords_nil] at isGuard
    obtain ⟨first, _, isIf, ⟨second, _, isNot, ⟨third, _, isExists, rfl, rfl⟩, rfl⟩, rfl⟩ := isGuard
    simp [skipIfNotExists, afterKeyword?_of_isKeyword isIf, skipKeyword_of_isKeyword isNot,
      skipKeyword_of_isKeyword isExists]

/-- Behind the kind of object its name is read, whether or not it may be there already. -/
theorem ofCreated?_append {guard name rest : List Token} {names : List String}
    (guards : SpellsOneOf [[], ["IF", "NOT", "EXISTS"]] guard) (spells : SpellsName name names)
    (ends : EndsName rest) (hasAs : containsKeyword "AS" rest = true)
    (hasQuery : containsKeyword "SELECT" rest = true) (make : String → StatementKind) :
    ofCreated? make (guard ++ (name ++ rest)) = some (make (Text.joinWith "." names)) := by
  rw [ofCreated?, skipIfNotExists_append guards spells, spells.readObjectName_append ends]
  simp [hasAs, hasQuery]

/-! ### The first word of a statement -/

/-- No parenthesis stands in front of a keyword. -/
theorem dropWhile_of_isKeyword {first : Token} {word : String} (isWord : first.isKeyword word = true)
    (rest : List Token) : (first :: rest).dropWhile (·.isMark "(") = first :: rest := by
  simp [Token.isMark_of_isKeyword isWord]

/-- Behind `CREATE` and `OR REPLACE` the rest of the statement is read. -/
theorem ofTokens?_create {word : Token} {replacing body : List Token}
    (isCreate : word.isKeyword "CREATE" = true)
    (replaces : SpellsOneOf [[], ["OR", "REPLACE"]] replacing)
    (noOr : afterKeyword? "OR" body = none) :
    ofTokens? (word :: (replacing ++ body)) = ofCreate? body := by
  rw [ofTokens?, dropWhile_of_isKeyword isCreate]
  simp only [Token.isKeyword_eq_of_isKeyword isCreate]
  obtain ⟨words, listed, isReplacing⟩ := replaces
  simp only [List.mem_cons, List.not_mem_nil, or_false] at listed
  rcases listed with rfl | rfl
  · rw [spellsWords_nil.mp isReplacing, List.nil_append, noOr]
    rfl
  · simp only [spellsWords_cons, spellsWords_nil] at isReplacing
    obtain ⟨first, _, isOr, ⟨second, _, isReplace, rfl, rfl⟩, rfl⟩ := isReplacing
    rw [List.cons_append, List.singleton_append, afterKeyword?_of_isKeyword isOr]
    simp only [afterKeyword?_of_isKeyword isReplace]
    rfl

theorem ofTokens?_insert {word : Token} (isInsert : word.isKeyword "INSERT" = true) (rest : List Token) :
    ofTokens? (word :: rest) = ofInsert? rest := by
  rw [ofTokens?, dropWhile_of_isKeyword isInsert]
  simp only [Token.isKeyword_eq_of_isKeyword isInsert]
  rfl

/-- Behind `WITH` an `INSERT` outside parentheses is looked for. -/
theorem ofTokens?_with {word : Token} {rest inserted : List Token} (isWith : word.isKeyword "WITH" = true)
    (found : afterTopLevel? "INSERT" 0 rest = some inserted) :
    ofTokens? (word :: rest) = ofInsert? inserted := by
  rw [ofTokens?, dropWhile_of_isKeyword isWith]
  simp only [Token.isKeyword_eq_of_isKeyword isWith, found]
  rfl

theorem ofTokens?_enclosed {mark : Token} (opens : mark.isMark "(" = true) (rest : List Token) :
    ofTokens? (mark :: rest) = ofTokens? rest := by
  rw [ofTokens?, List.dropWhile_cons_of_pos opens]
  rfl

/-! ### The grammar is recognized -/

/-- In front of the name of an object its modifiers are read, and the kind of object. -/
theorem ofCreate?_append {modifiers : List Token} {object : Token} {word : String}
    (known : ∀ token ∈ modifiers, token.isModifier = true) (isObject : object.isKeyword word = true)
    (listed : word ∈ ["TABLE", "VIEW"]) (rest : List Token) :
    ofCreate? (modifiers ++ object :: rest) =
      if word = "TABLE" then ofCreated? (createTableAs · (modifiers.any Token.meansTemporary)) rest
      else ofCreated? createViewAs rest := by
  have modified := readModifiers_append known (modifier?_of_isKeyword isObject listed) rest
  simp only [List.mem_cons, List.not_mem_nil, or_false] at listed
  rcases listed with rfl | rfl
  · rw [ofCreate?, modified, if_pos rfl]
    simp only [afterKeyword?_of_isKeyword isObject]
  · have noTable : object.isKeyword "TABLE" = false := Token.isKeyword_eq_of_isKeyword isObject "TABLE"
    rw [ofCreate?, modified, if_neg (by decide)]
    simp only [afterKeyword?_of_not noTable, afterKeyword?_of_isKeyword isObject]

theorem ofTokens?_of_creates {object : String} {temporary : Bool}
    (creates : Creates object tokens target temporary) (listed : object ∈ ["TABLE", "VIEW"]) :
    ofTokens? tokens =
      some (if object = "TABLE" then createTableAs target temporary else createViewAs target) := by
  obtain ⟨isCreate, replaces, known, isObject, guards, spells, ends, hasAs, hasQuery⟩ := creates
  have read := ofCreated?_append guards spells ends hasAs hasQuery
  rw [ofTokens?_create isCreate replaces (afterKeyword?_or_append known isObject listed _),
    ofCreate?_append known isObject listed, read, read]
  split_ifs
  · rfl
  · rfl

theorem ofTokens?_of_writes {kind : StatementKind} (writes : Writes tokens kind) :
    ofTokens? tokens = some kind := by
  induction writes with
  | createTable creates => exact ofTokens?_of_creates creates (by decide)
  | createView creates => exact ofTokens?_of_creates creates (by decide)
  | insert inserts =>
      obtain ⟨word, rest, rfl, isInsert, read⟩ := ofInsert?_of_insertsInto inserts
      rw [ofTokens?_insert isInsert, read]
  | @withInsert word definitions tokens target isWith balanced inserts =>
      obtain ⟨insert, rest, rfl, isInsert, read⟩ := ofInsert?_of_insertsInto inserts
      have found : afterTopLevel? "INSERT" 0 (definitions ++ insert :: rest) = some rest := by
        have plain := Token.isPlain_of_isKeyword isInsert
        rw [balanced.afterTopLevel?_append fun _ _ absent => absent, afterTopLevel?, if_neg plain.1,
          if_neg plain.2]
        simp [isInsert]
      rw [ofTokens?_with isWith found, read]
  | enclosed opens onward ih => rw [ofTokens?_enclosed opens, ih]

end StatementKind

/-- A statement that writes a relation is recognized, with the relation and whatever comments stand between
its tokens. -/
theorem recognized_of_writes {statement : Statement} {kind : StatementKind}
    (writes : Writes statement.significant kind) : statement.kind? = some kind :=
  StatementKind.ofTokens?_of_writes writes

/-- A script whose only statement inserts behind a definition that has the word `INSERT` in parentheses. -/
def insertingScript : String :=
  "(WITH a AS (INSERT) -- INSERT INTO b\nINSERT INTO dw.\x22My t\x22 /* AS */ SELECT 1"

/-- The definitions of the script, and the parts of the name of its relation. -/
def insertingDefinitions : List Token :=
  [⟨.identifier, "a", 6⟩, ⟨.keyword, "AS", 8⟩, ⟨.punctuation, "(", 11⟩, ⟨.keyword, "INSERT", 12⟩,
    ⟨.punctuation, ")", 18⟩]

def insertingName : List Token :=
  [⟨.identifier, "dw", 49⟩, ⟨.punctuation, ".", 51⟩, ⟨.quotedIdentifier, "\x22My t\x22", 52⟩]

/-- The tokens of the script that carry meaning. -/
def insertingTokens : List Token :=
  ⟨.punctuation, "(", 0⟩ :: ⟨.keyword, "WITH", 1⟩ :: (insertingDefinitions ++
    ⟨.keyword, "INSERT", 37⟩ :: ([⟨.keyword, "INTO", 44⟩] ++
      (insertingName ++ [⟨.keyword, "SELECT", 68⟩, ⟨.numberLiteral, "1", 75⟩])))

theorem writes_insertingTokens : Writes insertingTokens (.insert "dw.My t") := by
  have definitions : Balanced (fun token => token.isKeyword "INSERT" = false) insertingDefinitions :=
    .plain (by decide) (by decide) (.plain (by decide) (by decide)
      (@Balanced.group _ _ _ [_] [] (by decide) (.plain (by decide) trivial .nil) (by decide) .nil))
  have name : SpellsName insertingName
      [Token.unquoted ⟨.identifier, "dw", 49⟩, Token.unquoted ⟨.quotedIdentifier, "\x22My t\x22", 52⟩] :=
    .dotted (by decide) (by decide) (.last (by decide))
  have target : Text.joinWith "."
      [Token.unquoted ⟨.identifier, "dw", 49⟩, Token.unquoted ⟨.quotedIdentifier, "\x22My t\x22", 52⟩] =
      "dw.My t" := by
    decide +kernel
  have inserts : InsertsInto (⟨.keyword, "INSERT", 37⟩ :: ([⟨.keyword, "INTO", 44⟩] ++
      (insertingName ++ [⟨.keyword, "SELECT", 68⟩, ⟨.numberLiteral, "1", 75⟩]))) _ :=
    .intro (by decide) ⟨["INTO"], by decide, .cons (by decide) .nil⟩ name (endsName_of_head (by decide))
      (by decide)
  exact .enclosed (by decide) (.withInsert (by decide) definitions (target ▸ inserts))

theorem recognized_insertingScript : ∃ statement, Statement.split .doubled insertingScript = [statement] ∧
    Writes statement.significant (.insert "dw.My t") ∧
      statement.kind? = some (.insert "dw.My t") := by
  have split : (Statement.split .doubled insertingScript).map Statement.significant =
      [insertingTokens] := by
    decide +kernel
  obtain ⟨statement, whole, tokens⟩ := List.map_eq_singleton_iff.mp split
  have writes : Writes statement.significant (.insert "dw.My t") := tokens ▸ writes_insertingTokens
  exact ⟨statement, whole, writes, recognized_of_writes writes⟩

end SqlLineage.Script
