/-
Module: SqlLineage.Proofs.Json.RoundTrip
Purpose: A document without numbers is read back from the text that it is written as on one line.
Main exports: isNumberless, parse?_compact
-/
import SqlLineage.Json.Parser
import SqlLineage.Json.Printer

namespace SqlLineage.Json

/-! ### Strings -/

/-- The four digits of an escape are read as the code that they were made from. -/
theorem readHex_hexDigits {code : Nat} (bound : code < 32) (rest : List Char) :
    readHex (hexDigits 4 code ++ rest) = some (code, rest) := by
  have digits : ∀ code < 32, Text.digitsValue? 16 (hexDigits 4 code) = some code := by decide
  have four : hexDigits 4 code = [Nat.digitChar (code / 16 / 16 / 16 % 16), Nat.digitChar (code / 16 / 16 % 16),
    Nat.digitChar (code / 16 % 16), Nat.digitChar (code % 16)] := rfl
  have known := digits code bound
  rw [four] at known ⊢
  simp only [List.cons_append, List.nil_append, readHex, known]
  rfl

theorem readEscape_code {c : Char} (control : c.toNat < 32) (rest : List Char) :
    readEscape ('u' :: hexDigits 4 c.toNat ++ rest) = some (some c, rest) := by
  have low : ¬ 0xD800 ≤ c.toNat := by omega
  have lower : ¬ 0xDC00 ≤ c.toNat := by omega
  simp only [List.cons_append, readEscape, readHex_hexDigits control, Option.bind_eq_bind, Option.bind_some,
    low, lower, decide_false, Bool.false_and, Bool.false_eq_true, if_false, Char.ofNat_toNat]
  rfl

/-- A character is read back from the way in which it is written inside a string. -/
theorem readString_escapeChar (reversed : List StringPiece) (fuel : Nat) (c : Char) (rest : List Char) :
    readString reversed (fuel + 1) (escapeChar c ++ rest) = readString (some c :: reversed) fuel rest := by
  unfold escapeChar
  split
  · next here => subst here; rfl
  split
  · next here => subst here; rfl
  split
  · next here => subst here; rfl
  split
  · next here => subst here; rfl
  split
  · next here => subst here; rfl
  split
  · next here => subst here; rfl
  split
  · next here => subst here; rfl
  split
  · next control =>
      rw [List.cons_append, readString, if_neg (by decide), if_pos rfl, readEscape_code control]
  · next notQuote notBackslash _ _ _ _ _ printable =>
      rw [List.singleton_append, readString, if_neg notQuote, if_neg notBackslash, if_neg printable]

/-- The pieces of a string are its characters. -/
theorem readString_flatMap_escapeChar (cs : List Char) (reversed : List StringPiece) {fuel : Nat}
    (enough : cs.length < fuel) (rest : List Char) :
    readString reversed fuel (cs.flatMap escapeChar ++ '\x22' :: rest) =
      some ((cs.map some).reverse ++ reversed, rest) := by
  induction cs generalizing reversed fuel with
  | nil =>
      obtain ⟨fuel, rfl⟩ := Nat.exists_eq_add_one_of_ne_zero (Nat.ne_of_gt enough)
      rfl
  | cons c cs ih =>
      obtain ⟨fuel, rfl⟩ := Nat.exists_eq_add_one_of_ne_zero (Nat.ne_of_gt (Nat.zero_lt_of_lt enough))
      rw [List.flatMap_cons, List.append_assoc, readString_escapeChar,
        ih (some c :: reversed) (Nat.lt_of_succ_lt_succ enough), List.map_cons, List.reverse_cons,
        List.append_assoc]
      rfl

theorem stringOf?_reverse (cs : List Char) : stringOf? (cs.map some).reverse = some (String.ofList cs) := by
  have pieces : (cs.map some).mapM id = some cs := by
    induction cs with
    | nil => rfl
    | cons c cs ih => rw [List.map_cons, List.mapM_cons, ih]; rfl
  rw [stringOf?, List.reverse_reverse, pieces, Option.map_some]

theorem length_le_flatMap_escapeChar (cs : List Char) : cs.length ≤ (cs.flatMap escapeChar).length := by
  have nonempty : ∀ c, 1 ≤ (escapeChar c).length := by
    intro c
    unfold escapeChar
    (repeat' split) <;> simp
  induction cs with
  | nil => exact Nat.le_refl _
  | cons c cs ih =>
      have here := nonempty c
      rw [List.flatMap_cons, List.length_append, List.length_cons]
      omega

theorem toList_quote (s : String) : (quote s).toList = '\x22' :: (s.toList.flatMap escapeChar ++ ['\x22']) := by
  simp [quote]

/-- A string is read back up to its closing quote. -/
theorem readString_quote (s : String) (rest : List Char) :
    readString [] ((s.toList.flatMap escapeChar ++ '\x22' :: rest).length + 1)
      (s.toList.flatMap escapeChar ++ '\x22' :: rest) = some ((s.toList.map some).reverse, rest) := by
  have enough : s.toList.length < (s.toList.flatMap escapeChar ++ '\x22' :: rest).length + 1 := by
    have short := length_le_flatMap_escapeChar s.toList
    rw [List.length_append]
    omega
  rw [readString_flatMap_escapeChar _ _ enough, List.append_nil]

/-! ### Documents -/

mutual

/-- Whether a document has a value and contains no number. -/
def isNumberless : Json → Bool
  | null => true
  | bool _ => true
  | num _ => false
  | str _ => true
  | arr items => isNumberlessItems items
  | obj members => isNumberlessMembers members
  | unreadable => false

def isNumberlessItems : List Json → Bool
  | [] => true
  | item :: rest => isNumberless item && isNumberlessItems rest

def isNumberlessMembers : List (String × Json) → Bool
  | [] => true
  | (_, value) :: rest => isNumberless value && isNumberlessMembers rest

end

theorem isNumberlessItems_iff (items : List Json) :
    isNumberlessItems items = true ↔ ∀ item ∈ items, item.isNumberless = true := by
  induction items with
  | nil => simp [isNumberlessItems]
  | cons item rest ih => simp [isNumberlessItems, ih]

theorem isNumberlessMembers_iff (members : List (String × Json)) :
    isNumberlessMembers members = true ↔ ∀ member ∈ members, member.2.isNumberless = true := by
  induction members with
  | nil => simp [isNumberlessMembers]
  | cons member rest ih => simp [isNumberlessMembers, ih]

/-- The characters with which a document without numbers can start. -/
def openings : List Char := ['n', 't', 'f', '\x22', '[', '\x7b']

theorem exists_opening {document : Json} (numberless : document.isNumberless = true) :
    ∃ opening behind, opening ∈ openings ∧ document.compact.toList = opening :: behind := by
  cases document with
  | null => exact ⟨'n', _, by decide, rfl⟩
  | bool b => cases b with
    | true => exact ⟨'t', _, by decide, rfl⟩
    | false => exact ⟨'f', _, by decide, rfl⟩
  | num n => cases numberless
  | str s => exact ⟨'\x22', _, by decide, by rw [compact, toList_quote]⟩
  | arr items => exact ⟨'[', _, by decide, by rw [compact, String.toList_append, String.toList_append]; rfl⟩
  | obj members => exact ⟨'\x7b', _, by decide, by rw [compact, String.toList_append, String.toList_append]; rfl⟩
  | unreadable => cases numberless

theorem skipSpace_of_opening {opening : Char} (opens : opening ∈ openings) (behind : List Char) :
    skipSpace (opening :: behind) = opening :: behind := by
  have visible : ∀ opening ∈ openings, isSpace opening = false := by
    simp [openings, isSpace]
  rw [skipSpace, List.dropWhile_cons, visible opening opens]
  rfl

theorem toList_joinWith_cons (first next : String) (rest : List String) :
    (Text.joinWith "," (first :: next :: rest)).toList =
      first.toList ++ ',' :: (Text.joinWith "," (next :: rest)).toList := by
  simp [Text.joinWith]

theorem toList_compactMember (name : String) (value : Json) :
    (quote name ++ ":" ++ compact value).toList =
      '\x22' :: (name.toList.flatMap escapeChar ++ '\x22' :: ':' :: value.compact.toList) := by
  simp [toList_quote]

theorem readValue_quote (s : String) (fuel : Nat) (rest : List Char) :
    readValue (fuel + 1) ((quote s).toList ++ rest) = some (.str s, rest) := by
  have text : (quote s).toList ++ rest = '\x22' :: (s.toList.flatMap escapeChar ++ '\x22' :: rest) := by
    simp [toList_quote]
  rw [text, readValue, skipSpace_of_opening (by decide)]
  simp only [readString_quote, Option.bind_eq_bind, Option.bind_some, stringOf?_reverse, String.ofList_toList,
    Option.map_some, Option.getD_some]
  rfl

/-- A container with something in it does not end behind its opening bracket. -/
theorem readValue_bracket {opening : Char} (opens : opening ∈ openings) (behind : List Char) (fuel : Nat) :
    readValue (fuel + 1) ('[' :: opening :: behind) =
      (readItems fuel (opening :: behind)).bind fun found => some (.arr found.1, found.2) := by
  rw [readValue, skipSpace_of_opening (by decide)]
  simp only [skipSpace_of_opening opens, Option.bind_eq_bind]
  simp only [openings, List.mem_cons, List.not_mem_nil, or_false] at opens
  rcases opens with rfl | rfl | rfl | rfl | rfl | rfl <;> rfl

theorem readValue_brace (behind : List Char) (fuel : Nat) :
    readValue (fuel + 1) ('\x7b' :: '\x22' :: behind) =
      (readMembers fuel ('\x22' :: behind)).bind fun found =>
        some ((found.1.map Json.obj).getD .unreadable, found.2) := by
  rw [readValue, skipSpace_of_opening (by decide)]
  simp only [skipSpace_of_opening (show '\x22' ∈ openings by decide), Option.bind_eq_bind]
  rfl

/-- Whether a document is read back from its text, whatever follows. Each step takes at least half a
character. -/
structure IsReadBack (document : Json) : Prop where
  opens : ∃ opening behind, opening ∈ openings ∧ document.compact.toList = opening :: behind
  reads : ∀ {fuel : Nat}, 2 * document.compact.toList.length ≤ fuel → ∀ rest,
    readValue fuel (document.compact.toList ++ rest) = some (document, rest)

/-- The first step of reading a document can be taken. -/
theorem IsReadBack.of_step {document : Json} (numberless : document.isNumberless = true)
    (reads : ∀ fuel rest, 2 * document.compact.toList.length ≤ fuel + 1 →
      readValue (fuel + 1) (document.compact.toList ++ rest) = some (document, rest)) :
    document.IsReadBack where
  opens := exists_opening numberless
  reads := by
    obtain ⟨opening, behind, _, text⟩ := exists_opening numberless
    intro fuel enough rest
    rw [text, List.length_cons] at enough
    obtain ⟨less, rfl⟩ := Nat.exists_eq_add_one_of_ne_zero (show fuel ≠ 0 by omega)
    exact reads less rest (by rw [text, List.length_cons]; omega)

theorem readItems_last {item : Json} (readBack : item.IsReadBack) {fuel : Nat}
    (enough : 2 * item.compact.toList.length ≤ fuel) (rest : List Char) :
    readItems (fuel + 1) (item.compact.toList ++ ']' :: rest) = some ([item], rest) := by
  rw [readItems, readBack.reads enough]
  rfl

theorem readItems_next {item : Json} (readBack : item.IsReadBack) {fuel : Nat}
    (enough : 2 * item.compact.toList.length ≤ fuel) (rest : List Char) :
    readItems (fuel + 1) (item.compact.toList ++ ',' :: rest) =
      (readItems fuel rest).bind fun found => some (item :: found.1, found.2) := by
  rw [readItems, readBack.reads enough]
  rfl

/-- Items are read back up to the bracket behind them. -/
theorem readItems_compact (item : Json) (items : List Json)
    (readBack : ∀ document ∈ item :: items, document.IsReadBack) (fuel : Nat)
    (enough : 2 * (Text.joinWith "," (compactItems (item :: items))).toList.length ≤ fuel) (rest : List Char) :
    readItems (fuel + 1) ((Text.joinWith "," (compactItems (item :: items))).toList ++ ']' :: rest) =
      some (item :: items, rest) := by
  have itemReadBack := readBack item List.mem_cons_self
  induction items generalizing item fuel with
  | nil => exact readItems_last itemReadBack enough rest
  | cons next later ih =>
      rw [compactItems, compactItems, toList_joinWith_cons] at enough ⊢
      rw [List.length_append, List.length_cons] at enough
      obtain ⟨less, rfl⟩ := Nat.exists_eq_add_one_of_ne_zero (show fuel ≠ 0 by omega)
      have laterReadBack : ∀ document ∈ next :: later, document.IsReadBack :=
        fun document member => readBack document (List.mem_cons_of_mem _ member)
      have isRead := ih next laterReadBack less (by rw [compactItems]; omega)
        (laterReadBack next List.mem_cons_self)
      rw [compactItems] at isRead
      rw [List.append_assoc, List.cons_append, readItems_next itemReadBack (by omega), isRead]
      rfl

/-- A member is read up to what follows it. -/
theorem readMembers_member {value : Json} (readBack : value.IsReadBack) (name : String) {fuel : Nat}
    (enough : 2 * value.compact.toList.length ≤ fuel) (rest : List Char) :
    readMembers (fuel + 1) ((quote name ++ ":" ++ compact value).toList ++ rest) =
      match skipSpace rest with
      | ',' :: rest => (readMembers fuel rest).bind fun found =>
          some (found.1.map ((name, value) :: ·), found.2)
      | '\x7d' :: rest => some (some [(name, value)], rest)
      | _ => none := by
  have colon : ∀ cs, skipSpace (':' :: cs) = ':' :: cs := fun _ => rfl
  rw [toList_compactMember, List.cons_append, List.append_assoc, List.cons_append, List.cons_append,
    readMembers, skipSpace_of_opening (by decide)]
  simp only [readString_quote, stringOf?_reverse, String.ofList_toList, Option.bind_eq_bind, Option.bind_some,
    colon, readBack.reads enough]
  rfl

theorem length_compact_le (name : String) (value : Json) :
    value.compact.toList.length ≤ (quote name ++ ":" ++ compact value).toList.length := by
  rw [String.toList_append, List.length_append]
  omega

/-- Members are read back up to the brace behind them. -/
theorem readMembers_compact (member : String × Json) (members : List (String × Json))
    (readBack : ∀ other ∈ member :: members, other.2.IsReadBack) (fuel : Nat)
    (enough : 2 * (Text.joinWith "," (compactMembers (member :: members))).toList.length ≤ fuel)
    (rest : List Char) :
    readMembers (fuel + 1) ((Text.joinWith "," (compactMembers (member :: members))).toList ++ '\x7d' :: rest) =
      some (some (member :: members), rest) := by
  induction members generalizing member fuel with
  | nil =>
      obtain ⟨name, value⟩ := member
      have valueReadBack : value.IsReadBack := readBack _ List.mem_cons_self
      have short := length_compact_le name value
      rw [compactMembers, compactMembers, Text.joinWith] at enough ⊢
      rw [readMembers_member valueReadBack name (by omega)]
      rfl
  | cons next later ih =>
      obtain ⟨name, value⟩ := member
      have valueReadBack : value.IsReadBack := readBack _ List.mem_cons_self
      have short := length_compact_le name value
      obtain ⟨nextName, nextValue⟩ := next
      rw [compactMembers, compactMembers, toList_joinWith_cons] at enough ⊢
      rw [List.length_append, List.length_cons] at enough
      obtain ⟨less, rfl⟩ := Nat.exists_eq_add_one_of_ne_zero (show fuel ≠ 0 by omega)
      have isRead := ih (nextName, nextValue) (fun other listed => readBack other (List.mem_cons_of_mem _ listed))
        less (by rw [compactMembers]; omega)
      rw [compactMembers] at isRead
      have comma : ∀ cs, skipSpace (',' :: cs) = ',' :: cs := fun _ => rfl
      rw [List.append_assoc, List.cons_append, readMembers_member valueReadBack name (by omega), comma]
      simp only [isRead, Option.bind_some, Option.map_some]

/-- What is inside a container starts like the first part. -/
theorem exists_behind_joinWith {first : String} {opening : Char} {behind : List Char}
    (text : first.toList = opening :: behind) (rest : List String) :
    ∃ behind, (Text.joinWith "," (first :: rest)).toList = opening :: behind := by
  cases rest with
  | nil => exact ⟨behind, text⟩
  | cons next later => exact ⟨_, by rw [toList_joinWith_cons, text, List.cons_append]⟩

theorem readValue_arr (item : Json) (items : List Json)
    (readBack : ∀ document ∈ item :: items, document.IsReadBack) {fuel : Nat}
    (enough : 2 * (arr (item :: items)).compact.toList.length ≤ fuel + 1) (rest : List Char) :
    readValue (fuel + 1) ((arr (item :: items)).compact.toList ++ rest) = some (arr (item :: items), rest) := by
  obtain ⟨opening, behind, isOpening, itemText⟩ := (readBack item List.mem_cons_self).opens
  obtain ⟨behind, text⟩ := exists_behind_joinWith itemText (compactItems items)
  have inside : (Text.joinWith "," (compactItems (item :: items))).toList ++ ']' :: rest =
      opening :: (behind ++ ']' :: rest) := by
    rw [compactItems, text, List.cons_append]
  have written : (arr (item :: items)).compact.toList =
      '[' :: ((Text.joinWith "," (compactItems (item :: items))).toList ++ [']']) := by
    simp [compact]
  rw [written, List.length_cons, List.length_append, List.length_singleton] at enough
  obtain ⟨less, rfl⟩ := Nat.exists_eq_add_one_of_ne_zero (show fuel ≠ 0 by omega)
  have isRead := readItems_compact item items readBack less (by omega) rest
  rw [written, List.cons_append, List.append_assoc, List.singleton_append, inside,
    readValue_bracket isOpening, ← inside, isRead]
  rfl

theorem readValue_obj (member : String × Json) (members : List (String × Json))
    (readBack : ∀ other ∈ member :: members, other.2.IsReadBack) {fuel : Nat}
    (enough : 2 * (obj (member :: members)).compact.toList.length ≤ fuel + 1) (rest : List Char) :
    readValue (fuel + 1) ((obj (member :: members)).compact.toList ++ rest) =
      some (obj (member :: members), rest) := by
  obtain ⟨name, value⟩ := member
  obtain ⟨behind, text⟩ := exists_behind_joinWith (toList_compactMember name value) (compactMembers members)
  have inside : (Text.joinWith "," (compactMembers ((name, value) :: members))).toList ++ '\x7d' :: rest =
      '\x22' :: (behind ++ '\x7d' :: rest) := by
    rw [compactMembers, text, List.cons_append]
  have written : (obj ((name, value) :: members)).compact.toList =
      '\x7b' :: ((Text.joinWith "," (compactMembers ((name, value) :: members))).toList ++ ['\x7d']) := by
    simp [compact]
  rw [written, List.length_cons, List.length_append, List.length_singleton] at enough
  obtain ⟨less, rfl⟩ := Nat.exists_eq_add_one_of_ne_zero (show fuel ≠ 0 by omega)
  have isRead := readMembers_compact (name, value) members readBack less (by omega) rest
  rw [written, List.cons_append, List.append_assoc, List.singleton_append, inside, readValue_brace,
    ← inside, isRead]
  rfl

theorem isReadBack_of_isNumberless : ∀ document : Json, document.isNumberless = true → document.IsReadBack
  | .null, numberless => .of_step numberless fun _ _ _ => rfl
  | .bool true, numberless => .of_step numberless fun _ _ _ => rfl
  | .bool false, numberless => .of_step numberless fun _ _ _ => rfl
  | .num _, numberless => nomatch numberless
  | .unreadable, numberless => nomatch numberless
  | .str s, numberless => .of_step numberless fun fuel rest _ => by rw [compact, readValue_quote]
  | .arr [], numberless => .of_step numberless fun _ _ _ => rfl
  | .obj [], numberless => .of_step numberless fun _ _ _ => rfl
  | .arr (item :: items), numberless =>
      have readBack : ∀ document ∈ item :: items, document.IsReadBack := fun document listed =>
        isReadBack_of_isNumberless document ((isNumberlessItems_iff _).mp numberless document listed)
      .of_step numberless fun _ rest enough => readValue_arr item items readBack enough rest
  | .obj (member :: members), numberless =>
      have readBack : ∀ other ∈ member :: members, other.2.IsReadBack := fun other listed =>
        isReadBack_of_isNumberless other.2 ((isNumberlessMembers_iff _).mp numberless other listed)
      .of_step numberless fun _ rest enough => readValue_obj member members readBack enough rest
termination_by document => sizeOf document
decreasing_by
  · have smaller := List.sizeOf_lt_of_mem listed
    simp only [Json.arr.sizeOf_spec]
    omega
  · have smaller := List.sizeOf_lt_of_mem listed
    obtain ⟨name, value⟩ := other
    simp only [Json.obj.sizeOf_spec, Prod.mk.sizeOf_spec] at smaller ⊢
    omega

/-- A document without numbers is what its text holds. -/
theorem parse?_compact {document : Json} (numberless : document.isNumberless = true) :
    parse? document.compact = some document := by
  have isRead := (isReadBack_of_isNumberless document numberless).reads
    (show 2 * document.compact.toList.length ≤ 2 * document.compact.toList.length + 2 by omega) []
  rw [List.append_nil] at isRead
  simp only [parse?, isRead]
  rfl

end SqlLineage.Json
