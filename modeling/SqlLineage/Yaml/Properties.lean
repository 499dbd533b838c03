/-
Module: SqlLineage.Yaml.Properties
Purpose: The words that are not content: anchors and references to them, tags, and the directives in front
  of a document.
Main exports: anchorName, tag, directive
-/
import SqlLineage.Text.Digit
import SqlLineage.Yaml.Reader

namespace SqlLineage.Yaml

/-- Reads the name of an anchor after its mark. -/
def anchorName : Reader String := do
  advance 1
  let name ← takeRun isNameChar
  if name.isEmpty then failure
  expectNext fun rest => isWordEnd rest || rest.head?.any ("?:,]\x7d%@\x60".toList.contains ·)
  pure name

/-! ### Octets in tags -/

/-- The octet that is written as a percent sign and two digits at the head of the text. -/
def writtenOctet? : List Char → Option Nat
  | '%' :: high :: low :: _ => Text.digitsValue? 16 [high, low]
  | _ => none

/-- The number of octets of a character that begins with this one. -/
def octetCount? (lead : Nat) : Option Nat :=
  if lead < 0x80 then some 1
  else if lead < 0xC0 then none
  else if lead < 0xE0 then some 2
  else if lead < 0xF0 then some 3
  else if lead < 0xF8 then some 4
  else none

/-- Reads this many further octets of a character. -/
def laterOctets : Nat → Reader (List Nat)
  | 0 => pure []
  | count + 1 => do
    let octet ← StateT.lift (writtenOctet? (← remaining))
    if octet < 0x80 || 0xC0 ≤ octet then failure
    advance 3
    pure (octet :: (← laterOctets count))

/-- Reads the octets of a character. -/
def writtenOctets : Reader (List Nat) := do
  let lead ← StateT.lift (writtenOctet? (← remaining))
  let count ← StateT.lift (octetCount? lead)
  advance 3
  pure (lead :: (← laterOctets (count - 1)))

/-! ### Tags -/

/-- A character of a tag. In some places flow indicators other than braces may stand in it too. -/
def isTagChar (withFlow : Bool) (c : Char) : Bool :=
  isNameChar c || ";/?:@&=+$.%!~*\x27()".toList.contains c ||
    (withFlow && (c == ',' || c == '[' || c == ']'))

/-- Reads the octets of a part of a tag. -/
def tagOctets (withFlow : Bool) : Nat → Reader (List Nat)
  | 0 => pure []
  | fuel + 1 => do
    match (← remaining) with
    | [] => pure []
    | c :: _ =>
      if c == '%' then
        let octets ← writtenOctets
        pure (octets ++ (← tagOctets withFlow fuel))
      else if isTagChar withFlow c then
        advance 1
        pure (c.toNat :: (← tagOctets withFlow fuel))
      else
        pure []

/-- The text of octets, which a zero ends. -/
def octetText (octets : List Nat) : String :=
  String.ofList ((octets.takeWhile (· != 0)).map Char.ofNat)

/-- Reads a part of a tag, which may not be empty. -/
def tagPart (withFlow : Bool) : Reader String := do
  let octets ← tagOctets withFlow ((← remaining).length + 1)
  if octets.isEmpty then failure
  pure (octetText octets)

/-- Reads what follows the mark of a tag: a whole tag in angle brackets, or one that may begin with a
handle. The mark alone is a tag too. -/
def tagBody : Reader Token := do
  match (← remaining) with
  | '<' :: _ =>
    advance 1
    let name ← tagPart true
    expectNext (·.head? == some '>')
    advance 1
    pure (.tag "" name)
  | _ =>
    let name ← takeRun isNameChar
    if (← remaining).head? == some '!' then
      advance 1
      pure (.tag ("!" ++ name ++ "!") (← tagPart false))
    else
      let suffix := name ++ octetText (← tagOctets false ((← remaining).length + 1))
      pure (if suffix.isEmpty then .tag "" "!" else .tag "!" suffix)

/-- Reads a tag from its mark on. -/
def tag : Reader Token := do
  advance 1
  let token ← tagBody
  let s ← get
  if !(isWordEnd s.rest || (s.inFlow && s.rest.head? == some ',')) then failure
  pure token

/-! ### Directives -/

/-- The most digits of a number in a version. -/
def versionDigits : Nat := 9

/-- Reads a number of a version. -/
def versionNumber : Reader Nat := do
  let digits ← takeRun Char.isDigit
  if digits.isEmpty || versionDigits < digits.length then failure
  StateT.lift digits.toNat?

/-- Reads the handle in a directive: a mark, or a name between two marks. -/
def directiveHandle : Reader String := do
  expectNext (·.head? == some '!')
  advance 1
  let name ← takeRun isNameChar
  if (← remaining).head? == some '!' then
    advance 1
    pure ("!" ++ name ++ "!")
  else if name.isEmpty then pure "!"
  else failure

/-- Reads a directive with the rest of its line. -/
def directive : Reader Token := do
  advance 1
  let name ← takeRun isNameChar
  expectNext isWordEnd
  skipBlanks
  let token ←
    match name with
    | "YAML" => do
      let major ← versionNumber
      expectNext (·.head? == some '.')
      advance 1
      pure (.version major (← versionNumber))
    | "TAG" => do
      let handle ← directiveHandle
      expectNext (·.head?.any isBlank)
      skipBlanks
      let expansion ← tagPart true
      expectNext isWordEnd
      pure (.handle handle expansion)
    | _ => failure
  endLine
  pure token

end SqlLineage.Yaml
