/-
Module: SqlLineage.Text.Utf8
Purpose: Reading bytes as UTF-8 when they need not be valid. What cannot be read becomes U+FFFD, one for
  each longest start of a character that breaks off.
Main exports: decodeUtf8, decodeUtf8_toUTF8
-/

namespace SqlLineage.Text

/-- The character that stands for bytes without a meaning. -/
def replacement : Char := '\ufffd'

/-- What the first byte of a longer character says: its share of the code, the number of bytes to come,
and the bounds of the next one. -/
structure LeadByte where
  share : Nat
  remaining : Nat
  low : Nat := 0x80
  high : Nat := 0xBF
deriving Repr, Inhabited, DecidableEq

/-- The reading of a byte as the first of a longer character. The narrower bounds shut out codes that a
shorter character has, surrogates, and codes above the last. -/
def leadByte? (byte : Nat) : Option LeadByte :=
  if 0xC2 ≤ byte ∧ byte ≤ 0xDF then some { share := byte - 0xC0, remaining := 1 }
  else if byte = 0xE0 then some { share := 0, remaining := 2, low := 0xA0 }
  else if byte = 0xED then some { share := 0xD, remaining := 2, high := 0x9F }
  else if 0xE1 ≤ byte ∧ byte ≤ 0xEF then some { share := byte - 0xE0, remaining := 2 }
  else if byte = 0xF0 then some { share := 0, remaining := 3, low := 0x90 }
  else if 0xF1 ≤ byte ∧ byte ≤ 0xF3 then some { share := byte - 0xF0, remaining := 3 }
  else if byte = 0xF4 then some { share := 4, remaining := 3, high := 0x8F }
  else none

/-- Takes the bytes that complete a character: its code, or nothing if they break off, and the bytes
after those that were taken. -/
def takeTail (code low high : Nat) : Nat → List Nat → Option Nat × List Nat
  | 0, rest => (some code, rest)
  | _ + 1, [] => (none, [])
  | remaining + 1, byte :: rest =>
    if low ≤ byte ∧ byte ≤ high then
      takeTail (code * 64 + byte % 64) 0x80 0xBF remaining rest
    else (none, byte :: rest)

theorem takeTail_length (code low high remaining : Nat) (bytes : List Nat) :
    (takeTail code low high remaining bytes).2.length ≤ bytes.length := by
  induction bytes generalizing code low high remaining with
  | nil => cases remaining <;> simp [takeTail]
  | cons byte rest ih =>
    cases remaining with
    | zero => simp [takeTail]
    | succ remaining =>
      simp only [takeTail]
      split
      · exact Nat.le_trans (ih _ _ _ _) (by simp)
      · simp

/-- The characters of a list of bytes. -/
def decodeBytes : List Nat → List Char
  | [] => []
  | byte :: rest =>
    if byte < 0x80 then Char.ofNat byte :: decodeBytes rest
    else
      match leadByte? byte with
      | none => replacement :: decodeBytes rest
      | some lead =>
        let tail := takeTail lead.share lead.low lead.high lead.remaining rest
        have : tail.2.length < rest.length + 1 :=
          Nat.lt_succ_of_le (takeTail_length lead.share lead.low lead.high lead.remaining rest)
        (tail.1.map Char.ofNat).getD replacement :: decodeBytes tail.2
termination_by bytes => bytes.length
decreasing_by
  · simp
  · simp
  · exact this

/-- The text that bytes hold. Valid bytes are read exactly. -/
def decodeUtf8 (bytes : ByteArray) : String :=
  (String.fromUTF8? bytes).getD (String.ofList (decodeBytes (bytes.data.toList.map UInt8.toNat)))

/-- The bytes of a text are read as that text. -/
theorem decodeUtf8_toUTF8 (s : String) : decodeUtf8 s.toUTF8 = s := by
  simp [decodeUtf8, String.fromUTF8?, String.fromUTF8, s.isValidUTF8]

end SqlLineage.Text
