import SqlCompose.Text.Printable

/-!
# Quoted texts

Messages show a text between quotes. The single quote is used unless the text has single quotes and
no double ones; the chosen quote and the backslash are escaped, line feed, return and tab have short
escapes, and every other character that is not printable is written by its code in two, four or
eight hexadecimal digits. Bytes are shown in the same way behind a `b`, each byte above ASCII by its
code. The quote is chosen once for the whole text (`quoteFor`).
-/

namespace SqlCompose.Text

/-- The last `width` hexadecimal digits of a number. -/
def hexDigits : Nat → Nat → List Char
  | 0, _ => []
  | width + 1, n => hexDigits width (n / 16) ++ [Nat.digitChar (n % 16)]

/-- The quote that surrounds a text: double exactly when the text has single quotes only. -/
def quoteFor (cs : List Char) : Char :=
  if cs.contains '\'' && !cs.contains '"' then '"' else '\''

/-- The escape that every quoted form shares, if the character has one. -/
def commonEscape? (quote c : Char) : Option (List Char) :=
  if c == quote || c == '\\' then some ['\\', c]
  else if c == '\n' then some ['\\', 'n']
  else if c == '\r' then some ['\\', 'r']
  else if c == '\t' then some ['\\', 't']
  else none

/-- One character between quotes. -/
def escapeChar (quote c : Char) : List Char :=
  match commonEscape? quote c with
  | some cs => cs
  | none =>
    if isPrintable c then [c]
    else if c.toNat ≤ 0xFF then ['\\', 'x'] ++ hexDigits 2 c.toNat
    else if c.toNat ≤ 0xFFFF then ['\\', 'u'] ++ hexDigits 4 c.toNat
    else ['\\', 'U'] ++ hexDigits 8 c.toNat

/-- The text between quotes. -/
def quoted (s : String) : String :=
  let cs := s.toList
  let quote := quoteFor cs
  String.ofList (quote :: cs.flatMap (escapeChar quote) ++ [quote])

/-- One byte between quotes. -/
def escapeByte (quote : Char) (b : UInt8) : List Char :=
  let c := Char.ofNat b.toNat
  match commonEscape? quote c with
  | some cs => cs
  | none => if 0x20 ≤ b && b < 0x7F then [c] else ['\\', 'x'] ++ hexDigits 2 b.toNat

/-- The bytes between quotes, behind a `b`. -/
def quotedBytes (bs : List UInt8) : String :=
  let quote := quoteFor (bs.map fun b => Char.ofNat b.toNat)
  String.ofList ('b' :: quote :: bs.flatMap (escapeByte quote) ++ [quote])

/-- A list of texts, each between quotes. -/
def quotedList (names : List String) : String :=
  "[" ++ String.intercalate ", " (names.map quoted) ++ "]"

end SqlCompose.Text
