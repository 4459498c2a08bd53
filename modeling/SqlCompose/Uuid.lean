import SqlCompose.Text.Quoted

/-!
# Universally unique identifiers

A 128-bit identifier. It is written in lower-case hexadecimal digits in groups of 8, 4, 4, 4 and 12;
a reader also takes 32 digits without groups, and the grouped form in braces or behind `urn:uuid:`.
-/

namespace SqlCompose

/-- A 128-bit identifier. -/
structure Uuid where
  bits : BitVec 128
  deriving DecidableEq, Repr

namespace Uuid

/-- The lengths of the groups of digits. -/
def groups : List Nat := [8, 4, 4, 4, 12]

/-- The value of a hexadecimal digit in either case. -/
def hexValue? (c : Char) : Option Nat :=
  if '0' ≤ c ∧ c ≤ '9' then some (c.toNat - '0'.toNat)
  else if 'a' ≤ c ∧ c ≤ 'f' then some (c.toNat - 'a'.toNat + 10)
  else if 'A' ≤ c ∧ c ≤ 'F' then some (c.toNat - 'A'.toNat + 10)
  else none

/-- The identifier with the given hexadecimal digits, of which there have to be 32. -/
def ofHex? (cs : List Char) : Option Uuid :=
  if cs.length = 32 then
    (cs.mapM hexValue?).map fun ds => ⟨BitVec.ofNat 128 (ds.foldl (fun n d => 16 * n + d) 0)⟩
  else none

/-- Takes groups of the given lengths off the list, with a dash between neighbours. -/
def takeGroups? : List Nat → List Char → Option (List Char)
  | [], cs => if cs.isEmpty then some [] else none
  | [n], cs => if cs.length = n then some cs else none
  | n :: rest, cs =>
    match cs.drop n with
    | '-' :: more => (takeGroups? rest more).map (cs.take n ++ ·)
    | _ => none

/-- Reads the grouped form. -/
def ofGrouped? (cs : List Char) : Option Uuid :=
  (takeGroups? groups cs).bind ofHex?

/-- Reads any of the four forms. -/
def ofText? (s : String) : Option Uuid :=
  let cs := s.toList
  let urn := "urn:uuid:".toList
  if cs.length = 32 then ofHex? cs
  else if cs.take 1 = ['\x7b'] ∧ cs.getLast? = some '\x7d' then
    ofGrouped? ((cs.drop 1).dropLast)
  else if cs.take urn.length = urn then ofGrouped? (cs.drop urn.length)
  else ofGrouped? cs

/-- The identifier with the given bytes, of which there have to be 16. -/
def ofBytes? (bs : List UInt8) : Option Uuid :=
  if bs.length = 16 then
    some ⟨BitVec.ofNat 128 (bs.foldl (fun n b => 256 * n + b.toNat) 0)⟩
  else none

/-- Writes digits in groups of the given lengths. -/
def joinGroups : List Nat → List Char → List Char
  | [], _ => []
  | [n], cs => cs.take n
  | n :: rest, cs => cs.take n ++ '-' :: joinGroups rest (cs.drop n)

/-- The grouped form in lower case. -/
def text (u : Uuid) : String :=
  String.ofList (joinGroups groups (Text.hexDigits 32 u.bits.toNat))

end Uuid

end SqlCompose
