import SqlCompose.Value

/-!
# Keys of dictionaries

A value can be a key of a dictionary if it has a hash. Collections that can change have none, and a
signaling NaN refuses to have one; a tuple has a hash if all its items have one.

Equal keys have equal hashes, but so do some different values: a text has the hash of the bytes that
it is hashed by, and the empty text that of zero.
-/

namespace SqlCompose

/-- Why a value cannot be a key. -/
inductive KeyFault where
  /-- A part of it is of the named type, whose values have no hash. -/
  | unhashable (typeName : String)
  /-- A part of it is a signaling NaN. -/
  | signalingNan
  deriving DecidableEq, Repr

/-- The text of a fault in a key. -/
def KeyFault.message : KeyFault → String
  | unhashable typeName => "unhashable type: '" ++ typeName ++ "'"
  | signalingNan => "Cannot hash a signaling NaN value"

namespace Value

mutual
/-- Why the value cannot be a key, if it cannot. -/
def keyFault? : Value → Option KeyFault
  | list _ => some (.unhashable "list")
  | dict _ => some (.unhashable "dict")
  | decimal d => if d.isSignaling then some .signalingNan else none
  | tuple items => firstKeyFault? items
  | _ => none

/-- Why the first of the values that cannot be a key cannot be one. -/
def firstKeyFault? : List Value → Option KeyFault
  | [] => none
  | v :: rest => (keyFault? v).or (firstKeyFault? rest)
end

/-- The entries with one more: a key that is there keeps its place and gets the new value. -/
def insertEntry (k v : Value) : List (Value × Value) → List (Value × Value)
  | [] => [(k, v)]
  | (k', v') :: rest =>
    if same k' k then (k', v) :: rest else (k', v') :: insertEntry k v rest

/-- The entries with one more, if its key can be one. -/
def addEntry (entries : List (Value × Value)) (e : Value × Value) :
    Except KeyFault (List (Value × Value)) :=
  match keyFault? e.1 with
  | some fault => .error fault
  | none => .ok (insertEntry e.1 e.2 entries)

/-- The dictionary with the given entries, of which a later one overrides an earlier one. -/
def ofEntries (entries : List (Value × Value)) : Except KeyFault Value := do
  return dict (← entries.foldlM addEntry [])

/-! ## Hashes -/

/-- A code point in so many bytes, the lowest first. -/
def lowBytes : (width : Nat) → Nat → List UInt8
  | 0, _ => []
  | width + 1, n => UInt8.ofNat (n % 256) :: lowBytes width (n / 256)

/-- The bytes that a text is hashed by: all code points in the width that the greatest needs. -/
def hashedBytes (s : String) : List UInt8 :=
  let points := s.toList.map Char.toNat
  let greatest := points.foldl max 0
  let width := if greatest < 256 then 1 else if greatest < 65536 then 2 else 4
  points.flatMap (lowBytes width)

/-- The number by which the hashes of numbers are reduced. -/
def hashModulus : Nat := Nat.pow 2 61 - 1

/-- Whether a number has the hash zero. -/
def hashesToZero (v : Value) : Bool :=
  match v, v.number? with
  | .uuid u, _ => u.bits.toNat % hashModulus == 0
  | _, some (.finite _ c _) => c % hashModulus == 0
  | _, _ => false

/--
Whether a value has the hash of a text: the same text, the bytes that the text is hashed by, or,
for the empty text, a number with the hash zero.
-/
def sharesHash (s : String) : Value → Bool
  | .text t => t == s
  | .bytes bs => bs == hashedBytes s
  | v => s.isEmpty && hashesToZero v

end Value

end SqlCompose
