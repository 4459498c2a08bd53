import SqlCompose.Error

/-!
# Taking values apart

Some values have members: the items of a list or a tuple, the characters of a text, bytes, and the
keys of a dictionary. Where several values are asked for, a value with members can stand for them;
where a pair is asked for, one with two members.

The first member is found by its position, which a dictionary has only if zero is one of its keys.
-/

namespace SqlCompose.Value

/-- The members of a value in their order, if it is of a kind that has them. -/
def members? : Value → Option (List Value)
  | list items => some items
  | tuple items => some items
  | text s => some (s.toList.map fun c => text c.toString)
  | bytes bs => some (bs.map fun b => int b.toNat)
  | dict entries => some (entries.map Prod.fst)
  | _ => none

/-- The members of a value, which has to be of a kind that has them. -/
def members (v : Value) : Except Error (List Value) :=
  match v.members? with
  | some vs => .ok vs
  | none => .error (.misfit (.notIterable v.fullTypeName))

/-- The two members of a value. -/
def pair (v : Value) : Except Error (Value × Value) :=
  match v.members? with
  | some [a, b] => .ok (a, b)
  | some vs => .error (.misfit (if vs.length < 2 then .tooFew vs.length else .tooMany))
  | none => .error (.misfit (.notPair v.fullTypeName))

/-- The first member of a row of members, which is of the named kind. -/
def firstOf (kind : Option String) : List Value → Except CellFault Value
  | [] => .error (.noCell kind)
  | v :: _ => .ok v

/-- The member at position zero, or the value of a dictionary's key zero. -/
def first : Value → Except CellFault Value
  | list items => firstOf (some "list") items
  | tuple items => firstOf (some "tuple") items
  | text s => firstOf (some "string") (s.toList.map fun c => text c.toString)
  | bytes bs => firstOf none (bs.map fun b => int b.toNat)
  | dict entries =>
    match entries.find? fun e => e.1.same (int 0) with
    | some e => .ok e.2
    | none => .error .noZeroKey
  | v => .error (.noCells v.fullTypeName)

end SqlCompose.Value
