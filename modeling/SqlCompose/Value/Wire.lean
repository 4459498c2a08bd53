import SqlCompose.Coerce.Number
import SqlCompose.Value.Cell

/-!
# Values on the wire

Values are exchanged as null, truth values, texts, integers that a double holds exactly, lists, and
dictionaries with texts as keys. Any other value is a dictionary with one key, its tag, which says
how what stands under it is read: most values are a text under their tag (`tagged?`).

Two tags only shorten what is sent: a range of numbers, and a text repeated.
-/

namespace SqlCompose.Value

/-- The integers below this number in size are sent as they are. -/
def plainBound : Nat := Nat.pow 2 53

/-- The tag and the text of a value that is sent as a text under a tag. -/
def tagged? : Value → Option (String × String)
  | int n => if n.natAbs < plainBound then none else some ("$int", toString n)
  | float x => some ("$float", Number.Shortest.text x)
  | decimal d => some ("$decimal", d.text)
  | bytes bs => some ("$bytes", String.ofList (bs.flatMap fun b => Text.hexDigits 2 b.toNat))
  | date d => some ("$date", d.text)
  | datetime d => some ("$datetime", d.text)
  | time t => some ("$time", t.text)
  | uuid u => some ("$uuid", u.text)
  | _ => none

/-- The bytes that hexadecimal digits stand for, two for each byte. -/
def bytesOfHex : List Char → List UInt8
  | a :: b :: rest =>
    UInt8.ofNat (((Uuid.hexValue? a).getD 0) * 16 + (Uuid.hexValue? b).getD 0) :: bytesOfHex rest
  | _ => []

/-- The value that was read, or else why there is none. -/
def readOr {α : Type} (make : α → Value) (fault : WireFault) : Option α → Except Error Value
  | some a => .ok (make a)
  | none => .error (.wire fault)

/-- The items of a list or a tuple. -/
def items : Value → List Value
  | list vs => vs
  | tuple vs => vs
  | _ => []

/-- The item at a position, or NULL where there is none. -/
def item (v : Value) (i : Nat) : Value := v.items.getD i null

/-- A number of things. -/
def count : Value → Nat
  | int n => n.toNat
  | _ => 0

/-- A text; what is none is empty. -/
def plainText : Value → String
  | text s => s
  | _ => ""

/-- The value that stands under a tag; under a key that is no tag it is an entry of a dictionary. -/
def ofTagged (tag : String) (v : Value) : Except Error Value :=
  let cs := v.plainText.toList
  match tag with
  | "$int" => ((Cell.toInt v).map int).mapError .cell
  | "$float" => readOr float (.notFloat v) (Coerce.floatOfText? v.plainText)
  | "$decimal" => readOr decimal .notDecimal (Number.Decimal.ofText? v.plainText)
  | "$bytes" => .ok (bytes (bytesOfHex cs))
  | "$date" => readOr date (.notMoment v) (Calendar.Date.ofText? cs)
  | "$datetime" => readOr datetime (.notMoment v) (Calendar.DateTime.read? true cs)
  | "$time" => readOr time (.notMoment v) (Calendar.Time.read? true cs)
  | "$uuid" => readOr uuid .notUuid (Uuid.ofText? v.plainText)
  | "$unset" => .ok unset
  | "$tuple" => .ok (tuple v.items)
  | "$dict" => (ofEntries (v.items.map fun e => (e.item 0, e.item 1))).mapError .key
  | "$range" => .ok (list ((List.range v.count).map fun n : Nat => int n))
  | "$repeat" =>
    .ok (text (String.join (List.replicate (v.item 1).count (v.item 0).plainText)))
  | _ => .ok (dict [(text tag, v)])

end SqlCompose.Value
