import SqlCompose.Text.Blank
import SqlCompose.Text.Lower

/-!
# Type tags

A column declares its type by a tag, a text such as `int` or `VARCHAR(255)`. Case, blanks at the
ends and a size in parentheses at the end do not count (`normalize`). The known tags name a kind of
value (`kindOf`); values of columns with any other tag are not checked.
-/

namespace SqlCompose

/-- The kinds of values that a type tag can ask for. -/
inductive Kind where
  | int
  | float
  | decimal
  | text
  | bool
  | bytes
  | date
  | datetime
  | time
  | uuid
  | any
  deriving DecidableEq, Repr

/-- The name of a kind, which is that of the type of its values. -/
def Kind.name : Kind → String
  | int => "int"
  | float => "float"
  | decimal => "Decimal"
  | text => "str"
  | bool => "bool"
  | bytes => "bytes"
  | date => "date"
  | datetime => "datetime"
  | time => "time"
  | uuid => "UUID"
  | any => "Any"

namespace TypeTag

/-- The known tags and the kinds they name. -/
def known : List (String × Kind) := [
  ("int", .int), ("integer", .int), ("smallint", .int), ("bigint", .int), ("serial", .int),
  ("bigserial", .int),
  ("float", .float), ("real", .float), ("double", .float), ("double precision", .float),
  ("decimal", .decimal), ("numeric", .decimal), ("money", .decimal),
  ("text", .text), ("string", .text), ("varchar", .text), ("nvarchar", .text), ("char", .text),
  ("nchar", .text),
  ("bool", .bool), ("boolean", .bool), ("bit", .bool),
  ("bytes", .bytes), ("blob", .bytes), ("bytea", .bytes), ("varbinary", .bytes),
  ("date", .date),
  ("datetime", .datetime), ("datetime2", .datetime), ("timestamp", .datetime),
  ("timestamptz", .datetime),
  ("time", .time),
  ("uuid", .uuid), ("uniqueidentifier", .uuid),
  ("json", .any), ("jsonb", .any)]

/--
The tag without a size at its end. A size is what stands from the first opening parenthesis of the
last line to a closing parenthesis that only blanks follow, with the blanks on either side.
-/
def dropSize (cs : List Char) : List Char :=
  match cs.reverse.dropWhile Text.isBlank with
  | ')' :: inner =>
    let line := inner.takeWhile (· != '\n')
    if line.contains '(' then
      let before := (inner.drop line.length).reverse ++ line.reverse.takeWhile (· != '(')
      (before.reverse.dropWhile Text.isBlank).reverse
    else cs
  | _ => cs

/-- The tag in lower case, without a size at its end and without blanks around it. -/
def normalize (tag : String) : String :=
  Text.lower (String.ofList (Text.trim Text.isBlank (dropSize tag.toList)))

/-- The kind of value that a tag names; tags that are not known take any value. -/
def kindOf (tag : String) : Kind :=
  (known.lookup (normalize tag)).getD .any

/-- A tag that ends in no parenthesis has no size. -/
theorem dropSize_eq_self {cs : List Char}
    (h : (cs.reverse.dropWhile Text.isBlank).head? ≠ some ')') : dropSize cs = cs := by
  unfold dropSize
  split
  · rename_i inner heq
    simp [heq] at h
  · rfl

end TypeTag

end SqlCompose
