import SqlCompose.Coerce.Moment
import SqlCompose.Coerce.Truth
import SqlCompose.TypeTag

/-!
# Values of a kind

A validator takes a value as one of a kind, if it stands for one. All that matters of it is that
it is a function of the kind and the value, and that it makes NULL of no other value
(`Validator.isNull_of_coerce?`).

One validator is at hand, `Validator.lax`. A value that is of the right kind already is taken by it
as it is, a decimal only if it is finite.
-/

namespace SqlCompose

/-- What takes values as values of a kind. -/
structure Validator where
  /-- The value of the kind that a value stands for. -/
  coerce? : Kind → Value → Option Value
  /-- Only NULL is taken as NULL. -/
  isNull_of_coerce? : ∀ {k : Kind} {v w : Value}, v.isNull = false → coerce? k v = some w →
    w.isNull = false

/-- The bytes of a text in UTF-8. -/
def utf8Bytes (s : String) : List UInt8 := s.toUTF8.toList

/-- The value as an identifier: one of its texts, or its sixteen bytes. -/
def Coerce.toUuid? : Value → Option Uuid
  | .uuid u => some u
  | .text s => Uuid.ofText? s
  | .bytes bs => ((Coerce.textOf? (.bytes bs)).bind Uuid.ofText?).or (Uuid.ofBytes? bs)
  | _ => none

/-- The value of the kind that a value stands for. -/
def Kind.coerce? (k : Kind) (v : Value) : Option Value :=
  match k with
  | .int => (Coerce.toInt? v).map .int
  | .float => (Coerce.toFloat? v).map .float
  | .decimal => (Coerce.toDecimal? v).map .decimal
  | .text => (Coerce.textOf? v).map .text
  | .bool => ((Coerce.truthOf v).toOption).map .bool
  | .bytes =>
    match v with
    | .bytes bs => some (.bytes bs)
    | .text s => some (.bytes (utf8Bytes s))
    | _ => none
  | .date => (Coerce.toDate? v).map .date
  | .datetime => (Coerce.toDateTime? v).map .datetime
  | .time => (Coerce.toTime? v).map .time
  | .uuid => (Coerce.toUuid? v).map .uuid
  | .any => some v

/-- A value that was taken as one of a kind is not NULL, unless it was NULL and any would do. -/
theorem Kind.isNull_of_coerce? {k : Kind} {v w : Value} (hv : v.isNull = false)
    (h : k.coerce? v = some w) : w.isNull = false := by
  cases k <;> simp only [Kind.coerce?, Option.map_eq_some_iff, Option.some.injEq] at h
  case any => exact h ▸ hv
  case bytes =>
    split at h <;> cases h
    · rfl
    · rfl
  all_goals
    obtain ⟨x, -, rfl⟩ := h
    rfl

/-- The validator that takes texts as what they spell, and numbers as what they are. -/
def Validator.lax : Validator where
  coerce? := Kind.coerce?
  isNull_of_coerce? := Kind.isNull_of_coerce?

end SqlCompose
