import SqlCompose.Error

/-!
# Manual fragments

A manual fragment is SQL text written by hand in which a question mark marks the place of a value;
two question marks in a row stand for one that is meant literally. A `Template` has as many values
as its text has marks.

The text is read as the literal parts around the marks (`Template.literals`), of which there is one
more than there are marks (`length_literals`).
-/

namespace SqlCompose

namespace Template

/--
Splits text at its marks. `current` holds the literal part so far, in reverse, and `parts` the
finished ones, the last first.
-/
def split : List Char → (current : List Char) → (parts : List String) → List String
  | '?' :: '?' :: rest, current, parts => split rest ('?' :: current) parts
  | '?' :: rest, current, parts => split rest [] (String.ofList current.reverse :: parts)
  | c :: rest, current, parts => split rest (c :: current) parts
  | [], current, parts => (String.ofList current.reverse :: parts).reverse

/-- The literal parts of a text, between which its marks stand. -/
def partsOf (text : String) : List String := split text.toList [] []

/-- The number of marks in a text. -/
def markCount (text : String) : Nat := (partsOf text).length - 1

end Template

/-- A text with marks, and a value for each of them. -/
structure Template where
  text : String
  values : List Value
  balanced : Template.markCount text = values.length

namespace Template

/-- The literal parts of a template. -/
def literals (t : Template) : List String := partsOf t.text

/-- The template with the given text and values, if there are as many values as marks. -/
def make (column text : String) (values : List Value) : Except Error Template :=
  if h : markCount text = values.length then .ok ⟨text, values, h⟩
  else .error (.compilation (.markerCount column (markCount text) values.length))

/-- The template with a value for its text, which has to be one. -/
def ofValue (column : String) (text : Value) (values : List Value) : Except Error Template :=
  match text with
  | .text s => make column s values
  | .bytes _ => .error (.misfit .bytesSearched)
  | v => .error (.misfit (.notSearchable v.fullTypeName))

/-- Splitting adds at least one part to those it has. -/
theorem length_lt_split (cs current : List Char) (parts : List String) :
    parts.length < (split cs current parts).length := by
  fun_induction split cs current parts with
  | case1 rest current parts ih => exact ih
  | case2 rest current parts _ ih => simp only [List.length_cons] at ih; omega
  | case3 c rest current parts _ _ ih => exact ih
  | case4 current parts => simp

/-- There is one literal part more than there are values. -/
theorem length_literals (t : Template) : t.literals.length = t.values.length + 1 := by
  have hpos := length_lt_split t.text.toList [] []
  have hbalanced := t.balanced
  simp only [markCount, partsOf] at hbalanced
  simp only [literals, partsOf]
  simp only [List.length_nil] at hpos
  omega

end Template

end SqlCompose
