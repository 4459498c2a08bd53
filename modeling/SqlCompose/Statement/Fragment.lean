import SqlCompose.Dialect

/-!
# Fragments of statements

A fragment becomes text only at the end, when the dialect says how each piece is written. The text
of two fragments in a row is the texts in a row (`Fragment.text_append`).
-/

namespace SqlCompose

/-- What the text of every table alias begins with. -/
def aliasLetter : String := "t"

/-- The text of the alias with the given number. -/
def aliasText (number : Nat) : String := aliasLetter ++ toString number

/-- The text of a piece. -/
def Piece.text (d : Dialect) : Piece → String
  | word t => t
  | verbatim t => t
  | name n => d.quote n
  | tableAlias n => aliasText n
  | mark n => d.placeholder (toString n)

namespace Fragment

/-- The text of a fragment. -/
def text (d : Dialect) (f : Fragment) : String := String.join (f.map (Piece.text d))

/-- Whether nothing would be written. -/
def isBlank (d : Dialect) (f : Fragment) : Bool := f.all fun p => (p.text d).isEmpty

private theorem foldl_append (ts : List String) (s : String) :
    ts.foldl (· ++ ·) s = s ++ ts.foldl (· ++ ·) "" := by
  induction ts generalizing s with
  | nil => simp
  | cons t rest ih =>
      simp only [List.foldl_cons]
      rw [ih (s ++ t), ih ("" ++ t)]
      simp [String.append_assoc]

/-- The text of fragments in a row is their texts in a row. -/
theorem text_append (d : Dialect) (f g : Fragment) : text d (f ++ g) = text d f ++ text d g := by
  simp only [text, String.join, List.map_append, List.foldl_append]
  exact foldl_append _ _

/-- No pieces, no text. -/
@[simp] theorem text_nil (d : Dialect) : text d [] = "" := rfl

end Fragment

/-- What stands before a column to say whose it is. -/
inductive Qualifier where
  | none
  | tableAlias (number : Nat)
  | table (identifier : List String)
  | text (text : String)
  deriving DecidableEq, Repr

/-- The text of a value as a qualifier; NULL is none. -/
def Qualifier.ofValue : Value → Qualifier
  | .null => none
  | v => text v.display

/-- A column behind its qualifier. -/
def Qualifier.column (q : Qualifier) (name : String) : Fragment :=
  match q with
  | none => [.name name]
  | tableAlias n => [.tableAlias n, .word ".", .name name]
  | table identifier => Fragment.table identifier ++ [.word ".", .name name]
  | text t => [.verbatim t, .word ".", .name name]

end SqlCompose
