import SqlCompose.Coerce.Number

/-!
# Values as truth values

Zero and one count as truth values in every numeric form, and so do six words for either in any
case. What fails is told apart: a value of a kind that could be one, and a value of another kind.
-/

namespace SqlCompose.Coerce

/-- Why a value is no truth value. -/
inductive TruthProblem where
  /-- Its kind has truth values, but it is none of them. -/
  | notOne
  /-- Its kind has none. -/
  | wrongKind
  deriving DecidableEq, Repr

/-- The words for false. -/
def falseWords : List String := ["0", "off", "f", "false", "n", "no"]

/-- The words for true. -/
def trueWords : List String := ["1", "on", "t", "true", "y", "yes"]

/-- The truth value that a word stands for, in any case. -/
def truthOfWord? (s : String) : Option Bool :=
  let low := String.ofList (s.toList.map Char.toLower)
  if falseWords.contains low then some false
  else if trueWords.contains low then some true
  else none

/-- The truth value that an integer stands for. -/
def truthOfInt? (n : Int) : Option Bool :=
  if n = 0 then some false else if n = 1 then some true else none

/-- The truth value that a floating point number stands for. -/
def truthOfFloat (x : Float) : Except TruthProblem Bool :=
  match intOfFloat? x with
  | some n => ((truthOfInt? n).map .ok).getD (.error .notOne)
  | none => .error .wrongKind

/-- The value as a truth value. -/
def truthOf : Value → Except TruthProblem Bool
  | .bool b => .ok b
  | .int n =>
    if -(int64Bound : Int) ≤ n ∧ n < int64Bound then ((truthOfInt? n).map .ok).getD (.error .notOne)
    else truthOfFloat (Number.nearestFloat (n < 0) n.natAbs 1)
  | .float x => truthOfFloat x
  | .decimal d => truthOfFloat d.toFloat
  | .text s => ((truthOfWord? s).map .ok).getD (.error .notOne)
  | .bytes bs => (((textOf? (.bytes bs)).bind truthOfWord?).map .ok).getD (.error .notOne)
  | _ => .error .wrongKind

/-- No word stands for both. -/
theorem disjoint_words : ∀ w ∈ falseWords, w ∉ trueWords := by decide

end SqlCompose.Coerce
