import SqlCompose.Dialect

/-!
# Lexemes of a condition

The characters of a condition are put together to words, operators, single
signs and quoted texts.  `Lexis.run` goes through them from the left and
keeps what it has of a lexeme in its `Mode`; `Lexis.lex` is the list of the
lexemes of a text in which no quote stays open.  Which quotes there are, and
what starts something else than a condition, such as a comment, is the
dialect's (`BuiltIn.lexis`).

A `Lexeme` has a role for those who read conditions: it is a bracket, a word
between factors, or plain.

## Main results

* `Lexis.lex_space` — texts with a space between them are read one after the
  other.
* `Lexis.passes_quoted` — a quoted name is passed up to its own closing quote.
-/

namespace SqlCompose

/-! ## What a text consists of -/

/-- What a text consists of for those who read it. -/
inductive Lexeme where
  /-- A word, a number, or a placeholder with a number. -/
  | word (cs : List Char)
  /-- Signs in a row that make an operator. -/
  | operator (cs : List Char)
  /-- A sign that stands for itself. -/
  | sign (c : Char)
  /-- A string or an identifier, without its quotes. -/
  | quoted (cs : List Char)
  deriving DecidableEq, Repr

/-- Brackets of a condition. -/
inductive Bracket where
  | round
  | square
  /-- From `CASE` to `END`. -/
  | choice
  deriving DecidableEq, Repr

/-- What stands between the factors of a condition. -/
inductive Connective where
  | and
  | or
  deriving DecidableEq, Repr

/-- What a lexeme is for those who read conditions. -/
inductive Role where
  | opening (b : Bracket)
  | closing (b : Bracket)
  | connective (op : Connective)
  /-- The word `BETWEEN`, which takes the next `AND` for itself. -/
  | between
  | plain
  deriving DecidableEq, Repr

namespace Lexeme

/-- The words with a role, in small letters. -/
def keywords : List (List Char × Role) := [
  ("and".toList, .connective .and), ("or".toList, .connective .or), ("between".toList, .between),
  ("case".toList, .opening .choice), ("end".toList, .closing .choice)]

/-- The signs with a role. -/
def brackets : List (Char × Role) := [
  ('(', .opening .round), (')', .closing .round), ('[', .opening .square), (']', .closing .square)]

/-- The role of a lexeme; for words it does not matter how they are capitalized. -/
def role : Lexeme → Role
  | word cs => (keywords.lookup (cs.map Char.toLower)).getD .plain
  | sign c => (brackets.lookup c).getD .plain
  | operator _ => .plain
  | quoted _ => .plain

end Lexeme

/-- What a character can be a part of. -/
inductive CharClass where
  | blank
  | word
  | operator
  | sign
  deriving DecidableEq, Repr

/-- The class of a character outside of quotes. -/
def CharClass.of (c : Char) : CharClass :=
  if c ∈ [' ', '\t', '\n', '\r'] then blank
  else if c.isAlphanum || 128 ≤ c.toNat || c ∈ ['_', '$', '@', '#'] then word
  else if c ∈ ['+', '-', '*', '/', '<', '>', '=', '~', '!', '%', '^', '&', '|'] then operator
  else sign

/-- A pair of quotes; a closing one that is written twice is a part of the text. -/
structure Quote where
  opening : Char
  closing : Char
  /-- What makes the character after it a part of the text, if anything does. -/
  escape : Option Char := none
  visible : CharClass.of closing ≠ .blank := by decide

/-- How the texts of a dialect are read. -/
structure Lexis where
  quotes : List Quote
  /-- Whether a lexeme starts something that is no part of a condition. -/
  isForeign : Lexeme → Bool

/-! ## The reader -/

/-- Where a reader is in a text, with what it has of a lexeme, the last character first. -/
inductive Mode where
  | ground
  | word (cs : List Char)
  | operator (cs : List Char)
  /-- Behind an opening quote. -/
  | inside (q : Quote) (cs : List Char)
  /-- Behind a character that makes the next one a part of the text. -/
  | escaped (q : Quote) (cs : List Char)
  /-- Behind a closing quote, which may still be doubled. -/
  | closed (q : Quote) (cs : List Char)

namespace Mode

/-- Whether a quote is open. -/
def isOpen : Mode → Bool
  | inside .. => true
  | escaped .. => true
  | _ => false

/-- The lexeme that ends here, if one does. -/
def pending : Mode → List Lexeme
  | word cs => [.word cs.reverse]
  | operator cs => [.operator cs.reverse]
  | closed _ cs => [.quoted cs.reverse]
  | _ => []

end Mode

namespace Lexis

variable (x : Lexis)

/-- What a character begins. -/
def start (c : Char) : Mode × List Lexeme :=
  match x.quotes.find? fun q => q.opening == c with
  | some q => (.inside q [], [])
  | none =>
    match CharClass.of c with
    | .blank => (.ground, [])
    | .word => (.word [c], [])
    | .operator => (.operator [c], [])
    | .sign => (.ground, [.sign c])

/-- One more character is read. -/
def step : Mode → Char → Mode × List Lexeme
  | .ground, c => x.start c
  | .word cs, c =>
    if CharClass.of c = .word then (.word (c :: cs), [])
    else ((x.start c).1, .word cs.reverse :: (x.start c).2)
  | .operator cs, c =>
    if CharClass.of c = .operator then (.operator (c :: cs), [])
    else ((x.start c).1, .operator cs.reverse :: (x.start c).2)
  | .inside q cs, c =>
    if q.escape = some c then (.escaped q (c :: cs), [])
    else if c = q.closing then (.closed q cs, [])
    else (.inside q (c :: cs), [])
  | .escaped q cs, c => (.inside q (c :: cs), [])
  | .closed q cs, c =>
    if c = q.closing then (.inside q (c :: cs), [])
    else ((x.start c).1, .quoted cs.reverse :: (x.start c).2)

/-- The characters of a text are read, with the lexemes that ended among them. -/
def run : Mode → List Char → Mode × List Lexeme
  | m, [] => (m, [])
  | m, c :: rest =>
    ((run (x.step m c).1 rest).1, (x.step m c).2 ++ (run (x.step m c).1 rest).2)

/-- The lexemes of a text in which no quote stays open. -/
def lex (text : String) : Option (List Lexeme) :=
  match x.run .ground text.toList with
  | (m, read) => if m.isOpen then none else some (read ++ m.pending)

variable {x}

theorem run_append (m : Mode) (cs cs' : List Char) :
    x.run m (cs ++ cs') =
      ((x.run (x.run m cs).1 cs').1, (x.run m cs).2 ++ (x.run (x.run m cs).1 cs').2) := by
  induction cs generalizing m with
  | nil => simp [run]
  | cons c rest ih => simp [run, ih]

/-! ## Texts behind a space -/

/-- A space ends what is read before it, unless it is part of a quoted text. -/
theorem step_space (hx : x.start ' ' = (.ground, [])) {m : Mode} (h : m.isOpen = false) :
    x.step m ' ' = (.ground, m.pending) := by
  have hblank : CharClass.of ' ' = .blank := by decide
  cases m with
  | ground => exact hx
  | word cs => simp [step, hblank, hx, Mode.pending]
  | operator cs => simp [step, hblank, hx, Mode.pending]
  | inside q cs => cases h
  | escaped q cs => cases h
  | closed q cs =>
      have hclosing : ' ' ≠ q.closing := fun heq => q.visible (heq ▸ hblank)
      simp [step, hclosing, hx, Mode.pending]

/-- What is behind a space is read from the start. -/
theorem run_space (hx : x.start ' ' = (.ground, [])) {t : String} {m : Mode}
    {read : List Lexeme} (ht : x.run .ground t.toList = (m, read)) (h : m.isOpen = false)
    (u : String) :
    x.run .ground (t ++ " " ++ u).toList =
      ((x.run .ground u.toList).1, read ++ m.pending ++ (x.run .ground u.toList).2) := by
  have hchars : (t ++ " " ++ u).toList = t.toList ++ ' ' :: u.toList := by simp
  rw [hchars, run_append, ht, run, step_space hx h, List.append_assoc]

/-- Texts with a space between them are read one after the other. -/
theorem lex_space (hx : x.start ' ' = (.ground, [])) {t u : String} {ls ls' : List Lexeme}
    (ht : x.lex t = some ls) (hu : x.lex u = some ls') :
    x.lex (t ++ " " ++ u) = some (ls ++ ls') := by
  unfold lex at ht hu ⊢
  rcases htext : x.run .ground t.toList with ⟨m, read⟩
  rcases hutext : x.run .ground u.toList with ⟨m', read'⟩
  simp only [htext, hutext, Option.ite_none_left_eq_some, Bool.not_eq_true,
    Option.some.injEq] at ht hu
  obtain ⟨hopen, rfl⟩ := ht
  obtain ⟨hopen', rfl⟩ := hu
  rw [run_space hx htext hopen, hutext]
  simp [hopen']

/-! ## Plain texts -/

/-- Whether a lexeme is a part of a condition and has no role in it. -/
def IsPlain (x : Lexis) (l : Lexeme) : Prop := l.role = .plain ∧ x.isForeign l = false

/-- Whether a reader goes from one mode to another past plain lexemes only. -/
def Passes (x : Lexis) (m : Mode) (cs : List Char) (m' : Mode) : Prop :=
  (x.run m cs).1 = m' ∧ ∀ l ∈ (x.run m cs).2, x.IsPlain l

theorem passes_nil (m : Mode) : x.Passes m [] m := by
  simp [Passes, run]

theorem Passes.append {m m' m'' : Mode} {cs cs' : List Char} (h : x.Passes m cs m')
    (h' : x.Passes m' cs' m'') : x.Passes m (cs ++ cs') m'' := by
  obtain ⟨rfl, hread⟩ := h
  obtain ⟨rfl, hread'⟩ := h'
  refine ⟨by rw [run_append], fun l hl => ?_⟩
  rw [run_append] at hl
  rcases List.mem_append.1 hl with hl | hl
  · exact hread l hl
  · exact hread' l hl

theorem passes_singleton {m m' : Mode} {c : Char} {read : List Lexeme}
    (hstep : x.step m c = (m', read)) (hread : ∀ l ∈ read, x.IsPlain l) :
    x.Passes m [c] m' := by
  simpa [Passes, run, hstep] using hread

/-- Characters of a word go on with it. -/
theorem passes_word {cs : List Char} (h : ∀ c ∈ cs, CharClass.of c = .word) (read : List Char) :
    x.Passes (.word read) cs (.word (cs.reverse ++ read)) := by
  induction cs generalizing read with
  | nil => exact passes_nil _
  | cons c rest ih =>
      have hstep : x.step (.word read) c = (.word (c :: read), []) :=
        if_pos (h c List.mem_cons_self)
      have hrest := ih (fun c' hc' => h c' (List.mem_cons_of_mem _ hc')) (c :: read)
      have hfirst := passes_singleton hstep fun l hl => absurd hl List.not_mem_nil
      simpa using hfirst.append hrest

/-- A quoted name passes up to its own closing quote. -/
theorem passes_quoted {q : Quote} (hq : q.escape = none) (name read : List Char) :
    x.Passes (.inside q read) (Quoting.doubled q.closing name ++ [q.closing])
      (.closed q (name.reverse ++ read)) := by
  induction name generalizing read with
  | nil =>
      have hstep : x.step (.inside q read) q.closing = (.closed q read, []) := by
        simp [step, hq]
      exact passes_singleton hstep fun l hl => absurd hl List.not_mem_nil
  | cons c name ih =>
      have hnil : ∀ l ∈ ([] : List Lexeme), x.IsPlain l := fun l hl => absurd hl List.not_mem_nil
      by_cases hc : c = q.closing
      · subst hc
        have hfirst : x.step (.inside q read) q.closing = (.closed q read, []) := by
          simp [step, hq]
        have hsecond : x.step (.closed q read) q.closing = (.inside q (q.closing :: read), []) := by
          simp [step]
        have hrest := ((passes_singleton hfirst hnil).append
          (passes_singleton hsecond hnil)).append (ih (q.closing :: read))
        simpa [Quoting.doubled] using hrest
      · have hstep : x.step (.inside q read) c = (.inside q (c :: read), []) := by
          simp [step, hq, hc]
        have hrest := (passes_singleton hstep hnil).append (ih (c :: read))
        simpa [Quoting.doubled, hc] using hrest

/-- A text that passes is read as the plain lexemes in it. -/
theorem Passes.lex {t : String} {m : Mode} (h : x.Passes .ground t.toList m)
    (hopen : m.isOpen = false) (hpending : ∀ l ∈ m.pending, x.IsPlain l) :
    x.lex t = some ((x.run .ground t.toList).2 ++ m.pending) ∧
      ∀ l ∈ (x.run .ground t.toList).2 ++ m.pending, x.IsPlain l := by
  obtain ⟨rfl, hread⟩ := h
  refine ⟨?_, List.forall_mem_append.2 ⟨hread, hpending⟩⟩
  simp [Lexis.lex, hopen]

end Lexis

/-! ## The library's own dialects -/

/-- Whether two of the signs in a row start a comment. -/
def Lexeme.startsComment : List Char → Bool
  | a :: b :: rest => (a, b) ∈ [('-', '-'), ('/', '*')] || startsComment (b :: rest)
  | _ => false

/-- What starts a comment or ends a statement. -/
def Lexeme.isForeign : Lexeme → Bool
  | operator cs => startsComment cs
  | sign c => c ∈ [';', '\\']
  | _ => false

/-- Whether a word is the start of a text between dollar signs. -/
def Lexeme.isDollarQuote : Lexeme → Bool
  | word (c :: cs) => c == '$' && (cs.isEmpty || !cs.all Char.isDigit)
  | _ => false

/-- Whether a word has the sign in it that starts a comment in MySQL. -/
def Lexeme.hasHash : Lexeme → Bool
  | word cs => cs.contains '#'
  | _ => false

/-- What MySQL takes for a connective besides the words of the standard. -/
def Lexeme.isOtherConnective : Lexeme → Bool
  | word cs => cs.map Char.toLower == ['x', 'o', 'r']
  | operator cs => cs ∈ [['&', '&'], ['|', '|']]
  | _ => false

namespace Quote

/-- The quotes of strings, which every dialect has. -/
def string : Quote := ⟨'\x27', '\x27', none, by decide⟩

/-- The quotes of identifiers in the standard. -/
def double : Quote := ⟨'"', '"', none, by decide⟩

/-- The quotes of identifiers in MySQL. -/
def back : Quote := ⟨'\x60', '\x60', none, by decide⟩

/-- The quotes of identifiers in SQL Server. -/
def square : Quote := ⟨'[', ']', none, by decide⟩

/-- Quotes behind which a backslash takes the next character into the text. -/
def withBackslash (q : Quote) : Quote := { q with escape := some '\\' }

end Quote

/-- How the texts of the library's own dialects are read. -/
def BuiltIn.lexis : BuiltIn → Lexis
  | .postgres => ⟨[.string, .double], fun l => l.isForeign || l.isDollarQuote⟩
  | .mysql =>
    ⟨[Quote.string.withBackslash, Quote.double.withBackslash, .back],
      fun l => l.isForeign || l.hasHash || l.isOtherConnective⟩
  | .mssql => ⟨[.string, .double, .square], Lexeme.isForeign⟩
  | .sqlite => ⟨[.string, .double, .back, .square], Lexeme.isForeign⟩

/-- Outside of quotes a space is nothing but a space. -/
theorem BuiltIn.start_space (b : BuiltIn) : b.lexis.start ' ' = (.ground, []) := by
  cases b <;> rfl

end SqlCompose
