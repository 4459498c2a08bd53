import SqlCompose.Proofs.Statement.Clear
import SqlCompose.Proofs.Text.Expression

/-!
# Words of the library among lexemes

The words that the library counts on, aliases and placeholders, are no
keywords, and a name between quotes is one lexeme whatever characters it has.
So a column is a factor for those who read conditions, whatever it is called
and whatever its table is called (`Qualifier.isFactor_column`).

## Main results

* `BuiltIn.passes_name` — a reader is behind the closing quote of a name when
  it has read the name, and not before.
* `Qualifier.isFactor_column`, `isPart_table`, `isPart_placeholder` — columns,
  tables and placeholders.
-/

namespace SqlCompose

open Fragment

variable {b : BuiltIn}

/-! ## Words -/

/-- The quotes that names are put between. -/
def BuiltIn.quote : BuiltIn → Quote
  | .postgres => .double
  | .mysql => .back
  | .mssql => .square
  | .sqlite => .double

theorem BuiltIn.toList_quote (b : BuiltIn) (name : String) :
    ((Dialect.ofBuiltIn b).quote name).toList =
      b.quote.opening :: (Quoting.doubled b.quote.closing name.toList ++ [b.quote.closing]) := by
  cases b <;>
    simp [Dialect.ofBuiltIn, Dialect.quote, Dialect.postgres, Dialect.mysql, Dialect.mssql,
      Dialect.sqlite, BuiltIn.quote, Quote.double, Quote.back, Quote.square]

theorem CharClass.of_isDigit {c : Char} (h : c.isDigit = true) : CharClass.of c = .word := by
  have hblank : c ∉ [' ', '\t', '\n', '\r'] := by
    intro hc
    simp only [List.mem_cons, List.not_mem_nil, or_false] at hc
    rcases hc with rfl | rfl | rfl | rfl <;> cases h
  simp [CharClass.of, hblank, Char.isAlphanum, h]

theorem toLower_of_isDigit {c : Char} (h : c.isDigit = true) : c.toLower = c := by
  have hhigh : c.toNat ≤ 57 := (Char.isDigit_iff_toNat.1 h).2
  have hupper : ¬ (c.val ≥ 'A'.val ∧ c.val ≤ 'Z'.val) := by
    rintro ⟨hlow, -⟩
    have hnat : 65 ≤ c.toNat := UInt32.le_iff_toNat_le.1 hlow
    omega
  exact dif_neg hupper

/-- What the words start with that the library counts on. -/
def countedWords : List (List Char) := [['t'], ['$'], ['@', 'p'], []]

/-- No keyword starts like a counted word, and nothing that is foreign does. -/
theorem isPlain_counted (b : BuiltIn) {cs digits : List Char} (hcs : cs ∈ countedWords)
    (hne : digits ≠ []) (hdigits : ∀ c ∈ digits, c.isDigit = true) :
    b.lexis.IsPlain (.word (cs ++ digits)) := by
  obtain ⟨c, rest, rfl⟩ := List.exists_cons_of_ne_nil hne
  have hfirst : c.isDigit = true := hdigits c List.mem_cons_self
  have hlower := toLower_of_isDigit hfirst
  have hall : (c :: rest).all Char.isDigit = true := List.all_eq_true.2 hdigits
  have hhash : '#' ∉ c :: rest := fun h => absurd (hdigits '#' h) (by decide)
  rw [List.mem_cons, not_or] at hhash
  have hother : ∀ c', c'.isDigit = false → (c == c') = false := by
    intro c' hc'
    rw [beq_eq_false_iff_ne]
    rintro rfl
    rw [hfirst] at hc'
    cases hc'
  have hdollar := hother '$' rfl
  have hx := hother 'x' rfl
  simp only [countedWords, List.mem_cons, List.not_mem_nil, or_false] at hcs
  constructor
  · have ha := hother 'a' rfl
    have ho := hother 'o' rfl
    have hb := hother 'b' rfl
    have hc := hother 'c' rfl
    have he := hother 'e' rfl
    rcases hcs with rfl | rfl | rfl | rfl <;>
      simp [Lexeme.role, Lexeme.keywords, List.lookup_cons, hlower, ha, ho, hb, hc, he]
  · rcases hcs with rfl | rfl | rfl | rfl <;> cases b <;>
      simp [BuiltIn.lexis, Lexeme.isForeign, Lexeme.isDollarQuote, Lexeme.hasHash,
        Lexeme.isOtherConnective, hall, hhash.1, hhash.2, hdollar, hlower, hx]

/-! ## Passing what the library writes -/

theorem BuiltIn.start_word (b : BuiltIn) {c : Char} (h : CharClass.of c = .word) :
    b.lexis.start c = (.word [c], []) := by
  have hquotes : ∀ q ∈ b.lexis.quotes, CharClass.of q.opening ≠ .word := by
    cases b <;> decide
  have hfind : (b.lexis.quotes.find? fun q => q.opening == c) = none := by
    rw [List.find?_eq_none]
    intro q hq hopening
    exact hquotes q hq (by rw [eq_of_beq hopening, h])
  simp [Lexis.start, hfind, h]

/-- A word is passed from the start. -/
theorem BuiltIn.passes_word (b : BuiltIn) {cs : List Char} (hne : cs ≠ [])
    (h : cs.all (CharClass.of · == .word) = true) :
    b.lexis.Passes .ground cs (.word cs.reverse) := by
  obtain ⟨c, rest, rfl⟩ := List.exists_cons_of_ne_nil hne
  have hall : ∀ c' ∈ c :: rest, CharClass.of c' = .word :=
    fun c' hc' => eq_of_beq (List.all_eq_true.1 h c' hc')
  have hstart : b.lexis.step .ground c = (.word [c], []) :=
    b.start_word (hall c List.mem_cons_self)
  have hfirst := Lexis.passes_singleton hstart fun l hl => absurd hl List.not_mem_nil
  have hrest := Lexis.passes_word (x := b.lexis)
    (fun c' hc' => hall c' (List.mem_cons_of_mem _ hc')) [c]
  simpa using hfirst.append hrest

/-- A counted word is passed, and is plain. -/
theorem BuiltIn.passes_counted (b : BuiltIn) {cs : List Char} (hcs : cs ∈ countedWords)
    (n : Nat) :
    b.lexis.Passes .ground (cs ++ Nat.toDigits 10 n) (.word (cs ++ Nat.toDigits 10 n).reverse) ∧
      b.lexis.IsPlain (.word (cs ++ Nat.toDigits 10 n)) := by
  have hdigits : ∀ c ∈ Nat.toDigits 10 n, c.isDigit = true :=
    fun c hc => Nat.isDigit_of_mem_toDigits (by decide) (by decide) hc
  have hne : Nat.toDigits 10 n ≠ [] := Nat.toDigits_ne_nil
  have hletters : cs.all (CharClass.of · == .word) = true := by
    revert hcs cs
    decide
  have hwhole : (cs ++ Nat.toDigits 10 n).all (CharClass.of · == .word) = true := by
    rw [List.all_append, hletters, Bool.true_and, List.all_eq_true]
    exact fun c hc => beq_iff_eq.2 (CharClass.of_isDigit (hdigits c hc))
  exact ⟨b.passes_word (by simp [hne]) hwhole, isPlain_counted b hcs hne hdigits⟩

theorem BuiltIn.isPlain_quoted (b : BuiltIn) (cs : List Char) : b.lexis.IsPlain (.quoted cs) := by
  cases b <;> exact ⟨rfl, rfl⟩

/-- A name in quotes is passed, whatever characters it has. -/
theorem BuiltIn.passes_name (b : BuiltIn) (name : String) :
    b.lexis.Passes .ground ((Dialect.ofBuiltIn b).quote name).toList
      (.closed b.quote name.toList.reverse) := by
  have hstart : b.lexis.step .ground b.quote.opening = (.inside b.quote [], []) := by
    cases b <;> rfl
  have hescape : b.quote.escape = none := by cases b <;> rfl
  have hfirst := Lexis.passes_singleton hstart fun l hl => absurd hl List.not_mem_nil
  have hrest := Lexis.passes_quoted (x := b.lexis) hescape name.toList []
  rw [b.toList_quote]
  simpa using hfirst.append hrest

/-- A point ends what is before it, and is plain. -/
theorem BuiltIn.passes_point (b : BuiltIn) {m : Mode}
    (hm : (∃ cs, m = .closed b.quote cs) ∨ m = .ground ∨ ∃ cs, m = .word cs)
    (hpending : ∀ l ∈ m.pending, b.lexis.IsPlain l) : b.lexis.Passes m ['.'] .ground := by
  have hstart : b.lexis.start '.' = (.ground, [.sign '.']) := by cases b <;> rfl
  have hplain : b.lexis.IsPlain (.sign '.') := by cases b <;> exact ⟨rfl, rfl⟩
  have hclosing : '.' ≠ b.quote.closing := by cases b <;> decide
  have hclass : CharClass.of '.' ≠ .word := by decide
  have hstep : b.lexis.step m '.' = (.ground, m.pending ++ [.sign '.']) := by
    rcases hm with ⟨cs, rfl⟩ | rfl | ⟨cs, rfl⟩
    · simp [Lexis.step, hclosing, hstart, Mode.pending]
    · exact hstart
    · simp [Lexis.step, hclass, hstart, Mode.pending]
  exact Lexis.passes_singleton hstep
    (List.forall_mem_append.2 ⟨hpending, by simpa using hplain⟩)

theorem BuiltIn.step_equals (b : BuiltIn) (name : List Char) :
    b.lexis.step (.closed b.quote name) '=' = (.operator ['='], [.quoted name.reverse]) := by
  have hstart : b.lexis.start '=' = (.operator ['='], []) := by cases b <;> rfl
  have hclosing : '=' ≠ b.quote.closing := by cases b <;> decide
  simp [Lexis.step, hclosing, hstart]

/-- An equals sign ends a name, and is plain before everything that is no operator. -/
theorem BuiltIn.passes_equals (b : BuiltIn) {m : Mode} {c : Char} {name rest : List Char}
    (hc : CharClass.of c ≠ .operator) (h : b.lexis.Passes .ground (c :: rest) m) :
    b.lexis.Passes (.closed b.quote name) ('=' :: c :: rest) m := by
  have hequals : b.lexis.IsPlain (.operator ['=']) := by cases b <;> exact ⟨rfl, rfl⟩
  have hfirst : b.lexis.Passes (.closed b.quote name) ['='] (.operator ['=']) :=
    Lexis.passes_singleton (b.step_equals name) (by simpa using b.isPlain_quoted name.reverse)
  have hrest : b.lexis.Passes (.operator ['=']) (c :: rest) m := by
    simp only [Lexis.Passes, Lexis.run, Lexis.step, hc, if_false] at h ⊢
    exact ⟨h.1, List.forall_mem_cons.2 ⟨hequals, h.2⟩⟩
  exact hfirst.append hrest

/-! ## Columns and placeholders -/

/-- The segments of a table are passed, if there are any, up to a closing quote. -/
theorem exists_passes_table (b : BuiltIn) (identifier : List String) :
    ∃ m, (m = .ground ∨ ∃ cs, m = .closed b.quote cs) ∧
      b.lexis.Passes .ground ((table identifier).text (.ofBuiltIn b)).toList m := by
  induction identifier with
  | nil => exact ⟨.ground, .inl rfl, Lexis.passes_nil _⟩
  | cons s rest ih =>
      have hname := b.passes_name s
      cases rest with
      | nil =>
          refine ⟨.closed b.quote s.toList.reverse, .inr ⟨_, rfl⟩, ?_⟩
          simpa [table, joinWith, text_cons, Piece.text] using hname
      | cons s' rest =>
          obtain ⟨m, hm, htable⟩ := ih
          have hpoint := b.passes_point (m := .closed b.quote s.toList.reverse) (.inl ⟨_, rfl⟩)
            (by simpa [Mode.pending] using b.isPlain_quoted s.toList)
          refine ⟨m, hm, ?_⟩
          have hsegments : table (s :: s' :: rest) =
              .name s :: .word "." :: table (s' :: rest) := rfl
          rw [hsegments, text_cons, text_cons]
          simpa [Piece.text] using (hname.append hpoint).append htable

/-- A column is passed up to its closing quote. -/
theorem Qualifier.passes_column {q : Qualifier} (hq : q.isOwn = true) (name : String) :
    b.lexis.Passes .ground ((q.column name).text (.ofBuiltIn b)).toList
      (.closed b.quote name.toList.reverse) := by
  have hname := b.passes_name name
  cases q with
  | none => simpa [Qualifier.column, text_cons, Piece.text] using hname
  | tableAlias n =>
      obtain ⟨halias, hplain⟩ := b.passes_counted (show ['t'] ∈ countedWords by decide) n
      have hpoint := b.passes_point (m := .word (['t'] ++ Nat.toDigits 10 n).reverse)
        (.inr (.inr ⟨_, rfl⟩)) (by simpa [Mode.pending] using hplain)
      have htext : (aliasText n).toList = ['t'] ++ Nat.toDigits 10 n := by
        rw [aliasText, String.toList_append]
        exact congrArg _ Nat.toList_repr
      rw [← htext] at halias hpoint
      simpa [Qualifier.column, text_cons, Piece.text] using (halias.append hpoint).append hname
  | table identifier =>
      obtain ⟨m, hm, htable⟩ := exists_passes_table b identifier
      have hpoint : b.lexis.Passes m ['.'] .ground := by
        rcases hm with rfl | ⟨cs, rfl⟩
        · exact b.passes_point (.inr (.inl rfl)) (by simp [Mode.pending])
        · exact b.passes_point (.inl ⟨_, rfl⟩)
            (by simpa [Mode.pending] using b.isPlain_quoted cs.reverse)
      simpa [Qualifier.column, text_cons, text_append, Piece.text] using
        (htable.append hpoint).append hname
  | text t => cases hq

/-- A column is a factor, whatever it is called. -/
theorem Qualifier.isFactor_column {q : Qualifier} (hq : q.isOwn = true) (name : String) :
    b.lexis.IsFactor ((q.column name).text (.ofBuiltIn b)) := by
  have hplain : b.lexis.IsPlain (.quoted name.toList) := b.isPlain_quoted _
  exact (passes_column hq name).isFactor rfl (by simpa [Mode.pending] using hplain)
    (by simp [Mode.pending])

/-- A table is a part of a factor, also where its name has no segments. -/
theorem isPart_table (b : BuiltIn) (identifier : List String) :
    b.lexis.IsPart ((table identifier).text (.ofBuiltIn b)) := by
  obtain ⟨m, hm, htable⟩ := exists_passes_table b identifier
  rcases hm with rfl | ⟨cs, rfl⟩
  · exact htable.isPart rfl (by simp [Mode.pending])
  · exact htable.isPart rfl (by simpa [Mode.pending] using b.isPlain_quoted cs.reverse)

/-- A counted word is a factor. -/
theorem isFactor_counted (b : BuiltIn) {word : String} (hword : word.toList ∈ countedWords)
    (n : Nat) : b.lexis.IsFactor (word ++ toString n) := by
  obtain ⟨hpasses, hplain⟩ := b.passes_counted hword n
  have htext : (word ++ toString n).toList = word.toList ++ Nat.toDigits 10 n := by
    rw [String.toList_append]
    exact congrArg _ Nat.toList_repr
  rw [← htext] at hpasses hplain
  exact hpasses.isFactor rfl (by simpa [Mode.pending] using hplain) (by simp [Mode.pending])

theorem isFactor_alias (b : BuiltIn) (n : Nat) : b.lexis.IsFactor (aliasText n) :=
  isFactor_counted b (by decide) n

/-- A number is a factor. -/
theorem isFactor_toString (b : BuiltIn) (n : Nat) : b.lexis.IsFactor (toString n) := by
  simpa using isFactor_counted b (show "".toList ∈ countedWords by decide) n

/-- A placeholder is passed, and does not start like an operator. -/
theorem exists_passes_placeholder (b : BuiltIn) (n : Nat) :
    ∃ c rest m, ((Dialect.ofBuiltIn b).placeholder (toString n)).toList = c :: rest ∧
      CharClass.of c ≠ .operator ∧ b.lexis.Passes .ground (c :: rest) m ∧ m.isOpen = false ∧
      ∀ l ∈ m.pending, b.lexis.IsPlain l := by
  have hcounted : ∀ cs : List Char, cs ∈ countedWords → ∃ m,
      b.lexis.Passes .ground (cs ++ Nat.toDigits 10 n) m ∧ m.isOpen = false ∧
        ∀ l ∈ m.pending, b.lexis.IsPlain l := by
    intro cs hcs
    obtain ⟨hpasses, hplain⟩ := b.passes_counted hcs n
    exact ⟨_, hpasses, rfl, by simpa [Mode.pending] using hplain⟩
  have hquestion : b.lexis.start '?' = (.ground, [.sign '?']) → b.lexis.IsPlain (.sign '?') →
      b.lexis.Passes .ground ['?'] .ground := fun hstart hplain =>
    Lexis.passes_singleton hstart (by simpa using hplain)
  cases b with
  | postgres =>
      obtain ⟨m, hm⟩ := hcounted ['$'] (by decide)
      refine ⟨'$', Nat.toDigits 10 n, m, ?_, by decide, hm⟩
      simp [Dialect.ofBuiltIn, Dialect.postgres]
  | mysql =>
      refine ⟨'?', [], .ground, ?_, by decide, hquestion rfl ⟨rfl, rfl⟩, rfl,
        by simp [Mode.pending]⟩
      simp [Dialect.ofBuiltIn, Dialect.mysql]
  | mssql =>
      obtain ⟨m, hm⟩ := hcounted ['@', 'p'] (by decide)
      refine ⟨'@', 'p' :: Nat.toDigits 10 n, m, ?_, by decide, hm⟩
      simp [Dialect.ofBuiltIn, Dialect.mssql]
  | sqlite =>
      refine ⟨'?', [], .ground, ?_, by decide, hquestion rfl ⟨rfl, rfl⟩, rfl,
        by simp [Mode.pending]⟩
      simp [Dialect.ofBuiltIn, Dialect.sqlite]

/-- A placeholder is a part of a factor. -/
theorem isPart_placeholder (b : BuiltIn) (n : Nat) :
    b.lexis.IsPart ((Dialect.ofBuiltIn b).placeholder (toString n)) := by
  obtain ⟨c, rest, m, htext, -, hpasses, hopen, hpending⟩ := exists_passes_placeholder b n
  rw [← htext] at hpasses
  exact hpasses.isPart hopen hpending

end SqlCompose
