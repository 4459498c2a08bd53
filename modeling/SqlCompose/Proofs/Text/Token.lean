import SqlCompose.Statement.Fragment

/-!
# Tokens of a statement

A reader of a finished statement goes through its text from the left.  An
opening quote starts an identifier that ends at the first closing quote that
is not doubled; outside of identifiers a placeholder is what the dialect's
pattern for placeholders matches, its digits taken as far as they go; every
other character stands for itself.  `Lexicon.tokens` is this reader.  It
knows nothing of how the text came about.

## Main results

* `BuiltIn.tokens_plain` — text without quotes and without the first
  characters of placeholders is read character by character.
* `BuiltIn.tokens_quote` — a quoted name is read as one identifier, whatever
  characters it has, where no closing quote follows.
* `BuiltIn.tokens_placeholder` — a placeholder is read as one where no digit
  follows.
-/

namespace SqlCompose

/-- What tells identifiers and placeholders from the rest of a text. -/
structure Lexicon where
  marks : MarkStyle
  opening : Char
  closing : Char

/-- A token of a text. -/
inductive Token where
  /-- A quoted identifier, without its quotes. -/
  | name (identifier : String)
  /-- A placeholder. -/
  | mark (text : String)
  /-- Any other character. -/
  | char (c : Char)
  deriving DecidableEq, Repr

/-- The placeholder that a token is. -/
def Token.mark? : Token → Option String
  | mark text => some text
  | _ => none

namespace Text

/-- The ASCII digits are digits. -/
theorem isDigit_of_isDigit {c : Char} (h : c.isDigit = true) : isDigit c = true := by
  obtain ⟨hlow, hhigh⟩ := Char.isDigit_iff_toNat.1 h
  have hzero : (0x30 ≤ c.toNat && c.toNat ≤ 0x30 + 9) = true := by
    simpa using ⟨hlow, hhigh⟩
  simp [isDigit, digitValue?, digitZeros, hzero]

/-- A number is written in digits. -/
theorem isDigit_of_mem_toDigits {c : Char} {n : Nat} (h : c ∈ Nat.toDigits 10 n) :
    isDigit c = true :=
  isDigit_of_isDigit (Nat.isDigit_of_mem_toDigits (by decide) (by decide) h)

/-- The digits at the front of a text are those of a number where none follows it. -/
theorem takeWhile_toDigits (n : Nat) {rest : List Char}
    (h : Dialect.startsWithDigit rest = false) :
    (Nat.toDigits 10 n ++ rest).takeWhile isDigit = Nat.toDigits 10 n ∧
      (Nat.toDigits 10 n ++ rest).dropWhile isDigit = rest := by
  have hdigits : ∀ c ∈ Nat.toDigits 10 n, isDigit c = true :=
    fun c hc => isDigit_of_mem_toDigits hc
  rw [List.takeWhile_append_of_pos hdigits, List.dropWhile_append_of_pos hdigits]
  cases rest with
  | nil => simp
  | cons c rest =>
      have hc : isDigit c = false := h
      simp [hc]

theorem startsWithDigit_toDigits (n : Nat) (rest : List Char) :
    Dialect.startsWithDigit (Nat.toDigits 10 n ++ rest) = true := by
  obtain ⟨c, cs, hcs⟩ := List.exists_cons_of_ne_nil (Nat.toDigits_ne_nil (n := n) (b := 10))
  have hc : isDigit c = true := isDigit_of_mem_toDigits (n := n) (by simp [hcs])
  rw [hcs]
  exact hc

end Text

namespace Lexicon

/-! ## The reader -/

/--
The rest of an identifier, up to the first closing quote that is not
doubled, and what follows that quote.
-/
def splitName (closing : Char) : List Char → List Char × List Char
  | [] => ([], [])
  | [c] => if c = closing then ([], []) else ([c], [])
  | c :: c' :: rest =>
    if c = closing then
      if c' = closing then
        (c :: (splitName closing rest).1, (splitName closing rest).2)
      else ([], c' :: rest)
    else (c :: (splitName closing (c' :: rest)).1, (splitName closing (c' :: rest)).2)

/-- The placeholder at the front of a text, and what follows it. -/
def splitMark : MarkStyle → List Char → Option (List Char × List Char)
  | .dollar, '$' :: rest =>
    if Dialect.startsWithDigit rest then
      some ('$' :: rest.takeWhile Text.isDigit, rest.dropWhile Text.isDigit)
    else none
  | .atSign, '@' :: 'p' :: rest =>
    if Dialect.startsWithDigit rest then
      some ('@' :: 'p' :: rest.takeWhile Text.isDigit, rest.dropWhile Text.isDigit)
    else none
  | .question, '?' :: rest => some (['?'], rest)
  | _, _ => none

theorem length_splitName_le (closing : Char) (cs : List Char) :
    (splitName closing cs).2.length ≤ cs.length := by
  fun_induction splitName closing cs with
  | case1 => simp
  | case2 => simp
  | case3 => simp
  | case4 rest ih =>
      simp only [List.length_cons]
      omega
  | case5 => simp
  | case6 c c' rest h ih =>
      simp only [List.length_cons] at ih ⊢
      omega

theorem length_splitMark_lt {style : MarkStyle} {cs mark after : List Char}
    (h : splitMark style cs = some (mark, after)) : after.length < cs.length := by
  have hdigits : ∀ rest : List Char,
      (rest.dropWhile Text.isDigit).length ≤ rest.length :=
    fun rest => (List.dropWhile_sublist _).length_le
  unfold splitMark at h
  split at h
  · rename_i rest
    split at h
    · cases h
      have := hdigits rest
      simp only [List.length_cons]
      omega
    · cases h
  · rename_i rest
    split at h
    · cases h
      have := hdigits rest
      simp only [List.length_cons]
      omega
    · cases h
  · cases h
    simp
  · cases h

/-- The tokens of a text. -/
def tokens (x : Lexicon) : List Char → List Token
  | [] => []
  | c :: rest =>
    if c = x.opening then
      .name (String.ofList (splitName x.closing rest).1) ::
        tokens x (splitName x.closing rest).2
    else
      match _h : splitMark x.marks (c :: rest) with
      | some (mark, after) => .mark (String.ofList mark) :: tokens x after
      | none => .char c :: tokens x rest
termination_by cs => cs.length
decreasing_by
  · have := length_splitName_le x.closing rest
    simp only [List.length_cons]
    omega
  · exact length_splitMark_lt _h
  · simp

/-! ## Reading what a piece is written as -/

/-- The name ends where its own closing quote is. -/
theorem splitName_doubled (closing : Char) (name rest : List Char)
    (h : rest.head? ≠ some closing) :
    splitName closing (Quoting.doubled closing name ++ closing :: rest) = (name, rest) := by
  induction name with
  | nil =>
      cases rest with
      | nil => simp [Quoting.doubled, splitName]
      | cons c rest =>
          have hc : c ≠ closing := fun heq => h (by simp [heq])
          simp [Quoting.doubled, splitName, hc]
  | cons c name ih =>
      by_cases hc : c = closing
      · subst hc
        simp [Quoting.doubled, splitName, ih]
      -- The reader looks one character ahead, which is there: the closing quote at least.
      · obtain ⟨c', tail, htail⟩ : ∃ c' tail,
            Quoting.doubled closing name ++ closing :: rest = c' :: tail :=
          List.exists_cons_of_ne_nil (by simp)
        rw [htail] at ih
        simp [Quoting.doubled, splitName, hc, htail, ih]

/-- A quoted name is read as one identifier, whatever characters it has. -/
theorem tokens_quoted (x : Lexicon) (name rest : List Char)
    (h : rest.head? ≠ some x.closing) :
    x.tokens (x.opening :: (Quoting.doubled x.closing name ++ x.closing :: rest)) =
      .name (String.ofList name) :: x.tokens rest := by
  rw [tokens, if_pos rfl, splitName_doubled x.closing name rest h]

/-- What starts neither an identifier nor a placeholder stands for itself. -/
theorem tokens_cons (x : Lexicon) {c : Char} {rest : List Char} (hopening : c ≠ x.opening)
    (hmark : splitMark x.marks (c :: rest) = none) :
    x.tokens (c :: rest) = .char c :: x.tokens rest := by
  rw [tokens, if_neg hopening]
  split
  · rename_i h
    rw [hmark] at h
    cases h
  · rfl

theorem splitMark_eq_none (style : MarkStyle) {c : Char} {rest : List Char}
    (hquestion : c ≠ '?') (hdollar : c ≠ '$') (hat : c ≠ '@') :
    splitMark style (c :: rest) = none := by
  unfold splitMark
  split
  · rename_i heq
    exact absurd (List.cons.inj heq).1 hdollar
  · rename_i heq
    exact absurd (List.cons.inj heq).1 hat
  · rename_i heq
    exact absurd (List.cons.inj heq).1 hquestion
  · rfl

/-- A placeholder is read as one, with all of its digits. -/
theorem tokens_of_splitMark (x : Lexicon) {t : String} {c : Char} {cs rest : List Char}
    (ht : t.toList = c :: cs) (hopening : c ≠ x.opening)
    (hmark : splitMark x.marks (c :: (cs ++ rest)) = some (c :: cs, rest)) :
    x.tokens (t.toList ++ rest) = .mark t :: x.tokens rest := by
  rw [ht, List.cons_append, tokens, if_neg hopening]
  split
  · rename_i h
    rw [hmark] at h
    cases h
    rw [← ht, String.ofList_toList]
  · rename_i h
    rw [hmark] at h
    cases h

end Lexicon

/-! ## The library's own dialects -/

namespace BuiltIn

/-- How the text of a dialect is read. -/
def lexicon : BuiltIn → Lexicon
  | postgres => ⟨.dollar, '"', '"'⟩
  | mysql => ⟨.question, '\x60', '\x60'⟩
  | mssql => ⟨.atSign, '[', ']'⟩
  | sqlite => ⟨.question, '"', '"'⟩

/-- Whether a character is no quote of the dialect and starts no placeholder of any. -/
def isPlain (b : BuiltIn) (c : Char) : Bool :=
  c != b.lexicon.opening && c != b.lexicon.closing && c != '?' && c != '$' && c != '@'

/-- Whether a text has plain characters only. -/
def isPlainText (b : BuiltIn) (t : String) : Bool := t.toList.all b.isPlain

/-- A plain text is read character by character. -/
theorem tokens_plain (b : BuiltIn) {cs : List Char} (h : cs.all b.isPlain = true)
    (rest : List Char) :
    b.lexicon.tokens (cs ++ rest) = cs.map .char ++ b.lexicon.tokens rest := by
  induction cs with
  | nil => rfl
  | cons c cs ih =>
      obtain ⟨hc, hcs⟩ : b.isPlain c = true ∧ cs.all b.isPlain = true := by simpa using h
      simp only [isPlain, Bool.and_eq_true, bne_iff_ne, ne_eq] at hc
      obtain ⟨⟨⟨⟨hopening, -⟩, hquestion⟩, hdollar⟩, hat⟩ := hc
      have hmark : Lexicon.splitMark b.lexicon.marks (c :: (cs ++ rest)) = none :=
        Lexicon.splitMark_eq_none b.lexicon.marks hquestion hdollar hat
      rw [List.cons_append, b.lexicon.tokens_cons hopening hmark, ih hcs]
      rfl

/-- A quoted name is read as one identifier where no closing quote follows. -/
theorem tokens_quote (b : BuiltIn) (name : String) {rest : List Char}
    (h : rest.head? ≠ some b.lexicon.closing) :
    b.lexicon.tokens (((Dialect.ofBuiltIn b).quote name).toList ++ rest) =
      .name name :: b.lexicon.tokens rest := by
  have hread := b.lexicon.tokens_quoted name.toList rest h
  rw [String.ofList_toList] at hread
  cases b <;>
    simpa [Dialect.quote, Dialect.ofBuiltIn, Dialect.postgres, Dialect.mysql, Dialect.mssql,
      Dialect.sqlite, lexicon] using hread

/-- A placeholder is read as one where no digit follows. -/
theorem tokens_placeholder (b : BuiltIn) (n : Nat) {rest : List Char}
    (h : Dialect.startsWithDigit rest = false) :
    b.lexicon.tokens (((Dialect.ofBuiltIn b).placeholder (toString n)).toList ++ rest) =
      .mark ((Dialect.ofBuiltIn b).placeholder (toString n)) :: b.lexicon.tokens rest := by
  obtain ⟨htake, hdrop⟩ := Text.takeWhile_toDigits n h
  have hstarts := Text.startsWithDigit_toDigits n rest
  have htext : (toString n).toList = Nat.toDigits 10 n := Nat.toList_repr
  cases b with
  | postgres =>
      have ht : ("$" ++ toString n).toList = '$' :: Nat.toDigits 10 n := by
        rw [String.toList_append, htext]
        rfl
      refine (lexicon postgres).tokens_of_splitMark ht (by decide) ?_
      simp [lexicon, Lexicon.splitMark, hstarts, htake, hdrop]
  | mysql => exact (lexicon mysql).tokens_of_splitMark (t := "?") rfl (by decide) rfl
  | mssql =>
      have ht : ("@p" ++ toString n).toList = '@' :: 'p' :: Nat.toDigits 10 n := by
        rw [String.toList_append, htext]
        rfl
      refine (lexicon mssql).tokens_of_splitMark ht (by decide) ?_
      simp [lexicon, Lexicon.splitMark, hstarts, htake, hdrop]
  | sqlite => exact (lexicon sqlite).tokens_of_splitMark (t := "?") rfl (by decide) rfl

end BuiltIn

end SqlCompose
