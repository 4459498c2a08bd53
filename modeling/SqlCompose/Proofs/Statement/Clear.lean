import SqlCompose.Proofs.Text.Token
import SqlCompose.Proofs.Statement.Fragment

/-!
# Clear fragments

A fragment is clear where a reader of its text finds the pieces that it is
made of (`Fragment.IsClear`): every identifier as one, every placeholder as
one, and nothing else that looks like either.  Whether that is so is decided
where pieces meet.  A closing quote after a name would go on with the name,
and a digit after a placeholder would go on with its number; what starts
with neither is safe after everything.

Fragments of a statement meet at words that are safe, so clear fragments
around such a word are clear together (`IsClear.between`), and with it lists,
tables and columns.

## Main results

* `IsClear.tokens_text` — the text of a clear fragment is read as the tokens
  of its pieces.
* `IsClear.between`, `isClear_joinWith` — composition.
* `isClear_column_weave` — a manual fragment is clear whose literal parts are
  plain and do not go on with a placeholder.
-/

namespace SqlCompose

open Dialect (startsWithDigit)

/-! ## What the pieces are meant to be -/

/-- The tokens that a piece is meant to be. -/
def Piece.tokens (d : Dialect) : Piece → List Token
  | word t => t.toList.map .char
  | verbatim t => t.toList.map .char
  | name n => [.name n]
  | tableAlias n => (aliasText n).toList.map .char
  | mark n => [.mark (d.placeholder (toString n))]

/-- The number of the placeholder that a piece is. -/
def Piece.number? : Piece → Option Nat
  | mark n => some n
  | _ => none

namespace Fragment

/-- The tokens that a fragment is meant to be. -/
def tokens (d : Dialect) (f : Fragment) : List Token := f.flatMap (Piece.tokens d)

/-- The numbers of the placeholders in a fragment, in their order. -/
def marks (f : Fragment) : List Nat := f.filterMap Piece.number?

@[simp] theorem tokens_nil (d : Dialect) : tokens d [] = [] := rfl

@[simp] theorem tokens_cons (d : Dialect) (p : Piece) (f : Fragment) :
    tokens d (p :: f) = p.tokens d ++ tokens d f := rfl

@[simp] theorem tokens_append (d : Dialect) (f g : Fragment) :
    tokens d (f ++ g) = tokens d f ++ tokens d g := by
  simp [tokens]

@[simp] theorem marks_nil : marks [] = [] := rfl

@[simp] theorem marks_cons (p : Piece) (f : Fragment) :
    marks (p :: f) = p.number?.toList ++ marks f := by
  cases p <;> rfl

@[simp] theorem marks_append (f g : Fragment) : marks (f ++ g) = marks f ++ marks g := by
  simp [marks]

private theorem filterMap_mark_chars (cs : List Char) :
    (cs.map Token.char).filterMap Token.mark? = [] := by
  induction cs with
  | nil => rfl
  | cons c rest ih => exact ih

/-- The placeholders among the tokens of a fragment are those of its pieces. -/
theorem filterMap_mark_tokens (d : Dialect) (f : Fragment) :
    (f.tokens d).filterMap Token.mark? = f.marks.map fun n => d.placeholder (toString n) := by
  induction f with
  | nil => rfl
  | cons p rest ih =>
      have hp : (p.tokens d).filterMap Token.mark? =
          p.number?.toList.map fun n => d.placeholder (toString n) := by
        cases p with
        | word t => exact filterMap_mark_chars t.toList
        | verbatim t => exact filterMap_mark_chars t.toList
        | name n => rfl
        | tableAlias n => exact filterMap_mark_chars (aliasText n).toList
        | mark n => rfl
      rw [tokens_cons, List.filterMap_append, ih, hp, marks_cons, List.map_append]

end Fragment

/-! ## Where pieces meet -/

namespace BuiltIn

/-- Whether a text can follow anything: it starts with neither a closing quote nor a digit. -/
def isSafe (b : BuiltIn) (cs : List Char) : Bool :=
  cs.head? != some b.lexicon.closing && !startsWithDigit cs

/-- After what is not empty anything may follow. -/
theorem isSafe_append_of_ne_nil {b : BuiltIn} {cs : List Char} (h : b.isSafe cs = true)
    (hne : cs ≠ []) (rest : List Char) : b.isSafe (cs ++ rest) = true := by
  cases cs with
  | nil => exact absurd rfl hne
  | cons c cs => exact h

theorem head?_ne_of_isSafe {b : BuiltIn} {cs : List Char} (h : b.isSafe cs = true) :
    cs.head? ≠ some b.lexicon.closing := by
  simp only [isSafe, Bool.and_eq_true, bne_iff_ne, ne_eq] at h
  exact h.1

theorem startsWithDigit_of_isSafe {b : BuiltIn} {cs : List Char} (h : b.isSafe cs = true) :
    startsWithDigit cs = false := by
  simp only [isSafe, Bool.and_eq_true, Bool.not_eq_true'] at h
  exact h.2

/-- The first character of a placeholder is neither a closing quote nor a digit. -/
theorem isSafe_placeholder (b : BuiltIn) (n : Nat) (rest : List Char) :
    b.isSafe (((Dialect.ofBuiltIn b).placeholder (toString n)).toList ++ rest) = true := by
  cases b with
  | postgres =>
      have hdollar : isSafe postgres "$".toList = true := by decide
      show isSafe postgres (("$" ++ toString n).toList ++ rest) = true
      rw [String.toList_append, List.append_assoc]
      exact isSafe_append_of_ne_nil hdollar (by decide) _
  | mysql =>
      have hquestion : isSafe mysql "?".toList = true := by decide
      exact isSafe_append_of_ne_nil hquestion (by decide) rest
  | mssql =>
      have hat : isSafe mssql "@p".toList = true := by decide
      show isSafe mssql (("@p" ++ toString n).toList ++ rest) = true
      rw [String.toList_append, List.append_assoc]
      exact isSafe_append_of_ne_nil hat (by decide) _
  | sqlite =>
      have hquestion : isSafe sqlite "?".toList = true := by decide
      exact isSafe_append_of_ne_nil hquestion (by decide) rest

/-! ## The words of statements -/

/-- The words that a statement, or a part of one, starts with. -/
def openingWords : List String :=
  ["SELECT ", "UPDATE ", "DELETE FROM ", "INSERT INTO ", "Inserted.", "COUNT(*)", " FROM ( ",
    "WHERE ( ", "EXISTS", "NOT EXISTS", " ( SELECT ", "ORDER BY ", "ORDER BY (SELECT NULL)",
    "ASC", "DESC", " "]

/-- The words that keep apart what stands before and after them. -/
def spacingWords : List String :=
  [" ", ".", ", ", " AND ", " FROM ", " WHERE ", " where ", " SET ", "=", " = ", "=NULL",
    " IS NULL", " IS NOT NULL", " IN ( ", " )", " ) ", " (", ") VALUES (", " VALUES (",
    ") OUTPUT ", ")", ") RETURNING *"]

theorem isPlainText_openingWord {t : String} (h : t ∈ openingWords) (b : BuiltIn) :
    b.isPlainText t = true := by
  revert t
  cases b <;> decide

/-- What keeps fragments apart is plain, is safe after everything, and is there. -/
theorem spec_spacingWord {t : String} (h : t ∈ spacingWords) (b : BuiltIn) :
    b.isPlainText t = true ∧ b.isSafe t.toList = true ∧ t.toList ≠ [] := by
  revert t
  cases b <;> decide

end BuiltIn

namespace Fragment

open BuiltIn (openingWords spacingWords)

/-- Whether a fragment before a text is read as the tokens of its pieces. -/
def ReadsBefore (b : BuiltIn) (f : Fragment) (rest : List Char) : Prop :=
  b.lexicon.tokens ((f.text (.ofBuiltIn b)).toList ++ rest) =
    f.tokens (.ofBuiltIn b) ++ b.lexicon.tokens rest

/--
Whether a fragment is read as the tokens of its pieces, before everything
that is safe.
-/
def IsClear (b : BuiltIn) (f : Fragment) : Prop :=
  ∀ rest : List Char, b.isSafe rest = true → f.ReadsBefore b rest

variable {b : BuiltIn} {f g : Fragment} {t : String}

theorem readsBefore_nil (rest : List Char) : ReadsBefore b [] rest := rfl

/-- Two fragments in a row are read one after the other. -/
theorem ReadsBefore.append {rest : List Char}
    (hf : f.ReadsBefore b ((g.text (.ofBuiltIn b)).toList ++ rest)) (hg : g.ReadsBefore b rest) :
    ReadsBefore b (f ++ g) rest := by
  unfold ReadsBefore at hf hg ⊢
  rw [text_append, String.toList_append, List.append_assoc, hf, hg, tokens_append,
    List.append_assoc]

/-- A piece is read as what it is where its text is. -/
private theorem readsBefore_piece {p : Piece} {rest : List Char}
    (h : b.lexicon.tokens ((p.text (.ofBuiltIn b)).toList ++ rest) =
      p.tokens (.ofBuiltIn b) ++ b.lexicon.tokens rest) : ReadsBefore b [p] rest := by
  unfold ReadsBefore
  rw [text_cons, text_nil, String.append_empty, h]
  simp

theorem readsBefore_word (ht : b.isPlainText t = true) (rest : List Char) :
    ReadsBefore b [.word t] rest :=
  readsBefore_piece (b.tokens_plain ht rest)

theorem readsBefore_verbatim (ht : b.isPlainText t = true) (rest : List Char) :
    ReadsBefore b [.verbatim t] rest :=
  readsBefore_piece (b.tokens_plain ht rest)

theorem readsBefore_name (n : String) {rest : List Char}
    (h : rest.head? ≠ some b.lexicon.closing) : ReadsBefore b [.name n] rest :=
  readsBefore_piece (b.tokens_quote n h)

theorem readsBefore_mark (n : Nat) {rest : List Char} (h : startsWithDigit rest = false) :
    ReadsBefore b [.mark n] rest :=
  readsBefore_piece (b.tokens_placeholder n h)

/-- The digits of a number are plain. -/
theorem isPlainText_toString (b : BuiltIn) (n : Nat) : b.isPlainText (toString n) = true := by
  have htext : (toString n).toList = Nat.toDigits 10 n := Nat.toList_repr
  rw [BuiltIn.isPlainText, htext, List.all_eq_true]
  intro c hc
  have hdigit : c.isDigit = true := Nat.isDigit_of_mem_toDigits (by decide) (by decide) hc
  have hne : ∀ c' : Char, c'.isDigit = false → c ≠ c' := by
    rintro _ hc' rfl
    rw [hdigit] at hc'
    cases hc'
  have hplain : ∀ opening closing : Char, opening.isDigit = false → closing.isDigit = false →
      (c != opening && c != closing && c != '?' && c != '$' && c != '@') = true := by
    intro opening closing hopening hclosing
    simp [hne opening hopening, hne closing hclosing, hne '?' rfl, hne '$' rfl, hne '@' rfl]
  exact hplain _ _ (by cases b <;> rfl) (by cases b <;> rfl)

theorem isPlainText_append {s : String} (hs : b.isPlainText s = true)
    (ht : b.isPlainText t = true) : b.isPlainText (s ++ t) = true := by
  unfold BuiltIn.isPlainText at hs ht ⊢
  rw [String.toList_append, List.all_append, hs, ht]
  rfl

theorem readsBefore_alias (n : Nat) (rest : List Char) : ReadsBefore b [.tableAlias n] rest := by
  have hletter : b.isPlainText aliasLetter = true := by cases b <;> decide
  have hplain := isPlainText_append hletter (isPlainText_toString b n)
  exact readsBefore_piece (b.tokens_plain hplain rest)

/-! ## Composition -/

/-- The text of a clear fragment is read as the tokens of its pieces. -/
theorem IsClear.tokens_text (h : f.IsClear b) :
    b.lexicon.tokens (f.text (.ofBuiltIn b)).toList = f.tokens (.ofBuiltIn b) := by
  have hend : b.lexicon.tokens [] = [] := by rw [Lexicon.tokens]
  have hread := h [] (by cases b <;> rfl)
  rw [ReadsBefore, List.append_nil, hend, List.append_nil] at hread
  exact hread

theorem isClear_nil : IsClear b [] := fun rest _ => readsBefore_nil rest

theorem isClear_name (n : String) : IsClear b [.name n] :=
  fun _ hrest => readsBefore_name n (BuiltIn.head?_ne_of_isSafe hrest)

theorem isClear_mark (n : Nat) : IsClear b [.mark n] :=
  fun _ hrest => readsBefore_mark n (BuiltIn.startsWithDigit_of_isSafe hrest)

theorem isClear_alias (n : Nat) : IsClear b [.tableAlias n] :=
  fun rest _ => readsBefore_alias n rest

/-- Plain text may stand before a clear fragment. -/
theorem IsClear.plain (ht : b.isPlainText t = true) (hg : g.IsClear b) :
    IsClear b (.word t :: g) :=
  fun rest hrest => (readsBefore_word ht _).append (hg rest hrest)

/-- A statement may start with one of its words. -/
theorem IsClear.opened (hg : g.IsClear b) (ht : t ∈ openingWords) :
    IsClear b (.word t :: g) :=
  hg.plain (BuiltIn.isPlainText_openingWord ht b)

/-- Clear fragments are clear together with a word between them that keeps them apart. -/
theorem IsClear.between (hf : f.IsClear b) (hg : g.IsClear b)
    (ht : t ∈ spacingWords) : IsClear b (f ++ .word t :: g) := by
  obtain ⟨hplain, hsafe, hne⟩ := BuiltIn.spec_spacingWord ht b
  intro rest hrest
  refine ReadsBefore.append (hf _ ?_) (hg.plain hplain rest hrest)
  rw [text_cons, String.toList_append, List.append_assoc]
  exact BuiltIn.isSafe_append_of_ne_nil hsafe hne _

/-- A word that keeps apart may end a clear fragment. -/
theorem IsClear.closed (hf : f.IsClear b) (ht : t ∈ spacingWords) :
    IsClear b (f ++ [Piece.word t]) :=
  hf.between isClear_nil ht

/-! ## Lists and tables -/

/-- Clear fragments are clear in a row with a word between neighbours that keeps them apart. -/
theorem isClear_joinWith {fs : List Fragment} (h : ∀ f ∈ fs, IsClear b f)
    (ht : t ∈ spacingWords) : IsClear b (joinWith t fs) := by
  induction fs with
  | nil => exact isClear_nil
  | cons f rest ih =>
      have hf := h f List.mem_cons_self
      have hrest := ih fun g hg => h g (List.mem_cons_of_mem _ hg)
      cases rest with
      | nil => simpa [joinWith] using hf
      | cons g rest =>
          rw [joinWith_cons_cons]
          exact hf.between hrest ht

/-- The parts of a statement are clear together if each of those that are there is. -/
theorem isClear_spaced {parts : List (Option Fragment)}
    (h : ∀ part ∈ parts, IsClear b (part.getD [])) : IsClear b (spaced parts) := by
  refine isClear_joinWith (fun f hf => ?_) (by decide)
  obtain ⟨part, hpart, rfl⟩ := List.mem_filterMap.1 hf
  exact h (some f) hpart

theorem isClear_table (identifier : List String) : IsClear b (table identifier) := by
  refine isClear_joinWith (fun f hf => ?_) (by decide)
  obtain ⟨segment, -, rfl⟩ := List.mem_map.1 hf
  exact isClear_name segment

end Fragment

/-! ## Columns -/

/-- Whether a statement has the qualifier of itself, and no caller wrote it. -/
def Qualifier.isOwn : Qualifier → Bool
  | text _ => false
  | _ => true

/--
Whether the literal parts of a manual fragment can be told from the rest of a
statement: they have no quote of the dialect and none of the characters that
placeholders start with, and after a mark they do not start with a digit.
-/
def Template.IsPlain (b : BuiltIn) (template : Template) : Prop :=
  (∀ t ∈ template.literals, b.isPlainText t = true) ∧
    ∀ t ∈ template.literals.tail, startsWithDigit t.toList = false

instance (b : BuiltIn) (template : Template) : Decidable (template.IsPlain b) :=
  inferInstanceAs (Decidable (_ ∧ _))

namespace Fragment

variable {b : BuiltIn} {q : Qualifier}

/-- A column is read as what it is where no closing quote follows. -/
theorem readsBefore_column (hq : q.isOwn = true) (name : String) {rest : List Char}
    (hrest : rest.head? ≠ some b.lexicon.closing) : ReadsBefore b (q.column name) rest := by
  have hname := readsBefore_name name hrest
  obtain ⟨hplain, hsafe, hne⟩ : b.isPlainText "." = true ∧ b.isSafe ".".toList = true ∧
      ".".toList ≠ [] := BuiltIn.spec_spacingWord (by decide) b
  have hlast : ReadsBefore b [.word ".", .name name] rest :=
    (readsBefore_word hplain _).append hname
  cases q with
  | none => exact hname
  | tableAlias n => exact (readsBefore_alias n _).append hlast
  | table identifier =>
      refine ReadsBefore.append (isClear_table identifier _ ?_) hlast
      rw [text_cons, String.toList_append, List.append_assoc]
      exact BuiltIn.isSafe_append_of_ne_nil hsafe hne _
  | text t => cases hq

theorem isClear_column (hq : q.isOwn = true) (name : String) : IsClear b (q.column name) :=
  fun _ hrest => readsBefore_column hq name (BuiltIn.head?_ne_of_isSafe hrest)

/-! ## Manual fragments -/

private theorem head_append {P : Char → Prop} {cs rest : List Char}
    (hcs : ∀ c ∈ cs.head?, P c) (hrest : ∀ c ∈ rest.head?, P c) :
    ∀ c ∈ (cs ++ rest).head?, P c := by
  cases cs with
  | nil => exact hrest
  | cons c cs => exact hcs

/-- What is woven starts like a literal part, like a placeholder, or like what is after it. -/
theorem head_weave {P : Char → Prop} {d : Dialect} {literals : List String} {rest : List Char}
    (hliterals : ∀ t ∈ literals, ∀ c ∈ t.toList.head?, P c)
    (hmark : ∀ (n : Nat) (cs : List Char),
      ∀ c ∈ ((d.placeholder (toString n)).toList ++ cs).head?, P c)
    (hrest : ∀ c ∈ rest.head?, P c) (numbers : List Nat) :
    ∀ c ∈ (((Template.weave literals (numbers.map .mark)).text d).toList ++ rest).head?, P c := by
  induction literals generalizing numbers with
  | nil =>
      rw [Template.weave_nil, text_nil]
      exact hrest
  | cons t literals ih =>
      have ht := hliterals t List.mem_cons_self
      have hrest' := fun numbers =>
        ih (fun t' h' => hliterals t' (List.mem_cons_of_mem _ h')) numbers
      cases numbers with
      | nil =>
          rw [List.map_nil, Template.weave_cons_nil, text_cons, String.toList_append,
            List.append_assoc]
          exact head_append ht (hrest' [])
      | cons n numbers =>
          rw [List.map_cons, Template.weave_cons_cons, text_cons, text_cons, String.toList_append,
            String.toList_append, List.append_assoc, List.append_assoc]
          exact head_append ht (hmark n _)

/-- What is woven is read as its parts where no digit follows. -/
theorem readsBefore_weave {literals : List String}
    (hplain : ∀ t ∈ literals, b.isPlainText t = true)
    (hdigit : ∀ t ∈ literals.tail, startsWithDigit t.toList = false) {rest : List Char}
    (hrest : startsWithDigit rest = false) (numbers : List Nat) :
    ReadsBefore b (Template.weave literals (numbers.map .mark)) rest := by
  have hhead : ∀ cs : List Char, startsWithDigit cs = false ↔
      ∀ c ∈ cs.head?, Text.isDigit c = false := by
    intro cs
    cases cs <;> simp [startsWithDigit]
  induction literals generalizing numbers with
  | nil =>
      rw [Template.weave_nil]
      exact readsBefore_nil rest
  | cons t literals ih =>
      have ht := hplain t List.mem_cons_self
      -- The first literal part may start with a digit, as no placeholder is before it.
      have hread := fun numbers => ih (fun t' h' => hplain t' (List.mem_cons_of_mem _ h'))
        (fun t' h' => hdigit t' (List.mem_of_mem_tail h')) numbers
      cases numbers with
      | nil =>
          rw [List.map_nil, Template.weave_cons_nil]
          exact (readsBefore_verbatim ht _).append (hread [])
      | cons n numbers =>
          rw [List.map_cons, Template.weave_cons_cons]
          have hnext := head_weave (P := fun c => Text.isDigit c = false)
            (d := .ofBuiltIn b) (fun t' h' => (hhead _).1 (hdigit t' h'))
            (fun n cs =>
              (hhead _).1 (BuiltIn.startsWithDigit_of_isSafe (b.isSafe_placeholder n cs)))
            ((hhead rest).1 hrest) numbers
          have hmark := (readsBefore_mark (b := b) n ((hhead _).2 hnext)).append (hread numbers)
          exact (readsBefore_verbatim ht _).append hmark

/-- A column and the manual fragment behind it are read as what they are. -/
theorem isClear_column_weave (hq : q.isOwn = true) (name : String) {template : Template}
    (h : template.IsPlain b) (numbers : List Nat) :
    IsClear b (q.column name ++ Template.weave template.literals (numbers.map .mark)) := by
  intro rest hrest
  have hweave := readsBefore_weave h.1 h.2 (BuiltIn.startsWithDigit_of_isSafe hrest) numbers
  have hliterals : ∀ t ∈ template.literals, ∀ c ∈ t.toList.head?, c ≠ b.lexicon.closing := by
    intro t ht c hc
    have hplain : b.isPlain c = true :=
      List.all_eq_true.1 (h.1 t ht) c (List.mem_of_mem_head? hc)
    simp only [BuiltIn.isPlain, Bool.and_eq_true, bne_iff_ne, ne_eq] at hplain
    exact hplain.1.1.1.2
  have hmark : ∀ (n : Nat) (cs : List Char),
      ∀ c ∈ (((Dialect.ofBuiltIn b).placeholder (toString n)).toList ++ cs).head?,
        c ≠ b.lexicon.closing := by
    rintro n cs c hc rfl
    exact BuiltIn.head?_ne_of_isSafe (b.isSafe_placeholder n cs) hc
  have hafter : ∀ c ∈ rest.head?, c ≠ b.lexicon.closing := by
    rintro c hc rfl
    exact BuiltIn.head?_ne_of_isSafe hrest hc
  refine (readsBefore_column hq name ?_).append hweave
  intro hclosing
  exact head_weave hliterals hmark hafter numbers _ hclosing rfl

end Fragment

end SqlCompose
