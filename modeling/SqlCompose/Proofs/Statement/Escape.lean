import Mathlib.Algebra.Ring.Nat
import SqlCompose.Proofs.Statement.Identifier

/-!
# Counting placeholders by their looks

A dialect counts the placeholders in finished text by what they look like
(`Dialect.countPlaceholders`), wherever they stand.  In a statement whose names
have none of the characters that placeholders start with, it counts one for
every value; and it counts the question marks that manual fragments mean
literally, which they write as two, where placeholders are question marks
themselves.  So the number is that of the values in the dialects with numbered
placeholders, and in the others just if no manual fragment has such an escape.

## Main results

* `Clause.counts_layout`, `Query.areCounted_layoutParts` — what is counted in
  conditions, nested to any depth.
* `Request.countPlaceholders_of_compile` — what is counted in a statement, and
  when it is the number of its values.
-/

namespace SqlCompose

open Dialect (countOnto startsWithDigit)
open Fragment

/-! ## Escapes -/

namespace Template

/-- The number of question marks that a template means literally. -/
def escapes (t : Template) : Nat := (t.literals.map fun l => l.toList.count '?').sum

/-- The literal parts of a text have characters of the text only. -/
private theorem forall_split {P : Char → Prop} {cs current : List Char} {parts : List String}
    (hcs : ∀ c ∈ cs, P c) (hcurrent : ∀ c ∈ current, P c)
    (hparts : ∀ l ∈ parts, ∀ c ∈ l.toList, P c) :
    ∀ l ∈ split cs current parts, ∀ c ∈ l.toList, P c := by
  have hfinished : ∀ current : List Char, (∀ c ∈ current, P c) →
      ∀ c ∈ (String.ofList current.reverse).toList, P c := by
    intro current hcurrent c hc
    rw [String.toList_ofList, List.mem_reverse] at hc
    exact hcurrent c hc
  fun_induction split cs current parts with
  | case1 rest current parts ih =>
      simp only [List.forall_mem_cons] at hcs
      exact ih hcs.2.2 (List.forall_mem_cons.2 ⟨hcs.1, hcurrent⟩) hparts
  | case2 rest current parts _ ih =>
      simp only [List.forall_mem_cons] at hcs
      exact ih hcs.2 (by simp) (List.forall_mem_cons.2 ⟨hfinished current hcurrent, hparts⟩)
  | case3 c rest current parts _ _ ih =>
      simp only [List.forall_mem_cons] at hcs
      exact ih hcs.2 (List.forall_mem_cons.2 ⟨hcs.1, hcurrent⟩) hparts
  | case4 current parts =>
      intro l hl
      rw [List.mem_reverse] at hl
      exact List.forall_mem_cons.2 ⟨hfinished current hcurrent, hparts⟩ l hl

theorem forall_literals {P : Char → Prop} {t : Template} (h : ∀ c ∈ t.text.toList, P c) :
    ∀ l ∈ t.literals, ∀ c ∈ l.toList, P c :=
  forall_split h (by simp) (by simp)

end Template

/-! ## What is counted in a text -/

namespace Text

/-- Whether a text has none of the characters that placeholders start with. -/
def isUnmarked (t : String) : Bool := t.toList.all fun c => c != '?' && c != '$' && c != '@'

/-- Whether a text has none of the characters that numbered placeholders start with. -/
def isUnnumbered (t : String) : Bool := t.toList.all fun c => c != '$' && c != '@'

end Text

/-- The literal parts of a template have no other characters than the template. -/
theorem Template.isUnnumbered_literals {t : Template} (h : Text.isUnnumbered t.text = true) :
    ∀ l ∈ t.literals, Text.isUnnumbered l = true := by
  rw [Text.isUnnumbered, List.all_eq_true] at h
  intro l hl
  rw [Text.isUnnumbered, List.all_eq_true]
  exact t.forall_literals h l hl

/-- Plain text has none of the characters that placeholders start with. -/
theorem isUnmarked_of_isPlainText {b : BuiltIn} {t : String} (h : b.isPlainText t = true) :
    Text.isUnmarked t = true := by
  rw [BuiltIn.isPlainText, List.all_eq_true] at h
  rw [Text.isUnmarked, List.all_eq_true]
  intro c hc
  have hone := h c hc
  simp only [BuiltIn.isPlain, Bool.and_eq_true] at hone ⊢
  exact ⟨⟨hone.1.1.2, hone.1.2⟩, hone.2⟩

namespace BuiltIn

/-- The question marks that a dialect takes for placeholders in a list of characters. -/
def questions (b : BuiltIn) (cs : List Char) : Nat :=
  if b.lexicon.marks = .question then cs.count '?' else 0

/-- The escapes of a template that a dialect takes for placeholders. -/
def escapes (b : BuiltIn) (t : Template) : Nat :=
  if b.lexicon.marks = .question then t.escapes else 0

variable (b : BuiltIn)

/-- A character that starts no numbered placeholder is one placeholder at most. -/
private theorem countOnto_cons (style : MarkStyle) {c : Char} (hdollar : c ≠ '$') (hat : c ≠ '@')
    (found : Nat) (rest : List Char) :
    countOnto found style (c :: rest) =
      countOnto (found + if style = .question then [c].count '?' else 0) style rest := by
  cases style with
  | dollar =>
      rw [countOnto]
      · rfl
      all_goals simp [hdollar]
  | atSign =>
      rw [countOnto]
      · rfl
      all_goals simp [hat]
  | question =>
      by_cases hc : c = '?'
      · subst hc
        rw [countOnto]
        rfl
      · rw [countOnto]
        · simp [hc]
        all_goals simp [hc]

/-- Where no numbered placeholder starts, question marks are counted at most. -/
theorem countOnto_unnumbered {cs : List Char} (h : ∀ c ∈ cs, c ≠ '$' ∧ c ≠ '@') (found : Nat)
    (rest : List Char) :
    countOnto found b.lexicon.marks (cs ++ rest) =
      countOnto (found + b.questions cs) b.lexicon.marks rest := by
  induction cs generalizing found with
  | nil => simp [questions]
  | cons c cs ih =>
      obtain ⟨⟨hdollar, hat⟩, hcs⟩ := List.forall_mem_cons.1 h
      have hsum : b.questions [c] + b.questions cs = b.questions (c :: cs) := by
        unfold questions
        split
        · rw [← List.count_append]
          rfl
        · rfl
      rw [List.cons_append, countOnto_cons _ hdollar hat, ih hcs, ← hsum, Nat.add_assoc]
      rfl

/-- Where no placeholder starts, nothing is counted. -/
theorem countOnto_unmarked {t : String} (h : Text.isUnmarked t = true) (found : Nat)
    (rest : List Char) :
    countOnto found b.lexicon.marks (t.toList ++ rest) = countOnto found b.lexicon.marks rest := by
  have hchars : ∀ c ∈ t.toList, c ≠ '?' ∧ c ≠ '$' ∧ c ≠ '@' := by
    intro c hc
    have hone := List.all_eq_true.1 h c hc
    simpa [and_assoc] using hone
  have hnone : b.questions t.toList = 0 := by
    unfold questions
    split
    · exact List.count_eq_zero.2 fun hmem => (hchars _ hmem).1 rfl
    · rfl
  rw [b.countOnto_unnumbered (fun c hc => (hchars c hc).2), hnone]
  rfl

/-- A placeholder is counted once, whatever follows it. -/
theorem countOnto_placeholder (n found : Nat) (rest : List Char) :
    countOnto found b.lexicon.marks
        (((Dialect.ofBuiltIn b).placeholder (toString n)).toList ++ rest) =
      countOnto (found + 1) b.lexicon.marks rest := by
  have hdigits : Text.isUnmarked (toString n) = true :=
    isUnmarked_of_isPlainText (Fragment.isPlainText_toString b n)
  have htext : (toString n).toList = Nat.toDigits 10 n := Nat.toList_repr
  have hstarts := Text.startsWithDigit_toDigits n rest
  have hrest := b.countOnto_unmarked hdigits (found + 1) rest
  cases b with
  | postgres =>
      show countOnto found .dollar (("$" ++ toString n).toList ++ rest) = _
      rw [String.toList_append, List.append_assoc]
      show countOnto found .dollar ('$' :: ((toString n).toList ++ rest)) = _
      rw [countOnto, htext, hstarts, if_pos rfl, ← htext]
      exact hrest
  | mysql =>
      show countOnto found .question ("?".toList ++ rest) = _
      rw [show "?".toList = ['?'] from rfl, List.singleton_append, countOnto]
      rfl
  | mssql =>
      show countOnto found .atSign (("@p" ++ toString n).toList ++ rest) = _
      rw [String.toList_append, List.append_assoc]
      show countOnto found .atSign ('@' :: 'p' :: ((toString n).toList ++ rest)) = _
      rw [countOnto, htext, hstarts, if_pos rfl, ← htext]
      exact hrest
  | sqlite =>
      show countOnto found .question ("?".toList ++ rest) = _
      rw [show "?".toList = ['?'] from rfl, List.singleton_append, countOnto]
      rfl

end BuiltIn

/-! ## What is counted in fragments -/

namespace Fragment

/-- That a number of placeholders is counted in a fragment, whatever stands around it. -/
def Counts (b : BuiltIn) (n : Nat) (f : Fragment) : Prop :=
  ∀ found rest, countOnto found b.lexicon.marks ((f.text (.ofBuiltIn b)).toList ++ rest) =
    countOnto (found + n) b.lexicon.marks rest

/-- That a number of placeholders is counted in fragments together. -/
inductive AreCounted (b : BuiltIn) : Nat → List Fragment → Prop where
  | nil : AreCounted b 0 []
  | cons {n m : Nat} {f : Fragment} {fs : List Fragment} (head : Counts b n f)
      (tail : AreCounted b m fs) : AreCounted b (n + m) (f :: fs)

variable {b : BuiltIn} {n m : Nat} {f g : Fragment} {fs gs : List Fragment} {t : String}

theorem counts_nil : Counts b 0 [] := fun _ _ => rfl

theorem Counts.append (hf : Counts b n f) (hg : Counts b m g) : Counts b (n + m) (f ++ g) := by
  intro found rest
  rw [text_append, String.toList_append, List.append_assoc, hf, hg, Nat.add_assoc]

private theorem counts_piece {p : Piece}
    (h : ∀ found rest, countOnto found b.lexicon.marks
      ((p.text (.ofBuiltIn b)).toList ++ rest) = countOnto (found + n) b.lexicon.marks rest) :
    Counts b n [p] := by
  intro found rest
  rw [text_cons, text_nil, String.append_empty]
  exact h found rest

theorem counts_word (ht : Text.isUnmarked t = true) : Counts b 0 [.word t] :=
  counts_piece (b.countOnto_unmarked ht)

theorem counts_verbatim (ht : Text.isUnnumbered t = true) :
    Counts b (b.questions t.toList) [.verbatim t] := by
  refine counts_piece (b.countOnto_unnumbered fun c hc => ?_)
  simpa using List.all_eq_true.1 ht c hc

theorem counts_mark (number : Nat) : Counts b 1 [.mark number] :=
  counts_piece (b.countOnto_placeholder number)

theorem counts_alias (number : Nat) : Counts b 0 [.tableAlias number] := by
  have hplain : BuiltIn.postgres.isPlainText (aliasText number) = true :=
    isPlainText_append (by decide) (isPlainText_toString .postgres number)
  exact counts_piece (b.countOnto_unmarked (isUnmarked_of_isPlainText hplain))

private theorem mem_of_doubled {closing c : Char} {cs : List Char}
    (h : c ∈ Quoting.doubled closing cs) : c ∈ cs := by
  induction cs with
  | nil => simp [Quoting.doubled] at h
  | cons c' rest ih =>
      unfold Quoting.doubled at h
      split at h
      · simp only [List.mem_cons] at h ⊢
        rcases h with h | h | h
        · exact .inl h
        · exact .inl h
        · exact .inr (ih h)
      · simp only [List.mem_cons] at h ⊢
        exact h.imp_right ih

/-- Quoting adds quotes only. -/
theorem counts_name (ht : Text.isUnmarked t = true) : Counts b 0 [.name t] := by
  have hquoted : ∀ opening closing : Char, Text.isUnmarked (String.ofList [opening, closing]) →
      Text.isUnmarked ((Quoting.doubling opening closing).quote t) = true := by
    intro opening closing hquotes
    rw [Text.isUnmarked, String.toList_ofList] at hquotes
    rw [Text.isUnmarked, List.all_eq_true] at ht ⊢
    simp only [List.all_cons, List.all_nil, Bool.and_true, Bool.and_eq_true] at hquotes
    intro c hc
    rw [Quoting.toList_quote_doubling, List.mem_cons, List.mem_append, List.mem_singleton] at hc
    rcases hc with rfl | hc | rfl
    · simpa using hquotes.1
    · exact ht c (mem_of_doubled hc)
    · simpa using hquotes.2
  refine counts_piece (b.countOnto_unmarked ?_)
  cases b <;> exact hquoted _ _ (by decide)

/-- A word in front. -/
theorem Counts.word (hf : Counts b n f) (t : String) (ht : Text.isUnmarked t = true) :
    Counts b n (.word t :: f) := by
  simpa using (counts_word ht).append hf

/-- A word behind. -/
theorem Counts.closed (hf : Counts b n f) (t : String) (ht : Text.isUnmarked t = true) :
    Counts b n (f ++ [.word t]) :=
  hf.append (counts_word ht)

namespace AreCounted

theorem append (h : AreCounted b n fs) (h' : AreCounted b m gs) :
    AreCounted b (n + m) (fs ++ gs) := by
  induction h with
  | nil => simpa using h'
  | cons head _ ih =>
      rw [Nat.add_assoc]
      exact .cons head ih

/-- Fragments in which nothing is counted. -/
theorem of_forall (h : ∀ f ∈ fs, Counts b 0 f) : AreCounted b 0 fs := by
  induction fs with
  | nil => exact .nil
  | cons f rest ih =>
      obtain ⟨hf, hrest⟩ := List.forall_mem_cons.1 h
      exact .cons hf (ih hrest)

theorem joinWith (h : AreCounted b n fs) (separator : String)
    (ht : Text.isUnmarked separator = true) :
    Counts b n (joinWith separator fs) := by
  induction h with
  | nil => exact counts_nil
  | cons head tail ih =>
      cases tail with
      | nil => simpa [Fragment.joinWith] using head
      | cons next rest =>
          rw [joinWith_cons_cons]
          exact head.append (ih.word separator ht)

/-- Conditions with a space before them. -/
theorem conjunction (h : AreCounted b n fs) : Counts b n (behindSpace (conjunction fs)) := by
  have hjoined := ((h.joinWith " AND " (by decide)).closed " )" (by decide)).word "WHERE ( "
    (by decide)
  cases h with
  | nil => exact counts_nil
  | cons head tail => exact hjoined.word " " (by decide)

end AreCounted

/-! ## The parts of a statement -/

/-- The end of a query, with a space before it. -/
theorem AreCounted.tail (h : AreCounted b n fs) (limit offset : Option Nat) :
    Counts b n (behindSpace (tail (.ofBuiltIn b) fs (limit.map boundValue)
      (offset.map boundValue))) := by
  have hordering := (h.joinWith ", " (by decide)).word "ORDER BY " (by decide)
  unfold SqlCompose.tail
  cases hw : window (.ofBuiltIn b) (limit.map boundValue) (offset.map boundValue) with
  | none =>
      rw [window] at hw
      rw [hw]
      cases h with
      | nil => exact counts_nil
      | cons head rest =>
          simpa [spaced, Fragment.joinWith, behindSpace] using hordering.word " " (by decide)
  | some t =>
      have ht := isUnmarked_of_isPlainText (b := b) (IsWindowText.of_window hw).isPlainText
      have hwindow : Counts b 0 [Piece.word t] := counts_word ht
      rw [window] at hw
      rw [hw]
      cases h with
      | nil =>
          cases (Dialect.ofBuiltIn b).orderForPaging with
          | false =>
              simpa [spaced, Fragment.joinWith, behindSpace] using hwindow.word " " (by decide)
          | true =>
              have hboth := (hwindow.word " " (by decide)).word "ORDER BY (SELECT NULL)" (by decide)
              simpa [spaced, Fragment.joinWith, behindSpace] using hboth.word " " (by decide)
      | cons head rest =>
          have hboth := hordering.append (hwindow.word " " (by decide))
          simpa [spaced, Fragment.joinWith, behindSpace] using hboth.word " " (by decide)

/-- A list of rows. -/
theorem Counts.rowsFrom {columns : Fragment} {condition ending : Option Fragment} {k : Nat}
    {identifier : List String} (hcolumns : Counts b k columns)
    (htable : Counts b 0 (Fragment.table identifier)) (number : Nat)
    (hcondition : Counts b n (behindSpace condition)) (hending : Counts b m (behindSpace ending)) :
    Counts b (k + (n + m)) (rowsFrom columns identifier number condition ending) := by
  have hname := htable.append ((counts_alias number).word " " (by decide))
  have hhead := (hcolumns.append (hname.word " FROM " (by decide))).word "SELECT " (by decide)
  rw [SqlCompose.rowsFrom, spaced_some_cons]
  simpa using hhead.append (hcondition.append hending)

/-- The condition that there is a row in another table. -/
theorem Counts.existence {outer : Fragment} {parts : List Fragment} {identifier : List String}
    {keyword innerColumn : String} (houter : Counts b n outer) (hparts : AreCounted b m parts)
    (hkeyword : Text.isUnmarked keyword = true)
    (htable : Counts b 0 (Fragment.table identifier))
    (hinner : Text.isUnmarked innerColumn = true) (number : Nat) :
    Counts b (n + m) (existence keyword identifier number innerColumn outer parts) := by
  have hcolumn := (counts_alias (b := b) number).append
    ((counts_name hinner).word "." (by decide))
  have hequal := hcolumn.append (houter.word " = " (by decide))
  have hwhere := (((AreCounted.cons hequal hparts).joinWith " AND " (by decide)).closed " )"
    (by decide)).word " WHERE " (by decide)
  have hname := htable.append (((counts_alias number).append hwhere).word " " (by decide))
  have hselect := (hcolumn.append (hname.word " FROM " (by decide))).word " ( SELECT " (by decide)
  simpa [SqlCompose.existence, Qualifier.column] using hselect.word keyword hkeyword

/-- The condition that a column is among the rows of a list. -/
theorem Counts.membership {column rows : Fragment} (hcolumn : Counts b n column)
    (hrows : Counts b m rows) : Counts b (n + m) (membership column rows) := by
  have h := hcolumn.append ((hrows.closed " )" (by decide)).word " IN ( " (by decide))
  simpa [SqlCompose.membership] using h

/-- A manual fragment: its placeholders, and the question marks of its literal parts. -/
theorem counts_weave {literals : List String} (numbers : List Nat)
    (hlength : literals.length = numbers.length + 1)
    (hplain : ∀ l ∈ literals, Text.isUnnumbered l = true) :
    Counts b (numbers.length + (literals.map fun l => b.questions l.toList).sum)
      (Template.weave literals (numbers.map .mark)) := by
  induction numbers generalizing literals with
  | nil =>
      obtain ⟨l, rfl⟩ := List.length_eq_one_iff.1 hlength
      simpa using counts_verbatim (b := b) (hplain l (by simp))
  | cons number rest ih =>
      cases literals with
      | nil => simp at hlength
      | cons l literals =>
          obtain ⟨hl, hliterals⟩ := List.forall_mem_cons.1 hplain
          have hrest := ih (by simpa using hlength) hliterals
          have hboth := (counts_verbatim (b := b) hl).append ((counts_mark number).append hrest)
          have hsum : b.questions l.toList + (1 + (rest.length +
              (literals.map fun l => b.questions l.toList).sum)) =
                (number :: rest).length +
                  ((l :: literals).map fun l => b.questions l.toList).sum := by
            simp only [List.length_cons, List.map_cons, List.sum_cons]
            omega
          rw [hsum] at hboth
          show Counts b _ (Template.weave (l :: literals) (.mark number :: rest.map .mark))
          rw [Template.weave_cons_cons]
          exact hboth

end Fragment

/-- The escapes of a template are the question marks of its literal parts. -/
theorem BuiltIn.escapes_eq (b : BuiltIn) (t : Template) :
    b.escapes t = (t.literals.map fun l => b.questions l.toList).sum := by
  unfold escapes questions
  split
  · rfl
  · rw [List.map_const', List.sum_replicate_nat, Nat.mul_zero]

/-! ## Conditions -/

/-- Whether a name has none of the characters that placeholders start with. -/
def Label.isUnmarked (l : Label) : Bool := Text.isUnmarked l.name

/-- That nothing is counted in columns behind a qualifier. -/
def Qualifier.IsUnmarked (b : BuiltIn) (q : Qualifier) : Prop :=
  ∀ name, Text.isUnmarked name = true → Counts b 0 (q.column name)

variable {b : BuiltIn}

theorem Qualifier.isUnmarked_none : Qualifier.none.IsUnmarked b := fun _ => counts_name

theorem Qualifier.isUnmarked_tableAlias (number : Nat) :
    (Qualifier.tableAlias number).IsUnmarked b := fun _ hname =>
  (counts_alias number).append ((counts_name hname).word "." (by decide))

/-- Nothing is counted in the name of a table. -/
theorem Schema.counts_table {s : Schema} (h : ∀ l ∈ s.tableLabels, l.isUnmarked = true) :
    Counts b 0 (table s.identifier) := by
  refine (AreCounted.of_forall fun f hf => ?_).joinWith "." (by decide)
  obtain ⟨segment, hsegment, rfl⟩ := List.mem_map.1 hf
  exact counts_name (h (.segment s segment) (List.mem_map_of_mem hsegment))

theorem Qualifier.isUnmarked_table {s : Schema}
    (h : ∀ l ∈ s.tableLabels, l.isUnmarked = true) :
    (Qualifier.table s.identifier).IsUnmarked b := fun _ hname =>
  (s.counts_table h).append ((counts_name hname).word "." (by decide))

/-- The order of a query has no placeholders. -/
theorem Selection.counts_tail {s : Selection Query} {q : Qualifier} (hq : q.IsUnmarked b)
    (h : ∀ l ∈ s.orderLabels, l.isUnmarked = true) :
    Counts b 0 (behindSpace (s.tail (.ofBuiltIn b) q)) := by
  refine (AreCounted.of_forall fun f hf => ?_).tail s.limit s.offset
  obtain ⟨o, ho, rfl⟩ := List.mem_map.1 hf
  have hcolumn := hq o.column (h (.column s.schema o.column) (List.mem_map_of_mem ho))
  have hkeyword : Text.isUnmarked o.direction.keyword = true := by
    cases o.direction <;> decide
  exact hcolumn.append ((counts_word hkeyword).word " " (by decide))

/-- The values and the escapes of clauses add up. -/
private theorem length_add_sum_append (b : BuiltIn) (vs ws : List Value) (ts us : List Template) :
    vs.length + (ts.map b.escapes).sum + (ws.length + (us.map b.escapes).sum) =
      (vs ++ ws).length + ((ts ++ us).map b.escapes).sum := by
  rw [List.length_append, List.map_append, List.sum_append]
  omega

/--
That in a clause whose names start no placeholders, and whose manual fragments
start no numbered ones, one is counted for each value and for each escape.
-/
private def Clause.IsCounted (b : BuiltIn) (c : Clause Query) : Prop :=
  ∀ s front q, Qualifier.IsUnmarked b q → (∀ l ∈ c.labels s front, l.isUnmarked = true) →
    (∀ t ∈ c.templates, Text.isUnnumbered t.text = true) → ∀ issued aliases,
      Counts b (c.values.length + (c.templates.map b.escapes).sum)
        (c.layout (.ofBuiltIn b) q issued aliases)

/-- That in the conditions of such a query one is counted for each value and each escape. -/
private def Query.IsCounted (b : BuiltIn) (query : Query) : Prop :=
  ∀ front q, Qualifier.IsUnmarked b q → (∀ l ∈ query.labels front, l.isUnmarked = true) →
    (∀ t ∈ query.templates, Text.isUnnumbered t.text = true) → ∀ issued aliases,
      AreCounted b (query.values.length + (query.templates.map b.escapes).sum)
        (query.layoutParts (.ofBuiltIn b) q issued aliases)

private theorem areCounted_of_forall {cs : List (Clause Query)} (h : ∀ c ∈ cs, c.IsCounted b)
    {s : Schema} {front : List Label} {q : Qualifier} (hq : q.IsUnmarked b)
    (hlabels : ∀ l ∈ Clause.labelsAll s front cs, l.isUnmarked = true)
    (hplain : ∀ t ∈ Clause.templatesAll cs, Text.isUnnumbered t.text = true)
    (issued aliases : Nat) :
    AreCounted b ((Clause.valuesAll cs).length + ((Clause.templatesAll cs).map b.escapes).sum)
      (Clause.layoutAll (.ofBuiltIn b) q issued aliases cs) := by
  induction cs generalizing issued aliases with
  | nil => exact .nil
  | cons c rest ih =>
      rw [Clause.labelsAll, List.forall_mem_append] at hlabels
      rw [Clause.templatesAll_cons, List.forall_mem_append] at hplain
      obtain ⟨hc, hrest⟩ := List.forall_mem_cons.1 h
      rw [Clause.layoutAll_cons, Clause.valuesAll_cons, Clause.templatesAll_cons,
        ← length_add_sum_append]
      exact .cons (hc s front q hq hlabels.1 hplain.1 issued aliases)
        (ih hrest hlabels.2 hplain.2 _ _)

/-- A clause that is a column and a fixed fragment behind it. -/
private theorem counts_column {n : Nat} {column : String} {s : Schema} {front : List Label}
    {q : Qualifier} {rest : Fragment} (hq : q.IsUnmarked b)
    (hlabels : ∀ l ∈ front ++ [Label.column s column], l.isUnmarked = true)
    (hrest : Counts b n rest) : Counts b n (q.column column ++ rest) := by
  have hcolumn := hq column (hlabels (.column s column) (by simp))
  simpa using hcolumn.append hrest

private theorem isCounted_hereditary (b : BuiltIn) :
    Hereditary (Clause.IsCounted b) (Query.IsCounted b) where
  compare column op value negated table s front q hq hlabels _ issued aliases := by
    rw [Clause.labels] at hlabels
    rw [Clause.layout]
    cases hnull : value.isNull with
    | true =>
        have hword : Text.isUnmarked (if negated then " IS NOT NULL" else " IS NULL") = true := by
          cases negated <;> decide
        simpa [Clause.values, Clause.templates, hnull] using
          counts_column hq hlabels (counts_word hword)
    | false =>
        have hsymbol : Text.isUnmarked ((Dialect.ofBuiltIn b).operator op.symbol) = true := by
          cases op <;> cases b <;> decide
        have hrest := (((counts_mark (b := b) (issued + 1)).word " " (by decide)).word _
          hsymbol).word " " (by decide)
        simpa [Clause.values, Clause.templates, hnull] using counts_column hq hlabels hrest
  assign column value table s front q hq hlabels _ issued aliases := by
    rw [Clause.labels] at hlabels
    rw [Clause.layout]
    exact counts_column hq hlabels ((counts_mark (issued + 1)).word "=" (by decide))
  assignNull column table s front q hq hlabels _ issued aliases := by
    rw [Clause.labels] at hlabels
    rw [Clause.layout]
    exact counts_column hq hlabels (counts_word (by decide))
  manual column template table s front q hq hlabels hplain issued aliases := by
    have hliterals := Template.isUnnumbered_literals
      (hplain template (by simp [Clause.templates]))
    have hlength : template.literals.length =
        (List.range' (issued + 1) template.values.length).length + 1 := by
      simpa using template.length_literals
    have hweave := counts_weave (b := b) _ hlength hliterals
    rw [Clause.labels] at hlabels
    rw [Clause.layout]
    rw [← b.escapes_eq, List.length_range'] at hweave
    simpa [Clause.values, Clause.templates] using counts_column hq hlabels hweave
  related column inner innerColumn negated ih s front q hq hlabels hplain issued aliases := by
    simp only [Clause.labels, List.forall_mem_cons, List.forall_mem_append] at hlabels
    obtain ⟨hinner, htable, ⟨-, -, hcolumn, -⟩, hconditions⟩ := hlabels
    have hparts := ih [] _ (Qualifier.isUnmarked_tableAlias (aliases + 1)) hconditions hplain
      issued (aliases + 1)
    have hkeyword : Text.isUnmarked (if negated then "NOT EXISTS" else "EXISTS") = true := by
      cases negated <;> decide
    have h := (hq column hcolumn).existence hparts hkeyword (Schema.counts_table htable) hinner
      (aliases + 1)
    rw [Nat.zero_add] at h
    rw [Clause.layout]
    exact h
  among query column ih s front q hq hlabels hplain issued aliases := by
    simp only [Clause.labels, List.forall_mem_append, List.forall_mem_singleton] at hlabels
    obtain ⟨⟨-, hkey⟩, -, htable, hconditions, horder⟩ := hlabels
    have hself := Qualifier.isUnmarked_tableAlias (b := b) (aliases + 1)
    have hparts := ih [] _ hself hconditions hplain issued (aliases + 1)
    have hrows := (hself _ hkey).rowsFrom (Schema.counts_table htable) (aliases + 1)
      hparts.conjunction (Selection.counts_tail hself horder)
    have h := (hq _ hkey).membership hrows
    rw [Nat.zero_add, Nat.zero_add, Nat.add_zero] at h
    rw [Clause.layout]
    exact h
  selection s hconditions hrelated front q hq hlabels hplain issued aliases := by
    rw [Query.labels_mk, List.forall_mem_append] at hlabels
    rw [Query.templates_mk, List.forall_mem_append] at hplain
    rw [Query.values_mk, Query.templates_mk, Query.layoutParts_mk, ← length_add_sum_append]
    exact (areCounted_of_forall hconditions hq hlabels.1 hplain.1 _ _).append
      (areCounted_of_forall hrelated hq hlabels.2 hplain.2 _ _)
  unwritable schema reason front q _ _ _ issued aliases := by
    rw [Query.layoutParts]
    exact .nil

/-- What is counted in a clause: one for each value and for each escape. -/
theorem Clause.counts_layout {c : Clause Query} {s : Schema} {front : List Label} {q : Qualifier}
    (hq : q.IsUnmarked b) (hlabels : ∀ l ∈ c.labels s front, l.isUnmarked = true)
    (hplain : ∀ t ∈ c.templates, Text.isUnnumbered t.text = true) (issued aliases : Nat) :
    Counts b (c.values.length + (c.templates.map b.escapes).sum)
      (c.layout (.ofBuiltIn b) q issued aliases) :=
  (isCounted_hereditary b).clause c s front q hq hlabels hplain issued aliases

/-- What is counted in clauses. -/
theorem Clause.areCounted_layoutAll {cs : List (Clause Query)} {s : Schema} {front : List Label}
    {q : Qualifier} (hq : q.IsUnmarked b)
    (hlabels : ∀ l ∈ Clause.labelsAll s front cs, l.isUnmarked = true)
    (hplain : ∀ t ∈ Clause.templatesAll cs, Text.isUnnumbered t.text = true)
    (issued aliases : Nat) :
    AreCounted b ((Clause.valuesAll cs).length + ((Clause.templatesAll cs).map b.escapes).sum)
      (Clause.layoutAll (.ofBuiltIn b) q issued aliases cs) :=
  areCounted_of_forall (fun c _ => (isCounted_hereditary b).clause c) hq hlabels hplain issued
    aliases

/-- What is counted in the conditions of a query. -/
theorem Query.areCounted_layoutParts {query : Query} {front : List Label} {q : Qualifier}
    (hq : q.IsUnmarked b) (hlabels : ∀ l ∈ query.labels front, l.isUnmarked = true)
    (hplain : ∀ t ∈ query.templates, Text.isUnnumbered t.text = true) (issued aliases : Nat) :
    AreCounted b (query.values.length + (query.templates.map b.escapes).sum)
      (query.layoutParts (.ofBuiltIn b) q issued aliases) :=
  (isCounted_hereditary b).query query front q hq hlabels hplain issued aliases

/-! ## Statements on queries -/

/-- What is counted in a list of rows whose columns have no placeholders. -/
theorem Selection.counts_rowsLayout {s : Selection Query} {labels : List Label}
    {columns : Fragment} (hcolumns : Counts b 0 columns) {order : List OrderItem}
    (hlabels : ∀ l ∈ s.rowsLabels labels order, l.isUnmarked = true)
    (hplain : ∀ t ∈ (Query.mk s).templates, Text.isUnnumbered t.text = true)
    (issued aliases : Nat) :
    Counts b ((Query.mk s).values.length + ((Query.mk s).templates.map b.escapes).sum)
      (s.rowsLayout (.ofBuiltIn b) columns order issued aliases) := by
  simp only [rowsLabels, List.forall_mem_append] at hlabels
  obtain ⟨-, htable, hconditions, horder⟩ := hlabels
  have hself := Qualifier.isUnmarked_tableAlias (b := b) (aliases + 1)
  have hparts := Query.areCounted_layoutParts hself hconditions hplain issued (aliases + 1)
  have h := hcolumns.rowsFrom (Schema.counts_table htable) (aliases + 1) hparts.conjunction
    (Selection.counts_tail (s := { s with order }) hself horder)
  rw [Nat.zero_add, Nat.add_zero] at h
  exact h

/-- Columns without placeholders in a row. -/
theorem Qualifier.IsUnmarked.counts_columns {q : Qualifier} (hq : q.IsUnmarked b) {s : Schema}
    {columns : List Column} (h : ∀ l ∈ s.columnLabels columns, l.isUnmarked = true) :
    Counts b 0 (joinWith ", " (columns.map fun c => q.column c.name)) := by
  refine (AreCounted.of_forall fun f hf => ?_).joinWith ", " (by decide)
  obtain ⟨c, hc, rfl⟩ := List.mem_map.1 hf
  exact hq c.name (h (.column s c.name) (List.mem_map_of_mem hc))

/-- What is counted in what fetches rows. -/
theorem Selection.counts_fetchLayout {s : Selection Query}
    (hlabels : ∀ l ∈ s.rowsLabels (s.schema.columnLabels s.schema.columns) s.order,
      l.isUnmarked = true)
    (hplain : ∀ t ∈ (Query.mk s).templates, Text.isUnnumbered t.text = true) :
    Counts b ((Query.mk s).values.length + ((Query.mk s).templates.map b.escapes).sum)
      (s.fetchLayout (.ofBuiltIn b) 0 0) := by
  have hcolumns := (Qualifier.isUnmarked_tableAlias (b := b) 1).counts_columns
    (List.forall_mem_append.1 hlabels).1
  exact counts_rowsLayout hcolumns hlabels hplain 0 0

/-- What is counted in what counts rows. -/
theorem Selection.counts_countLayout {s : Selection Query}
    (hlabels : ∀ l ∈ s.countLabels, l.isUnmarked = true)
    (hplain : ∀ t ∈ (Query.mk s).templates, Text.isUnnumbered t.text = true) :
    Counts b ((Query.mk s).values.length + ((Query.mk s).templates.map b.escapes).sum)
      (s.countLayout (.ofBuiltIn b) 0 0) := by
  unfold countLabels at hlabels
  unfold countLayout
  split
  · rename_i hpaged
    rw [if_pos hpaged] at hlabels
    have hcolumn := Qualifier.isUnmarked_tableAlias (b := b) 1 (listingName s.schema)
      (hlabels (.column s.schema (listingName s.schema)) (by simp [rowsLabels]))
    have hlist := ((counts_rowsLayout hcolumn hlabels hplain 0 0).word " FROM ( "
      (by decide)).word countWords (by decide)
    have h := (hlist.word "SELECT " (by decide)).append
      ((counts_alias (0 + (Query.mk s).subqueries.length + 2)).word " ) " (by decide))
    exact h
  · rename_i hpaged
    rw [if_neg hpaged] at hlabels
    exact counts_rowsLayout (counts_word (by decide)) hlabels hplain 0 0

/-- What is counted in what updates rows. -/
theorem Update.counts_layout {u : Update} (hlabels : ∀ l ∈ u.labels, l.isUnmarked = true)
    (hplain : ∀ t ∈ (Request.update u).templates, Text.isUnnumbered t.text = true) :
    Counts b (u.values.length + ((Request.update u).templates.map b.escapes).sum)
      (u.layout (.ofBuiltIn b) 0 0) := by
  simp only [labels, List.forall_mem_append] at hlabels
  obtain ⟨htable, hassign, hrows⟩ := hlabels
  simp only [Request.templates, List.forall_mem_append] at hplain
  have hself := Qualifier.isUnmarked_table (b := b) htable
  have hsets := (Clause.areCounted_layoutAll (b := b) Qualifier.isUnmarked_none hassign hplain.1 0
    0).joinWith ", " (by decide)
  have hhead := ((Schema.counts_table (b := b) htable).append
    (hsets.word " SET " (by decide))).word "UPDATE " (by decide)
  have hcondition : ∀ issued aliases, Counts b
      ((Query.mk u.query).values.length + ((Query.mk u.query).templates.map b.escapes).sum)
      (behindSpace (u.conditionLayout (.ofBuiltIn b) issued aliases)) := by
    intro issued aliases
    unfold conditionLayout
    split at hrows
    · rename_i hpaged
      have hmember := Clause.counts_layout hself hrows (c := u.member) hplain.2 issued aliases
      have hone := (AreCounted.cons hmember .nil).conjunction
      simp only [hpaged, if_true]
      exact hone
    · rename_i hpaged
      simp only [hpaged]
      exact (Query.areCounted_layoutParts hself hrows hplain.2 issued aliases).conjunction
  have h := hhead.append (hcondition (0 + (Clause.valuesAll u.assignments).length)
    (0 + (Clause.subqueriesAll u.assignments).length))
  rw [Nat.zero_add, length_add_sum_append] at h
  rw [layout, spaced_some_cons]
  simpa [values, Request.templates] using h

namespace Request

/-- What is counted in a statement on a query: one for each value and for each escape. -/
theorem counts_of_layout {request : Request} {s : Selection Query}
    (hquery : request.query? = some s)
    (hlabels : ∀ l ∈ request.labels b, l.isUnmarked = true)
    (hplain : ∀ t ∈ request.templates, Text.isUnnumbered t.text = true) {f : Fragment}
    {vs : List Value} (hlayout : request.layout (.ofBuiltIn b) = .ok f)
    (hbound : request.bound = .ok vs) :
    Counts b (vs.length + (request.templates.map b.escapes).sum) f := by
  cases request with
  | fetch s =>
      cases hlayout
      cases hbound
      exact Selection.counts_fetchLayout hlabels hplain
  | count s =>
      cases hlayout
      cases hbound
      exact Selection.counts_countLayout hlabels hplain
  | update u =>
      cases hlayout
      cases hbound
      exact Update.counts_layout hlabels hplain
  | updateRow r s => cases hquery
  | deleteRow r s => cases hquery
  | insertRow r s => cases hquery

/--
What a dialect counts in a statement on a query, where no name has a character
that a placeholder starts with and no manual fragment has one that a numbered
placeholder starts with: the values, and the escapes of manual fragments where
placeholders are question marks.  So it counts the values alone just if there
are no escapes, or placeholders are numbered.
-/
theorem countPlaceholders_of_compile {request : Request} {s : Selection Query}
    {settings : Except Error Settings} {statement : Statement} {events : List Event}
    (hquery : request.query? = some s)
    (hlabels : ∀ l ∈ request.labels b, l.isUnmarked = true)
    (hplain : ∀ t ∈ request.templates, Text.isUnnumbered t.text = true)
    (h : request.compile settings (.ofBuiltIn b) = .ok (some (statement, events))) :
    (Dialect.ofBuiltIn b).countPlaceholders statement.sql =
        .ok (statement.argCount + (request.templates.map b.escapes).sum) ∧
      ((Dialect.ofBuiltIn b).countPlaceholders statement.sql = .ok statement.argCount ↔
        (b.lexicon.marks = .question → ∀ t ∈ request.templates, t.escapes = 0)) := by
  obtain ⟨f, vs, hlayout, hbound, hsql, hargs, -⟩ := exists_of_compile h
  have hcount := counts_of_layout hquery hlabels hplain hlayout hbound 0 []
  rw [List.append_nil, Nat.zero_add] at hcount
  have hvalues : statement.argCount = vs.length := by
    rw [Statement.argCount, hargs, List.length_map]
  have hmarks : (Dialect.ofBuiltIn b).marks? = some b.lexicon.marks := by
    cases b <;> rfl
  have hnumber : (Dialect.ofBuiltIn b).countPlaceholders statement.sql =
      .ok (statement.argCount + (request.templates.map b.escapes).sum) := by
    rw [Dialect.countPlaceholders, hmarks, hsql, hvalues]
    exact congrArg Except.ok hcount
  refine ⟨hnumber, ?_⟩
  rw [hnumber, Except.ok.injEq, Nat.add_eq_left, List.sum_eq_zero_iff_forall_eq_nat,
    List.forall_mem_map]
  unfold BuiltIn.escapes
  by_cases hstyle : b.lexicon.marks = .question
  · simp only [hstyle, if_true, true_implies]
  · simp only [hstyle, if_false, implies_true, false_implies]

/-- A table of products. -/
def listedProducts : Schema where
  identifier := ["products"]
  columns := [{ name := "product_id", type := "int", nullable := false, field := some "id" },
    { name := "name", type := "text", nullable := false }]
  primaryKeys := ["product_id"]

/-- Products whose name has a question mark at its end, or begins like a text. -/
def questionedProducts : Request := .fetch {
  schema := listedProducts
  conditions := [.manual "name" ⟨" LIKE '%??' OR name LIKE ?", [.text "a%"], by rfl⟩ none] }

/-- One value and one escape are counted as two placeholders. -/
theorem countPlaceholders_questionedProducts :
    (∀ l ∈ questionedProducts.labels .mysql, l.isUnmarked = true) ∧
      (∀ t ∈ questionedProducts.templates, Text.isUnnumbered t.text = true) ∧
      ∃ statement events,
        questionedProducts.compile (.ok {}) (.ofBuiltIn .mysql) = .ok (some (statement, events)) ∧
          (Dialect.ofBuiltIn .mysql).countPlaceholders statement.sql = .ok 2 ∧
          statement.argCount = 1 := by
  have hlabels : ∀ l ∈ questionedProducts.labels .mysql, l.isUnmarked = true := by
    decide
  have hplain : ∀ t ∈ questionedProducts.templates, Text.isUnnumbered t.text = true := by decide
  obtain ⟨statement, events, hcompile, hargs⟩ : ∃ statement events,
      questionedProducts.compile (.ok {}) (.ofBuiltIn .mysql) = .ok (some (statement, events)) ∧
        statement.argCount = 1 := ⟨_, _, rfl, rfl⟩
  have hcount := (countPlaceholders_of_compile rfl hlabels hplain hcompile).1
  rw [hargs] at hcount
  exact ⟨hlabels, hplain, statement, events, hcompile, hcount, hargs⟩

/-- Products that go by one name with a question mark in it. -/
def oddlyNamedProducts : Request := .fetch {
  schema := listedProducts
  conditions := [.manual "name" ⟨" = 'a??b'", [], by rfl⟩ none] }

/-- A question mark that is meant literally is counted as a placeholder, with no value for it. -/
theorem countPlaceholders_oddlyNamedProducts :
    (∀ l ∈ oddlyNamedProducts.labels .sqlite, l.isUnmarked = true) ∧
      (∀ t ∈ oddlyNamedProducts.templates, Text.isUnnumbered t.text = true) ∧
      ∃ statement events,
        oddlyNamedProducts.compile (.ok {}) (.ofBuiltIn .sqlite) = .ok (some (statement, events)) ∧
          statement.argCount = 0 ∧
          (Dialect.ofBuiltIn .sqlite).countPlaceholders statement.sql = .ok 1 :=
  ⟨by decide, by decide, _, _, rfl, rfl, rfl⟩

end Request

end SqlCompose
