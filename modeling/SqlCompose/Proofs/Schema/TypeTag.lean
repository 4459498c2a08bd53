import Mathlib.Data.List.DropRight
import SqlCompose.Handle
import SqlCompose.Proofs.Text.Lower

/-!
# Spellings of type tags

A tag may be written in any case, with blanks around it and with a size in
parentheses behind it (`TypeTag.Spells`).  Whatever way a known tag is spelled,
its normal form is the tag (`normalize_of_spells`), so that columns with
spellings of one tag have the same handles and take the same values.

A text on one line is in its normal form after the first time: what is left of
it has no opening parenthesis, or does not end in a closing one, so nothing is
taken for a size when it is normalized again.  Over several lines this fails,
but not where it would matter: where the first normal form is a known tag, it
is a spelling of itself.

## Main results

* `TypeTag.normalize_normalize` — the normal form of a text on one line.
* `TypeTag.kindOf_of_spells` — the kind that a spelling of a known tag names.
* `TypeTag.resolution` — handles and checks of columns by their tags.
-/

namespace SqlCompose

open Text

/-! ## Trimming -/

namespace Text

variable {inClass : Char → Bool} {cs : List Char}

/-- A list that has nothing of the class at either end is kept. -/
theorem trim_eq_self (hfirst : ∀ c, cs.head? = some c → inClass c = false)
    (hlast : ∀ c, cs.getLast? = some c → inClass c = false) : trim inClass cs = cs := by
  have hfront : cs.dropWhile inClass = cs := by
    cases cs with
    | nil => rfl
    | cons c rest => rw [List.dropWhile_cons, hfirst c rfl]; rfl
  show (cs.dropWhile inClass).rdropWhile inClass = cs
  rw [hfront, List.rdropWhile_eq_self_iff]
  intro hne
  simp [hlast _ (List.getLast?_eq_some_getLast hne)]

/-- Trimming takes characters away from the ends only. -/
theorem trim_subset : trim inClass cs ⊆ cs := fun _ hc =>
  (List.dropWhile_sublist inClass).subset ((List.rdropWhile_prefix inClass _).subset hc)

/-- What was trimmed away at the end is of the class. -/
theorem exists_trim (inClass : Char → Bool) (cs : List Char) : ∃ before after,
    cs = before ++ trim inClass cs ++ after ∧ ∀ c ∈ after, inClass c = true := by
  refine ⟨cs.takeWhile inClass, (cs.dropWhile inClass).rtakeWhile inClass, ?_, ?_⟩
  · have hback : trim inClass cs ++ (cs.dropWhile inClass).rtakeWhile inClass =
        cs.dropWhile inClass := List.rdropWhile_append_rtakeWhile
    rw [List.append_assoc, hback, List.takeWhile_append_dropWhile]
  · intro c hc
    exact List.mem_rtakeWhile_imp hc

/-- What was trimmed has nothing of the class in front. -/
theorem not_of_head?_trim {c : Char} (h : (trim inClass cs).head? = some c) :
    inClass c = false := by
  have hprefix : trim inClass cs <+: cs.dropWhile inClass := List.rdropWhile_prefix inClass _
  obtain ⟨rest, hrest⟩ := List.head?_eq_some_iff.1 h
  obtain ⟨behind, hbehind⟩ := hprefix
  have hdropped := List.head?_dropWhile_not inClass cs
  rw [← hbehind, hrest] at hdropped
  exact hdropped

/-- What was trimmed has nothing of the class at its end. -/
theorem not_of_getLast?_trim {c : Char} (h : (trim inClass cs).getLast? = some c) :
    inClass c = false := by
  have hne : trim inClass cs ≠ [] := by
    intro hnil
    rw [hnil] at h
    cases h
  rw [List.getLast?_eq_some_getLast hne] at h
  cases h
  exact Bool.eq_false_iff.2 (List.rdropWhile_last_not inClass (cs.dropWhile inClass) hne)

/-- What is of the class at the end does not count. -/
theorem rdropWhile_append {after : List Char} (hafter : ∀ c ∈ after, inClass c = true) :
    (cs ++ after).rdropWhile inClass = cs.rdropWhile inClass := by
  have hreverse : ∀ c ∈ after.reverse, inClass c = true := by
    intro c hc
    exact hafter c (List.mem_reverse.1 hc)
  rw [List.rdropWhile, List.reverse_append, List.dropWhile_append_of_pos hreverse]
  rfl

/-- Of a word that has nothing of the class at its ends, all is left. -/
theorem trim_append {before word after : List Char} (hbefore : ∀ c ∈ before, inClass c = true)
    (hafter : ∀ c ∈ after, inClass c = true)
    (hfirst : ∀ c, word.head? = some c → inClass c = false)
    (hlast : ∀ c, word.getLast? = some c → inClass c = false) :
    trim inClass (before ++ word ++ after) = word := by
  have hword : trim inClass word = word := trim_eq_self hfirst hlast
  show ((before ++ word ++ after).dropWhile inClass).rdropWhile inClass = word
  rw [List.append_assoc, List.dropWhile_append_of_pos hbefore]
  cases word with
  | nil => rw [List.nil_append, List.dropWhile_eq_nil_iff.2 hafter]; rfl
  | cons c rest =>
      have hfront : (c :: rest ++ after).dropWhile inClass = c :: rest ++ after := by
        rw [List.cons_append, List.dropWhile_cons, hfirst c rfl]
        rfl
      rw [hfront, rdropWhile_append hafter]
      have hkept : (c :: rest).dropWhile inClass = c :: rest := by
        rw [List.dropWhile_cons, hfirst c rfl]
        rfl
      rw [trim, hkept] at hword
      exact hword

end Text

/-! ## Sizes -/

namespace TypeTag

/-- Without an opening parenthesis there is no size. -/
theorem dropSize_of_not_mem {cs : List Char} (h : '(' ∉ cs) : dropSize cs = cs := by
  unfold dropSize
  split
  · rename_i inner hinner
    have hline : ((inner.takeWhile (· != '\n')).contains '(') = false := by
      apply Bool.eq_false_iff.2
      intro hmem
      have hin : '(' ∈ inner := (List.takeWhile_sublist _).subset (List.contains_iff_mem.1 hmem)
      have hdropped : '(' ∈ cs.reverse.dropWhile isBlank := hinner ▸ List.mem_cons_of_mem _ hin
      exact h (List.mem_reverse.1 ((List.dropWhile_sublist _).subset hdropped))
    simp only [hline, Bool.false_eq_true, if_false]
  · rfl

/-- What stands before the size, if a text on one line has one. -/
theorem dropSize_append {cs inner after : List Char} (hcs : '(' ∉ cs) (hinner : '\n' ∉ inner)
    (hafter : ∀ c ∈ after, isBlank c = true) :
    dropSize (cs ++ '(' :: inner ++ ')' :: after) = cs.rdropWhile isBlank := by
  have hreverse : (cs ++ '(' :: inner ++ ')' :: after).reverse.dropWhile isBlank =
      ')' :: (inner.reverse ++ '(' :: cs.reverse) := by
    have hblank : ∀ c ∈ after.reverse, isBlank c = true := by
      intro c hc
      exact hafter c (List.mem_reverse.1 hc)
    rw [List.reverse_append, List.reverse_cons, List.append_assoc,
      List.dropWhile_append_of_pos hblank, List.reverse_append, List.reverse_cons,
      List.append_assoc]
    rfl
  -- The line holds the size and what of the text stands on the same line.
  have hline : (inner.reverse ++ '(' :: cs.reverse).takeWhile (· != '\n') =
      inner.reverse ++ '(' :: cs.reverse.takeWhile (· != '\n') := by
    rw [List.takeWhile_append_of_pos, List.takeWhile_cons]
    · rfl
    · intro c hc
      have hne : c ≠ '\n' := by
        rintro rfl
        exact hinner (List.mem_reverse.1 hc)
      simpa using hne
  have hbefore : ((cs.reverse.takeWhile (· != '\n')).reverse ++ '(' :: inner).takeWhile
      (· != '(') = (cs.reverse.takeWhile (· != '\n')).reverse := by
    rw [List.takeWhile_append_of_pos, List.takeWhile_cons]
    · exact List.append_nil _
    · intro c hc
      have hne : c ≠ '(' := by
        rintro rfl
        have hmem := (List.takeWhile_sublist _).subset (List.mem_reverse.1 hc)
        exact hcs (List.mem_reverse.1 hmem)
      simpa using hne
  have hdrop : (inner.reverse ++ '(' :: cs.reverse).drop
      (inner.reverse ++ '(' :: cs.reverse.takeWhile (· != '\n')).length =
        cs.reverse.dropWhile (· != '\n') := by
    have hsplit : inner.reverse ++ '(' :: cs.reverse =
        (inner.reverse ++ '(' :: cs.reverse.takeWhile (· != '\n')) ++
          cs.reverse.dropWhile (· != '\n') := by
      rw [List.append_assoc, List.cons_append, List.takeWhile_append_dropWhile]
    rw [hsplit, List.drop_left]
  have hopened : (inner.reverse ++ '(' :: cs.reverse.takeWhile (· != '\n')).contains '(' = true :=
    List.contains_iff_mem.2 (List.mem_append_right _ List.mem_cons_self)
  have hlineReverse : (inner.reverse ++ '(' :: cs.reverse.takeWhile (· != '\n')).reverse =
      (cs.reverse.takeWhile (· != '\n')).reverse ++ '(' :: inner := by
    simp
  unfold dropSize
  rw [hreverse]
  simp only [hline, hopened, hdrop, hlineReverse, hbefore, if_true]
  rw [← List.reverse_append, List.takeWhile_append_dropWhile, List.reverse_reverse]
  rfl

/-- Whether a text ends in a closing parenthesis, blanks apart. -/
def EndsClosed (cs : List Char) : Prop :=
  ∃ body after, cs = body ++ ')' :: after ∧ ∀ c ∈ after, isBlank c = true

theorem dropSize_of_not_endsClosed {cs : List Char} (h : ¬ EndsClosed cs) : dropSize cs = cs := by
  apply dropSize_eq_self
  intro hhead
  obtain ⟨inner, hinner⟩ := List.head?_eq_some_iff.1 hhead
  refine h ⟨inner.reverse, (cs.reverse.takeWhile isBlank).reverse, ?_, ?_⟩
  · have hsplit : cs.reverse.takeWhile isBlank ++ ')' :: inner = cs.reverse := by
      rw [← hinner, List.takeWhile_append_dropWhile]
    have hreversed := congrArg List.reverse hsplit
    rw [List.reverse_append, List.reverse_cons, List.reverse_reverse,
      List.append_assoc] at hreversed
    exact hreversed.symm
  · intro c hc
    exact List.mem_takeWhile_imp (List.mem_reverse.1 hc)

/-- On one line nothing is left of what a closing parenthesis at the end belongs to. -/
theorem not_mem_dropSize {cs : List Char} (hline : '\n' ∉ cs) (h : EndsClosed cs) :
    '(' ∉ dropSize cs := by
  by_cases hopen : '(' ∈ cs
  · obtain ⟨body, after, rfl, hafter⟩ := h
    have hbody : '(' ∈ body := by
      rcases List.mem_append.1 hopen with hbody | hend
      · exact hbody
      · rcases List.mem_cons.1 hend with hclosed | hblank
        · cases hclosed
        · exact absurd (hafter '(' hblank) (by decide)
    obtain ⟨before, inner, rfl, hbefore⟩ := List.eq_append_cons_of_mem hbody
    have hinner : '\n' ∉ inner := by
      intro hmem
      exact hline (by simp [hmem])
    rw [dropSize_append hbefore hinner hafter]
    intro hmem
    exact hbefore ((List.rdropWhile_prefix _ _).subset hmem)
  · rw [dropSize_of_not_mem hopen]
    exact hopen

/-! ## Normal forms -/

theorem toList_normalize (tag : String) :
    (normalize tag).toList = lowerFrom [] (trim isBlank (dropSize tag.toList)) := by
  rw [normalize, lower, String.toList_ofList, String.toList_ofList]

/-- What is small, has no blank at its ends and no size is in its normal form. -/
theorem normalize_eq_self {tag : String} (hsmall : ∀ c ∈ tag.toList, IsSmall c)
    (hfirst : ∀ c, tag.toList.head? = some c → isBlank c = false)
    (hlast : ∀ c, tag.toList.getLast? = some c → isBlank c = false)
    (hsize : dropSize tag.toList = tag.toList) : normalize tag = tag := by
  rw [← String.toList_inj, toList_normalize, hsize, trim_eq_self hfirst hlast,
    lowerFrom_of_isSmall hsmall]

/-- On one line the normal form is its own normal form. -/
theorem normalize_normalize {tag : String} (hline : '\n' ∉ tag.toList) :
    normalize (normalize tag) = normalize tag := by
  have htext := toList_normalize tag
  have hfirst : ∀ d, (normalize tag).toList.head? = some d → isBlank d = false := by
    intro d hd
    rw [htext] at hd
    obtain ⟨c, hc, hecho⟩ := echoes_head hd
    rw [hecho.isBlank_eq, not_of_head?_trim hc]
  have hlast : ∀ d, (normalize tag).toList.getLast? = some d → isBlank d = false := by
    intro d hd
    rw [htext] at hd
    obtain ⟨c, hc, hecho⟩ := echoes_getLast hd
    rw [hecho.isBlank_eq, not_of_getLast?_trim hc]
  refine normalize_eq_self (fun d hd => ?_) hfirst hlast ?_
  · rw [htext] at hd
    exact (spec_of_mem_lowerFrom hd).1
  · by_cases hclosed : EndsClosed tag.toList
    · apply dropSize_of_not_mem
      intro hopen
      rw [htext] at hopen
      obtain ⟨-, c, hc, hecho⟩ := spec_of_mem_lowerFrom hopen
      obtain rfl := (hecho.eq_iff (by decide)).1 rfl
      exact not_mem_dropSize hline hclosed (trim_subset hc)
    · -- What closes at the end of the normal form has closed at the end of the text.
      apply dropSize_of_not_endsClosed
      rintro ⟨body, after, hend, hafter⟩
      apply hclosed
      have hlastChar : (normalize tag).toList.getLast? = some ')' := by
        cases after with
        | nil => rw [hend, List.getLast?_concat]
        | cons c rest =>
            have hsome := List.getLast?_eq_some_getLast (List.cons_ne_nil c rest)
            have hblank := hafter _ (List.getLast_mem (List.cons_ne_nil c rest))
            have hend' : (normalize tag).toList.getLast? =
                some ((c :: rest).getLast (List.cons_ne_nil c rest)) := by
              rw [hend, List.getLast?_append, List.getLast?_cons_cons, hsome, Option.some_or]
            rw [hlast _ hend'] at hblank
            cases hblank
      rw [htext, dropSize_of_not_endsClosed hclosed] at hlastChar
      obtain ⟨c, hc, hecho⟩ := echoes_getLast hlastChar
      obtain rfl := (hecho.eq_iff (by decide)).1 rfl
      obtain ⟨front, back, hsplit, hback⟩ := exists_trim isBlank tag.toList
      obtain ⟨inner, hinner⟩ := List.getLast?_eq_some_iff.1 hc
      refine ⟨front ++ inner, back, ?_, hback⟩
      rw [hinner] at hsplit
      simpa using hsplit

/-- Over two lines a second size may be found where the first one was dropped. -/
example : normalize "int(4)\n(5)" = "int(4)" ∧ normalize "int(4)" = "int" := by decide +kernel

/-! ## Spellings -/

/--
Whether a text is a spelling of a tag: the tag in any case, blanks around it,
and a size behind it, if there is one.  What stands in the parentheses of a
size, which may be more parentheses, is on one line.
-/
inductive Spells (name : String) : String → Prop
  | mk {before word between size after : List Char} :
      word.map Char.toLower = name.toList → (∀ c ∈ before, isBlank c = true) →
      (∀ c ∈ between, isBlank c = true) → (∀ c ∈ after, isBlank c = true) →
      (size = [] ∨ ∃ inner, '\n' ∉ inner ∧ size = '(' :: inner ++ [')']) →
        Spells name (String.ofList (before ++ word ++ between ++ size ++ after))

/-- Whether a text is a single word of ASCII without an opening parenthesis, not closed by one. -/
def IsWord (cs : List Char) : Prop :=
  cs ≠ [] ∧ (∀ c ∈ cs, c.toNat < 0x80 ∧ c ≠ '(') ∧
    (∀ c ∈ cs.head?, isBlank c = false) ∧ ∀ c ∈ cs.getLast?, isBlank c = false ∧ c ≠ ')'

-- Otherwise all characters could be tried, and not only those of the text.
instance (cs : List Char) : Decidable (IsWord cs) :=
  @instDecidableAnd _ _ inferInstance <| @instDecidableAnd _ _ (List.decidableBAll _ cs) <|
    @instDecidableAnd _ _ (Option.decidableForallMem cs.head?)
      (Option.decidableForallMem cs.getLast?)

/-- The known tags are such words. -/
theorem isWord_of_mem_known : ∀ entry ∈ known, IsWord entry.1.toList := by decide +kernel

/-- An ASCII letter stays in its place, whatever its case. -/
theorem echoes_toLower {c : Char} (hc : c.toNat < 0x80) : Echoes c.toLower c := by
  rw [toLower_eq_lowerChar hc]
  apply (lowerChar_spec _).2
  rintro rfl
  exact absurd hc (by decide)

theorem toNat_lt_of_toLower {c : Char} (hc : c.toLower.toNat < 0x80) : c.toNat < 0x80 := by
  unfold Char.toLower at hc
  split at hc
  · rename_i hupper
    have hle : c.val.toNat ≤ 90 := UInt32.le_iff_toNat_le.1 hupper.2
    show c.val.toNat < 0x80
    omega
  · exact hc

/-- A word in any case is such a word too. -/
theorem IsWord.of_map_toLower {word : List Char} (h : IsWord (word.map Char.toLower)) :
    IsWord word := by
  obtain ⟨hne, hall, hfirst, hlast⟩ := h
  have hascii : ∀ c ∈ word, c.toNat < 0x80 := by
    intro c hc
    exact toNat_lt_of_toLower (hall _ (List.mem_map_of_mem hc)).1
  refine ⟨?_, ?_, ?_, ?_⟩
  · simpa using hne
  · intro c hc
    refine ⟨hascii c hc, ?_⟩
    intro heq
    exact (hall _ (List.mem_map_of_mem hc)).2
      (((echoes_toLower (hascii c hc)).eq_iff (by decide)).2 heq)
  · intro c hc
    have hmem : c ∈ word := List.mem_of_head? hc
    rw [← (echoes_toLower (hascii c hmem)).isBlank_eq]
    apply hfirst
    rw [List.head?_map, hc]
    rfl
  · intro c hc
    have hmem : c ∈ word := List.mem_of_getLast? hc
    have hecho := echoes_toLower (hascii c hmem)
    have hlower : c.toLower ∈ (word.map Char.toLower).getLast? := by
      rw [List.getLast?_map, hc]
      rfl
    obtain ⟨hblank, hopen⟩ := hlast _ hlower
    refine ⟨hecho.isBlank_eq ▸ hblank, ?_⟩
    intro heq
    exact hopen ((hecho.eq_iff (by decide)).2 heq)

/-- The normal form of a spelling is the tag. -/
theorem normalize_of_spells {name tag : String} (hname : IsWord name.toList)
    (h : Spells name tag) : normalize tag = name := by
  obtain ⟨hword, hbefore, hbetween, hafter, hsize⟩ := h
  rename_i before word between size after
  rw [← hword] at hname
  obtain ⟨hne, hall, hfirst, hlast⟩ := hname.of_map_toLower
  have hfirst' : ∀ c, word.head? = some c → isBlank c = false := fun c hc => hfirst c hc
  have hlast' : ∀ c, word.getLast? = some c → isBlank c = false := fun c hc => (hlast c hc).1
  have hlower : lowerFrom [] word = name.toList := by
    rw [lowerFrom_of_ascii (fun c hc => (hall c hc).1), hword]
  have hnotBlank : ∀ cs : List Char, (∀ c ∈ cs, isBlank c = true) → '(' ∉ cs := by
    intro cs hcs hmem
    exact absurd (hcs _ hmem) (by decide)
  have hopen : '(' ∉ before ++ word ++ between := by
    simp only [List.mem_append, not_or]
    exact ⟨⟨hnotBlank before hbefore, fun hmem => (hall _ hmem).2 rfl⟩,
      hnotBlank between hbetween⟩
  rw [← String.toList_inj, toList_normalize, String.toList_ofList]
  rcases hsize with rfl | ⟨inner, hinner, rfl⟩
  · have hplain : dropSize (before ++ word ++ between ++ [] ++ after) =
        before ++ word ++ (between ++ after) := by
      rw [List.append_nil, dropSize_of_not_mem, List.append_assoc]
      rw [List.mem_append, not_or]
      exact ⟨hopen, hnotBlank after hafter⟩
    rw [hplain, trim_append hbefore (List.forall_mem_append.2 ⟨hbetween, hafter⟩) hfirst' hlast',
      hlower]
  · have hsized : dropSize (before ++ word ++ between ++ ('(' :: inner ++ [')']) ++ after) =
        before ++ word ++ [] := by
      have hshape : before ++ word ++ between ++ ('(' :: inner ++ [')']) ++ after =
          before ++ word ++ between ++ '(' :: inner ++ ')' :: after := by
        simp
      rw [hshape, dropSize_append hopen hinner hafter, rdropWhile_append hbetween,
        List.append_nil, List.rdropWhile_eq_self_iff]
      intro hne'
      rw [List.getLast_append_of_ne_nil hne' hne]
      simp [hlast' _ (List.getLast?_eq_some_getLast hne)]
    rw [hsized, trim_append hbefore (by simp) hfirst' hlast', hlower]

/-! ## Kinds -/

theorem lookup_of_mem_known : ∀ entry ∈ known, known.lookup entry.1 = some entry.2 := by
  decide +kernel

/-- A spelling of a known tag names the kind of the tag. -/
theorem kindOf_of_spells {entry : String × Kind} (hentry : entry ∈ known) {tag : String}
    (h : Spells entry.1 tag) : kindOf tag = entry.2 := by
  rw [kindOf, normalize_of_spells (isWord_of_mem_known entry hentry) h,
    lookup_of_mem_known entry hentry]
  rfl

/-- A known tag is a spelling of itself. -/
theorem spells_self {entry : String × Kind} (hentry : entry ∈ known) :
    Spells entry.1 entry.1 := by
  have hlower : entry.1.toList.map Char.toLower = entry.1.toList := by
    have hall : ∀ entry ∈ known, entry.1.toList.map Char.toLower = entry.1.toList := by
      decide +kernel
    exact hall entry hentry
  have h := @Spells.mk entry.1 [] entry.1.toList [] [] [] hlower (by simp) (by simp) (by simp)
    (.inl rfl)
  simpa using h

/-- What is found under a name stands there with it. -/
theorem mem_of_lookup {entries : List (String × Kind)} {name : String} {kind : Kind}
    (h : entries.lookup name = some kind) : (name, kind) ∈ entries := by
  obtain ⟨before, after, rfl, -⟩ := List.lookup_eq_some_iff.1 h
  simp

/-- Where a tag names a kind, its normal form names the same. -/
theorem kindOf_normalize {tag : String} (h : kindOf tag ≠ .any) :
    kindOf (normalize tag) = kindOf tag := by
  -- The normal form is a known tag, and as such it is a spelling of itself.
  cases hfound : known.lookup (normalize tag) with
  | none => exact absurd (by rw [kindOf, hfound]; rfl) h
  | some kind =>
      have hmem : (normalize tag, kind) ∈ known := mem_of_lookup hfound
      rw [kindOf_of_spells hmem (spells_self hmem), kindOf, hfound]
      rfl

end TypeTag

/-! ## Values -/

/-- A value is checked as one of the kind that the column's tag names. -/
theorem Column.validate_eq (c : Column) (v : Value) : c.validate v =
    if v.isNull ∨ c.kind = .any then .ok v
    else (c.validator.coerce? c.kind v).elim (.error (.valueMismatch c.name c.type v)) .ok := by
  unfold Column.validate
  by_cases hpass : v.isNull ∨ c.kind = .any
  · rw [if_pos hpass, if_pos hpass]
  · have hkind : TypeTag.kindOf (TypeTag.normalize c.type) = c.kind :=
      TypeTag.kindOf_normalize (not_or.1 hpass).2
    rw [if_neg hpass, if_neg hpass, hkind]
    cases c.validator.coerce? c.kind v <;> rfl

/--
Columns of one kind that are checked alike take the same values; the message of a misfit names the
column's own tag.
-/
theorem Column.validate_of_kind_eq {c d : Column} (h : c.kind = d.kind)
    (hvalidator : c.validator = d.validator) (v : Value) :
    c.validate v = (d.validate v).mapError fun _ => .valueMismatch c.name c.type v := by
  rw [Column.validate_eq, Column.validate_eq, h, hvalidator]
  by_cases hpass : v.isNull ∨ d.kind = .any
  · rw [if_pos hpass, if_pos hpass]
    rfl
  · rw [if_neg hpass, if_neg hpass]
    cases d.validator.coerce? d.kind v <;> rfl

namespace TypeTag

/--
Tags are resolved up to case, blanks and sizes: a column whose tag is a spelling of a known one has
the handles of a column with the known tag, and takes and gives back the same values.  On one line
normal forms are normal.  And whatever the tag is, a value that is checked at all is checked as one
of the kind that the tag itself names, although it is the tag's normal form that is looked up.
-/
theorem resolution :
    (∀ entry ∈ known, ∀ tag, Spells entry.1 tag →
      normalize tag = entry.1 ∧ kindOf tag = entry.2 ∧
      ∀ c d : Column, c.type = tag → d = { c with type := entry.1 } →
        d.kind = entry.2 ∧
        (∀ table, Handle.kind ⟨c, table⟩ = Handle.kind ⟨d, table⟩) ∧
        ∀ v, c.validate v =
          (d.validate v).mapError fun _ => .valueMismatch c.name tag v) ∧
    (∀ tag, '\n' ∉ tag.toList → normalize (normalize tag) = normalize tag) ∧
    ∀ (c : Column) (v : Value),
      (v.isNull ∨ kindOf c.type = .any → c.validate v = .ok v) ∧
      (v.isNull = false → kindOf c.type ≠ .any →
        kindOf (normalize c.type) = kindOf c.type ∧
        c.validate v = (c.validator.coerce? (kindOf c.type) v).elim
          (.error (.valueMismatch c.name c.type v)) .ok) := by
  refine ⟨?spelled, fun tag => normalize_normalize, ?checked⟩
  case spelled =>
    intro entry hentry tag hspells
    have hkind : kindOf tag = entry.2 := kindOf_of_spells hentry hspells
    have hself : kindOf entry.1 = entry.2 := kindOf_of_spells hentry (spells_self hentry)
    refine ⟨normalize_of_spells (isWord_of_mem_known entry hentry) hspells, hkind, ?_⟩
    rintro c d rfl rfl
    have heq : c.kind = Column.kind { c with type := entry.1 } := hkind.trans hself.symm
    refine ⟨hself, ?_, Column.validate_of_kind_eq heq rfl⟩
    intro table
    show HandleKind.ofKind c.kind = HandleKind.ofKind (Column.kind { c with type := entry.1 })
    rw [heq]
  case checked =>
    intro c v
    rw [Column.validate_eq]
    constructor
    · intro hpass
      exact if_pos hpass
    · intro hvalue hkind
      refine ⟨kindOf_normalize hkind, ?_⟩
      have hpass : ¬ (v.isNull ∨ c.kind = .any) := by
        rw [hvalue, not_or]
        exact ⟨Bool.false_ne_true, hkind⟩
      rw [if_neg hpass]
      rfl

/-- A spelling, a tag on one line, and a tag over two lines with a value that is checked. -/
theorem resolution_varchar :
    (normalize "\tVarChar (255)(8)\n " = "varchar" ∧
      ∀ v, Column.validate { name := "name", type := "\tVarChar (255)(8)\n " } v =
        (Column.validate { name := "name", type := "varchar" } v).mapError fun _ =>
          .valueMismatch "name" "\tVarChar (255)(8)\n " v) ∧
    normalize (normalize "Double  Precision (8, 2) ") = normalize "Double  Precision (8, 2) " ∧
    Column.validate { name := "id", type := "int\n(5)" } (.int 3) = .ok (.int 3) := by
  have hspells : Spells "varchar" "\tVarChar (255)(8)\n " :=
    @Spells.mk "varchar" ['\t'] "VarChar".toList [' '] "(255)(8)".toList ['\n', ' ']
      (by decide +kernel) (List.all_eq_true.1 rfl) (List.all_eq_true.1 rfl)
      (List.all_eq_true.1 rfl) (.inr ⟨"255)(8".toList, by decide, by decide⟩)
  have hspelled := resolution.1 ("varchar", .text) (by decide +kernel) _ hspells
  refine ⟨⟨hspelled.1, ?_⟩, resolution.2.1 _ (by decide), ?_⟩
  · intro v
    exact (hspelled.2.2 { name := "name", type := _ } _ rfl rfl).2.2 v
  · have hkind : kindOf "int\n(5)" = .int := by decide +kernel
    have hchecked := resolution.2.2 { name := "id", type := "int\n(5)" } (.int 3)
    rw [(hchecked.2 rfl (by decide +kernel)).2, hkind]
    rfl

end TypeTag

end SqlCompose
