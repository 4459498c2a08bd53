import Mathlib.Data.List.Basic
import SqlCompose.Text.Blank
import SqlCompose.Text.Lower

/-!
# Lower case, once and again

What lower-casing writes is made of small letters and of characters that have
no case (`IsSmall`).  Such a text is lower-cased to itself.

Of the runs of capitals one has to know that what they lead to lies in no run:
either it is elsewhere, or it takes the places that a run of every other
character leaves (`Run.leavesOut`).  This is checked run by run, and not letter
by letter.

A character that is not kept is a letter, and so is what it becomes
(`Echoes`), so that blanks and parentheses stay where they are.

## Main results

* `lowerFrom_of_isSmall` — what is small already stays as it is.
* `spec_of_mem_lowerFrom` — whatever is written is small, and blanks and
  parentheses were there before.
-/

namespace SqlCompose.Text

/-! ## Runs of capitals -/

/-- A run of capitals: first and last, the step, and the distance to the small letters. -/
abbrev Run := Nat × Nat × Nat × Int

/-- All runs of capitals, with the capital I with a dot above, which becomes two characters. -/
def capitalRuns : List Run := (0x130, 0x130, 1, -199) :: lowerRuns

namespace Run

/-- Whether a code point belongs to the run. -/
def has (run : Run) (n : Nat) : Bool :=
  run.1 ≤ n && n ≤ run.2.1 && (n - run.1) % run.2.2.1 == 0

/-- The code point of the small letter. -/
def small (run : Run) (n : Nat) : Nat := (n + run.2.2.2).toNat

/-- Whether no two neighbours belong to the run. -/
def isSparse (run : Run) : Bool := run.2.2.1 == 2 || run.1 == run.2.1

/--
Whether the code points from `first` to `last` lie outside of the run, or in
between what belongs to it if they are sparse themselves.
-/
def leavesOut (first last : Nat) (sparse : Bool) (run : Run) : Bool :=
  Nat.blt last run.1 || Nat.blt run.2.1 first ||
    (run.2.2.1 == 2 && (first - run.1) % 2 == 1 && sparse)

/-- Whether the small letters of the run belong to no run. -/
def isSettled (run : Run) : Bool :=
  capitalRuns.all (leavesOut (run.small run.1) (run.small run.2.1) run.isSparse)

/-- Code points that are no letters: all below the first capital, blanks, and surrogates. -/
def oddRanges : List (Nat × Nat) := [
  (0, 0x40), (0x85, 0x85), (0xA0, 0xA0), (0x1680, 0x1680), (0x2000, 0x200A), (0x2028, 0x202F),
  (0x205F, 0x205F), (0x3000, 0x3000), (0xD800, 0xDFFF)]

/-- Whether none of the code points from `first` to `last` is odd. -/
def areLetters (first last : Nat) : Bool :=
  Nat.blt last 0x110000 && oddRanges.all fun odd => Nat.blt last odd.1 || Nat.blt odd.2 first

theorem has_iff {run : Run} {n : Nat} : run.has n = true ↔
    run.1 ≤ n ∧ n ≤ run.2.1 ∧ (n - run.1) % run.2.2.1 = 0 := by
  simp only [has, Bool.and_eq_true, decide_eq_true_eq, beq_iff_eq, and_assoc]

theorem leavesOut_iff {first last : Nat} {sparse : Bool} {run : Run} :
    leavesOut first last sparse run = true ↔
      last < run.1 ∨ run.2.1 < first ∨
        run.2.2.1 = 2 ∧ (first - run.1) % 2 = 1 ∧ sparse = true := by
  simp only [leavesOut, Bool.or_eq_true, Bool.and_eq_true, beq_iff_eq, Nat.blt_eq, or_assoc,
    and_assoc]

theorem isSparse_iff {run : Run} : run.isSparse = true ↔ run.2.2.1 = 2 ∨ run.1 = run.2.1 := by
  simp only [isSparse, Bool.or_eq_true, beq_iff_eq]

theorem isSettled_of_mem : ∀ run ∈ lowerRuns, isSettled run = true := by decide +kernel

theorem areLetters_of_mem : ∀ run ∈ lowerRuns, areLetters run.1 run.2.1 = true ∧
    areLetters (small run run.1) (small run run.2.1) = true := by
  decide +kernel

/-- The small letters of a run are in the order of its capitals, at the same distances. -/
theorem small_eq {run : Run} (hrun : run ∈ lowerRuns) {n : Nat} (hn : run.1 ≤ n) :
    run.small n = run.small run.1 + (n - run.1) := by
  have hletters := (areLetters_of_mem run hrun).2
  simp only [areLetters, oddRanges, List.all_cons, Bool.and_eq_true, Bool.or_eq_true,
    Nat.blt_eq] at hletters
  obtain ⟨-, hlow, -⟩ := hletters
  unfold small at hlow ⊢
  omega

/-- A small letter belongs to no run. -/
theorem not_has_small {run other : Run} (hrun : run ∈ lowerRuns) (hother : other ∈ capitalRuns)
    {n : Nat} (hn : run.has n = true) : other.has (run.small n) = false := by
  apply Bool.eq_false_iff.2
  intro hhas
  obtain ⟨hfirst, hlast, hstep⟩ := has_iff.1 hn
  obtain ⟨hfirst', hlast', hstep'⟩ := has_iff.1 hhas
  have hsmall := small_eq hrun hfirst
  have hsmallest := small_eq hrun (Nat.le_trans hfirst hlast)
  have hsettled := List.all_eq_true.1 (isSettled_of_mem run hrun) other hother
  rcases leavesOut_iff.1 hsettled with hbelow | habove | ⟨hodd, hparity, hsparse⟩
  · omega
  · omega
  · rw [hodd] at hstep'
    rcases isSparse_iff.1 hsparse with htwo | hone
    · rw [htwo] at hstep
      omega
    · omega

end Run

/-! ## Letters -/

/-- Whether a character is neither a blank nor a parenthesis, nor another one that has no case. -/
def IsLetter (c : Char) : Prop := ∀ odd ∈ Run.oddRanges, c.toNat < odd.1 ∨ odd.2 < c.toNat

/-- Whether a character is no capital. -/
def IsSmall (c : Char) : Prop := ∀ run ∈ capitalRuns, run.has c.toNat = false

/-- Whether a character stands in the place of another one: it is the same, or both are letters. -/
def Echoes (d c : Char) : Prop := d = c ∨ IsLetter c ∧ IsLetter d

instance (c : Char) : Decidable (IsLetter c) :=
  inferInstanceAs (Decidable (∀ odd ∈ Run.oddRanges, c.toNat < odd.1 ∨ odd.2 < c.toNat))

instance (c : Char) : Decidable (IsSmall c) :=
  inferInstanceAs (Decidable (∀ run ∈ capitalRuns, Run.has run c.toNat = false))

/-- What lies in the range of a run's letters, as a character. -/
theorem toNat_ofNat_of_areLetters {first last n : Nat} (h : Run.areLetters first last = true)
    (hfirst : first ≤ n) (hlast : n ≤ last) :
    (Char.ofNat n).toNat = n ∧ IsLetter (Char.ofNat n) := by
  simp only [Run.areLetters, Bool.and_eq_true, List.all_eq_true, Bool.or_eq_true,
    Nat.blt_eq] at h
  have hodd : ∀ odd ∈ Run.oddRanges, n < odd.1 ∨ odd.2 < n := by
    intro odd hodd
    have := h.2 odd hodd
    omega
  have hvalid : n.isValidChar := by
    have := hodd (0xD800, 0xDFFF) (by decide)
    show n < 0xD800 ∨ 0xDFFF < n ∧ n < 0x110000
    omega
  have hn : (Char.ofNat n).toNat = n := by
    rw [Char.ofNat, dif_pos hvalid]
    rfl
  refine ⟨hn, ?_⟩
  rw [IsLetter, hn]
  exact hodd

theorem IsLetter.isBlank {c : Char} (h : IsLetter c) : isBlank c = false := by
  simp only [IsLetter, Run.oddRanges, List.forall_mem_cons] at h
  simp only [Text.isBlank, isWhiteSpace, Bool.or_eq_false_iff, Bool.and_eq_false_iff,
    beq_eq_false_iff_ne, decide_eq_false_iff_not]
  omega

theorem IsLetter.ne_of_odd {c d : Char} (h : IsLetter c) (hd : ¬ IsLetter d) : c ≠ d := by
  intro heq
  exact hd (heq ▸ h)

namespace Echoes

variable {c d : Char}

theorem isBlank_eq (h : Echoes d c) : isBlank d = isBlank c := by
  rcases h with rfl | ⟨hc, hd⟩
  · rfl
  · rw [hc.isBlank, hd.isBlank]

/-- A character that is no letter is kept. -/
theorem eq_iff {odd : Char} (h : Echoes d c) (hodd : ¬ IsLetter odd) : d = odd ↔ c = odd := by
  rcases h with rfl | ⟨hc, hd⟩
  · rfl
  · exact iff_of_false (hd.ne_of_odd hodd) (hc.ne_of_odd hodd)

end Echoes

/-! ## One character -/

/-- A character that lies in no run is kept, and one that lies in a run becomes a small letter. -/
theorem lowerChar_cases (c : Char) :
    (lowerChar c = c ∧ ∀ run ∈ lowerRuns, Run.has run c.toNat = false) ∨
      ∃ run ∈ lowerRuns, Run.has run c.toNat = true ∧
        lowerChar c = Char.ofNat (Run.small run c.toNat) := by
  cases hfound : lowerRuns.find? fun run => Run.has run c.toNat with
  | none =>
      refine .inl ⟨?_, ?_⟩
      · unfold lowerChar
        simp only [Run.has] at hfound
        simp only [hfound]
      · intro run hrun
        exact Bool.eq_false_iff.2 (List.find?_eq_none.1 hfound run hrun)
  | some run =>
      have hhas : Run.has run c.toNat = true := by simpa using List.find?_some hfound
      refine .inr ⟨run, List.mem_of_find?_eq_some hfound, hhas, ?_⟩
      unfold lowerChar
      simp only [Run.has] at hfound
      simp only [hfound]
      rfl

/-- The lower case of a character is small, unless it is a dotted I, and stands in its place. -/
theorem lowerChar_spec {c : Char} (hc : c ≠ '\u0130') :
    IsSmall (lowerChar c) ∧ Echoes (lowerChar c) c := by
  rcases lowerChar_cases c with ⟨hkept, hnone⟩ | ⟨run, hrun, hhas, hlower⟩
  · rw [hkept]
    refine ⟨List.forall_mem_cons.2 ⟨?_, hnone⟩, .inl rfl⟩
    apply Bool.eq_false_iff.2
    intro hdotted
    obtain ⟨hfirst, hlast, -⟩ := Run.has_iff.1 hdotted
    have hn : c.toNat = 0x130 := by
      dsimp only at hfirst hlast
      omega
    exact hc (by rw [← Char.ofNat_toNat c, hn])
  · obtain ⟨hfirst, hlast, -⟩ := Run.has_iff.1 hhas
    obtain ⟨hletters, hletters'⟩ := Run.areLetters_of_mem run hrun
    have hsmall := Run.small_eq hrun hfirst
    have hsmallest := Run.small_eq hrun (Nat.le_trans hfirst hlast)
    have hletter := (toNat_ofNat_of_areLetters hletters hfirst hlast).2
    obtain ⟨hn, hletter'⟩ := toNat_ofNat_of_areLetters hletters'
      (n := Run.small run c.toNat) (by omega) (by omega)
    rw [Char.ofNat_toNat] at hletter
    rw [hlower]
    refine ⟨?_, .inr ⟨hletter, hletter'⟩⟩
    intro other hother
    rw [hn]
    exact Run.not_has_small hrun hother hhas

/-- For ASCII the table says what is said without it. -/
theorem toLower_eq_lowerChar {c : Char} (hc : c.toNat < 0x80) : c.toLower = lowerChar c := by
  have hall : ∀ n < 0x80, (Char.ofNat n).toLower = lowerChar (Char.ofNat n) := by decide +kernel
  have h := hall c.toNat hc
  rwa [Char.ofNat_toNat] at h

theorem IsSmall.lowerChar {c : Char} (h : IsSmall c) : lowerChar c = c := by
  rcases lowerChar_cases c with ⟨hkept, -⟩ | ⟨run, hrun, hhas, -⟩
  · exact hkept
  · rw [h run (List.mem_cons_of_mem _ hrun)] at hhas
    cases hhas

/-! ## Texts -/

/-- What a character of a text becomes, between what is before it, nearest first, and after it. -/
def lowered (before : List Char) (c : Char) (rest : List Char) : List Char :=
  if c == '\u03A3' then
    [if meetsCased before && !meetsCased rest then '\u03C2' else '\u03C3']
  else if c == '\u0130' then ['i', '\u0307']
  else [lowerChar c]

theorem lowerFrom_cons (before : List Char) (c : Char) (rest : List Char) :
    lowerFrom before (c :: rest) = lowered before c rest ++ lowerFrom (c :: before) rest := by
  by_cases hascii : c.toNat < 0x80
  · simp only [lowerFrom, lowered, hascii, if_true, toLower_eq_lowerChar hascii]
  · simp only [lowerFrom, lowered, hascii, if_false]

theorem lowered_ne_nil (before : List Char) (c : Char) (rest : List Char) :
    lowered before c rest ≠ [] := by
  unfold lowered
  split
  · simp
  · split <;> simp

/-- What a character becomes is small, and stands in its place. -/
theorem spec_of_mem_lowered {before rest : List Char} {c d : Char}
    (h : d ∈ lowered before c rest) : IsSmall d ∧ Echoes d c := by
  unfold lowered at h
  split at h
  · rename_i hsigma
    obtain rfl : c = '\u03A3' := by simpa using hsigma
    have hd : d = '\u03C2' ∨ d = '\u03C3' := by
      rw [List.mem_singleton] at h
      split at h
      · exact .inl h
      · exact .inr h
    rcases hd with rfl | rfl
    · exact ⟨by decide +kernel, .inr (by decide)⟩
    · exact ⟨by decide +kernel, .inr (by decide)⟩
  · split at h
    · rename_i hdotted
      obtain rfl : c = '\u0130' := by simpa using hdotted
      simp only [List.mem_cons, List.not_mem_nil, or_false] at h
      rcases h with rfl | rfl
      · exact ⟨by decide +kernel, .inr (by decide)⟩
      · exact ⟨by decide +kernel, .inr (by decide)⟩
    · rename_i hplain
      rw [List.mem_singleton] at h
      rw [h]
      exact lowerChar_spec (by simpa using hplain)

/-- A small character is kept, wherever it stands. -/
theorem IsSmall.lowered_eq {c : Char} (h : IsSmall c) (before rest : List Char) :
    lowered before c rest = [c] := by
  have hsigma : c ≠ '\u03A3' := by
    rintro rfl
    exact absurd h (by decide +kernel)
  have hdotted : c ≠ '\u0130' := by
    rintro rfl
    exact absurd h (by decide +kernel)
  simp only [lowered, beq_iff_eq, hsigma, hdotted, if_false, h.lowerChar]

/-- A text of small characters is kept. -/
theorem lowerFrom_of_isSmall {cs : List Char} (h : ∀ c ∈ cs, IsSmall c) (before : List Char) :
    lowerFrom before cs = cs := by
  induction cs generalizing before with
  | nil => rfl
  | cons c rest ih =>
      obtain ⟨hc, hrest⟩ := List.forall_mem_cons.1 h
      rw [lowerFrom_cons, hc.lowered_eq, ih hrest]
      rfl

/-- Whatever is written is small, and stands in the place of a character that was there. -/
theorem spec_of_mem_lowerFrom {before cs : List Char} {d : Char} (h : d ∈ lowerFrom before cs) :
    IsSmall d ∧ ∃ c ∈ cs, Echoes d c := by
  induction cs generalizing before with
  | nil => cases h
  | cons c rest ih =>
      rw [lowerFrom_cons] at h
      rcases List.mem_append.1 h with h | h
      · obtain ⟨hsmall, hecho⟩ := spec_of_mem_lowered h
        exact ⟨hsmall, c, List.mem_cons_self, hecho⟩
      · obtain ⟨hsmall, c', hc', hecho⟩ := ih h
        exact ⟨hsmall, c', List.mem_cons_of_mem c hc', hecho⟩

/-- The first character stands in the place of the first one. -/
theorem echoes_head {before cs : List Char} {d : Char}
    (h : (lowerFrom before cs).head? = some d) : ∃ c, cs.head? = some c ∧ Echoes d c := by
  cases cs with
  | nil => cases h
  | cons c rest =>
      obtain ⟨first, others, hlowered⟩ :=
        List.exists_cons_of_ne_nil (lowered_ne_nil before c rest)
      have hmem : first ∈ lowered before c rest := by simp [hlowered]
      rw [lowerFrom_cons, hlowered] at h
      cases h
      exact ⟨c, rfl, (spec_of_mem_lowered hmem).2⟩

/-- The last character stands in the place of the last one. -/
theorem echoes_getLast {before cs : List Char} {d : Char}
    (h : (lowerFrom before cs).getLast? = some d) : ∃ c, cs.getLast? = some c ∧ Echoes d c := by
  induction cs generalizing before with
  | nil => cases h
  | cons c rest ih =>
      rw [lowerFrom_cons, List.getLast?_append] at h
      cases hlast : (lowerFrom (c :: before) rest).getLast? with
      | some d' =>
          rw [hlast] at h
          cases h
          obtain ⟨c', hc', hecho⟩ := ih hlast
          refine ⟨c', ?_, hecho⟩
          rw [List.getLast?_cons, hc']
          rfl
      | none =>
          have hrest : rest = [] := by
            cases rest with
            | nil => rfl
            | cons c' rest =>
                rw [List.getLast?_eq_none_iff, lowerFrom_cons] at hlast
                exact absurd (List.append_eq_nil_iff.1 hlast).1 (lowered_ne_nil _ _ _)
          subst hrest
          rw [hlast, Option.none_or] at h
          exact ⟨c, rfl, (spec_of_mem_lowered (List.mem_of_getLast? h)).2⟩

/-- In ASCII every letter has its small letter, whatever stands around it. -/
theorem lowerFrom_of_ascii {cs : List Char} (h : ∀ c ∈ cs, c.toNat < 0x80) (before : List Char) :
    lowerFrom before cs = cs.map Char.toLower := by
  induction cs generalizing before with
  | nil => rfl
  | cons c rest ih =>
      obtain ⟨hc, hrest⟩ := List.forall_mem_cons.1 h
      have hsigma : c ≠ '\u03A3' := by
        rintro rfl
        exact absurd hc (by decide)
      have hdotted : c ≠ '\u0130' := by
        rintro rfl
        exact absurd hc (by decide)
      rw [lowerFrom_cons, ih hrest, List.map_cons, toLower_eq_lowerChar hc]
      simp only [lowered, beq_iff_eq, hsigma, hdotted, if_false]
      rfl

end SqlCompose.Text
