import SqlCompose.Proofs.Statement.Alias

/-!
# Whose columns are meant

A statement is read once more, this time for its lists of rows: which aliases
stand behind `FROM`, and in which lists a column is written.  `Reads` is the
grammar of this reading.  A list of rows gives an alias to its table, and
everything up to the bracket that closes the list is inside of it; a condition
that a row exists starts with the equality that relates the row to one of the
list around it.  What the caller wrote is passed over, and so is what a
dialect chooses.

A fragment `IsScoped` if it is read as a part of given lists of rows, and its
columns are written behind the right qualifier; the lemmas on it go from the
parts of a list to the list, and from the list to the condition around it.

## Main results

* `Reads.numbers_eq` — a reading finds every alias of what it reads.
* `isScoped_existence`, `isScoped_membership` — conditions with a list of rows.
-/

namespace SqlCompose

open Fragment

/-! ## Readings -/

/-- A column where it is written. -/
structure Mention where
  qualifier : Qualifier
  /-- The aliases of the lists of rows that it stands in, the innermost first. -/
  scopes : List Nat
  /-- Whether the rows of the innermost list are related to it. -/
  isOuter : Bool

namespace Mention

/-- The alias of the list that the column is from: that around the innermost one if it is outer. -/
def home (m : Mention) : Option Nat := (if m.isOuter then m.scopes.tail else m.scopes).head?

/-- Whether the column is behind the alias of the list that it is from. -/
def IsInner (m : Mention) : Prop := ∃ n, m.qualifier = .tableAlias n ∧ m.home = some n

end Mention

/-- The words that say where a list of rows starts and ends, and what its parts are. -/
def scopingWords : List String :=
  [".", "SELECT ", " ( SELECT ", " FROM ", " FROM ( ", " WHERE ", " = ", "WHERE ( ", " IN ( ", " )",
    " ) ", "UPDATE ", " SET "]

/-- Whether a piece is passed over. -/
def Piece.isInert : Piece → Bool
  | word t => t ∉ scopingWords
  | verbatim _ => true
  | mark _ => true
  | _ => false

/-- What is read: a part of a list of rows, the list as a whole, or a statement. -/
inductive Level where
  | part
  | rows
  | statement

/--
How a fragment is read in lists of rows with the given aliases: which aliases
are declared in it, and which columns are written.
-/
inductive Reads : Level → List Nat → Fragment → List Nat → List Mention → Prop
  | nil {scopes} : Reads .part scopes [] [] []
  | append {scopes f g declared declared' found found'} :
      Reads .part scopes f declared found → Reads .part scopes g declared' found' →
      Reads .part scopes (f ++ g) (declared ++ declared') (found ++ found')
  | inert {scopes p} : p.isInert = true → Reads .part scopes [p] [] []
  /-- What a dialect chooses, behind a space. -/
  | chosen {scopes} (t : String) : Reads .part scopes [.word " ", .word t] [] []
  | column {scopes} (q : Qualifier) (name : String) :
      Reads .part scopes (q.column name) [] [⟨q, scopes, false⟩]
  | conditions {scopes f declared found} : Reads .part scopes f declared found →
      Reads .part scopes (.word "WHERE ( " :: f ++ [.word " )"]) declared found
  | existence {scopes columns rest declared found found'} (identifier : List String) (number : Nat)
      (q q' : Qualifier) (name name' : String) :
      Reads .part (number :: scopes) columns [] found →
      Reads .part (number :: scopes) rest declared found' →
      Reads .part scopes (.word " ( SELECT " :: columns ++ .word " FROM " :: table identifier ++
          .word " " :: .tableAlias number :: .word " WHERE " :: q.column name ++
          .word " = " :: q'.column name' ++ rest ++ [.word " )"])
        (number :: declared)
        (found ++ ⟨q, number :: scopes, false⟩ :: ⟨q', number :: scopes, true⟩ :: found')
  | among {scopes f declared found} : Reads .rows scopes f declared found →
      Reads .part scopes (.word " IN ( " :: f ++ [.word " )"]) declared found
  /-- The alias of a list is not in front of a column. -/
  | list {scopes columns rest declared found found'} (identifier : List String) (number : Nat) :
      rest.head? ≠ some (.word ".") → Reads .part (number :: scopes) columns [] found →
      Reads .part (number :: scopes) rest declared found' →
      Reads .rows scopes (.word "SELECT " :: columns ++ .word " FROM " :: table identifier ++
          .word " " :: .tableAlias number :: rest)
        (number :: declared) (found ++ found')
  | fetch {f declared found} : Reads .rows [] f declared found →
      Reads .statement [] f declared found
  /-- The rows of a list that are counted have an alias themselves. -/
  | count {columns f declared found found'} (number : Nat) : Reads .part [number] columns [] found →
      Reads .rows [] f declared found' →
      Reads .statement [] (.word "SELECT " :: columns ++ .word " FROM ( " :: f ++
          [.word " ) ", .tableAlias number])
        (declared ++ [number]) (found ++ found')
  | update {f declared found} (identifier : List String) : Reads .part [] f declared found →
      Reads .statement [] (.word "UPDATE " :: table identifier ++ .word " SET " :: f) declared found

/-! ## A reading finds every alias -/

namespace Fragment

/-- The numbers of the aliases that stand in front of a point, or of those that do not. -/
def numbers (pointed : Bool) : Fragment → List Nat
  | [] => []
  | p :: rest =>
    (p.alias?.toList.filter fun _ => (rest.head? == some (.word ".")) == pointed) ++
      numbers pointed rest

variable {pointed : Bool}

@[simp] theorem numbers_nil : numbers pointed [] = [] := rfl

theorem numbers_cons {p : Piece} (h : p.alias? = none) (f : Fragment) :
    numbers pointed (p :: f) = numbers pointed f := by
  simp [numbers, h]

@[simp] theorem numbers_word (t : String) (f : Fragment) :
    numbers pointed (.word t :: f) = numbers pointed f := numbers_cons rfl f

/-- An alias that no point follows. -/
theorem numbers_alias (pointed : Bool) (n : Nat) {f : Fragment} (h : f.head? ≠ some (.word ".")) :
    numbers pointed (.tableAlias n :: f) = ([n].filter fun _ => !pointed) ++ numbers pointed f := by
  have hhead : (f.head? == some (.word ".")) = false := beq_eq_false_iff_ne.2 h
  cases pointed <;> simp [numbers, Piece.alias?, hhead]

/-- The aliases of two fragments in a row, if no point comes between an alias and its column. -/
theorem numbers_append {f g : Fragment}
    (h : (∀ n, f.getLast? ≠ some (.tableAlias n)) ∨ g.head? ≠ some (.word ".")) :
    numbers pointed (f ++ g) = numbers pointed f ++ numbers pointed g := by
  induction f with
  | nil => rfl
  | cons p rest ih =>
      cases rest with
      | nil =>
          rcases h with h | h
          · have halias : p.alias? = none := by
              cases p <;> first | rfl | exact absurd rfl (h _)
            rw [List.singleton_append, numbers_cons halias, numbers_cons halias]
            rfl
          · have hhead : (g.head? == some (.word ".")) = false := beq_eq_false_iff_ne.2 h
            simp [numbers, hhead]
      | cons p' rest =>
          have hrest := ih (by simpa using h)
          rw [List.cons_append, numbers, numbers, hrest]
          simp

@[simp] theorem numbers_table_append (identifier : List String) (f : Fragment) :
    numbers pointed (table identifier ++ f) = numbers pointed f := by
  have hname : ∀ (n : String) (g : Fragment), numbers pointed (.name n :: g) = numbers pointed g :=
    fun n g => numbers_cons rfl g
  induction identifier with
  | nil => rfl
  | cons segment rest ih =>
      cases rest with
      | nil => simp [table, joinWith, hname]
      | cons segment' rest =>
          have hsegments : table (segment :: segment' :: rest) =
              .name segment :: .word "." :: table (segment' :: rest) := rfl
          rw [hsegments, List.cons_append, List.cons_append, hname, numbers_word, ih]

@[simp] theorem numbers_column_append (pointed : Bool) (q : Qualifier) (name : String)
    (f : Fragment) : numbers pointed (q.column name ++ f) =
      (q.alias?.toList.filter fun _ => pointed) ++ numbers pointed f := by
  have hname : ∀ g : Fragment, numbers pointed (.name name :: g) = numbers pointed g :=
    fun g => numbers_cons rfl g
  cases q with
  | none => simp [Qualifier.column, Qualifier.alias?, hname]
  | tableAlias n =>
      cases pointed <;> simp [Qualifier.column, numbers, Piece.alias?, Qualifier.alias?]
  | table identifier => simp [Qualifier.column, Qualifier.alias?, hname]
  | text t =>
      have htext : ∀ g : Fragment, numbers pointed (.verbatim t :: g) = numbers pointed g :=
        fun g => numbers_cons rfl g
      simp [Qualifier.column, Qualifier.alias?, hname, htext]

end Fragment

namespace Reads

variable {level : Level} {scopes : List Nat} {f : Fragment} {declared : List Nat}
  {found : List Mention}

/-- Behind a part of a list of rows there is no alias that a point could follow. -/
theorem getLast_ne (h : Reads level scopes f declared found) :
    level = .part → ∀ n, f.getLast? ≠ some (.tableAlias n) := by
  have hclosed : ∀ (g : Fragment) n, (g ++ [Piece.word " )"]).getLast? ≠ some (.tableAlias n) := by
    simp
  induction h with
  | nil => simp
  | append _ _ ihf ihg =>
      rename_i f g _ _ _ _ _ _
      intro hpart n
      rw [List.getLast?_append]
      cases hg : g.getLast? with
      | none => simpa using ihf hpart n
      | some p => simpa [hg] using ihg hpart n
  | inert hp =>
      rintro - n h
      cases h
      cases hp
  | chosen t => simp
  | column q name => cases q <;> simp [Qualifier.column]
  | conditions _ _ => exact fun _ => hclosed _
  | existence => exact fun _ => hclosed _
  | among _ _ => exact fun _ => hclosed _
  | list => rintro ⟨⟩
  | fetch => rintro ⟨⟩
  | count => rintro ⟨⟩
  | update => rintro ⟨⟩

theorem numbers_append (h : Reads .part scopes f declared found) (pointed : Bool) (g : Fragment) :
    (f ++ g).numbers pointed = f.numbers pointed ++ g.numbers pointed :=
  Fragment.numbers_append (.inl (h.getLast_ne rfl))

/--
The aliases in front of a point are those of the columns that are read, and
the others are those that are declared, in the order in which they stand.
-/
theorem numbers_eq (h : Reads level scopes f declared found) :
    f.numbers false = declared ∧ f.numbers true = found.filterMap fun r => r.qualifier.alias? := by
  -- A bracket that is closed behind an alias is no point.
  have hclosed : ∀ (g : Fragment) pointed t, t ∈ [" )", " ) "] → ∀ rest,
      (g ++ .word t :: rest).numbers pointed = g.numbers pointed ++ numbers pointed rest := by
    intro g pointed t ht rest
    rw [Fragment.numbers_append, numbers_word]
    right
    rintro h
    simp only [List.head?_cons, Option.some.injEq, Piece.word.injEq] at h
    subst h
    revert ht
    decide
  induction h with
  | nil => simp
  | append hf _ ihf ihg =>
      rw [hf.numbers_append, hf.numbers_append, ihf.1, ihf.2, ihg.1, ihg.2, List.filterMap_append]
      exact ⟨rfl, rfl⟩
  | inert hp =>
      rename_i p
      have halias : p.alias? = none := by cases p <;> first | rfl | cases hp
      simp [numbers_cons halias]
  | chosen t => simp
  | column q name =>
      have happend := fun pointed => numbers_column_append pointed q name []
      simp only [List.append_nil] at happend
      rw [happend, happend]
      cases h : q.alias? <;> simp [h]
  | conditions hf ih => simp [hf.numbers_append, ih]
  | existence identifier number q q' name name' hcolumns hrest ihcolumns ihrest =>
      have hwhere : ∀ g : Fragment, List.head? (.word " WHERE " :: g) ≠ some (.word ".") := by simp
      cases hq : q.alias? <;> cases hq' : q'.alias? <;>
        simp [hcolumns.numbers_append, hrest.numbers_append, numbers_alias _ number (hwhere _),
          ihcolumns, ihrest, hq, hq']
  | among hf ih =>
      simp [hclosed, ih]
  | list identifier number hpoint hcolumns hrest ihcolumns ihrest =>
      simp [hcolumns.numbers_append, numbers_alias _ number hpoint, ihcolumns, ihrest]
  | fetch _ ih => exact ih
  | count number hcolumns hrows ihcolumns ihrows =>
      have hlast := fun pointed => numbers_alias pointed number (f := []) (by simp)
      simp [hcolumns.numbers_append, hclosed, hlast, ihcolumns, ihrows]
  | update identifier _ ih => simpa using ih

end Reads

/-! ## Parts of a list of rows -/

namespace Fragment

/--
Whether a fragment is read as a part of lists of rows with the given aliases
in which the given aliases are declared: its columns are behind the qualifier,
also where the lists with the given numbers are related to it, and what is in
the lists inside it is behind their own aliases.
-/
def IsScoped (scopes : List Nat) (q : Qualifier) (related : List Nat) (f : Fragment)
    (declared : List Nat) : Prop :=
  ∃ found, Reads .part scopes f declared found ∧
    (∀ r ∈ found, r = ⟨q, scopes, false⟩ ∨ (∃ n ∈ related, r = ⟨q, n :: scopes, true⟩) ∨
      r.IsInner) ∧
    ∀ n ∈ related, ⟨q, n :: scopes, true⟩ ∈ found

/-- So it is with fragments one after the other. -/
inductive AreScoped (scopes : List Nat) (q : Qualifier) :
    List Nat → List Fragment → List Nat → Prop
  | nil : AreScoped scopes q [] [] []
  | cons {related related' f fs declared declared'} : IsScoped scopes q related f declared →
      AreScoped scopes q related' fs declared' →
      AreScoped scopes q (related ++ related') (f :: fs) (declared ++ declared')

end Fragment

section Parts

variable {scopes related related' declared declared' : List Nat} {q : Qualifier}
  {f g : Fragment} {fs gs : List Fragment}

namespace Fragment.IsScoped

theorem nil : IsScoped scopes q [] [] [] := ⟨[], .nil, by simp, by simp⟩

theorem inert {p : Piece} (h : p.isInert = true) : IsScoped scopes q [] [p] [] :=
  ⟨[], .inert h, by simp, by simp⟩

theorem chosen (t : String) : IsScoped scopes q [] [.word " ", .word t] [] :=
  ⟨[], .chosen t, by simp, by simp⟩

theorem column (name : String) : IsScoped scopes q [] (q.column name) [] :=
  ⟨[⟨q, scopes, false⟩], .column q name, by simp, by simp⟩

theorem append (hf : IsScoped scopes q related f declared)
    (hg : IsScoped scopes q related' g declared') :
    IsScoped scopes q (related ++ related') (f ++ g) (declared ++ declared') := by
  obtain ⟨found, hreads, hown, houter⟩ := hf
  obtain ⟨found', hreads', hown', houter'⟩ := hg
  refine ⟨found ++ found', hreads.append hreads', ?_, ?_⟩
  · rintro r hr
    rcases List.mem_append.1 hr with hr | hr
    · rcases hown r hr with h | ⟨n, hn, h⟩ | h
      · exact .inl h
      · exact .inr (.inl ⟨n, List.mem_append_left _ hn, h⟩)
      · exact .inr (.inr h)
    · rcases hown' r hr with h | ⟨n, hn, h⟩ | h
      · exact .inl h
      · exact .inr (.inl ⟨n, List.mem_append_right _ hn, h⟩)
      · exact .inr (.inr h)
  · intro n hn
    rcases List.mem_append.1 hn with hn | hn
    · exact List.mem_append_left _ (houter n hn)
    · exact List.mem_append_right _ (houter' n hn)

theorem cons {p : Piece} (h : p.isInert = true) (hf : IsScoped scopes q related f declared) :
    IsScoped scopes q related (p :: f) declared := (inert h).append hf

theorem conditions (hf : IsScoped scopes q related f declared) :
    IsScoped scopes q related (.word "WHERE ( " :: f ++ [.word " )"]) declared := by
  obtain ⟨found, hreads, hown⟩ := hf
  exact ⟨found, hreads.conditions, hown⟩

/-- In a list of rows the columns behind its alias are its own. -/
theorem exists_inner {number : Nat}
    (hf : IsScoped (number :: scopes) (.tableAlias number) related f declared) :
    ∃ found, Reads .part (number :: scopes) f declared found ∧ ∀ r ∈ found, r.IsInner := by
  obtain ⟨found, hreads, hown, -⟩ := hf
  refine ⟨found, hreads, fun r hr => ?_⟩
  rcases hown r hr with rfl | ⟨n, -, rfl⟩ | h
  · exact ⟨number, rfl, rfl⟩
  · exact ⟨number, rfl, rfl⟩
  · exact h

end Fragment.IsScoped

namespace Fragment.AreScoped

theorem append (hf : AreScoped scopes q related fs declared)
    (hg : AreScoped scopes q related' gs declared') :
    AreScoped scopes q (related ++ related') (fs ++ gs) (declared ++ declared') := by
  induction hf with
  | nil => exact hg
  | cons h _ ih =>
      rw [List.append_assoc, List.append_assoc]
      exact .cons h ih

/-- What is read one after the other is read with a word before each. -/
theorem behind (h : AreScoped scopes q related fs declared) {separator : String}
    (hseparator : (Piece.word separator).isInert = true) :
    IsScoped scopes q related (fs.flatMap fun g => .word separator :: g) declared := by
  induction h with
  | nil => exact .nil
  | cons h _ ih => exact (h.cons hseparator).append ih

/-- It is read with a word between neighbours. -/
theorem join (h : AreScoped scopes q related fs declared) {separator : String}
    (hseparator : (Piece.word separator).isInert = true) :
    IsScoped scopes q related (joinWith separator fs) declared := by
  cases h with
  | nil => exact .nil
  | cons h hrest => exact h.append (hrest.behind hseparator)

end Fragment.AreScoped

end Parts

/-! ## Lists of rows -/

section Lists

variable {scopes related declared : List Nat} {q : Qualifier} {number : Nat}

theorem isScoped_existence {parts : List Fragment} {keyword : String}
    (h : AreScoped (number :: scopes) (.tableAlias number) related parts declared)
    (hkeyword : (Piece.word keyword).isInert = true) (identifier : List String)
    (innerColumn column : String) :
    IsScoped scopes q [number] (existence keyword identifier number innerColumn (q.column column)
      parts) (number :: declared) := by
  have hand : (Piece.word " AND ").isInert = true := by decide
  have hcolumn : IsScoped (number :: scopes) (.tableAlias number) []
      ((Qualifier.tableAlias number).column innerColumn) [] := .column innerColumn
  obtain ⟨found, hcolumns, hown⟩ := hcolumn.exists_inner
  obtain ⟨found', hrest, hown'⟩ := (h.behind hand).exists_inner
  have hreads := (Reads.inert hkeyword).append
    (hcolumns.existence identifier number (.tableAlias number) q innerColumn column hrest)
  refine ⟨found ++ ⟨.tableAlias number, number :: scopes, false⟩ ::
    ⟨q, number :: scopes, true⟩ :: found', ?_, ?_, ?_⟩
  · simpa [existence, joinWith] using hreads
  · intro r hr
    simp only [List.mem_append, List.mem_cons] at hr
    rcases hr with hr | rfl | rfl | hr
    · exact .inr (.inr (hown r hr))
    · exact .inr (.inr ⟨number, rfl, rfl⟩)
    · exact .inr (.inl ⟨number, List.mem_singleton.2 rfl, rfl⟩)
    · exact .inr (.inr (hown' r hr))
  · intro n hn
    obtain rfl := List.mem_singleton.1 hn
    simp

/-- What the caller wrote is passed over. -/
theorem isScoped_weave (literals : List String) (numbers : List Nat) :
    IsScoped scopes q [] (Template.weave literals (numbers.map .mark)) [] := by
  induction literals generalizing numbers with
  | nil =>
      rw [Template.weave_nil]
      exact .nil
  | cons t literals ih =>
      cases numbers with
      | nil =>
          rw [List.map_nil, Template.weave_cons_nil]
          exact (ih []).cons rfl
      | cons n numbers =>
          rw [List.map_cons, Template.weave_cons_cons]
          exact ((ih numbers).cons rfl).cons rfl

theorem exists_reads_rowsFrom {columns : Fragment} {condition ending : Option Fragment}
    (hcolumns : IsScoped (number :: scopes) (.tableAlias number) [] columns [])
    (hcondition : IsScoped (number :: scopes) (.tableAlias number) related
      (behindSpace condition) declared)
    (hending : IsScoped (number :: scopes) (.tableAlias number) [] (behindSpace ending) [])
    (identifier : List String) :
    ∃ found, Reads .rows scopes (rowsFrom columns identifier number condition ending)
      (number :: declared) found ∧ ∀ r ∈ found, r.IsInner := by
  have hpoint : List.head? (behindSpace condition ++ behindSpace ending) ≠ some (.word ".") := by
    cases condition <;> cases ending <;> simp [behindSpace]
  obtain ⟨found, hreads, hown⟩ := hcolumns.exists_inner
  obtain ⟨found', hreads', hown'⟩ := (hcondition.append hending).exists_inner
  refine ⟨found ++ found', ?_, List.forall_mem_append.2 ⟨hown, hown'⟩⟩
  rw [rowsFrom, spaced_some_cons]
  simpa using Reads.list identifier number hpoint hreads hreads'

theorem isScoped_membership {rows : Fragment} (key : String)
    (h : ∃ found, Reads .rows scopes rows declared found ∧ ∀ r ∈ found, r.IsInner) :
    IsScoped scopes q [] (membership (q.column key) rows) declared := by
  obtain ⟨found, hreads, hown⟩ := h
  have hrows : IsScoped scopes q [] (.word " IN ( " :: rows ++ [.word " )"]) declared :=
    ⟨found, hreads.among, fun r hr => .inr (.inr (hown r hr)), by simp⟩
  simpa [membership] using (IsScoped.column key).append hrows

theorem isScoped_conjunction {parts : List Fragment}
    (h : AreScoped scopes q related parts declared) :
    IsScoped scopes q related (behindSpace (conjunction parts)) declared := by
  cases h with
  | nil => exact .nil
  | cons h hrest =>
      have hand : (Piece.word " AND ").isInert = true := by decide
      exact ((AreScoped.cons h hrest).join hand).conditions.cons (by decide)

/-- The end of a list of rows has no columns but its own. -/
theorem isScoped_tail {ρ : Type} (d : Dialect) (s : Selection ρ) :
    IsScoped scopes q [] (behindSpace (s.tail d q)) [] := by
  have hitems : AreScoped scopes q [] (s.order.map (OrderItem.fragment q)) [] := by
    induction s.order with
    | nil => exact .nil
    | cons o rest ih => exact .cons ((IsScoped.column o.column).append (.chosen _)) ih
  have hordering : ∀ paged, ∀ f ∈ ordering d (s.order.map (OrderItem.fragment q)) paged,
      IsScoped scopes q [] f [] := by
    intro paged f hf
    unfold ordering at hf
    split at hf
    · split at hf
      · cases hf
        exact .inert (by decide)
      · cases hf
    · cases hf
      exact (hitems.join (by decide)).cons (by decide)
  have hspace : (Piece.word " ").isInert = true := by decide
  cases htail : s.tail d q with
  | none => exact .nil
  | some f =>
      have hf : f = (s.tail d q).getD [] := by rw [htail, Option.getD_some]
      rw [hf, Selection.tail, getD_tail, behindSpace]
      -- The window stands behind a space, whether it is the first part or the second.
      cases ho : ordering d (s.order.map (OrderItem.fragment q))
          (window d (s.limit.map boundValue) (s.offset.map boundValue)).isSome with
      | none =>
          cases window d (s.limit.map boundValue) (s.offset.map boundValue) with
          | none => exact .inert hspace
          | some t => exact .chosen t
      | some g =>
          have hg := (hordering _ g ho).cons hspace
          cases window d (s.limit.map boundValue) (s.offset.map boundValue) with
          | none => simpa [spaced, joinWith] using hg
          | some t => simpa [spaced, joinWith] using hg.append (.chosen t)

end Lists

end SqlCompose
