import SqlCompose.Proofs.Text.Lexeme

/-!
# Reading conditions

The lexemes of a condition are read in two steps.  What stands between
brackets becomes one item (`forest`); then the items are taken apart at the
words `AND` and `OR`, of which only those outside of brackets are left, into a
chain of factors (`chain`).  `AND` binds tighter than `OR`: a chain holds if
all factors of one of its alternatives do (`Chain.Holds`).  `Lexis.read` is
this reader.  It fails where a bracket stays open, where a factor is missing,
and where something starts that is no part of a condition.

Conditions with `AND` between them are read as one chain (`Chain.join`).
That is their conjunction only if none of them has an `OR` outside of
brackets: otherwise the `AND` takes the alternatives next to it for itself,
and the others stand alone.

## Main results

* `Lexis.read_and` — two conditions with `AND` between them are read as the
  join of what they are read as.
* `Chain.joinAll_eq_conjunction_iff` — when conditions that are joined are
  their conjunction.
* `Chain.holds_joinAll` — when conditions without an `OR` hold together.
-/

namespace SqlCompose

/-! ## Brackets -/

/-- A lexeme, or what stands between two brackets. -/
inductive Item where
  | lexeme (l : Lexeme)
  | group (b : Bracket) (items : List Item)

/-- The items up to a closing bracket that is not opened, and those behind each such bracket. -/
abbrev Nesting := List Item × List (Bracket × List Item)

/-- The items of a text, read from its end. -/
def nest : List Lexeme → Option Nesting
  | [] => some ([], [])
  | l :: rest =>
    match nest rest with
    | none => none
    | some (items, outer) =>
      match l.role with
      | .closing b => some ([], (b, items) :: outer)
      | .opening b =>
        match outer with
        | (b', after) :: outer =>
          if b = b' then some (.group b items :: after, outer) else none
        | [] => none
      | _ => some (.lexeme l :: items, outer)

/-- The items of a text in which every bracket is closed. -/
def forest (ls : List Lexeme) : Option (List Item) :=
  match nest ls with
  | some (items, []) => some items
  | _ => none

/-- What is read of a text when more is read behind it. -/
def Nesting.graft (more : Nesting) : List Item → List (Bracket × List Item) → Nesting
  | items, [] => (items ++ more.1, more.2)
  | items, (b, after) :: outer =>
    (items, (b, (graft more after outer).1) :: (graft more after outer).2)

theorem Nesting.graft_cons (more : Nesting) (i : Item) (items : List Item)
    (outer : List (Bracket × List Item)) :
    more.graft (i :: items) outer =
      (i :: (more.graft items outer).1, (more.graft items outer).2) := by
  cases outer <;> rfl

/-- What is read before something else is grafted with it. -/
theorem nest_append {ls ls' : List Lexeme} {items : List Item}
    {outer : List (Bracket × List Item)} {more : Nesting}
    (h : nest ls = some (items, outer)) (h' : nest ls' = some more) :
    nest (ls ++ ls') = some (more.graft items outer) := by
  induction ls generalizing items outer with
  | nil =>
      cases h
      simpa [Nesting.graft] using h'
  | cons l rest ih =>
      rw [nest] at h
      split at h
      · cases h
      · rename_i inner behind hrest
        have happend := ih hrest
        rw [List.cons_append, nest, happend]
        split at h
        · rename_i b hrole
          cases h
          simp [Nesting.graft]
        · rename_i b hrole
          split at h
          · rename_i b' after behind
            split at h
            · rename_i heq
              cases h
              simp [heq, Nesting.graft, Nesting.graft_cons]
            · cases h
          · cases h
        · rename_i hopening hclosing
          cases h
          simp only [Nesting.graft_cons]

theorem forest_eq_some {ls : List Lexeme} {items : List Item} :
    forest ls = some items ↔ nest ls = some (items, []) := by
  unfold forest
  split
  · rename_i read hread
    simp [hread]
  · rename_i hnone
    constructor
    · intro h
      cases h
    · intro h
      exact absurd h (hnone items)

/-- Closed texts are read one after the other. -/
theorem forest_append {ls ls' : List Lexeme} {items items' : List Item}
    (h : forest ls = some items) (h' : forest ls' = some items') :
    forest (ls ++ ls') = some (items ++ items') := by
  rw [forest_eq_some] at h h' ⊢
  exact nest_append h h'

/-- A closed text between brackets is one item. -/
theorem forest_bracketed {ls : List Lexeme} {items : List Item} {l r : Lexeme} {b : Bracket}
    (hl : l.role = .opening b) (hr : r.role = .closing b) (h : forest ls = some items) :
    forest (l :: ls ++ [r]) = some [.group b items] := by
  rw [forest_eq_some] at h ⊢
  have hlast : nest [r] = some ([], [(b, [])]) := by simp [nest, hr]
  rw [List.cons_append, nest, nest_append h hlast]
  simp [Nesting.graft, hl]

/-- Lexemes that are no brackets are items. -/
theorem forest_plain {ls : List Lexeme} (h : ∀ l ∈ ls, l.role = .plain) :
    forest ls = some (ls.map .lexeme) := by
  rw [forest_eq_some]
  induction ls with
  | nil => rfl
  | cons l rest ih =>
      have hl := h l List.mem_cons_self
      have hrest := ih fun l' hl' => h l' (List.mem_cons_of_mem _ hl')
      simp [nest, hrest, hl]

/-! ## Factors -/

/-- Factors with connectives between them. -/
inductive Chain where
  | last (factor : List Item)
  | link (factor : List Item) (op : Connective) (rest : Chain)

namespace Chain

/-- The first factor. -/
def head : Chain → List Item
  | last f => f
  | link f _ _ => f

/-- The chain with items before its first factor, which becomes one with them. -/
def prepend (items : List Item) : Chain → Chain
  | last f => last (items ++ f)
  | link f op rest => link (items ++ f) op rest

/-- One chain, a connective, and another chain. -/
def join (op : Connective) : Chain → Chain → Chain
  | last f, c => link f op c
  | link f op' rest, c => link f op' (join op rest c)

/-- Whether no factor is missing. -/
def isWhole : Chain → Bool
  | last f => !f.isEmpty
  | link f _ rest => !f.isEmpty && isWhole rest

end Chain

namespace Connective

/-- The word that a connective is written with. -/
def lexeme : Connective → Lexeme
  | and => .word "AND".toList
  | or => .word "OR".toList

theorem role_lexeme (op : Connective) : op.lexeme.role = .connective op := by
  cases op <;> rfl

end Connective

/-- The role of an item; what is between brackets has none. -/
def Item.role : Item → Role
  | .lexeme l => l.role
  | .group .. => .plain

/--
What begins with `BETWEEN`: the bounds are two factors, neither of which is
missing, and the `AND` between them is a part of the test.
-/
def Chain.between (i : Item) : Chain → Option Chain
  | .link low .and rest =>
    if low.isEmpty || rest.head.isEmpty then none
    else some (rest.prepend (i :: low ++ [.lexeme Connective.and.lexeme]))
  | _ => none

/-- The chain of items, read from its end. -/
def chain : List Item → Option Chain
  | [] => some (.last [])
  | i :: rest =>
    match chain rest with
    | none => none
    | some c =>
      match i.role with
      | .connective op => some (.link [] op c)
      | .between => c.between i
      | _ => some (c.prepend [i])

namespace Chain

variable {op : Connective}

@[simp] theorem head_join (c c' : Chain) : (c.join op c').head = c.head := by
  cases c <;> rfl

@[simp] theorem prepend_join (items : List Item) (c c' : Chain) :
    (c.join op c').prepend items = (c.prepend items).join op c' := by
  cases c <;> rfl

@[simp] theorem isWhole_join (c c' : Chain) :
    (c.join op c').isWhole = (c.isWhole && c'.isWhole) := by
  induction c with
  | last f => rfl
  | link f op' rest ih => simp [join, isWhole, ih, Bool.and_assoc]

/-- The bounds of a test are in the first of two chains, if it is read at all. -/
theorem between_join {i : Item} {c d : Chain} (h : c.between i = some d) (c' : Chain) :
    (c.join op c').between i = some (d.join op c') := by
  unfold between at h
  split at h
  · rename_i low rest
    split at h
    · cases h
    · rename_i hbounds
      cases h
      simp [join, between, hbounds]
  · cases h

end Chain

/-- Chains with a connective between them are read as their join. -/
theorem chain_append {items items' : List Item} {c c' : Chain} {op : Connective}
    (h : chain items = some c) (h' : chain items' = some c') :
    chain (items ++ .lexeme op.lexeme :: items') = some (c.join op c') := by
  induction items generalizing c with
  | nil =>
      cases h
      simp [chain, h', Item.role, op.role_lexeme, Chain.join]
  | cons i rest ih =>
      rw [chain] at h
      split at h
      · cases h
      · rename_i behind hrest
        rw [List.cons_append, chain, ih hrest]
        split at h
        · rename_i op' hrole
          cases h
          simp [Chain.join]
        · exact Chain.between_join h c'
        · cases h
          simp

/-- Items that have no role are one factor. -/
theorem chain_plain {items : List Item} (h : ∀ i ∈ items, i.role = .plain) :
    chain items = some (.last items) := by
  induction items with
  | nil => rfl
  | cons i rest ih =>
      have hi := h i List.mem_cons_self
      have hrest := ih fun i' hi' => h i' (List.mem_cons_of_mem _ hi')
      simp [chain, hrest, hi, Chain.prepend]

/-! ## Conditions -/

namespace Lexis

variable {x : Lexis}

/-- The items of a text in which everything is a part of a condition. -/
def items (x : Lexis) (text : String) : Option (List Item) :=
  match x.lex text with
  | none => none
  | some ls => if ls.any x.isForeign then none else forest ls

/-- The condition that a text is. -/
def read (x : Lexis) (text : String) : Option Chain :=
  match x.items text with
  | none => none
  | some items =>
    match chain items with
    | none => none
    | some c => if c.isWhole then some c else none

theorem items_eq_some {t : String} {is : List Item} :
    x.items t = some is ↔
      ∃ ls, x.lex t = some ls ∧ ls.any x.isForeign = false ∧ forest ls = some is := by
  unfold items
  cases x.lex t with
  | none => simp
  | some ls => simp

theorem read_eq_some {t : String} {c : Chain} :
    x.read t = some c ↔ ∃ is, x.items t = some is ∧ chain is = some c ∧ c.isWhole = true := by
  unfold read
  cases x.items t with
  | none => simp
  | some is =>
      cases hc : chain is with
      | none => simp [hc]
      | some c' =>
          simp only [hc, Option.ite_none_right_eq_some, Option.some.injEq]
          constructor
          · rintro ⟨hwhole, rfl⟩
            exact ⟨is, rfl, hc, hwhole⟩
          · rintro ⟨is', rfl, hc', hwhole⟩
            rw [hc] at hc'
            cases hc'
            exact ⟨hwhole, rfl⟩

/-- Whether spaces, round brackets and the word `AND` are read as everywhere. -/
structure IsStandard (x : Lexis) : Prop where
  space : x.start ' ' = (.ground, [])
  opening : x.lex "(" = some [.sign '(']
  closing : x.lex ")" = some [.sign ')']
  and : x.lex "AND" = some [Connective.and.lexeme]
  own : ∀ l ∈ [.sign '(', .sign ')', Connective.and.lexeme], x.isForeign l = false

/-- Texts with a space between them have the items of both. -/
theorem items_space (hx : x.IsStandard) {t u : String} {is is' : List Item}
    (ht : x.items t = some is) (hu : x.items u = some is') :
    x.items (t ++ " " ++ u) = some (is ++ is') := by
  rw [items_eq_some] at ht hu ⊢
  obtain ⟨ls, hls, hown, his⟩ := ht
  obtain ⟨ls', hls', hown', his'⟩ := hu
  refine ⟨ls ++ ls', lex_space hx.space hls hls', ?_, forest_append his his'⟩
  rw [List.any_append, hown, hown']
  rfl

/-- Conditions with `AND` between them are read as their join. -/
theorem read_and (hx : x.IsStandard) {t u : String} {c c' : Chain}
    (ht : x.read t = some c) (hu : x.read u = some c') :
    x.read (t ++ " AND " ++ u) = some (c.join .and c') := by
  rw [read_eq_some] at ht hu ⊢
  obtain ⟨is, his, hc, hwhole⟩ := ht
  obtain ⟨is', his', hc', hwhole'⟩ := hu
  have htext : t ++ " AND " ++ u = t ++ " " ++ ("AND" ++ " " ++ u) := by
    have hand : " AND " = " " ++ ("AND" ++ " ") := by decide
    rw [hand]
    simp only [String.append_assoc]
  have hword : x.items "AND" = some [.lexeme Connective.and.lexeme] := by
    rw [items_eq_some]
    refine ⟨_, hx.and, ?_, rfl⟩
    rw [List.any_cons, hx.own _ (by simp)]
    rfl
  have hitems := items_space hx his (items_space hx hword his')
  rw [← htext] at hitems
  refine ⟨_, hitems, chain_append hc hc', ?_⟩
  rw [Chain.isWhole_join, hwhole, hwhole']
  rfl

/-! ## Parts of a factor -/

/-- Whether a text is a part of a factor: its brackets are closed, and outside there is no role. -/
def IsPart (x : Lexis) (t : String) : Prop :=
  ∃ is, x.items t = some is ∧ ∀ i ∈ is, i.role = .plain

/-- Whether a text is a factor. -/
def IsFactor (x : Lexis) (t : String) : Prop :=
  ∃ i is, x.items t = some (i :: is) ∧ ∀ i' ∈ i :: is, i'.role = .plain

theorem IsFactor.isPart {t : String} (h : x.IsFactor t) : x.IsPart t := by
  obtain ⟨i, is, his, hroles⟩ := h
  exact ⟨i :: is, his, hroles⟩

theorem IsPart.space (hx : x.IsStandard) {t u : String} (ht : x.IsPart t)
    (hu : x.IsPart u) : x.IsPart (t ++ " " ++ u) := by
  obtain ⟨is, his, hroles⟩ := ht
  obtain ⟨is', his', hroles'⟩ := hu
  exact ⟨is ++ is', items_space hx his his', List.forall_mem_append.2 ⟨hroles, hroles'⟩⟩

/-- A factor goes on with what is a part of it. -/
theorem IsFactor.space (hx : x.IsStandard) {t u : String} (ht : x.IsFactor t)
    (hu : x.IsPart u) : x.IsFactor (t ++ " " ++ u) := by
  obtain ⟨i, is, his, hroles⟩ := ht
  obtain ⟨is', his', hroles'⟩ := hu
  exact ⟨i, is ++ is', items_space hx his his', List.forall_mem_append.2 ⟨hroles, hroles'⟩⟩

/-- What is read as plain lexemes has them for its items. -/
theorem items_of_isPlain {t : String} {ls : List Lexeme} (h : x.lex t = some ls)
    (hplain : ∀ l ∈ ls, x.IsPlain l) :
    x.items t = some (ls.map .lexeme) ∧ ∀ i ∈ ls.map Item.lexeme, i.role = .plain := by
  have hown : ls.any x.isForeign = false := by
    rw [List.any_eq_false]
    intro l hl
    rw [(hplain l hl).2]
    exact Bool.false_ne_true
  have hroles := fun l hl => (hplain l hl).1
  exact ⟨items_eq_some.2 ⟨ls, h, hown, forest_plain hroles⟩, List.forall_mem_map.2 hroles⟩

/-- A text that passes is a part of a factor. -/
theorem Passes.isPart {t : String} {m : Mode} (h : x.Passes .ground t.toList m)
    (hopen : m.isOpen = false) (hpending : ∀ l ∈ m.pending, x.IsPlain l) : x.IsPart t := by
  obtain ⟨hlex, hplain⟩ := h.lex hopen hpending
  exact ⟨_, items_of_isPlain hlex hplain⟩

/-- It is a factor if there is a lexeme in it. -/
theorem Passes.isFactor {t : String} {m : Mode} (h : x.Passes .ground t.toList m)
    (hopen : m.isOpen = false) (hpending : ∀ l ∈ m.pending, x.IsPlain l)
    (hne : (x.run .ground t.toList).2 ++ m.pending ≠ []) : x.IsFactor t := by
  obtain ⟨hlex, hplain⟩ := h.lex hopen hpending
  obtain ⟨l, rest, hls⟩ := List.exists_cons_of_ne_nil hne
  rw [hls] at hlex hplain
  exact ⟨.lexeme l, rest.map .lexeme, items_of_isPlain hlex hplain⟩

/-- In round brackets everything is a factor that has its own brackets closed. -/
theorem isFactor_bracketed (hx : x.IsStandard) {t : String} {is : List Item}
    (h : x.items t = some is) : x.IsFactor ("( " ++ t ++ " )") := by
  obtain ⟨ls, hls, hown, hforest⟩ := items_eq_some.1 h
  have htext : "( " ++ t ++ " )" = "(" ++ " " ++ (t ++ " " ++ ")") := by
    have hleft : "( " = "(" ++ " " := by decide
    have hright : " )" = " " ++ ")" := by decide
    rw [hleft, hright]
    simp only [String.append_assoc]
  have hlex := lex_space hx.space hx.opening (lex_space hx.space hls hx.closing)
  rw [← htext] at hlex
  have hopening := hx.own (.sign '(') (by simp)
  have hclosing := hx.own (.sign ')') (by simp)
  have hall : ([Lexeme.sign '('] ++ (ls ++ [Lexeme.sign ')'])).any x.isForeign = false := by
    simp [List.any_append, hown, hopening, hclosing]
  refine ⟨.group .round is, [], items_eq_some.2 ⟨_, hlex, hall, ?_⟩, ?_⟩
  · exact forest_bracketed (l := .sign '(') (r := .sign ')') rfl rfl hforest
  · simp [Item.role]

/-- A factor is a condition. -/
theorem IsFactor.exists_read {t : String} (h : x.IsFactor t) :
    ∃ f, x.read t = some (.last f) := by
  obtain ⟨i, is, his, hroles⟩ := h
  exact ⟨i :: is, read_eq_some.2 ⟨i :: is, his, chain_plain hroles, rfl⟩⟩

/-- Whether a text that is known is one factor. -/
def checkFactor (x : Lexis) (t : String) : Bool :=
  match x.items t with
  | some (i :: is) => (i :: is).all fun i => i.role == .plain
  | _ => false

theorem isFactor_of_check {t : String} (h : x.checkFactor t = true) : x.IsFactor t := by
  unfold checkFactor at h
  split at h
  · rename_i i is his
    exact ⟨i, is, his, fun i' hi' => by simpa using List.all_eq_true.1 h i' hi'⟩
  · cases h

theorem isPart_of_check {t : String} (h : x.checkFactor t = true) : x.IsPart t :=
  (isFactor_of_check h).isPart

end Lexis

/-- The library's own dialects are read so. -/
theorem BuiltIn.isStandard (b : BuiltIn) : b.lexis.IsStandard where
  space := b.start_space
  opening := by cases b <;> rfl
  closing := by cases b <;> rfl
  and := by cases b <;> rfl
  own := by cases b <;> decide

/-! ## What conditions mean -/

namespace Chain

/-- The lists of factors between one `OR` and the next. -/
def alternatives : Chain → List (List (List Item))
  | last f => [[f]]
  | link f .or rest => [f] :: alternatives rest
  | link f .and rest =>
    match alternatives rest with
    | [] => [[f]]
    | a :: others => (f :: a) :: others

/-- Whether a condition holds, given which factors do. -/
def Holds (v : List Item → Prop) (c : Chain) : Prop := ∃ a ∈ c.alternatives, ∀ f ∈ a, v f

/-- Whether there is an `OR` outside of brackets. -/
def hasOr : Chain → Bool
  | last _ => false
  | link _ .or _ => true
  | link _ .and rest => hasOr rest

/-- The items of a condition. -/
def items : Chain → List Item
  | last f => f
  | link f op rest => f ++ .lexeme op.lexeme :: items rest

/-- Conditions with `AND` between them. -/
def joinAll : Chain → List Chain → Chain
  | c, [] => c
  | c, c' :: rest => c.join .and (joinAll c' rest)

/-- A condition as a part of a conjunction: in brackets where it has an `OR`. -/
def asFactor (c : Chain) : Chain := if c.hasOr then last [.group .round c.items] else c

/-- The condition that all conditions hold. -/
def conjunction (c : Chain) : List Chain → Chain
  | [] => c
  | rest => joinAll c.asFactor (rest.map asFactor)

/-! ## Joins -/

theorem hasOr_join (c c' : Chain) : (c.join .and c').hasOr = (c.hasOr || c'.hasOr) := by
  induction c with
  | last f => rfl
  | link f op rest ih =>
      cases op with
      | and => exact ih
      | or => rfl

theorem hasOr_joinAll (c : Chain) (rest : List Chain) :
    (joinAll c rest).hasOr = (c :: rest).any hasOr := by
  induction rest generalizing c with
  | nil => simp [joinAll]
  | cons c' rest ih =>
      rw [joinAll, hasOr_join, ih]
      rfl

theorem hasOr_asFactor (c : Chain) : c.asFactor.hasOr = false := by
  unfold asFactor
  split
  · rfl
  · rename_i h
    exact Bool.eq_false_iff.2 h

theorem asFactor_of_hasOr_eq_false {c : Chain} (h : c.hasOr = false) : c.asFactor = c := by
  rw [asFactor, h]
  rfl

/--
Conditions that are joined are their conjunction if there is only one or if
none has an `OR` outside of brackets, and are not otherwise.
-/
theorem joinAll_eq_conjunction_iff (c : Chain) (rest : List Chain) :
    joinAll c rest = conjunction c rest ↔ rest = [] ∨ ∀ e ∈ c :: rest, e.hasOr = false := by
  cases rest with
  | nil => simp [joinAll, conjunction]
  | cons c' rest =>
      simp only [reduceCtorEq, false_or]
      constructor
      · intro h
        have hor := congrArg hasOr h
        have hfactors : (c.asFactor :: (c' :: rest).map asFactor).any hasOr = false := by
          rw [List.any_eq_false]
          intro e he
          rw [← List.map_cons] at he
          obtain ⟨e', -, rfl⟩ := List.mem_map.1 he
          rw [hasOr_asFactor]
          exact Bool.false_ne_true
        rw [conjunction, hasOr_joinAll, hasOr_joinAll, hfactors, List.any_eq_false] at hor
        · intro e he
          exact Bool.eq_false_iff.2 (hor e he)
        · simp
      · intro h
        have hfactors : ∀ e ∈ c :: c' :: rest, e.asFactor = e :=
          fun e he => asFactor_of_hasOr_eq_false (h e he)
        rw [List.forall_mem_cons] at hfactors
        have hmap : (c' :: rest).map asFactor = c' :: rest := by
          rw [List.map_congr_left hfactors.2, List.map_id']
        rw [conjunction, hfactors.1, hmap]
        simp

/-! ## Meaning -/

variable {v : List Item → Prop}

/-- Without an `OR` there is one alternative. -/
theorem alternatives_of_hasOr_eq_false {c : Chain} (h : c.hasOr = false) :
    ∃ a, c.alternatives = [a] := by
  induction c with
  | last f => exact ⟨[f], rfl⟩
  | link f op rest ih =>
      cases op with
      | or => cases h
      | and =>
          obtain ⟨a, ha⟩ := ih h
          exact ⟨f :: a, by rw [alternatives, ha]⟩

/-- Two conditions without an `OR` hold together just if both do. -/
theorem holds_join {c c' : Chain} (h : c.hasOr = false) (h' : c'.hasOr = false) :
    (c.join .and c').Holds v ↔ c.Holds v ∧ c'.Holds v := by
  obtain ⟨a', ha'⟩ := alternatives_of_hasOr_eq_false h'
  induction c with
  | last f => simp [Holds, join, alternatives, ha']
  | link f op rest ih =>
      cases op with
      | or => cases h
      | and =>
          obtain ⟨a, ha⟩ := alternatives_of_hasOr_eq_false (c := rest) h
          have hjoin : (rest.join .and c').hasOr = false := by
            rw [hasOr_join, h', Bool.or_false]
            exact h
          obtain ⟨b, hb⟩ := alternatives_of_hasOr_eq_false hjoin
          have hrest := ih h
          simp only [Holds, join, alternatives, ha, ha', hb, List.mem_singleton,
            exists_eq_left, List.forall_mem_cons] at hrest ⊢
          rw [hrest, and_assoc]

/-- Conditions without an `OR` hold together just if all do. -/
theorem holds_joinAll {c : Chain} {rest : List Chain} (h : ∀ e ∈ c :: rest, e.hasOr = false) :
    (joinAll c rest).Holds v ↔ ∀ e ∈ c :: rest, e.Holds v := by
  induction rest generalizing c with
  | nil => simp [joinAll]
  | cons c' rest ih =>
      rw [List.forall_mem_cons] at h
      have hrest : (joinAll c' rest).hasOr = false := by
        rw [hasOr_joinAll, List.any_eq_false]
        intro e he
        rw [h.2 e he]
        exact Bool.false_ne_true
      rw [joinAll, holds_join h.1 hrest, ih h.2]
      exact List.forall_mem_cons.symm

end Chain

end SqlCompose
