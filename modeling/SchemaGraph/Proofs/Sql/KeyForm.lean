import SchemaGraph.Proofs.Sql.ClauseOrder
import SchemaGraph.Proofs.Sql.TableStatement
import SchemaGraph.Proofs.Sql.WrittenClause

/-!
# How a key on one column is spelled

A key on one column is part of the column (`id INT PRIMARY KEY`, `owner INT REFERENCES users (id)`),
or a clause of its own (`PRIMARY KEY (id)`, `FOREIGN KEY (owner) REFERENCES users (id)`), perhaps
with the name of a constraint. Both are read as the same key (`ColumnForm.isInlined`).
-/

namespace SchemaGraph.Sql

/-! ## Names -/

/-- A name with any number of qualifiers. -/
structure QualifiedName where
  qualifiers : List Token
  last : Token
  name : String
  qualifiers_named : ∀ t ∈ qualifiers, t.name?.isSome = true
  last_named : last.name? = some name

/-- The name of a column. -/
structure ColumnName where
  token : Token
  name : String
  named : columnName? token = some name

/-- The name of a constraint. -/
abbrev ConstraintName := {t : Token // t.name?.isSome = true}

/-- The name of a constraint, with the word before it; neither has to be there. -/
def constraintTokens : Option ConstraintName → List Token
  | none => []
  | some t => [.keyword .constraint, t.1]

/-- The token neither nests nor separates, and begins no statement. -/
def Token.isPlain (t : Token) : Bool :=
  t ∉ [.leftParen, .rightParen, .comma, .semicolon, .keyword .create, .keyword .alter]

theorem isPlain_of_name? {t : Token} (h : t.name?.isSome = true) : t.isPlain = true := by
  cases t with
  | keyword k => cases h
  | word s => simp [Token.isPlain]
  | quoted s => simp [Token.isPlain]
  | _ => cases h

theorem isPlain_of_columnName? {t : Token} {name : String} (h : columnName? t = some name) :
    t.isPlain = true := by
  cases t with
  | keyword k => cases k <;> first | rfl | cases h
  | word s => simp [Token.isPlain]
  | quoted s => simp [Token.isPlain]
  | _ => cases h

namespace QualifiedName

/-- The tokens of the name, with a dot after each qualifier. -/
def tokens (q : QualifiedName) : List Token := q.qualifiers.flatMap (fun t => [t, .dot]) ++ [q.last]

theorem qualifiedTail_tokens {last : Token} {name : String} (hlast : last.name? = some name)
    {rest : List Token} (hrest : rest.head? ≠ some .dot) {qualifiers : List Token}
    (h : ∀ t ∈ qualifiers, t.name?.isSome = true) (first : String) :
    qualifiedTail first (.dot :: (qualifiers.flatMap (fun t => [t, .dot]) ++ last :: rest))
      = (name, rest) := by
  induction qualifiers generalizing first with
  | nil =>
    rw [List.flatMap_nil, List.nil_append, qualifiedTail]
    simp only [hlast]
    exact qualifiedTail_of_head? hrest name
  | cons t qualifiers ih =>
    rw [List.forall_mem_cons] at h
    obtain ⟨part, hpart⟩ := Option.isSome_iff_exists.1 h.1
    rw [List.flatMap_cons, List.append_assoc, List.cons_append, List.singleton_append,
      qualifiedTail]
    simp only [hpart]
    exact ih h.2 part

/-- A qualified name is read whole, if no dot follows it. -/
theorem qualifiedName?_tokens (q : QualifiedName) {rest : List Token}
    (h : rest.head? ≠ some .dot) : qualifiedName? (q.tokens ++ rest) = some (q.name, rest) := by
  obtain ⟨qualifiers, last, name, hnamed, hlast⟩ := q
  unfold tokens
  cases qualifiers with
  | nil =>
    simp only [List.flatMap_nil, List.nil_append, List.singleton_append, qualifiedName?, hlast,
      Option.map_some, qualifiedTail_of_head? h]
  | cons t qualifiers =>
    rw [List.forall_mem_cons] at hnamed
    obtain ⟨first, hfirst⟩ := Option.isSome_iff_exists.1 hnamed.1
    have htail := qualifiedTail_tokens hlast h hnamed.2 first
    simp only [List.flatMap_cons, List.cons_append, List.nil_append, List.append_assoc,
      qualifiedName?, hfirst, Option.map_some, htail]

theorem mem_tokens {q : QualifiedName} {t : Token} (ht : t ∈ q.tokens) :
    t.name?.isSome = true ∨ t = .dot := by
  rw [tokens, List.mem_append, List.mem_flatMap, List.mem_singleton] at ht
  rcases ht with ⟨u, hu, ht⟩ | rfl
  · rcases List.mem_cons.1 ht with rfl | ht
    · exact Or.inl (q.qualifiers_named t hu)
    · exact Or.inr (List.mem_singleton.1 ht)
  · exact Or.inl (by rw [q.last_named]; rfl)

theorem isPlain_tokens (q : QualifiedName) : ∀ t ∈ q.tokens, t.isPlain = true := by
  intro t ht
  rcases mem_tokens ht with hname | rfl
  · exact isPlain_of_name? hname
  · rfl

end QualifiedName

theorem whole_of_isPlain {ts : List Token} (h : ∀ t ∈ ts, t.isPlain = true) : Whole ts := by
  refine .of_forall fun t ht => ?_
  have hplain := h t ht
  refine ⟨?_, ?_, ?_⟩ <;> rintro rfl <;> cases hplain

/-- One name in parentheses. -/
theorem Whole.single {t : Token} (ht : t.isPlain = true) {ts : List Token} (h : Whole ts) :
    Whole (.leftParen :: t :: .rightParen :: ts) := by
  have hone : Whole [t] := whole_of_isPlain fun u hu => List.mem_singleton.1 hu ▸ ht
  exact .group hone.nested h

/-! ## Keys -/

/-- A key on one column, apart from this column. -/
inductive KeyForm where
  | primary
  /-- A reference to a table, perhaps with the column referred to. -/
  | foreign (table : QualifiedName) (column : Option ColumnName)

namespace KeyForm

/-- The column referred to, in parentheses. -/
def columnTokens : Option ColumnName → List Token
  | none => []
  | some c => [.leftParen, c.token, .rightParen]

/-- The key as part of its column. -/
def words : KeyForm → List Token
  | primary => [.keyword .primary, .keyword .key]
  | foreign table column => .keyword .references :: (table.tokens ++ columnTokens column)

/-- The key as a clause of its own. -/
def clause (k : KeyForm) (c : ColumnName) : List Token :=
  match k with
  | primary => [.keyword .primary, .keyword .key, .leftParen, c.token, .rightParen]
  | foreign table column =>
    .keyword .foreign :: .keyword .key :: .leftParen :: c.token :: .rightParen ::
      (foreign table column).words

/-- The words of the key end with the name of a table, so that a dot after them would go on with
it. -/
def endsWithTable : KeyForm → Bool
  | foreign _ none => true
  | _ => false

/-- The target of a reference. -/
def target (table : QualifiedName) (column : Option ColumnName) : Reference :=
  ⟨table.name, (column.map (·.name)).toList⟩

/-- What the clause says about the column. -/
def said (k : KeyForm) (column : String) : Clause :=
  match k with
  | primary => .primaryKey [column]
  | foreign table referenced => .foreignKey [column] (target table referenced)

/-- In a list of columns only the first token of an entry counts. -/
theorem columnNames_name (c : ColumnName) (expect : Bool) (rest : List Token) :
    columnNames 0 expect (c.token :: rest)
      = ((if expect then [c.name] else []) ++ (columnNames 0 false rest).1,
          (columnNames 0 false rest).2) := by
  obtain ⟨t, name, hname⟩ := c
  have hplain := isPlain_of_columnName? hname
  rw [columnNames, if_neg (Nat.lt_irrefl 0), if_neg (by rintro rfl; cases hplain), hname]
  · rfl
  · rintro rfl
    cases hplain
  · rintro rfl
    cases hplain

theorem columnList?_single (c : ColumnName) (rest : List Token) :
    columnList? (.leftParen :: c.token :: .rightParen :: rest) = .ok ([c.name], rest) := by
  simp [columnList?, columnNames_name, columnNames]

/-- A target without a list of columns. -/
theorem reference?_table (table : QualifiedName) {rest : List Token}
    (hdot : rest.head? ≠ some .dot) (hparen : rest.head? ≠ some .leftParen) :
    reference? (table.tokens ++ rest) = .ok (⟨table.name, []⟩, rest) := by
  unfold reference?
  rw [table.qualifiedName?_tokens hdot]
  split
  · cases ‹_›
  · rename_i more heq
    cases heq
    exact absurd rfl hparen
  · rename_i heq
    cases heq
    rfl

/-- A target with a list of columns. -/
theorem reference?_columns (table : QualifiedName) {ts rest : List Token} {names : List String}
    (h : columnList? ts = .ok (names, rest)) :
    reference? (table.tokens ++ ts) = .ok (⟨table.name, names⟩, rest) := by
  unfold reference?
  cases ts with
  | nil => cases h
  | cons t ts =>
    cases t with
    | leftParen =>
      rw [table.qualifiedName?_tokens (by simp)]
      simp only [h, Except.map]
    | _ => cases h

/-- Only where no column is named does it matter whether a dot follows: it would go on with the name
of the table. -/
theorem reference?_words (table : QualifiedName) (column : Option ColumnName) {rest : List Token}
    (hdot : column = none → rest.head? ≠ some .dot) (hparen : rest.head? ≠ some .leftParen) :
    reference? (table.tokens ++ (columnTokens column ++ rest))
      = .ok (target table column, rest) := by
  cases column with
  | none => exact reference?_table table (hdot rfl) hparen
  | some c => exact reference?_columns table (columnList?_single c rest)

/-- No index has a name, if a list of columns begins. -/
theorem skipIndexName_columns (c : ColumnName) (rest : List Token) :
    skipIndexName (.leftParen :: c.token :: rest) = .leftParen :: c.token :: rest := by
  have hplain := isPlain_of_columnName? c.named
  unfold skipIndexName
  split
  · rename_i heq
    simp only [List.cons.injEq] at heq
    rw [heq.2.1] at hplain
    cases hplain
  · rfl

/-- The clause is read as what it says, with or without the name of a constraint. -/
theorem readClause_clause (k : KeyForm) (c : ColumnName) (n : Option ConstraintName) :
    readClause (constraintTokens n ++ k.clause c) = .ok (k.said c.name) := by
  have hclause : constraintClause (k.clause c) = .ok (k.said c.name) := by
    cases k with
    | primary =>
      simp [clause, constraintClause, primaryKeyClause, skipKeyword, columnList?_single, Except.map,
        said]
    | foreign table column =>
      have href := @reference?_words table column [] (by simp) (by simp)
      rw [List.append_nil] at href
      simp only [clause, constraintClause, foreignKeyClause, skipKeyword, ↓reduceIte,
        skipIndexName_columns, columnList?_single, words, foreignKeyTarget, href]
      cases column <;> rfl
  cases n with
  | none =>
    rw [constraintTokens, List.nil_append, ← hclause]
    cases k <;> rfl
  | some t =>
    rw [constraintTokens, List.cons_append, List.singleton_append, readClause, skipName,
      if_pos t.2, hclause]

theorem isKeyOn_clause (k : KeyForm) (c : ColumnName) (n : Option ConstraintName) :
    IsKeyOn c.name (constraintTokens n ++ k.clause c) := by
  have hread := k.readClause_clause c n
  cases k with
  | primary => exact Or.inl hread
  | foreign table column => exact Or.inr ⟨_, hread⟩

theorem whole_words (k : KeyForm) : Whole k.words := by
  cases k with
  | primary => exact .of_forall (by simp [words])
  | foreign table column =>
    have htable := whole_of_isPlain table.isPlain_tokens
    have hcolumn : Whole (columnTokens column) := by
      cases column with
      | none => exact .nil
      | some c => exact .single (isPlain_of_columnName? c.named) .nil
    exact .token (by simp) (by simp) (by simp) (htable.append hcolumn)

/-- The clause is never split. -/
theorem whole_clause (k : KeyForm) (c : ColumnName) (n : Option ConstraintName) :
    Whole (constraintTokens n ++ k.clause c) := by
  have hcolumn := isPlain_of_columnName? c.named
  have hconstraint : Whole (constraintTokens n) := by
    cases n with
    | none => exact .nil
    | some t =>
      refine .token (by simp) (by simp) (by simp) (whole_of_isPlain fun u hu => ?_)
      rw [List.mem_singleton.1 hu]
      exact isPlain_of_name? t.2
  refine hconstraint.append ?_
  cases k with
  | primary =>
    exact .token (by simp) (by simp) (by simp) (.token (by simp) (by simp) (by simp)
      (.single hcolumn .nil))
  | foreign table referenced =>
    exact .token (by simp) (by simp) (by simp) (.token (by simp) (by simp) (by simp)
      (.single hcolumn (whole_words _)))

/-- Nothing in the clause ends a statement or begins one. -/
theorem clause_within (k : KeyForm) (c : ColumnName) (n : Option ConstraintName) :
    ∀ t ∈ constraintTokens n ++ k.clause c,
      t ≠ .semicolon ∧ t ≠ .keyword .create ∧ t ≠ .keyword .alter := by
  have hplain : ∀ t : Token, t.isPlain = true →
      t ≠ .semicolon ∧ t ≠ .keyword .create ∧ t ≠ .keyword .alter := by
    intro t ht
    refine ⟨?_, ?_, ?_⟩ <;> rintro rfl <;> cases ht
  have hcolumn := hplain _ (isPlain_of_columnName? c.named)
  intro t ht
  rcases List.mem_append.1 ht with ht | ht
  · cases n with
    | none => cases ht
    | some u =>
      rcases List.mem_cons.1 ht with rfl | ht
      · simp
      · rw [List.mem_singleton.1 ht]
        exact hplain _ (isPlain_of_name? u.2)
  · cases k with
    | primary =>
      simp only [clause, List.mem_cons, List.not_mem_nil, or_false] at ht
      rcases ht with rfl | rfl | rfl | rfl | rfl <;> first | exact hcolumn | simp
    | foreign table referenced =>
      simp only [clause, words, List.mem_cons, List.mem_append] at ht
      rcases ht with rfl | rfl | rfl | rfl | rfl | rfl | ht | ht
      · simp
      · simp
      · simp
      · exact hcolumn
      · simp
      · simp
      · exact hplain t (table.isPlain_tokens t ht)
      · cases referenced with
        | none => cases ht
        | some r =>
          simp only [columnTokens, List.mem_cons, List.not_mem_nil, or_false] at ht
          rcases ht with rfl | rfl | rfl
          · simp
          · exact hplain _ (isPlain_of_columnName? r.named)
          · simp

end KeyForm

/-! ## Columns -/

/-- Tokens that say nothing about keys, nulls and defaults: outside of parentheses there are no
keywords. -/
inductive Idle : List Token → Prop where
  | nil : Idle []
  | token {t : Token} {ts : List Token} (hk : ∀ k, t ≠ .keyword k) (hl : t ≠ .leftParen)
    (hr : t ≠ .rightParen) (hc : t ≠ .comma) (h : Idle ts) : Idle (t :: ts)
  | group {inner ts : List Token} (hi : Nested inner) (h : Idle ts) :
    Idle (.leftParen :: (inner ++ .rightParen :: ts))

theorem Idle.whole {ts : List Token} (h : Idle ts) : Whole ts := by
  induction h with
  | nil => exact .nil
  | token _ hl hr hc _ ih => exact .token hl hr hc ih
  | group hi _ ih => exact .group hi ih

/-- Matching parentheses do not end the group that they stand in. -/
theorem dropGroup_nested {ts : List Token} (h : Nested ts) (depth : Nat) (rest : List Token) :
    dropGroup (depth + 1) (ts ++ rest) = dropGroup (depth + 1) rest := by
  induction h generalizing depth rest with
  | nil => rfl
  | token hl hr _ ih =>
    rw [List.cons_append, dropGroup]
    · exact ih depth rest
    · exact hl
    · exact hr
  | group _ _ ihi ih =>
    rw [List.cons_append, List.append_assoc, List.cons_append, dropGroup, ihi, dropGroup,
      if_neg (by omega), Nat.add_sub_cancel, ih]

theorem dropGroup_closed {ts : List Token} (h : Nested ts) (rest : List Token) :
    dropGroup 1 (ts ++ .rightParen :: rest) = rest := by
  rw [dropGroup_nested h, dropGroup, if_pos (Nat.le_refl 1)]

/-- The arguments of a type are read up to the parenthesis that closes them. -/
theorem declaredTail_nested {ts : List Token} (h : Nested ts) (depth : Nat) :
    ∃ text, ∀ rest, declaredTail (depth + 1) (ts ++ rest)
      = (text ++ (declaredTail (depth + 1) rest).1, (declaredTail (depth + 1) rest).2) := by
  induction h generalizing depth with
  | nil => exact ⟨"", fun rest => by simp⟩
  | @token t ts hl hr _ ih =>
    obtain ⟨text, htext⟩ := ih depth
    refine ⟨t.text ++ text, fun rest => ?_⟩
    rw [List.cons_append, declaredTail, if_pos (Nat.succ_pos depth)]
    · simp only [htext, String.append_assoc]
    · exact hl
    · exact hr
  | group _ _ ihi ih =>
    obtain ⟨inner, hinner⟩ := ihi (depth + 1)
    obtain ⟨text, htext⟩ := ih depth
    refine ⟨"(" ++ (inner ++ (")" ++ text)), fun rest => ?_⟩
    rw [List.cons_append, List.append_assoc, List.cons_append, declaredTail,
      if_pos (Nat.succ_pos depth)]
    simp only [hinner]
    rw [declaredTail, if_pos (Nat.succ_pos _)]
    simp only [Nat.add_sub_cancel, htext, Token.text, String.append_assoc]

/-- Arguments are a part of the declared type, and the type goes on after them. -/
theorem declaredTail_group {inner : List Token} (h : Nested inner) :
    ∃ text, ∀ rest, declaredTail 0 (.leftParen :: (inner ++ .rightParen :: rest))
      = (text ++ (declaredTail 0 rest).1, (declaredTail 0 rest).2) := by
  obtain ⟨text, htext⟩ := declaredTail_nested h 0
  refine ⟨"(" ++ (text ++ ")"), fun rest => ?_⟩
  rw [declaredTail, if_neg (by simp), if_pos rfl]
  simp only [htext]
  rw [declaredTail, if_pos (Nat.succ_pos _)]
  simp only [Nat.zero_add, Nat.sub_self, Token.text, String.append_assoc]

/-- Whatever follows a type, the declared type is the same, and so is what is left of its
tokens. -/
theorem declaredTail_idle {ts : List Token} (h : Idle ts) :
    ∃ text left, Idle left ∧
      ∀ rest, endsType rest = true → declaredTail 0 (ts ++ rest) = (text, left ++ rest) := by
  induction h with
  | nil => exact ⟨"", [], .nil, fun rest hrest => declaredTail_of_endsType hrest⟩
  | @token t ts hk hl hr hc hts ih =>
    obtain ⟨text, left, hleft, hread⟩ := ih
    by_cases hbrackets : t = .brackets
    · refine ⟨t.text ++ text, left, hleft, fun rest hrest => ?_⟩
      simp [declaredTail, hbrackets, hread rest hrest]
    by_cases hcontinues : continuesType t = true
    · refine ⟨" " ++ t.text ++ text, left, hleft, fun rest hrest => ?_⟩
      simp [declaredTail, hl, hbrackets, hcontinues, hread rest hrest]
    · refine ⟨"", t :: ts, .token hk hl hr hc hts, fun rest _ => ?_⟩
      simp [declaredTail, hl, hbrackets, hcontinues]
  | group hi _ ih =>
    obtain ⟨text, left, hleft, hread⟩ := ih
    obtain ⟨arguments, harguments⟩ := declaredTail_group hi
    refine ⟨arguments ++ text, left, hleft, fun rest hrest => ?_⟩
    rw [List.cons_append, List.append_assoc, List.cons_append, harguments, hread rest hrest]

theorem modifiers_idle {ts : List Token} (h : Idle ts) (c : ColumnClause) (rest : List Token) :
    modifiers c (ts ++ rest) = modifiers c rest := by
  induction h with
  | nil => rfl
  | @token t ts hk hl _ _ _ ih =>
    rw [List.cons_append, modifiers, ih] <;> simp_all
  | group hi _ ih =>
    rw [List.cons_append, List.append_assoc, List.cons_append, modifiers, dropGroup_closed hi, ih]

theorem modifiers_references {target : Reference} {rest after : List Token}
    (h : reference? rest = .ok (target, after)) (hcount : ¬ 1 < target.columns.length)
    (c : ColumnClause) :
    modifiers c (.keyword .references :: rest)
      = modifiers { c with reference := some target } after := by
  rw [modifiers]
  split
  · simp_all
  · rename_i heq
    rw [h] at heq
    cases heq
    rw [if_neg hcount]

/-- What is set beside the modifiers may be set before them or after them. -/
theorem modifiers_map (f : ColumnClause → ColumnClause)
    (hkey : ∀ c, f { c with primaryKey := true } = { f c with primaryKey := true })
    (hnull : ∀ c, f { c with notNull := true } = { f c with notNull := true })
    (hreference : ∀ c target,
      f { c with reference := some target } = { f c with reference := some target })
    (c : ColumnClause) (ts : List Token) : modifiers (f c) ts = (modifiers c ts).map f := by
  fun_induction modifiers c ts with
  | case1 c => rw [modifiers, Except.map]
  | case2 c rest ih => rw [modifiers, ← hkey]; exact ih
  | case3 c rest ih => rw [modifiers, ← hnull]; exact ih
  | case4 c rest p h =>
    rw [modifiers]
    split <;> simp_all [Except.map]
  | case5 c rest target after h hcount =>
    rw [modifiers]
    split <;> simp_all [Except.map]
  | case6 c rest target after h hcount _ ih =>
    rw [modifiers_references h hcount, ← hreference]
    exact ih
  | case7 c rest ih => rw [modifiers]; exact ih
  | case8 c rest ih => rw [modifiers]; exact ih
  | case9 c rest ih => rw [modifiers]; exact ih
  | case10 c rest ih => rw [modifiers]; exact ih
  | case11 c t rest _ _ _ _ _ _ _ ih => rw [modifiers] <;> simp_all

/-- A mark may be set before the modifiers or after them. -/
theorem modifiers_marked (c : ColumnClause) (ts : List Token) :
    modifiers { c with primaryKey := true } ts
      = (modifiers c ts).map fun c => { c with primaryKey := true } :=
  modifiers_map (fun c => { c with primaryKey := true }) (fun _ => rfl) (fun _ => rfl)
    (fun _ _ => rfl) c ts

/-- A reference that is there is not lost. -/
theorem reference_modifiers {c c' : ColumnClause} {ts : List Token} (h : modifiers c ts = .ok c')
    (hc : c.reference.isSome = true) : c'.reference.isSome = true := by
  fun_induction modifiers c ts <;> simp_all

/-- Modifiers without a reference keep the one that is there. -/
theorem modifiers_referring {c c' : ColumnClause} {ts : List Token} (h : modifiers c ts = .ok c')
    (hnone : c'.reference = none) (target : Reference) :
    modifiers { c with reference := some target } ts
      = .ok { c' with reference := some target } := by
  fun_induction modifiers c ts with
  | case1 c =>
    cases h
    rw [modifiers]
  | case2 c rest ih => rw [modifiers]; exact ih h
  | case3 c rest ih => rw [modifiers]; exact ih h
  | case4 => cases h
  | case5 => cases h
  | case6 c rest other after _ _ _ _ =>
    have hsome := reference_modifiers h rfl
    rw [hnone] at hsome
    cases hsome
  | case7 c rest ih => rw [modifiers]; exact ih h
  | case8 c rest ih => rw [modifiers]; exact ih h
  | case9 c rest ih => rw [modifiers]; exact ih h
  | case10 c rest ih => rw [modifiers]; exact ih h
  | case11 c t rest _ _ _ _ _ _ _ ih => rw [modifiers] <;> simp_all

/-! ## The clause of a column -/

/-- The clause of a column, cut where its type ends. -/
structure ColumnForm where
  name : Token
  typeWord : Token
  /-- What follows the first word of the type: further words, arguments, array suffixes. -/
  typeRest : List Token
  /-- What follows the type. -/
  rest : List Token
  column : ColumnClause
  typeRest_idle : Idle typeRest
  rest_whole : Whole rest
  rest_ends : endsType rest = true
  read : readClause (name :: typeWord :: (typeRest ++ rest)) = .ok (.column column)

theorem columnClause_eq {n u : Token} {name w : String} (hn : columnName? n = some name)
    (hu : u.name? = some w) (rest : List Token) :
    columnClause (n :: u :: rest)
      = (modifiers ⟨name, w ++ (declaredTail 0 rest).1, false, false, none⟩
          (declaredTail 0 rest).2).map .column := by
  simp [columnClause, hn, hu]

theorem listsColumns_append {ts : List Token} (h : ts ≠ []) (rest : List Token) :
    listsColumns (ts ++ rest) = listsColumns ts := by
  cases ts with
  | nil => exact absurd rfl h
  | cons t ts => cases t <;> rfl

/-- Words make no index of a column, if they begin neither with a parenthesis nor with `USING`. -/
theorem isIndexClause_insert {u : Token} (hu : u.name?.isSome = true) {ts : List Token}
    (hts : Idle ts) {t : Token} (hparen : t ≠ .leftParen) (husing : t.isWord "USING" = false)
    {words rest : List Token} (h : isIndexClause (u :: (ts ++ rest)) = false) :
    isIndexClause (u :: (ts ++ (t :: words ++ rest))) = false := by
  -- Only what follows the first name counts.
  have hword : ∀ more, isIndexClause (u :: more) = isIndexClause (.word "" :: more) := by
    intro more
    cases u with
    | keyword k => cases hu
    | word s => rfl
    | quoted s => exact (congrArg (· && _) hu).trans (Bool.true_and _)
    | _ => cases hu
  rw [hword] at h ⊢
  cases hts with
  | nil => cases t <;> simp_all [isIndexClause, Token.isWord]
  | @token t ts hk hl _ _ _ =>
    cases t <;> simp_all [isIndexClause]
  | @group inner ts hi _ =>
    have hgroup : ∀ more, isIndexClause (.word "" :: .leftParen :: (inner ++ .rightParen :: more))
        = listsColumns (inner ++ [.rightParen]) := by
      intro more
      have hhead := @listsColumns_append (inner ++ [.rightParen]) (by simp) more
      rwa [List.append_assoc, List.singleton_append] at hhead
    rw [List.cons_append, List.append_assoc, List.cons_append, hgroup] at h ⊢
    exact h

/-- A clause that is read as a column begins with a name and the first word of a type. -/
theorem names_of_readClause {n u : Token} {rest : List Token} {c : ColumnClause}
    (h : readClause (n :: u :: rest) = .ok (.column c)) :
    columnName? n = some c.name ∧ ∃ w, u.name? = some w := by
  obtain ⟨t, v, w, more, hshape, hname, hword, -⟩ := readClause_column h
  simp only [List.cons.injEq] at hshape
  obtain ⟨rfl, rfl, rfl⟩ := hshape
  exact ⟨hname, w, hword⟩

/-- With words after its type the clause is still read as a column. -/
theorem readClause_insert {n u : Token} {ts rest : List Token} {c : ColumnClause}
    (hread : readClause (n :: u :: (ts ++ rest)) = .ok (.column c)) (hts : Idle ts) {t : Token}
    (hparen : t ≠ .leftParen) (husing : t.isWord "USING" = false) (words : List Token) :
    readClause (n :: u :: (ts ++ (t :: words ++ rest)))
      = columnClause (n :: u :: (ts ++ (t :: words ++ rest))) := by
  obtain ⟨hname, w, hword⟩ := names_of_readClause hread
  have hindex := @isIndexClause_insert u (by rw [hword]; rfl) ts hts t hparen husing words rest
  cases n with
  | keyword j =>
    cases j with
    | key =>
      rw [readClause] at hread ⊢
      split at hread
      · cases hread
      · rename_i hplain
        rw [hindex (by simpa using hplain)]
        rfl
    | index =>
      rw [readClause] at hread ⊢
      split at hread
      · cases hread
      · rename_i hplain
        rw [hindex (by simpa using hplain)]
        rfl
    | _ => cases hname
  | word s =>
    have hreserved : isReserved (.word s) = false := by
      by_contra hres
      rw [Bool.not_eq_false] at hres
      simp [readClause, hres] at hread
    simp [readClause, hreserved]
  | quoted s => rfl
  | _ => cases hname

namespace ColumnForm

/-- The clause with words after the type. -/
def tokens (c : ColumnForm) (words : List Token) : List Token :=
  c.name :: c.typeWord :: (c.typeRest ++ (words ++ c.rest))

/-- The column has a name and a type. -/
theorem named (c : ColumnForm) :
    columnName? c.name = some c.column.name ∧ ∃ w, c.typeWord.name? = some w :=
  names_of_readClause c.read

/-- With words after the type the clause is still read as a column. -/
theorem readClause_tokens (c : ColumnForm) {t : Token} (hparen : t ≠ .leftParen)
    (husing : t.isWord "USING" = false) (words : List Token) :
    readClause (c.tokens (t :: words)) = columnClause (c.tokens (t :: words)) :=
  readClause_insert c.read c.typeRest_idle hparen husing words

/-- Whatever stands after the type, the clause is read as its modifiers say. -/
theorem exists_modifiers (c : ColumnForm) :
    ∃ declared : String, ∀ words, endsType (words ++ c.rest) = true →
      columnClause (c.tokens words)
        = (modifiers ⟨c.column.name, declared, false, false, none⟩ (words ++ c.rest)).map
            .column := by
  obtain ⟨hname, w, hword⟩ := c.named
  obtain ⟨text, left, hleft, htail⟩ := declaredTail_idle c.typeRest_idle
  refine ⟨w ++ text, fun words hwords => ?_⟩
  rw [tokens, columnClause_eq hname hword, htail _ hwords, modifiers_idle hleft]

theorem rest_noParen (c : ColumnForm) : c.rest.head? ≠ some .leftParen := by
  have hends := c.rest_ends
  intro hparen
  rw [endsType, hparen] at hends
  cases hends

/-- The clause with the words of a key defines the same column, and declares the key. -/
theorem isInlined (c : ColumnForm) (k : KeyForm) {n : ColumnName} (hn : n.name = c.column.name)
    (constraint : Option ConstraintName)
    (hfree : declaresKeyOn n.name (constraintTokens constraint ++ k.clause n) = true →
      declaresKeyOn n.name (c.tokens []) = false)
    (hdot : k.endsWithTable = true → c.rest.head? ≠ some .dot) :
    IsInlined n.name (constraintTokens constraint ++ k.clause n) (c.tokens [])
      (c.tokens k.words) := by
  have hkey := k.readClause_clause n constraint
  have hplain : readClause (c.tokens []) = .ok (.column c.column) := c.read
  obtain ⟨declared, hstart⟩ := c.exists_modifiers
  generalize (⟨c.column.name, declared, false, false, none⟩ : ColumnClause) = start at hstart
  have hmodifiers : modifiers start c.rest = .ok c.column := by
    have hread := columnClause_of_readClause hplain
    rw [hstart [] c.rest_ends] at hread
    cases hm : modifiers start c.rest with
    | error p => simp [hm, Except.map] at hread
    | ok column => simpa [hm, Except.map] using hread
  cases k with
  | primary =>
    refine .primaryKey hn.symm hkey hplain ?_
    rw [KeyForm.words, c.readClause_tokens (by simp) rfl, hstart _ rfl]
    have hfirst : modifiers start ([.keyword .primary, .keyword .key] ++ c.rest)
        = modifiers { start with primaryKey := true } c.rest := by
      rw [List.cons_append, modifiers]
      rfl
    rw [hfirst, modifiers_marked, hmodifiers]
    rfl
  | foreign table referenced =>
    have hnone : c.column.reference = none := by
      have hother := hfree (by simp [declaresKeyOn, hkey, KeyForm.said])
      simpa [declaresKeyOn, hplain, hn] using hother
    refine .foreignKey hn.symm hkey hplain hnone ?_
    have hread := @KeyForm.reference?_words table referenced c.rest
      (fun hbare => hdot (by rw [hbare]; rfl)) c.rest_noParen
    have hcount : ¬ 1 < (KeyForm.target table referenced).columns.length := by
      cases referenced <;> simp [KeyForm.target]
    rw [KeyForm.words, c.readClause_tokens (by simp) rfl, hstart _ rfl, List.cons_append,
      List.append_assoc, modifiers_references hread hcount, modifiers_referring hmodifiers hnone]
    rfl

/-- The clause is never split, whatever whole words stand after the type. -/
theorem whole_tokens (c : ColumnForm) {words : List Token} (h : Whole words) :
    Whole (c.tokens words) := by
  obtain ⟨hname, w, hword⟩ := c.named
  have hplain : ∀ t ∈ [c.name, c.typeWord], t.isPlain = true := by
    simp [isPlain_of_columnName? hname, isPlain_of_name? (Option.isSome_of_eq_some hword)]
  exact (whole_of_isPlain hplain).append (c.typeRest_idle.whole.append (h.append c.rest_whole))

end ColumnForm

end SchemaGraph.Sql
