import SchemaGraph.Proofs.Sql.Nesting

/-!
# The form of a `CREATE TABLE` statement

Between `CREATE` and the body there may be modifiers, `IF NOT EXISTS` and qualifiers of the name;
after the body there may be options. All of these are passed over, and the statement ends with its
semicolon, or else where the next one begins (`statements_tableStatement`).
-/

namespace SchemaGraph.Sql

/-- A `CREATE TABLE` statement without a semicolon. -/
structure TableStatement where
  /-- The words between `CREATE` and `TABLE`. -/
  modifiers : List Token
  /-- `IF NOT EXISTS`, if it stands there. -/
  guard : List Token
  /-- The name with its qualifiers, if there are any. -/
  qualified : List Token
  name : String
  /-- The tokens between the parentheses of the body. -/
  body : List Token
  /-- The tokens after the body. -/
  options : List Token
  modifiers_all : modifiers.all isTableModifier = true
  guard_skipped : skipIfNotExists guard = []
  qualified_read : qualifiedName? qualified = some (name, [])
  body_nested : Nested body
  options_free : ∀ t ∈ options, t ≠ .semicolon ∧ t ≠ .keyword .create ∧ t ≠ .keyword .alter

namespace TableStatement

/-- The tokens of the statement. -/
def tokens (s : TableStatement) : List Token :=
  .keyword .create :: (s.modifiers ++ .keyword .table ::
    (s.guard ++ (s.qualified ++ .leftParen :: (s.body ++ .rightParen :: s.options))))

/-- What the statement is read as. -/
def statement (s : TableStatement) : Statement := .createTable s.name s.body true

/-- A statement with nothing but a name and a body. -/
def plain (t : Token) (name : String) (body : List Token) (ht : t.name? = some name)
    (hbody : Nested body) : TableStatement where
  modifiers := []
  guard := []
  qualified := [t]
  name
  body
  options := []
  modifiers_all := rfl
  guard_skipped := rfl
  qualified_read := by
    rw [qualifiedName?, ht]
    rfl
  body_nested := hbody
  options_free := List.forall_mem_nil _

end TableStatement

theorem skipTableModifiers_append {modifiers : List Token}
    (h : modifiers.all isTableModifier = true) (rest : List Token) :
    skipTableModifiers (modifiers ++ .keyword .table :: rest) = .keyword .table :: rest := by
  rw [List.all_eq_true] at h
  rw [skipTableModifiers, List.dropWhile_append_of_pos h]
  rfl

/-- The words of `IF NOT EXISTS` end before a token that is no keyword. -/
theorem skipIfNotExists_append {guard : List Token} (h : skipIfNotExists guard = []) {t : Token}
    (ht : ∀ k, t ≠ .keyword k) (rest : List Token) :
    skipIfNotExists (guard ++ t :: rest) = t :: rest := by
  have hskip : ∀ (k : Keyword) (ts : List Token),
      skipKeyword k (ts ++ t :: rest) = skipKeyword k ts ++ t :: rest := by
    intro k ts
    cases ts with
    | nil => simp [skipKeyword, ht]
    | cons u ts =>
      rw [List.cons_append, skipKeyword, skipKeyword]
      split <;> rfl
  unfold skipIfNotExists at h ⊢
  split at h
  · rename_i more
    rw [List.cons_append]
    dsimp only
    rw [hskip, hskip, h, List.nil_append]
  · subst h
    rw [List.nil_append]
    split
    · rename_i heq
      exact absurd (List.cons.inj heq).1 (ht _)
    · rfl

theorem qualifiedTail_append {first name : String} {ts : List Token}
    (h : qualifiedTail first ts = (name, [])) (rest : List Token) :
    qualifiedTail first (ts ++ .leftParen :: rest) = (name, .leftParen :: rest) := by
  fun_induction qualifiedTail first ts with
  | case1 first t more part hpart ih =>
    rw [List.cons_append, List.cons_append, qualifiedTail]
    simp only [hpart]
    exact ih h
  | case2 => simp at h
  | case3 =>
    cases h
    rfl
  | case4 =>
    cases h
    rfl

/-- A name ends where no dot follows it. -/
theorem qualifiedTail_of_head? {rest : List Token} (h : rest.head? ≠ some .dot) (name : String) :
    qualifiedTail name rest = (name, rest) := by
  cases rest with
  | nil => rfl
  | cons t rest =>
    unfold qualifiedTail
    split <;> simp_all

/-- A name is read whole if a parenthesis follows it. -/
theorem qualifiedName?_append {ts : List Token} {name : String}
    (h : qualifiedName? ts = some (name, [])) (rest : List Token) :
    qualifiedName? (ts ++ .leftParen :: rest) = some (name, .leftParen :: rest) := by
  cases ts with
  | nil => simp [qualifiedName?] at h
  | cons t ts =>
    rw [qualifiedName?, Option.map_eq_some_iff] at h
    obtain ⟨first, hfirst, htail⟩ := h
    rw [List.cons_append, qualifiedName?, hfirst, Option.map_some, qualifiedTail_append htail]

/-- A name begins with a token that is no keyword. -/
theorem cons_of_qualifiedName? {ts rest : List Token} {name : String}
    (h : qualifiedName? ts = some (name, rest)) :
    ∃ t more, ts = t :: more ∧ ∀ k, t ≠ .keyword k := by
  cases ts with
  | nil => simp [qualifiedName?] at h
  | cons t more =>
    refine ⟨t, more, rfl, ?_⟩
    rintro k rfl
    simp [qualifiedName?, Token.name?_keyword] at h

/-- Options are passed over up to the semicolon or the next statement. -/
theorem skipStatement_append {options : List Token}
    (h : ∀ t ∈ options, t ≠ .semicolon ∧ t ≠ .keyword .create ∧ t ≠ .keyword .alter)
    (rest : List Token) : skipStatement (options ++ rest) = skipStatement rest := by
  induction options with
  | nil => rfl
  | cons t options ih =>
    obtain ⟨hsemicolon, hcreate, halter⟩ := h t (List.mem_cons_self ..)
    rw [List.cons_append, skipStatement]
    · exact ih fun u hu => h u (List.mem_cons_of_mem _ hu)
    · exact hsemicolon
    · exact hcreate
    · exact halter

/-- After `CREATE`, the tokens of a statement are read as it, and what follows its options is
skipped. -/
theorem createStatement_tableStatement (s : TableStatement) (rest : List Token) :
    createStatement (s.tokens.tail ++ rest) = (some s.statement, skipStatement rest) := by
  obtain ⟨t, more, hqualified, ht⟩ := cons_of_qualifiedName? s.qualified_read
  have hguard : ∀ after, skipIfNotExists (s.guard ++ (s.qualified ++ after))
      = s.qualified ++ after := by
    intro after
    rw [hqualified, List.cons_append, skipIfNotExists_append s.guard_skipped ht]
  have hshape : s.tokens.tail ++ rest = s.modifiers ++ .keyword .table ::
      (s.guard ++ (s.qualified ++ .leftParen ::
        (s.body ++ .rightParen :: (s.options ++ rest)))) := by
    simp [TableStatement.tokens]
  rw [hshape, createStatement, skipTableModifiers_append s.modifiers_all]
  simp only [createTable, hguard, qualifiedName?_append s.qualified_read,
    balancedGroup_closed s.body_nested, skipStatement_append s.options_free]
  rfl

/-- The tokens of a statement are read as it, and what follows its options is skipped. -/
theorem statements_tableStatement (s : TableStatement) (rest : List Token) :
    statements (s.tokens ++ rest) = s.statement :: statements (skipStatement rest) := by
  have hshape : s.tokens ++ rest = .keyword .create :: (s.tokens.tail ++ rest) := rfl
  rw [hshape, statements, createStatement_tableStatement]
  rfl

end SchemaGraph.Sql
