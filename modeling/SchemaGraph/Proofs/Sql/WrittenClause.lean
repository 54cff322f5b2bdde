import SchemaGraph.Proofs.Sql.Lexing
import SchemaGraph.Proofs.Sql.Nesting

/-!
# Clauses as they are written, and as they are read back

The two kinds of clause that a script is written with: a column with its type and flags, and the
reference of one column. For each of them, the tokens of its text and what these tokens say.

A type can be read back only if it has the form of a type: a word, then continuing words and array
suffixes (`WrittenType`). Other type names lead to other tokens.
-/

namespace SchemaGraph.Sql

/-! ## Types -/

/-- What may follow the first word of a type without arguments. -/
inductive TypeSuffix where
  | word (w : String) (h : w ∈ typeContinuations)
  | brackets

namespace TypeSuffix

/-- The suffix as it is written. -/
def text : TypeSuffix → String
  | word w _ => " " ++ w
  | brackets => "[]"

/-- The token that it is read as. -/
def token : TypeSuffix → Token
  | word w _ => .word w
  | brackets => .brackets

end TypeSuffix

/-- A type without arguments, in the form in which it is written. -/
structure WrittenType where
  word : String
  suffixes : List TypeSuffix
  bare : isBareWord word = true
  noKeyword : Keyword.ofWord? word = none

namespace WrittenType

/-- The type as a text: one space before each continuing word, and none before brackets. -/
def text (t : WrittenType) : String := t.word ++ String.join (t.suffixes.map TypeSuffix.text)

/-- The tokens of the text. -/
def tokens (t : WrittenType) : List Token := .word t.word :: t.suffixes.map TypeSuffix.token

end WrittenType

/-- The text has the form of a type without arguments. -/
def IsTypeText (typeName : String) : Prop := ∃ t : WrittenType, t.text = typeName

theorem typeContinuations_bare :
    ∀ w ∈ typeContinuations, isBareWord w = true ∧ Keyword.ofWord? w = none := by decide

theorem typeContinuations_continue :
    ∀ w ∈ typeContinuations, continuesType (.word w) = true := by decide

section
variable {escapes : Bool}

theorem stops_suffixes (ss : List TypeSuffix) {rest : List Char} (hr : stops rest = true) :
    stops (ss.flatMap (·.text.toList) ++ rest) = true := by
  cases ss with
  | nil => exact hr
  | cons s ss =>
    cases s with
    | word w h => simp [TypeSuffix.text, stops, breaks]; decide
    | brackets => rfl

theorem tokens_suffixes (ss : List TypeSuffix) {rest : List Char} (hr : stops rest = true) :
    tokens escapes (ss.flatMap (·.text.toList) ++ rest)
      = ss.map TypeSuffix.token ++ tokens escapes rest := by
  induction ss with
  | nil => rfl
  | cons s ss ih =>
    rw [List.flatMap_cons, List.append_assoc, List.map_cons, List.cons_append, ← ih]
    cases s with
    | brackets => exact tokens_brackets _
    | word w h =>
      obtain ⟨hbare, hkey⟩ := typeContinuations_bare w h
      have htext : (TypeSuffix.word w h).text.toList = ' ' :: w.toList := by
        simp [TypeSuffix.text]
      rw [htext, List.cons_append, tokens_space, tokens_word hbare (stops_suffixes ss hr),
        wordToken, hkey]
      rfl

/-- A type is read as its words and suffixes. -/
theorem tokens_typeText (t : WrittenType) {rest : List Char} (hr : stops rest = true) :
    tokens escapes (t.text.toList ++ rest) = t.tokens ++ tokens escapes rest := by
  have htext : t.text.toList = t.word.toList ++ t.suffixes.flatMap (·.text.toList) := by
    rw [WrittenType.text, String.toList_append, String.toList_join, List.flatMap_map]
  rw [htext, List.append_assoc, tokens_word t.bare (stops_suffixes _ hr), wordToken, t.noKeyword,
    tokens_suffixes _ hr]
  rfl

/-- The tokens of a type do not depend on where it stands. -/
theorem tokens_isTypeText {typeName : String} (h : IsTypeText typeName) {rest : List Char}
    (hr : stops rest = true) :
    tokens escapes (typeName.toList ++ rest)
      = tokens false typeName.toList ++ tokens escapes rest := by
  obtain ⟨t, rfl⟩ := h
  have halone := @tokens_typeText false t [] rfl
  rw [List.append_nil, tokens_nil, List.append_nil] at halone
  rw [tokens_typeText t hr, halone]

end

/-- The tokens do not continue a type. -/
def endsType (ts : List Token) : Bool :=
  ts.head?.all fun t => t != .leftParen && t != .brackets && !continuesType t

theorem declaredTail_of_endsType {ts : List Token} (h : endsType ts = true) :
    declaredTail 0 ts = ("", ts) := by
  cases ts with
  | nil => rfl
  | cons t rest =>
    simp only [endsType, List.head?_cons, Option.all_some, Bool.and_eq_true, bne_iff_ne, ne_eq,
      Bool.not_eq_true'] at h
    simp [declaredTail, h.1.1, h.1.2, h.2]

/-- The suffixes of a type are put together again. -/
theorem declaredTail_suffixes (ss : List TypeSuffix) {ts : List Token} (h : endsType ts = true) :
    declaredTail 0 (ss.map TypeSuffix.token ++ ts)
      = (String.join (ss.map TypeSuffix.text), ts) := by
  induction ss with
  | nil => exact declaredTail_of_endsType h
  | cons s ss ih =>
    rw [List.map_cons, List.cons_append, List.map_cons, String.join_cons]
    cases s with
    | brackets => simp [TypeSuffix.token, declaredTail, ih, Token.text, TypeSuffix.text]
    | word w hw =>
      have hc := typeContinuations_continue w hw
      simp [TypeSuffix.token, declaredTail, ih, Token.text, TypeSuffix.text, hc]

/-! ## Columns -/

/-- The tokens of the flags of a column. -/
def flagTokens (c : Column) : List Token :=
  (if c.primaryKey then [.keyword .primary, .keyword .key] else [])
    ++ (if c.notNull then [.keyword .not, .keyword .null] else [])

/-- The flags of a column as they are written. -/
def flagText (c : Column) : List Char :=
  (if c.primaryKey then " PRIMARY KEY".toList else [])
    ++ (if c.notNull then " NOT NULL".toList else [])

/-- The tokens of the clause that defines a column. -/
def columnTokens (c : Column) : List Token :=
  nameToken c.name :: (tokens false c.typeName.toList ++ flagTokens c)

theorem toList_columnText (d : Dialect) (c : Column) :
    (columnText d c).toList
      = (quoteName d c.name).toList ++ ' ' :: (c.typeName.toList ++ flagText c) := by
  unfold columnText flagText
  by_cases hp : c.primaryKey = true <;> by_cases hn : c.notNull = true <;> simp [hp, hn]

section
variable {escapes : Bool}

theorem stops_flagText (c : Column) {rest : List Char} (hr : stops rest = true) :
    stops (flagText c ++ rest) = true := by
  unfold flagText
  by_cases hp : c.primaryKey = true
  · rw [if_pos hp]; rfl
  · by_cases hn : c.notNull = true
    · rw [if_neg hp, if_pos hn]; rfl
    · rw [if_neg hp, if_neg hn]; exact hr

theorem tokens_primaryKeyText {rest : List Char} (hr : stops rest = true) :
    tokens escapes (" PRIMARY KEY".toList ++ rest)
      = .keyword .primary :: .keyword .key :: tokens escapes rest := by
  have htext : " PRIMARY KEY".toList ++ rest
      = ' ' :: ("PRIMARY".toList ++ ' ' :: ("KEY".toList ++ rest)) := rfl
  rw [htext, tokens_space, tokens_keyword (k := .primary) "PRIMARY" (by decide) (by decide) rfl,
    tokens_space, tokens_keyword (k := .key) "KEY" (by decide) (by decide) hr]

theorem tokens_notNullText {rest : List Char} (hr : stops rest = true) :
    tokens escapes (" NOT NULL".toList ++ rest)
      = .keyword .not :: .keyword .null :: tokens escapes rest := by
  have htext : " NOT NULL".toList ++ rest
      = ' ' :: ("NOT".toList ++ ' ' :: ("NULL".toList ++ rest)) := rfl
  rw [htext, tokens_space, tokens_keyword (k := .not) "NOT" (by decide) (by decide) rfl,
    tokens_space, tokens_keyword (k := .null) "NULL" (by decide) (by decide) hr]

theorem tokens_flagText (c : Column) {rest : List Char} (hr : stops rest = true) :
    tokens escapes (flagText c ++ rest) = flagTokens c ++ tokens escapes rest := by
  have hnull : tokens escapes ((if c.notNull then " NOT NULL".toList else []) ++ rest)
      = (if c.notNull then [.keyword .not, .keyword .null] else []) ++ tokens escapes rest := by
    split
    · exact tokens_notNullText hr
    · rfl
  have hstop : stops ((if c.notNull then " NOT NULL".toList else []) ++ rest) = true := by
    split
    · rfl
    · exact hr
  unfold flagText flagTokens
  rw [List.append_assoc, List.append_assoc, ← hnull]
  split
  · exact tokens_primaryKeyText hstop
  · rfl

/-- The text of a column is read as its tokens. -/
theorem tokens_columnText (d : Dialect) {c : Column} (h : IsTypeText c.typeName)
    {rest : List Char} (hr : stops rest = true) :
    tokens escapes ((columnText d c).toList ++ rest) = columnTokens c ++ tokens escapes rest := by
  rw [toList_columnText, List.append_assoc, List.cons_append, List.append_assoc,
    tokens_quoteName d c.name rfl, tokens_space, tokens_isTypeText h (stops_flagText c hr),
    tokens_flagText c hr, columnTokens, List.cons_append, List.append_assoc]

end

theorem endsType_flagTokens (c : Column) : endsType (flagTokens c) = true := by
  unfold flagTokens
  by_cases hp : c.primaryKey = true <;> by_cases hn : c.notNull = true <;> simp [hp, hn] <;> rfl

/-- The flags of a column are its only modifiers. -/
theorem modifiers_flagTokens (name declared : String) (c : Column) :
    modifiers ⟨name, declared, false, false, none⟩ (flagTokens c)
      = .ok ⟨name, declared, c.primaryKey, c.notNull, none⟩ := by
  unfold flagTokens
  by_cases hp : c.primaryKey = true <;> by_cases hn : c.notNull = true <;>
    simp [hp, hn, modifiers, skipKeyword]

theorem readClause_nameToken (name : String) (rest : List Token) :
    readClause (nameToken name :: rest) = columnClause (nameToken name :: rest) := by
  have hres := isReserved_nameToken name
  unfold nameToken at hres ⊢
  split <;> simp_all [readClause]

/-- The tokens of a column say just what the column is, apart from its reference. -/
theorem readClause_columnTokens {c : Column} (hname : Text.allBlank c.name = false)
    (htype : IsTypeText c.typeName) :
    readClause (columnTokens c)
      = .ok (.column ⟨c.name, c.typeName, c.primaryKey, c.notNull, none⟩) := by
  obtain ⟨t, ht⟩ := htype
  have htokens : tokens false c.typeName.toList = t.tokens := by
    rw [← ht, ← List.append_nil t.text.toList, tokens_typeText t rfl, tokens_nil, List.append_nil]
  have htail := declaredTail_suffixes t.suffixes (endsType_flagTokens c)
  rw [columnTokens, readClause_nameToken, columnClause, columnName?_nameToken hname, htokens,
    WrittenType.tokens, List.cons_append]
  simp only [Token.name?, htail]
  rw [← WrittenType.text, ht, modifiers_flagTokens]
  rfl

/-! ## References -/

theorem nameToken_ne_leftParen (name : String) : nameToken name ≠ .leftParen := by
  unfold nameToken
  split <;> simp

/-- The tokens of the clause that declares the reference of the column `name`. -/
def referenceTokens (name : String) (r : ForeignKey) : List Token :=
  [.keyword .foreign, .keyword .key, .leftParen, nameToken name, .rightParen, .keyword .references,
    nameToken r.table, .leftParen, nameToken r.column, .rightParen]

/-- The clause that declares a reference. -/
def referenceText (d : Dialect) (name : String) (r : ForeignKey) : String :=
  "FOREIGN KEY (" ++ quoteName d name ++ ") REFERENCES " ++ quoteName d r.table ++ "("
    ++ quoteName d r.column ++ ")"

section
variable {escapes : Bool}

theorem tokens_foreignKeyText (rest : List Char) :
    tokens escapes ("FOREIGN KEY (".toList ++ rest)
      = .keyword .foreign :: .keyword .key :: .leftParen :: tokens escapes rest := by
  have htext : "FOREIGN KEY (".toList ++ rest
      = "FOREIGN".toList ++ ' ' :: ("KEY".toList ++ ' ' :: '(' :: rest) := rfl
  rw [htext, tokens_keyword (k := .foreign) "FOREIGN" (by decide) (by decide) rfl, tokens_space,
    tokens_keyword (k := .key) "KEY" (by decide) (by decide) rfl, tokens_space, tokens_leftParen]

theorem tokens_referencesText (rest : List Char) :
    tokens escapes (") REFERENCES ".toList ++ rest)
      = .rightParen :: .keyword .references :: tokens escapes rest := by
  have htext : ") REFERENCES ".toList ++ rest
      = ')' :: ' ' :: ("REFERENCES".toList ++ ' ' :: rest) := rfl
  rw [htext, tokens_rightParen, tokens_space,
    tokens_keyword (k := .references) "REFERENCES" (by decide) (by decide) rfl, tokens_space]

/-- The text of a reference is read as its tokens. -/
theorem tokens_referenceText (d : Dialect) (name : String) (r : ForeignKey) (rest : List Char) :
    tokens escapes ((referenceText d name r).toList ++ rest)
      = referenceTokens name r ++ tokens escapes rest := by
  have hopen : ∀ rest, "(".toList ++ rest = '(' :: rest := fun _ => rfl
  have hclose : ∀ rest, ")".toList ++ rest = ')' :: rest := fun _ => rfl
  have hreferences : ∀ rest, stops (") REFERENCES ".toList ++ rest) = true := fun _ => rfl
  unfold referenceText
  simp only [String.toList_append, List.append_assoc]
  rw [tokens_foreignKeyText, tokens_quoteName d name (hreferences _), tokens_referencesText, hopen,
    tokens_quoteName d r.table rfl, tokens_leftParen, hclose, tokens_quoteName d r.column rfl,
    tokens_rightParen]
  simp only [referenceTokens, List.cons_append, List.nil_append]

end

/-- A list of one name in parentheses. -/
theorem columnList?_nameToken {name : String} (h : Text.allBlank name = false)
    (rest : List Token) :
    columnList? (.leftParen :: nameToken name :: .rightParen :: rest) = .ok ([name], rest) := by
  have hname := columnName?_nameToken h
  have hread : columnNames 0 true (nameToken name :: .rightParen :: rest) = ([name], rest) := by
    unfold nameToken at hname ⊢
    split <;> simp_all [columnNames]
  simp [columnList?, hread]

theorem reference?_nameToken {r : ForeignKey} (ht : Text.allBlank r.table = false)
    (hc : Text.allBlank r.column = false) :
    reference? [nameToken r.table, .leftParen, nameToken r.column, .rightParen]
      = .ok (⟨r.table, [r.column]⟩, []) := by
  simp [reference?, qualifiedName?, name?_nameToken ht, qualifiedTail, columnList?_nameToken hc,
    Except.map]

/-- The tokens of a reference say which column refers to which. -/
theorem readClause_referenceTokens {name : String} {r : ForeignKey}
    (hn : Text.allBlank name = false) (ht : Text.allBlank r.table = false)
    (hc : Text.allBlank r.column = false) :
    readClause (referenceTokens name r)
      = .ok (.foreignKey [name] ⟨r.table, [r.column]⟩) := by
  have hindex : skipIndexName (.leftParen :: nameToken name :: .rightParen ::
      .keyword .references :: [nameToken r.table, .leftParen, nameToken r.column, .rightParen])
      = .leftParen :: nameToken name :: .rightParen :: .keyword .references ::
        [nameToken r.table, .leftParen, nameToken r.column, .rightParen] := by
    rw [skipIndexName]
    intro _ _ h
    rw [List.cons.injEq, List.cons.injEq] at h
    exact nameToken_ne_leftParen name h.2.1
  simp only [referenceTokens, readClause, foreignKeyClause, skipKeyword, ↓reduceIte, hindex,
    columnList?_nameToken hn, foreignKeyTarget, reference?_nameToken ht hc]
  simp

/-! ## The clauses of a table -/

/-- A clause as it is written. -/
inductive WrittenClause where
  | column (c : Column)
  | reference (name : String) (r : ForeignKey)

namespace WrittenClause

def text (d : Dialect) : WrittenClause → String
  | column c => columnText d c
  | reference name r => referenceText d name r

def tokens : WrittenClause → List Token
  | column c => columnTokens c
  | reference name r => referenceTokens name r

/-- What the clause is read as. -/
def meaning : WrittenClause → Clause
  | column c => .column ⟨c.name, c.typeName, c.primaryKey, c.notNull, none⟩
  | reference name r => .foreignKey [name] ⟨r.table, [r.column]⟩

/-- The names are names, and the type has the form of a type. -/
def Readable : WrittenClause → Prop
  | column c => Text.allBlank c.name = false ∧ IsTypeText c.typeName
  | reference name r =>
    Text.allBlank name = false ∧ Text.allBlank r.table = false ∧ Text.allBlank r.column = false

theorem tokens_text {escapes : Bool} (d : Dialect) {clause : WrittenClause}
    (h : clause.Readable) {rest : List Char} (hr : stops rest = true) :
    Sql.tokens escapes ((clause.text d).toList ++ rest)
      = clause.tokens ++ Sql.tokens escapes rest := by
  cases clause with
  | column c => exact tokens_columnText d h.2 hr
  | reference name r => exact tokens_referenceText d name r rest

/-- A clause is read back as what it was written for. -/
theorem readClause_tokens {clause : WrittenClause} (h : clause.Readable) :
    readClause clause.tokens = .ok clause.meaning := by
  cases clause with
  | column c => exact readClause_columnTokens h.1 h.2
  | reference name r => exact readClause_referenceTokens h.1 h.2.1 h.2.2

theorem tokens_ne_nil (clause : WrittenClause) : clause.tokens ≠ [] := by
  cases clause <;> simp [tokens, columnTokens, referenceTokens]

theorem plain_typeTokens {typeName : String} (h : IsTypeText typeName) :
    ∀ t ∈ Sql.tokens false typeName.toList, t ≠ .leftParen ∧ t ≠ .rightParen ∧ t ≠ .comma := by
  obtain ⟨w, rfl⟩ := h
  have hread := @tokens_typeText false w [] rfl
  rw [List.append_nil, tokens_nil, List.append_nil] at hread
  rw [hread, WrittenType.tokens]
  intro t ht
  rcases List.mem_cons.1 ht with rfl | ht
  · simp
  · obtain ⟨s, -, rfl⟩ := List.mem_map.1 ht
    cases s <;> simp [TypeSuffix.token]

theorem plain_nameToken (name : String) :
    nameToken name ≠ .leftParen ∧ nameToken name ≠ .rightParen ∧ nameToken name ≠ .comma := by
  unfold nameToken
  split <;> simp

theorem plain_flagTokens (c : Column) :
    ∀ t ∈ flagTokens c, t ≠ .leftParen ∧ t ≠ .rightParen ∧ t ≠ .comma := by
  unfold flagTokens
  by_cases hp : c.primaryKey = true <;> by_cases hn : c.notNull = true <;> simp [hp, hn]

/-- A written clause is never split. -/
theorem whole_tokens {clause : WrittenClause} (h : clause.Readable) : Whole clause.tokens := by
  cases clause with
  | column c =>
    refine Whole.of_forall fun t ht => ?_
    rcases List.mem_cons.1 ht with rfl | ht
    · exact plain_nameToken c.name
    · rcases List.mem_append.1 ht with ht | ht
      · exact plain_typeTokens h.2 t ht
      · exact plain_flagTokens c t ht
  | reference name r =>
    have hlist : ∀ (n : String) {ts : List Token}, Whole ts →
        Whole (.leftParen :: ([nameToken n] ++ .rightParen :: ts)) := by
      intro n ts hts
      obtain ⟨hl, hr, -⟩ := plain_nameToken n
      exact .group (.token hl hr .nil) hts
    obtain ⟨hl, hr, hc⟩ := plain_nameToken r.table
    have hend := hlist r.column .nil
    have hmiddle := hlist name
      (.token (t := .keyword .references) (by simp) (by simp) (by simp) (.token hl hr hc hend))
    exact .token (by simp) (by simp) (by simp) (.token (by simp) (by simp) (by simp) hmiddle)

end WrittenClause

/-- The columns of a table that have a reference, each with it. -/
def references (t : TableDefinition) : List (String × ForeignKey) :=
  t.columns.filterMap fun c => c.foreignKey.map fun r => (c.name, r)

/-- The clauses of a table in the order in which they are written. -/
def writtenClauses (t : TableDefinition) : List WrittenClause :=
  t.columns.map .column ++ (references t).map fun p => .reference p.1 p.2

theorem clauseTexts_eq (d : Dialect) (t : TableDefinition) :
    clauseTexts d t = (writtenClauses t).map (·.text d) := by
  have href : t.columns.filterMap (referenceText? d)
      = (references t).map fun p => referenceText d p.1 p.2 := by
    rw [references, List.map_filterMap]
    congr 1
    funext c
    rw [Option.map_map]
    rfl
  rw [clauseTexts, writtenClauses, List.map_append, List.map_map, List.map_map, href]
  rfl

theorem mem_references {t : TableDefinition} {p : String × ForeignKey} :
    p ∈ references t ↔ ∃ c ∈ t.columns, c.name = p.1 ∧ c.foreignKey = some p.2 := by
  rw [references, List.mem_filterMap]
  constructor
  · rintro ⟨c, hc, hp⟩
    obtain ⟨r, hr, rfl⟩ := Option.map_eq_some_iff.1 hp
    exact ⟨c, hc, rfl, hr⟩
  · rintro ⟨c, hc, hname, hr⟩
    exact ⟨c, hc, by rw [hr, Option.map_some, hname]⟩

/-! ## Tables that can be read back -/

/-- The table and its columns have names, and so have the targets of its references; no two columns
share a name; the types have the form of types. -/
structure Writable (t : TableDefinition) : Prop where
  name : Text.allBlank t.name = false
  columnName : ∀ c ∈ t.columns, Text.allBlank c.name = false
  columnType : ∀ c ∈ t.columns, IsTypeText c.typeName
  distinct : (t.columns.map (·.name)).Nodup
  target : ∀ c ∈ t.columns, ∀ r, c.foreignKey = some r →
    Text.allBlank r.table = false ∧ Text.allBlank r.column = false

theorem Writable.readable {t : TableDefinition} (h : Writable t) :
    ∀ c ∈ writtenClauses t, c.Readable := by
  intro clause hclause
  rw [writtenClauses, List.mem_append, List.mem_map, List.mem_map] at hclause
  rcases hclause with ⟨c, hc, rfl⟩ | ⟨p, hp, rfl⟩
  · exact ⟨h.columnName c hc, h.columnType c hc⟩
  · obtain ⟨c, hc, hname, hr⟩ := mem_references.1 hp
    exact ⟨hname ▸ h.columnName c hc, h.target c hc p.2 hr⟩

end SchemaGraph.Sql
