import SchemaGraph.Proofs.Canvas.PlacementOrder
import SchemaGraph.Proofs.Sql.KeyForm
import SchemaGraph.Proofs.Sql.Unplaced
import SchemaGraph.Proofs.Sql.Validity

/-!
# Clauses about indexes

A schema keeps no indexes, and the words of a clause about an index may as well begin a column that
is called `key` or `index`. The clause is skipped if the index has a name, or no method; a method
without a name before it makes the clause a column (`IndexForm.readClause_tokens`). A clause that is
skipped makes no difference to its script, wherever it stands.
-/

namespace SchemaGraph.Sql

/-! ## Forms -/

/-- An entry of an index: an identifier other than the bare word `MAX`, perhaps with a length in
parentheses and a word for the order. -/
structure IndexEntry where
  column : Token
  named : column.name?.isSome = true
  notMax : column.isWord "MAX" = false
  length : Option String
  order : Option String

/-- The method of an index, after the word `USING`. -/
structure IndexMethod where
  word : String
  isUsing : Text.sameWord word "USING" = true
  method : String

/-- A clause about an index. -/
structure IndexForm where
  /-- The clause begins with `INDEX`, and not with `KEY`. -/
  index : Bool
  name : Option {t : Token // t.name?.isSome = true}
  method : Option IndexMethod
  first : IndexEntry
  more : List IndexEntry

namespace IndexEntry

/-- The length in parentheses. -/
def lengthTokens : Option String → List Token
  | none => []
  | some n => [.leftParen, .number n, .rightParen]

def tokens (e : IndexEntry) : List Token :=
  e.column :: (lengthTokens e.length ++ (e.order.map .word).toList)

theorem nested (e : IndexEntry) : Nested e.tokens := by
  have hlength : Nested (lengthTokens e.length) := by
    cases e.length with
    | none => exact .nil
    | some n => exact .group (.token (t := .number n) (by simp) (by simp) .nil) .nil
  have horder : Nested (e.order.map Token.word).toList := by
    refine .of_forall fun t ht => ?_
    obtain ⟨w, -, rfl⟩ := Option.map_eq_some_iff.1 (Option.mem_toList.1 ht)
    simp
  have hplain := isPlain_of_name? e.named
  refine .token ?_ ?_ (hlength.append horder) <;> rintro heq <;> rw [heq] at hplain <;> cases hplain

end IndexEntry

namespace IndexForm

/-- The word that the clause begins with. -/
def keyword (f : IndexForm) : Keyword := if f.index then .index else .key

/-- The column that the clause would be taken for. -/
def column (f : IndexForm) : String := if f.index then "index" else "key"

def methodTokens : Option IndexMethod → List Token
  | none => []
  | some m => [.word m.word, .word m.method]

/-- The entries with commas between them. -/
def entryTokens (f : IndexForm) : List Token :=
  f.first.tokens ++ f.more.flatMap fun e => .comma :: e.tokens

/-- The clause after its first word. -/
def rest (f : IndexForm) : List Token :=
  (f.name.map (·.1)).toList ++
    (methodTokens f.method ++ .leftParen :: (f.entryTokens ++ [.rightParen]))

def tokens (f : IndexForm) : List Token := .keyword f.keyword :: f.rest

/-- The index has a name, or no method. (A method that is called `USING` itself does no harm.) -/
def recognized (f : IndexForm) : Bool :=
  f.name.isSome || f.method.all fun m => Text.sameWord m.method "USING"

theorem nested_entryTokens (f : IndexForm) : Nested f.entryTokens := by
  refine f.first.nested.append ?_
  induction f.more with
  | nil => exact .nil
  | cons e more ih => exact .token (by simp) (by simp) (e.nested.append ih)

/-- The clause is never split. -/
theorem whole_tokens (f : IndexForm) : Whole f.tokens := by
  have hname : Whole (f.name.map (·.1)).toList := by
    refine whole_of_isPlain fun t ht => ?_
    obtain ⟨u, -, rfl⟩ := Option.map_eq_some_iff.1 (Option.mem_toList.1 ht)
    exact isPlain_of_name? u.2
  have hmethod : Whole (methodTokens f.method) := by
    cases f.method with
    | none => exact .nil
    | some m => exact .of_forall (by simp [methodTokens])
  exact .token (by simp) (by simp) (by simp)
    (hname.append (hmethod.append (.group f.nested_entryTokens .nil)))

/-- Up to three tokens are looked at to tell the clause from a column. -/
theorem isIndexClause_rest (f : IndexForm) : isIndexClause f.rest = f.recognized := by
  have hlists : listsColumns (f.entryTokens ++ [.rightParen]) = true := by
    have hnamed := f.first.named
    have hmax := f.first.notMax
    simp only [entryTokens, IndexEntry.tokens, List.cons_append]
    cases hcolumn : f.first.column <;> simp_all [listsColumns, Token.name?]
  obtain ⟨index, name, method, first, more⟩ := f
  cases name with
  | none =>
    cases method with
    | none => rfl
    | some m => simp [rest, methodTokens, isIndexClause, Token.name?, Token.isWord, recognized]
  | some t =>
    have hopen : t.1 ≠ .leftParen := fun heq => by
      have hnamed := t.2
      rw [heq] at hnamed
      cases hnamed
    cases method with
    | none => simp [rest, methodTokens, isIndexClause, t.2, hlists, recognized]
    | some m => simp [rest, methodTokens, isIndexClause, t.2, Token.isWord, m.isUsing, recognized]

theorem readClause_eq (f : IndexForm) :
    readClause f.tokens = if f.recognized then .ok .skipped else columnClause f.tokens := by
  rw [← isIndexClause_rest, tokens, keyword]
  cases f.index <;> rfl

theorem shape_of_not_recognized {f : IndexForm} (h : f.recognized = false) :
    f.name = none ∧ ∃ m, f.method = some m := by
  rw [recognized, Bool.or_eq_false_iff, Option.isSome_eq_false_iff, Option.isNone_iff_eq_none] at h
  refine ⟨h.1, Option.isSome_iff_exists.1 ?_⟩
  cases hmethod : f.method with
  | none => simp [hmethod] at h
  | some m => rfl

/-- A clause without the name of its index, but with a method, is read as a column. -/
theorem readClause_column (f : IndexForm) (h : f.recognized = false) :
    ∃ declared, readClause f.tokens = .ok (.column ⟨f.column, declared, false, false, none⟩) := by
  obtain ⟨hname, m, hmethod⟩ := shape_of_not_recognized h
  have hcolumn : columnName? (.keyword f.keyword) = some f.column := by
    rw [keyword, column]
    cases f.index <;> rfl
  have hrest : f.rest
      = .word m.word :: .word m.method :: .leftParen :: (f.entryTokens ++ [.rightParen]) := by
    rw [rest, hname, hmethod]
    rfl
  -- The word before the method is taken for a type, and nothing else counts.
  have hidle : Idle (.word m.method :: .leftParen :: (f.entryTokens ++ [.rightParen])) :=
    .token (by simp) (by simp) (by simp) (by simp) (.group f.nested_entryTokens .nil)
  obtain ⟨text, left, hleft, htail⟩ := declaredTail_idle hidle
  have hread := htail [] rfl
  have hmodifiers := modifiers_idle hleft ⟨f.column, m.word ++ text, false, false, none⟩ []
  rw [List.append_nil, List.append_nil] at hread
  rw [List.append_nil, modifiers] at hmodifiers
  refine ⟨m.word ++ text, ?_⟩
  rw [readClause_eq, if_neg (by simp [h]), tokens, hrest, columnClause_eq hcolumn rfl, hread,
    hmodifiers]
  rfl

/-- The clause is skipped exactly if the index has a name, or no method. -/
theorem readClause_tokens (f : IndexForm) :
    readClause f.tokens = .ok .skipped ↔ f.recognized = true := by
  cases hrecognized : f.recognized with
  | true => simp [readClause_eq, hrecognized]
  | false =>
    obtain ⟨declared, hread⟩ := f.readClause_column hrecognized
    simp [hread]

end IndexForm

/-! ## Bodies with more indexes -/

/-- The second list of clauses has clauses about indexes besides those of the first. -/
inductive WithIndexes : List (List Token) → List (List Token) → Prop where
  | nil : WithIndexes [] []
  | keep (clause : List Token) {clauses clauses' : List (List Token)}
    (h : WithIndexes clauses clauses') : WithIndexes (clause :: clauses) (clause :: clauses')
  | index (f : IndexForm) (hf : f.recognized = true) {clauses clauses' : List (List Token)}
    (h : WithIndexes clauses clauses') : WithIndexes clauses (f.tokens :: clauses')

theorem WithIndexes.withSkipped {clauses clauses' : List (List Token)}
    (h : WithIndexes clauses clauses') : WithSkipped clauses clauses' := by
  induction h with
  | nil => exact .nil
  | keep clause _ ih => exact .keep clause ih
  | index f hf _ ih => exact .skip (f.readClause_tokens.2 hf) ih

/-- The statements are the same but for more indexes in the body of the second one. -/
inductive Statement.WithIndexes : Statement → Statement → Prop where
  | same (s : Statement) : WithIndexes s s
  | createTable (name : String) {body body' : List Token} (closed : Bool)
    (h : Sql.WithIndexes (splitClauses body) (splitClauses body')) :
    WithIndexes (.createTable name body closed) (.createTable name body' closed)

theorem Statement.WithIndexes.withSkipped {s s' : Statement} (h : s.WithIndexes s') :
    s.WithSkipped s' := by
  cases h with
  | same => exact .same s
  | createTable name closed h => exact .createTable name closed h.withSkipped

/-- **A clause about an index is skipped exactly if the index has a name, or no method, and then it
makes no difference.** Of two texts the second one has such clauses anywhere in the bodies of its
tables, besides what the first one has. Apart from the positions of clauses in reports both are read
as the same script, and under whatever identities its tables are placed, they have the same
places. -/
theorem indexes_of_readScript {d : Dialect} {text text' : String}
    (h : List.Forall₂ Statement.WithIndexes (statements (tokens d.backslashEscapes text.toList))
      (statements (tokens d.backslashEscapes text'.toList))) :
    (∀ f : IndexForm, Whole f.tokens ∧
      (readClause f.tokens = .ok .skipped ↔ f.recognized = true)) ∧
    (readScript d text).map Script.unplaced = (readScript d text').map Script.unplaced ∧
    ∀ script script', readScript d text = .ok script → readScript d text' = .ok script' →
      ∀ {K : Type} [Scalar K] (metrics : Canvas.TableMetrics K) (ids ids' : IdSupply),
        (Workspace.tablesOf metrics ids script).1.map Table.content
          = (Workspace.tablesOf metrics ids' script').1.map Table.content := by
  have hsame := readScript_of_withSkipped (h.imp fun _ _ hs => hs.withSkipped)
  refine ⟨fun f => ⟨f.whole_tokens, f.readClause_tokens⟩, hsame,
    fun script script' hread hread' K _ metrics ids ids' => ?_⟩
  rw [hread, hread'] at hsame
  have hunplaced : script.unplaced = script'.unplaced := Except.ok.inj hsame
  have hdefs : script.definitions = script'.definitions := by
    show script.unplaced.definitions = script'.unplaced.definitions
    rw [hunplaced]
  rw [content_tablesOf metrics ids (closed_definitions hread).distinct,
    content_tablesOf metrics ids' (closed_definitions hread').distinct, hdefs]

/-! ## Three indexes -/

/-- A table with a column that is defined twice. -/
def plainText : String := "CREATE TABLE t (id INT PRIMARY KEY, id TEXT)"

/-- The same table with three indexes. -/
def indexedText : String :=
  "CREATE TABLE t (KEY (id), id INT PRIMARY KEY,
    INDEX by_id USING BTREE (id DESC, name(10)), id TEXT, KEY [k] (id))"

def unnamedIndex : IndexForm where
  index := false
  name := none
  method := none
  first := ⟨.word "id", rfl, by decide, none, none⟩
  more := []

def methodIndex : IndexForm where
  index := true
  name := some ⟨.word "by_id", rfl⟩
  method := some ⟨"USING", by decide, "BTREE"⟩
  first := ⟨.word "id", rfl, by decide, none, some "DESC"⟩
  more := [⟨.word "name", rfl, by decide, some "10", none⟩]

def namedIndex : IndexForm where
  index := false
  name := some ⟨.quoted "k", by decide⟩
  method := none
  first := ⟨.word "id", rfl, by decide, none, none⟩
  more := []

/-- An index with a method and without a name is taken for a column. -/
def methodOnlyIndex : IndexForm where
  index := false
  name := none
  method := some ⟨"USING", by decide, "BTREE"⟩
  first := ⟨.word "id", rfl, by decide, none, none⟩
  more := []

/-- The three indexes move a report, and do nothing else. A fourth one would be a column. -/
theorem indexes_of_indexedText :
    ∃ script script', readScript .standard plainText = .ok script ∧
      readScript .standard indexedText = .ok script' ∧ script.unplaced = script'.unplaced ∧
      script.diagnostics = [⟨"t", some 1, "id TEXT", .duplicateColumn "id"⟩] ∧
      script'.diagnostics = [⟨"t", some 3, "id TEXT", .duplicateColumn "id"⟩] ∧
      readClause methodOnlyIndex.tokens ≠ .ok .skipped := by
  have hplain : ∃ body, statements (tokens Dialect.standard.backslashEscapes plainText.toList)
        = [.createTable "t" body true] ∧
      splitClauses body = [[.word "id", .word "INT", .keyword .primary, .keyword .key],
        [.word "id", .word "TEXT"]] := by
    refine ⟨[.word "id", .word "INT", .keyword .primary, .keyword .key, .comma, .word "id",
      .word "TEXT"], ?_, by decide⟩
    rw [plainText, String.toList_ofList]
    decide +kernel
  have hindexed : ∃ body, statements (tokens Dialect.standard.backslashEscapes indexedText.toList)
        = [.createTable "t" body true] ∧
      splitClauses body = [unnamedIndex.tokens,
        [.word "id", .word "INT", .keyword .primary, .keyword .key], methodIndex.tokens,
        [.word "id", .word "TEXT"], namedIndex.tokens] := by
    refine ⟨joinClauses [unnamedIndex.tokens,
        [.word "id", .word "INT", .keyword .primary, .keyword .key], methodIndex.tokens,
        [.word "id", .word "TEXT"], namedIndex.tokens], ?_, by decide +kernel⟩
    rw [indexedText, String.toList_ofList]
    decide +kernel
  obtain ⟨body, hstatements, hclauses⟩ := hplain
  obtain ⟨body', hstatements', hclauses'⟩ := hindexed
  have hmore : List.Forall₂ Statement.WithIndexes
      (statements (tokens Dialect.standard.backslashEscapes plainText.toList))
      (statements (tokens Dialect.standard.backslashEscapes indexedText.toList)) := by
    rw [hstatements, hstatements']
    refine .cons (.createTable "t" true ?_) .nil
    rw [hclauses, hclauses']
    exact .index _ rfl (.keep _ (.index _ rfl (.keep _ (.index _ rfl .nil))))
  obtain ⟨script, hread, hreports⟩ := @exists_script_map _ .standard plainText (·.diagnostics)
    [⟨"t", some 1, "id TEXT", .duplicateColumn "id"⟩] (by
      rw [readScript, plainText, String.toList_ofList]
      decide +kernel)
  obtain ⟨script', hread', hreports'⟩ := @exists_script_map _ .standard indexedText (·.diagnostics)
    [⟨"t", some 3, "id TEXT", .duplicateColumn "id"⟩] (by
      rw [readScript, indexedText, String.toList_ofList]
      decide +kernel)
  obtain ⟨hforms, hsame, -⟩ := indexes_of_readScript hmore
  rw [hread, hread'] at hsame
  refine ⟨script, script', hread, hread', Except.ok.inj hsame, hreports, hreports',
    fun hskipped => ?_⟩
  have hrecognized := (hforms methodOnlyIndex).2.1 hskipped
  revert hrecognized
  decide

end SchemaGraph.Sql
