import SchemaGraph.Proofs.Sql.CompleteText
import SchemaGraph.Proofs.Sql.TableStatement

/-!
# Scripts of `CREATE TABLE` statements

The text of a statement is any complete text that is read as its tokens. A script is made of such
texts, each with or without a semicolon and with white space after it (`Entry`). It is cut into its
statements whichever of them end with a semicolon (`statements_scriptText`).
-/

namespace SchemaGraph.Sql

/-! ## Entries -/

/-- A statement as it stands in a script. -/
structure Entry (escapes : Bool) where
  text : String
  /-- The statement ends with a semicolon. -/
  semicolon : Bool
  /-- The white space after it. -/
  gap : String
  statement : TableStatement
  text_read : tokens escapes text.toList = statement.tokens
  text_complete : Complete escapes text.toList
  gap_blank : Text.allBlank gap = true

variable {escapes : Bool}

namespace Entry

/-- The characters of the entry. -/
def chars (e : Entry escapes) : List Char :=
  e.text.toList ++ ((if e.semicolon then [';'] else []) ++ e.gap.toList)

/-- The tokens of the entry. -/
def tokens (e : Entry escapes) : List Token :=
  e.statement.tokens ++ if e.semicolon then [.semicolon] else []

end Entry

/-- The script that the entries make up. -/
def scriptText (es : List (Entry escapes)) : String := String.ofList (es.flatMap Entry.chars)

/-- No entry runs on into the next one: if there is no semicolon between two words there is white
space. -/
def Separated : List (Entry escapes) → Prop
  | [] => True
  | e :: es => Apart e.chars (es.flatMap Entry.chars) ∧ Separated es

theorem tokens_blank {gap : List Char} (h : gap.all Text.isBlank = true) (rest : List Char) :
    tokens escapes (gap ++ rest) = tokens escapes rest := by
  induction gap with
  | nil => rfl
  | cons c gap ih =>
    rw [List.all_cons, Bool.and_eq_true] at h
    have hdrop : dropLayout? c (gap ++ rest) = some (gap ++ rest) := by simp [dropLayout?, h.1]
    rw [List.cons_append, tokens_of_dropLayout hdrop, ih h.2]

/-- White space keeps apart. -/
theorem apart_blank {text gap rest : List Char} (hgap : gap.all Text.isBlank = true)
    (h : Apart (text ++ gap) rest) : Apart text (gap ++ rest) := by
  cases gap with
  | nil => rwa [List.append_nil] at h
  | cons c gap =>
    rw [List.all_cons, Bool.and_eq_true] at hgap
    refine Or.inr ?_
    rw [List.cons_append, List.head?_cons, Option.all_some, separates, hgap.1]
    rfl

/-- An entry is read on its own, whatever it is followed by. -/
theorem tokens_entry (e : Entry escapes) {rest : List Char} (h : Apart e.chars rest) :
    tokens escapes (e.chars ++ rest) = e.tokens ++ tokens escapes rest := by
  have hgap : e.gap.toList.all Text.isBlank = true := e.gap_blank
  have hafter : ∀ after, Apart e.text.toList after →
      tokens escapes (e.text.toList ++ after) = e.statement.tokens ++ tokens escapes after := by
    intro after ha
    rw [tokens_append e.text_complete ha, e.text_read]
  unfold Entry.chars Entry.tokens at *
  generalize e.semicolon = semicolon at h ⊢
  cases semicolon with
  | true =>
    have hsemicolon : e.text.toList ++ ((if true = true then [';'] else []) ++ e.gap.toList) ++ rest
        = e.text.toList ++ ';' :: (e.gap.toList ++ rest) := by simp
    rw [hsemicolon, hafter _ (Or.inr rfl), tokens_semicolon, tokens_blank hgap]
    simp
  | false =>
    have hnone : e.text.toList ++ ((if false = true then [';'] else []) ++ e.gap.toList) ++ rest
        = e.text.toList ++ (e.gap.toList ++ rest) := by simp
    rw [hnone, hafter, tokens_blank hgap]
    · simp
    · exact apart_blank hgap h

/-- The tokens of a script are those of its entries. -/
theorem tokens_scriptText {es : List (Entry escapes)} (h : Separated es) :
    tokens escapes (es.flatMap Entry.chars) = es.flatMap Entry.tokens := by
  induction es with
  | nil => exact tokens_nil escapes
  | cons e es ih =>
    rw [List.flatMap_cons, List.flatMap_cons, tokens_entry e h.1, ih h.2]

/-- Without a semicolon a statement ends where the next one begins, or with the script. -/
theorem skipStatement_entries (es : List (Entry escapes)) :
    skipStatement (es.flatMap Entry.tokens) = es.flatMap Entry.tokens := by
  cases es with
  | nil => rfl
  | cons e es => rfl

theorem statements_entries (es : List (Entry escapes)) :
    statements (es.flatMap Entry.tokens) = es.map (·.statement.statement) := by
  induction es with
  | nil =>
    rw [List.flatMap_nil, statements]
    rfl
  | cons e es ih =>
    rw [List.flatMap_cons, Entry.tokens, List.append_assoc, statements_tableStatement,
      List.map_cons]
    congr 1
    rw [← ih]
    congr 1
    cases e.semicolon with
    | true => rfl
    | false => exact skipStatement_entries es

/-- A script is read as its statements, one for each entry. -/
theorem statements_scriptText {es : List (Entry escapes)} (h : Separated es) :
    statements (tokens escapes (scriptText es).toList) = es.map (·.statement.statement) := by
  rw [scriptText, String.toList_ofList, tokens_scriptText h, statements_entries]

end SchemaGraph.Sql
