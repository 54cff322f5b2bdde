import Mathlib.Data.List.Chain
import SchemaGraph.Proofs.Sql.KeyForm

/-!
# The order of modifiers

A column is a name, a type and modifiers in any order. Each of them is read on its own and adds its
property, so the order does not matter, but for one case: the last word of `ON DELETE SET DEFAULT`
is taken for a default, which has the next word for its value. The modifier that this word begins
is lost (`readClause_modified`).
-/

namespace SchemaGraph.Sql

/-! ## Modifiers -/

/-- A name, bare or quoted. -/
abbrev Identifier := {t : Token // t.name?.isSome = true}

/-- A bare word, in any case. -/
structure Spelled (word : String) where
  text : String
  same : Text.sameWord text word = true

/-- The value of a default. -/
inductive DefaultValue where
  | literal (s : String)
  | number (s : String)
  | null
  | name (n : Identifier)
  | group (inner : List Token) (h : Nested inner)
  | call (f : Identifier) (arguments : List Token) (h : Nested arguments)

/-- What is done when the target of a reference changes. -/
inductive Reaction where
  | cascade (w : Spelled "CASCADE")
  | restrict (w : Spelled "RESTRICT")
  | noAction (w : Spelled "NO") (v : Spelled "ACTION")
  | setNull (w : Spelled "SET")
  | setDefault (w : Spelled "SET")

/-- The change that is reacted to. -/
inductive Change where
  | delete (w : Spelled "DELETE")
  | update (w : Spelled "UPDATE")

/-- A modifier of a column. -/
inductive Modifier where
  | primaryKey
  | notNull
  | null
  | unique
  | default (v : DefaultValue)
  | check (inner : List Token) (h : Nested inner)
  | constraint (n : Identifier)
  | collate (w : Spelled "COLLATE") (n : Identifier)
  | references (table : QualifiedName) (column : Option ColumnName)
      (rules : List (Change × Reaction))

/-- A group with its parentheses. -/
def groupTokens (inner : List Token) : List Token := .leftParen :: (inner ++ [.rightParen])

def DefaultValue.tokens : DefaultValue → List Token
  | literal s => [.literal s]
  | number s => [.number s]
  | null => [.keyword .null]
  | name n => [n.1]
  | group inner _ => groupTokens inner
  | call f arguments _ => f.1 :: groupTokens arguments

def Reaction.tokens : Reaction → List Token
  | cascade w => [.word w.text]
  | restrict w => [.word w.text]
  | noAction w v => [.word w.text, .word v.text]
  | setNull w => [.word w.text, .keyword .null]
  | setDefault w => [.word w.text, .keyword .default]

def Reaction.setsDefault : Reaction → Bool
  | setDefault _ => true
  | _ => false

def Change.word : Change → String
  | delete w => w.text
  | update w => w.text

/-- The tokens of `ON DELETE` or `ON UPDATE` with the reaction. -/
def ruleTokens (rule : Change × Reaction) : List Token :=
  .keyword .on :: .word rule.1.word :: rule.2.tokens

namespace Modifier

def tokens : Modifier → List Token
  | primaryKey => [.keyword .primary, .keyword .key]
  | notNull => [.keyword .not, .keyword .null]
  | null => [.keyword .null]
  | unique => [.keyword .unique]
  | default v => .keyword .default :: v.tokens
  | check inner _ => .keyword .check :: groupTokens inner
  | constraint n => [.keyword .constraint, n.1]
  | collate w n => [.word w.text, n.1]
  | references table column rules =>
    .keyword .references ::
      (table.tokens ++ (KeyForm.columnTokens column ++ rules.flatMap ruleTokens))

def isPrimaryKey : Modifier → Bool
  | primaryKey => true
  | _ => false

def isNotNull : Modifier → Bool
  | notNull => true
  | _ => false

/-- The target of a reference. -/
def target? : Modifier → Option Reference
  | references table column _ => some (KeyForm.target table column)
  | _ => none

/-- The modifier has to do with keys or nulls. -/
def tells (m : Modifier) : Bool := m.isPrimaryKey || m.isNotNull || m.target?.isSome

/-- The modifier is a reference that ends with `SET DEFAULT`. -/
def endsWithDefault : Modifier → Bool
  | references _ _ rules => rules.getLast?.any (·.2.setsDefault)
  | _ => false

/-- The column with what the modifier says. -/
def apply (c : ColumnClause) : Modifier → ColumnClause
  | primaryKey => { c with primaryKey := true }
  | notNull => { c with notNull := true }
  | references table column _ => { c with reference := some (KeyForm.target table column) }
  | _ => c

end Modifier

/-- The column shows what the modifiers say: a key, if one of them is `PRIMARY KEY`; no nulls, if
one is `NOT NULL`; and the target of the last reference. -/
structure Shows (c : ColumnClause) (ms : List Modifier) : Prop where
  primaryKey : c.primaryKey = true ↔ ∃ m ∈ ms, m.isPrimaryKey = true
  notNull : c.notNull = true ↔ ∃ m ∈ ms, m.isNotNull = true
  reference : c.reference = (ms.filterMap Modifier.target?).getLast?

/-- The modifiers that count: not those right after a `SET DEFAULT`, which `lost` says of the
first. -/
def counted (lost : Bool) : List Modifier → List Modifier
  | [] => []
  | m :: ms => (if lost then [] else [m]) ++ counted m.endsWithDefault ms

/-! ## One modifier -/

/-- The token begins no modifier. -/
def Token.isPassed (t : Token) : Bool :=
  t ∉ [.leftParen, .keyword .primary, .keyword .not, .keyword .references, .keyword .default,
    .keyword .check, .keyword .constraint]

theorem Token.isPassed_of_name? {t : Token} (h : t.name?.isSome = true) : t.isPassed = true := by
  cases t with
  | keyword k => cases h
  | word s => simp [isPassed]
  | quoted s => simp [isPassed]
  | _ => cases h

theorem Token.ne_leftParen_of_isPassed {t : Token} (h : t.isPassed = true) : t ≠ .leftParen := by
  rintro rfl
  cases h

theorem modifiers_passed {ts : List Token} (h : ∀ t ∈ ts, t.isPassed = true) (c : ColumnClause)
    (rest : List Token) : modifiers c (ts ++ rest) = modifiers c rest := by
  induction ts with
  | nil => rfl
  | cons t ts ih =>
    rw [List.forall_mem_cons] at h
    rw [List.cons_append, modifiers, ih h.2] <;> (intros; simp_all [Token.isPassed])

theorem modifiers_group {inner : List Token} (h : Nested inner) (c : ColumnClause)
    (rest : List Token) : modifiers c (groupTokens inner ++ rest) = modifiers c rest := by
  rw [groupTokens, List.cons_append, List.append_assoc, List.singleton_append, modifiers,
    dropGroup_closed h]

/-- One token is the value of a default, if no group follows it. -/
theorem skipDefault_cons {t : Token} (ht : t ≠ .leftParen) {rest : List Token}
    (hrest : rest.head? ≠ some .leftParen) : skipDefault (t :: rest) = rest := by
  unfold skipDefault
  split <;> simp_all

theorem skipDefault_group {inner : List Token} (h : Nested inner) (rest : List Token) :
    skipDefault (groupTokens inner ++ rest) = rest := by
  rw [groupTokens, List.cons_append, List.append_assoc, List.singleton_append, skipDefault,
    dropGroup_closed h]

theorem skipDefault_call {t : Token} (ht : t ≠ .leftParen) {inner : List Token} (h : Nested inner)
    (rest : List Token) : skipDefault (t :: (groupTokens inner ++ rest)) = rest := by
  rw [groupTokens, List.cons_append, List.append_assoc, List.singleton_append, skipDefault,
    dropGroup_closed h]
  exact ht

theorem Identifier.isPassed (n : Identifier) : n.1.isPassed = true := Token.isPassed_of_name? n.2

theorem Identifier.ne_leftParen (n : Identifier) : n.1 ≠ .leftParen :=
  Token.ne_leftParen_of_isPassed n.isPassed

theorem skipDefault_value (v : DefaultValue) {rest : List Token}
    (hrest : rest.head? ≠ some .leftParen) : skipDefault (v.tokens ++ rest) = rest := by
  cases v with
  | literal s => exact skipDefault_cons (by simp) hrest
  | number s => exact skipDefault_cons (by simp) hrest
  | null => exact skipDefault_cons (by simp) hrest
  | name n => exact skipDefault_cons n.ne_leftParen hrest
  | group inner h => exact skipDefault_group h rest
  | call f arguments h => exact skipDefault_call f.ne_leftParen h rest

/-- The word `DEFAULT`, if it is left over. -/
def pending (lost : Bool) : List Token := if lost then [.keyword .default] else []

theorem modifiers_reaction (r : Reaction) (c : ColumnClause) (rest : List Token) :
    modifiers c (r.tokens ++ rest) = modifiers c (pending r.setsDefault ++ rest) := by
  have hword : ∀ (s : String) (more : List Token),
      modifiers c (.word s :: more) = modifiers c more := fun s more =>
    @modifiers_passed [.word s] (by simp [Token.isPassed]) c more
  cases r with
  | cascade w => exact hword _ _
  | restrict w => exact hword _ _
  | noAction w v => exact (hword _ _).trans (hword _ _)
  | setNull w =>
    exact (hword _ _).trans
      (@modifiers_passed [.keyword .null] (by simp [Token.isPassed]) c rest)
  | setDefault w => exact hword _ _

/-- Of the rules of a reference, at most the last word is left over. A word left over before them
takes `ON` for its value, which changes nothing. -/
theorem modifiers_rules (rules : List (Change × Reaction)) (lost : Bool) (c : ColumnClause)
    (rest : List Token) :
    modifiers c (pending lost ++ (rules.flatMap ruleTokens ++ rest))
      = modifiers c (pending ((rules.getLast?.map (·.2.setsDefault)).getD lost) ++ rest) := by
  induction rules generalizing lost with
  | nil => rfl
  | cons rule rules ih =>
    have hrule : ∀ more, modifiers c (pending lost ++ (ruleTokens rule ++ more))
        = modifiers c (pending rule.2.setsDefault ++ more) := by
      intro more
      rw [← modifiers_reaction]
      cases lost with
      | false =>
        exact @modifiers_passed [.keyword .on, .word rule.1.word]
          (by simp [Token.isPassed]) c (rule.2.tokens ++ more)
      | true =>
        rw [pending, if_pos rfl, List.singleton_append, ruleTokens, List.cons_append, modifiers,
          skipDefault_cons (by simp) (by simp)]
        exact @modifiers_passed [.word rule.1.word] (by simp [Token.isPassed]) c
          (rule.2.tokens ++ more)
    rw [List.flatMap_cons, List.append_assoc, hrule, ih, List.getLast?_cons]
    cases rules.getLast? <;> rfl

theorem endsWithDefault_references (table : QualifiedName) (column : Option ColumnName)
    (rules : List (Change × Reaction)) :
    (Modifier.references table column rules).endsWithDefault
      = (rules.getLast?.map (·.2.setsDefault)).getD false := by
  rw [Modifier.endsWithDefault]
  cases rules.getLast? <;> rfl

theorem head?_rules {t : Token} (ht : t ≠ .keyword .on) (rules : List (Change × Reaction))
    {rest : List Token} (h : rest.head? ≠ some t) :
    (rules.flatMap ruleTokens ++ rest).head? ≠ some t := by
  cases rules with
  | nil => exact h
  | cons rule rules => simpa [ruleTokens] using ht.symm

/-- The modifier at the beginning of the tokens is carried out. -/
theorem modifiers_apply (m : Modifier) (c : ColumnClause) {rest : List Token}
    (hparen : rest.head? ≠ some .leftParen) (hdot : rest.head? ≠ some .dot) :
    modifiers c (m.tokens ++ rest)
      = modifiers (m.apply c) (pending m.endsWithDefault ++ rest) := by
  cases m with
  | primaryKey => simp [Modifier.tokens, modifiers, skipKeyword, Modifier.apply, pending,
      Modifier.endsWithDefault]
  | notNull => simp [Modifier.tokens, modifiers, Modifier.apply, pending,
      Modifier.endsWithDefault]
  | null => exact modifiers_passed (by simp [Modifier.tokens, Token.isPassed]) c rest
  | unique => exact modifiers_passed (by simp [Modifier.tokens, Token.isPassed]) c rest
  | default v =>
    rw [Modifier.tokens, List.cons_append, modifiers, skipDefault_value v hparen]
    rfl
  | check inner h =>
    have hskip : skipGroup (groupTokens inner ++ rest) = rest := by
      rw [groupTokens, List.cons_append, List.append_assoc, List.singleton_append, skipGroup,
        dropGroup_closed h]
    rw [Modifier.tokens, List.cons_append, modifiers, hskip]
    rfl
  | constraint n =>
    rw [Modifier.tokens, List.cons_append, List.singleton_append, modifiers, skipName, if_pos n.2]
    rfl
  | collate w n =>
    refine modifiers_passed (fun t ht => ?_) c rest
    simp only [Modifier.tokens, List.mem_cons, List.not_mem_nil, or_false] at ht
    rcases ht with rfl | rfl
    · simp [Token.isPassed]
    · exact Token.isPassed_of_name? n.2
  | references table column rules =>
    have hread := KeyForm.reference?_words table column
      (fun _ => head?_rules (by simp) rules hdot) (head?_rules (by simp) rules hparen)
    have hcount : ¬ 1 < (KeyForm.target table column).columns.length := by
      cases column <;> simp [KeyForm.target]
    have hrules := modifiers_rules rules false
      (Modifier.apply c (.references table column rules)) rest
    rw [Modifier.tokens, List.cons_append, List.append_assoc, List.append_assoc,
      modifiers_references hread hcount, endsWithDefault_references, ← hrules]
    rfl

/-- After the word `DEFAULT` tokens that begin no modifier are lost, and the first one whatever it
is. -/
theorem modifiers_default_passed (t : Token) (ht : t ≠ .leftParen) (ts : List Token)
    (hts : ∀ u ∈ ts, u.isPassed = true) (c : ColumnClause) {rest : List Token}
    (hparen : ts = [] → rest.head? ≠ some .leftParen) :
    modifiers c (.keyword .default :: t :: (ts ++ rest)) = modifiers c rest := by
  have hhead : (ts ++ rest).head? ≠ some .leftParen := by
    cases ts with
    | nil => exact hparen rfl
    | cons u ts => simpa using Token.ne_leftParen_of_isPassed (hts u (List.mem_cons_self ..))
  rw [modifiers, skipDefault_cons ht hhead, modifiers_passed hts]

/-- What a reference is to says nothing without the word `REFERENCES`. -/
theorem modifiers_target (table : QualifiedName) (column : Option ColumnName) (c : ColumnClause)
    (rest : List Token) :
    modifiers c (.keyword .default :: .keyword .references ::
        (table.tokens ++ (KeyForm.columnTokens column ++ rest))) = modifiers c rest := by
  have htable : ∀ t ∈ table.tokens, t.isPassed = true := by
    intro t ht
    rcases QualifiedName.mem_tokens ht with hname | rfl
    · exact Token.isPassed_of_name? hname
    · rfl
  have hhead : ∀ more, (table.tokens ++ more).head? ≠ some .leftParen := by
    intro more
    cases htokens : table.tokens with
    | nil => simp [QualifiedName.tokens] at htokens
    | cons t ts =>
      simpa using Token.ne_leftParen_of_isPassed (htable t (by simp [htokens]))
  rw [modifiers, skipDefault_cons (by simp) (hhead _), modifiers_passed htable]
  cases column with
  | none => rfl
  | some n =>
    have hplain := isPlain_of_columnName? n.named
    exact modifiers_group (@whole_of_isPlain [n.token] (by simpa using hplain)).nested c rest

/-- The modifier at the beginning of the tokens is lost, when its first word is taken for the value
of a default. What is left of it says nothing, since no modifier ends with another. -/
theorem modifiers_lost (m : Modifier) (c : ColumnClause) {rest : List Token}
    (hparen : rest.head? ≠ some .leftParen) :
    modifiers c (.keyword .default :: (m.tokens ++ rest))
      = modifiers c (pending m.endsWithDefault ++ rest) := by
  have hgroup : ∀ (t : Token) (inner : List Token), t ≠ .leftParen → Nested inner →
      modifiers c (.keyword .default :: t :: (groupTokens inner ++ rest)) = modifiers c rest := by
    intro t inner ht h
    rw [modifiers, skipDefault_call ht h]
  have hname : ∀ (t : Token) (n : Identifier), t ≠ .leftParen →
      modifiers c (.keyword .default :: t :: n.1 :: rest) = modifiers c rest := fun t n ht =>
    modifiers_default_passed t ht [n.1] (by simpa using n.isPassed) c (by simp)
  cases m with
  | primaryKey =>
    exact modifiers_default_passed (.keyword .primary) (by simp) [.keyword .key]
      (by simp [Token.isPassed]) c (by simp)
  | notNull =>
    exact modifiers_default_passed (.keyword .not) (by simp) [.keyword .null]
      (by simp [Token.isPassed]) c (by simp)
  | null =>
    exact modifiers_default_passed (.keyword .null) (by simp) [] (by simp) c fun _ => hparen
  | unique =>
    exact modifiers_default_passed (.keyword .unique) (by simp) [] (by simp) c fun _ => hparen
  | check inner h => exact hgroup (.keyword .check) inner (by simp) h
  | constraint n => exact hname (.keyword .constraint) n (by simp)
  | collate w n => exact hname (.word w.text) n (by simp)
  | default v =>
    have hvalue : ∀ (t : Token) (more : List Token), t.isPassed = true →
        modifiers c (.keyword .default :: .keyword .default :: t :: more) = modifiers c more :=
      fun t more ht => modifiers_default_passed (.keyword .default) (by simp) [t]
        (by simpa using ht) c (by simp)
    cases v with
    | literal s => exact hvalue (.literal s) rest (by simp [Token.isPassed])
    | number s => exact hvalue (.number s) rest (by simp [Token.isPassed])
    | null => exact hvalue (.keyword .null) rest (by simp [Token.isPassed])
    | name n => exact hvalue n.1 rest n.isPassed
    | group inner h => exact hgroup (.keyword .default) inner (by simp) h
    | call f arguments h =>
      exact (hvalue f.1 (groupTokens arguments ++ rest) f.isPassed).trans (modifiers_group h c rest)
  | references table column rules =>
    have hrules := modifiers_rules rules false c rest
    rw [Modifier.tokens, List.cons_append, List.append_assoc, List.append_assoc, modifiers_target,
      endsWithDefault_references, ← hrules]
    rfl

/-! ## All modifiers -/

theorem head?_tokens (ms : List Modifier) {t : Token} (ht : t = .leftParen ∨ t = .dot)
    {rest : List Token} (h : rest.head? ≠ some t) :
    (ms.flatMap Modifier.tokens ++ rest).head? ≠ some t := by
  cases ms with
  | nil => exact h
  | cons m ms => rcases ht with rfl | rfl <;> cases m <;> simp [Modifier.tokens]

/-- Modifiers are carried out one after the other, those that count. -/
theorem modifiers_tokens (ms : List Modifier) (lost : Bool) (c : ColumnClause) {rest : List Token}
    (hparen : rest.head? ≠ some .leftParen) (hdot : rest.head? ≠ some .dot) :
    modifiers c (pending lost ++ (ms.flatMap Modifier.tokens ++ rest))
      = modifiers ((counted lost ms).foldl Modifier.apply c)
          (pending ((ms.getLast?.map Modifier.endsWithDefault).getD lost) ++ rest) := by
  induction ms generalizing lost c with
  | nil => rfl
  | cons m ms ih =>
    have hp := head?_tokens ms (Or.inl rfl) hparen
    have hd := head?_tokens ms (Or.inr rfl) hdot
    have hlast : ((m :: ms).getLast?.map Modifier.endsWithDefault).getD lost
        = (ms.getLast?.map Modifier.endsWithDefault).getD m.endsWithDefault := by
      rw [List.getLast?_cons]
      cases ms.getLast? <;> rfl
    rw [List.flatMap_cons, List.append_assoc, counted, hlast]
    cases lost with
    | false => exact (modifiers_apply m c hp hd).trans (ih m.endsWithDefault (m.apply c))
    | true => exact (modifiers_lost m c hp).trans (ih m.endsWithDefault c)

/-- A word that is left over at the end has no value. -/
theorem modifiers_pending (lost : Bool) (c : ColumnClause) :
    modifiers c (pending lost) = .ok c := by
  cases lost <;> simp [pending, modifiers, skipDefault]

/-- A modifier shows what it says, and keeps what was shown before. -/
theorem apply_shows (m : Modifier) (c : ColumnClause) :
    ((m.apply c).primaryKey = true ↔ c.primaryKey = true ∨ m.isPrimaryKey = true) ∧
      ((m.apply c).notNull = true ↔ c.notNull = true ∨ m.isNotNull = true) ∧
      (m.apply c).reference = m.target?.or c.reference ∧
      (m.apply c).name = c.name ∧ (m.apply c).declared = c.declared := by
  cases m <;> simp [Modifier.apply, Modifier.isPrimaryKey, Modifier.isNotNull, Modifier.target?]

theorem foldl_apply_shows (ms : List Modifier) (c : ColumnClause) :
    ((ms.foldl Modifier.apply c).primaryKey = true ↔
        c.primaryKey = true ∨ ∃ m ∈ ms, m.isPrimaryKey = true) ∧
      ((ms.foldl Modifier.apply c).notNull = true ↔
        c.notNull = true ∨ ∃ m ∈ ms, m.isNotNull = true) ∧
      (ms.foldl Modifier.apply c).reference
        = (ms.filterMap Modifier.target?).getLast?.or c.reference ∧
      (ms.foldl Modifier.apply c).name = c.name ∧
      (ms.foldl Modifier.apply c).declared = c.declared := by
  induction ms generalizing c with
  | nil => simp
  | cons m ms ih =>
    obtain ⟨hkey, hnull, htarget, hname, hdeclared⟩ := apply_shows m c
    obtain ⟨ihkey, ihnull, ihtarget, ihname, ihdeclared⟩ := ih (m.apply c)
    rw [List.foldl_cons]
    refine ⟨?_, ?_, ?_, ihname.trans hname, ihdeclared.trans hdeclared⟩
    · rw [ihkey, hkey, List.exists_mem_cons_iff, or_assoc]
    · rw [ihnull, hnull, List.exists_mem_cons_iff, or_assoc]
    · rw [ihtarget, htarget, List.filterMap_cons]
      cases m.target? with
      | none => rfl
      | some target =>
        cases h : (ms.filterMap Modifier.target?).getLast? <;> simp [h, List.getLast?_cons]

/-- No key and no `NOT NULL` stands right after a reference that ends with `SET DEFAULT`. -/
def Undisturbed (ms : List Modifier) : Prop :=
  ms.IsChain fun m next => m.endsWithDefault = true → next.tells = false

/-- Nothing that matters is lost then. -/
theorem filter_tells_counted {ms : List Modifier} (h : Undisturbed ms) :
    (counted false ms).filter Modifier.tells = ms.filter Modifier.tells := by
  have hrun : ∀ lost, (lost = true → ∀ m ∈ ms.head?, m.tells = false) →
      (counted lost ms).filter Modifier.tells = ms.filter Modifier.tells := by
    induction ms with
    | nil => intros; rfl
    | cons m ms ih =>
      intro lost hlost
      rw [Undisturbed, List.isChain_cons] at h
      have hnext := ih h.2 m.endsWithDefault fun hends n hn => h.1 n hn hends
      cases lost with
      | false =>
        rw [counted, if_neg Bool.false_ne_true, List.singleton_append, List.filter_cons,
          List.filter_cons, hnext]
      | true =>
        have hsilent := hlost rfl m (by simp)
        rw [counted, if_pos rfl, List.nil_append, hnext,
          List.filter_cons_of_neg (by simp [hsilent])]
  exact hrun false (by simp)

/-- Modifiers that have nothing to do with keys and nulls show nothing. -/
theorem shows_filter {c : ColumnClause} {ms : List Modifier} :
    Shows c (ms.filter Modifier.tells) ↔ Shows c ms := by
  have hkey : (∃ m ∈ ms.filter Modifier.tells, m.isPrimaryKey = true)
      ↔ ∃ m ∈ ms, m.isPrimaryKey = true := by
    simp only [List.mem_filter, Modifier.tells]
    grind
  have hnull : (∃ m ∈ ms.filter Modifier.tells, m.isNotNull = true)
      ↔ ∃ m ∈ ms, m.isNotNull = true := by
    simp only [List.mem_filter, Modifier.tells]
    grind
  have htarget : (ms.filter Modifier.tells).filterMap Modifier.target?
      = ms.filterMap Modifier.target? := by
    rw [List.filterMap_filter]
    refine List.filterMap_congr fun m _ => ?_
    cases h : m.target? <;> simp [Modifier.tells, h]
  constructor <;> rintro ⟨h₁, h₂, h₃⟩
  · exact ⟨h₁.trans hkey, h₂.trans hnull, htarget ▸ h₃⟩
  · exact ⟨h₁.trans hkey.symm, h₂.trans hnull.symm, htarget ▸ h₃⟩

/-! ## The clause of a column -/

/-- The beginning of a column: its name and its type, which make a column by themselves. -/
structure ColumnStart where
  name : Token
  typeWord : Token
  /-- What follows the first word of the type: further words, arguments, array suffixes. -/
  typeRest : List Token
  column : ColumnClause
  typeRest_idle : Idle typeRest
  read : readClause (name :: typeWord :: typeRest) = .ok (.column column)

namespace ColumnStart

/-- The column with modifiers after the type. -/
def tokens (c : ColumnStart) (ms : List Modifier) : List Token :=
  c.name :: c.typeWord :: (c.typeRest ++ ms.flatMap Modifier.tokens)

def form (c : ColumnStart) : ColumnForm where
  name := c.name
  typeWord := c.typeWord
  typeRest := c.typeRest
  rest := []
  column := c.column
  typeRest_idle := c.typeRest_idle
  rest_whole := .nil
  rest_ends := rfl
  read := by rw [List.append_nil]; exact c.read

/-- The token neither continues a type nor makes an index of a column. -/
def endsTypeWord (t : Token) : Bool :=
  t != .leftParen && t != .brackets && !continuesType t && !t.isWord "USING"

/-- No type goes on with the first word of a modifier. -/
theorem begins_modifier (m : Modifier) : ∃ t ts, m.tokens = t :: ts ∧ endsTypeWord t = true := by
  cases m with
  | collate w n =>
    have hword : ∀ s, Text.sameWord w.text s = Text.sameWord "COLLATE" s := by
      intro s
      have hsame := w.same
      rw [Text.sameWord, beq_iff_eq] at hsame
      rw [Text.sameWord, Text.sameWord, hsame]
    have hno : continuesType (.word w.text) = false ∧
        Token.isWord "USING" (.word w.text) = false := by
      simp only [continuesType, Token.isWord, hword]
      decide
    exact ⟨_, _, rfl, by simp [endsTypeWord, hno]⟩
  | _ => exact ⟨_, _, rfl, by decide⟩

/-- The beginning alone shows no key and no reference, and modifiers are carried out on it. -/
theorem columnClause_tokens (c : ColumnStart) :
    c.column = ⟨c.column.name, c.column.declared, false, false, none⟩ ∧
      ∀ words, endsType words = true →
        columnClause (c.form.tokens words) = (modifiers c.column words).map .column := by
  obtain ⟨declared, hstart⟩ := c.form.exists_modifiers
  have hcolumn : c.column = ⟨c.column.name, declared, false, false, none⟩ := by
    have hread := (columnClause_of_readClause c.form.read).symm.trans (hstart [] rfl)
    simpa [form, modifiers, Except.map] using hread
  refine ⟨by rw [hcolumn], fun words hwords => ?_⟩
  have hclause := hstart words (by simpa [form] using hwords)
  rwa [show c.form.column = c.column from rfl, ← hcolumn, show c.form.rest = [] from rfl,
    List.append_nil] at hclause

/-- What stands after the type is read as modifiers. -/
theorem readClause_words (c : ColumnStart) {t : Token} (ht : endsTypeWord t = true)
    (ts : List Token) :
    readClause (c.name :: c.typeWord :: (c.typeRest ++ t :: ts))
      = (modifiers c.column (t :: ts)).map .column := by
  simp only [endsTypeWord, Bool.and_eq_true, bne_iff_ne, Bool.not_eq_true'] at ht
  obtain ⟨⟨⟨hparen, hbrackets⟩, htype⟩, husing⟩ := ht
  have hends : endsType (t :: ts) = true := by simp [endsType, hparen, hbrackets, htype]
  have hshape : c.name :: c.typeWord :: (c.typeRest ++ t :: ts) = c.form.tokens (t :: ts) := by
    simp [ColumnForm.tokens, form]
  rw [hshape, c.form.readClause_tokens hparen husing, c.columnClause_tokens.2 _ hends]

/-- What stands after the modifiers is read with them, if it does not go on with the type. -/
theorem readClause_append (c : ColumnStart) (ms : List Modifier) {rest : List Token}
    (hrest : ∀ t ∈ rest.head?, endsTypeWord t = true) :
    readClause (c.tokens ms ++ rest)
      = (modifiers c.column (ms.flatMap Modifier.tokens ++ rest)).map .column := by
  have hshape : c.tokens ms ++ rest
      = c.name :: c.typeWord :: (c.typeRest ++ (ms.flatMap Modifier.tokens ++ rest)) := by
    simp [tokens]
  rw [hshape]
  cases hwords : ms.flatMap Modifier.tokens ++ rest with
  | nil =>
    rw [List.append_nil, c.read, modifiers]
    rfl
  | cons t ts =>
    refine c.readClause_words ?_ ts
    cases ms with
    | nil =>
      rw [List.flatMap_nil, List.nil_append] at hwords
      exact hrest t (by simp [hwords])
    | cons m ms =>
      obtain ⟨u, us, htokens, hfirst⟩ := begins_modifier m
      rw [List.flatMap_cons, htokens] at hwords
      cases hwords
      exact hfirst

/-- The modifiers that count are carried out on the column that the beginning makes. -/
theorem readClause_tokens (c : ColumnStart) (ms : List Modifier) :
    readClause (c.tokens ms)
      = .ok (.column ((counted false ms).foldl Modifier.apply c.column)) := by
  have hclause := @readClause_append c ms [] (by simp)
  have hrun := @modifiers_tokens ms false c.column [] (by simp) (by simp)
  rw [List.append_nil, List.append_nil] at hclause
  rw [List.append_nil, List.append_nil, modifiers_pending] at hrun
  rw [hclause]
  exact congrArg (Except.map Clause.column) hrun

/-- The column shows what the modifiers say that count. -/
theorem exists_shows (c : ColumnStart) (ms : List Modifier) :
    ∃ k, readClause (c.tokens ms) = .ok (.column k) ∧
      k.name = c.column.name ∧ k.declared = c.column.declared ∧ Shows k (counted false ms) := by
  obtain ⟨hkey, hnull, htarget, hname, hdeclared⟩ :=
    foldl_apply_shows (counted false ms) c.column
  refine ⟨_, c.readClause_tokens ms, hname, hdeclared, ?_⟩
  rw [c.columnClause_tokens.1] at hkey hnull htarget ⊢
  exact ⟨by simpa using hkey, by simpa using hnull, by simpa using htarget⟩

end ColumnStart

/-- Where nothing that matters is lost, what counts is what all modifiers say. -/
theorem shows_of_counted {k : ColumnClause} {ms : List Modifier} (h : Undisturbed ms)
    (hk : Shows k (counted false ms)) : Shows k ms := by
  rwa [← shows_filter, ← filter_tells_counted h, shows_filter]

/-- **The order of modifiers does not matter, except after `SET DEFAULT`.** A name, a type and any
modifiers make a column, which shows what the modifiers say that count: a reference that ends with
`SET DEFAULT` takes the next modifier away. If no key and no `NOT NULL` stands right after such a
reference, the column shows what all of them say. -/
theorem readClause_modified (c : ColumnStart) (ms : List Modifier) :
    ∃ k, readClause (c.tokens ms) = .ok (.column k) ∧
      k.name = c.column.name ∧ k.declared = c.column.declared ∧
      Shows k (counted false ms) ∧ (Undisturbed ms → Shows k ms) := by
  obtain ⟨k, hread, hname, hdeclared, hshows⟩ := c.exists_shows ms
  exact ⟨k, hread, hname, hdeclared, hshows, fun h => shows_of_counted h hshows⟩

/-- A column `owner` of type `INT`. -/
def ownerStart : ColumnStart where
  name := .word "owner"
  typeWord := .word "INT"
  typeRest := []
  column := ⟨"owner", "INT", false, false, none⟩
  typeRest_idle := .nil
  read := by
    simp [readClause, show isReserved (.word "owner") = false by decide, columnClause, columnName?,
      Token.name?, declaredTail, modifiers, Except.map]

/-- The reference `REFERENCES crm.people (code) ON DELETE SET DEFAULT`. -/
def resetReference : Modifier :=
  .references ⟨[.word "crm"], .word "people", "people", by decide, rfl⟩
    (some ⟨.word "code", "code", rfl⟩)
    [(.delete ⟨"DELETE", by decide⟩, .setDefault ⟨"SET", by decide⟩)]

/-- `NOT NULL` counts before the reference, and is lost after it. -/
theorem readClause_modified_owner :
    (∃ k, readClause (ownerStart.tokens [.notNull, resetReference]) = .ok (.column k) ∧
      k.notNull = true ∧ k.reference = some ⟨"people", ["code"]⟩) ∧
    (∃ k, readClause (ownerStart.tokens [resetReference, .notNull]) = .ok (.column k) ∧
      k.notNull = false ∧ k.reference = some ⟨"people", ["code"]⟩) := by
  constructor
  · obtain ⟨k, hread, -, -, -, hshows⟩ := readClause_modified ownerStart [.notNull, resetReference]
    obtain ⟨-, hnull, hreference⟩ := hshows (.cons_cons (by simp [Modifier.endsWithDefault])
      (.singleton _))
    exact ⟨k, hread, hnull.2 ⟨.notNull, by simp, rfl⟩, hreference⟩
  · obtain ⟨k, hread, -, -, ⟨-, hnull, hreference⟩, -⟩ :=
      readClause_modified ownerStart [resetReference, .notNull]
    have hcounted : counted false [resetReference, .notNull] = [resetReference] := rfl
    rw [hcounted] at hnull hreference
    refine ⟨k, hread, ?_, hreference⟩
    rw [← Bool.not_eq_true, hnull]
    simp [resetReference, Modifier.isNotNull]

end SchemaGraph.Sql
