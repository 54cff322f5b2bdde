import SchemaGraph.Proofs.Sql.LocalReaders
import SchemaGraph.Proofs.Sql.TableStatement

/-!
# Where the body of a statement begins

Every reader of statements is local: it takes tokens from the front of the list and looks at one
token beyond them at most (`Local`). So the tokens up to the parenthesis that opens the body of a
`CREATE TABLE` decide all statements before it and its name, whatever comes after that parenthesis
(`Opening`), and each `CREATE TABLE` of a script has such tokens (`exists_opening`).
-/

namespace SchemaGraph.Sql

/-! ## The readers of statements -/

namespace Local

theorem skipKeyword (k : Keyword) : Local (taking (skipKeyword k)) := by
  intro ts
  cases ts with
  | nil => exact .nil rfl
  | cons t ts =>
    by_cases ht : t = .keyword k
    · exact .take (a := ()) fun more => by rw [taking, Sql.skipKeyword, if_pos ht]
    · exact .stop (a := ()) fun more => by rw [taking, Sql.skipKeyword, if_neg ht]

/-- Words that are skipped only after another one. -/
theorem skipAfter (k k₁ k₂ : Keyword) {other guard : List Token → List Token}
    (ho : Local (taking other))
    (hword : ∀ ts, guard (.keyword k :: ts) = Sql.skipKeyword k₂ (Sql.skipKeyword k₁ ts))
    (hother : ∀ ts, ts.head? ≠ some (.keyword k) → guard ts = other ts) :
    Local (taking guard) := by
  refine (((skipKeyword k₁).andThen fun _ => skipKeyword k₂).ifHead (t := .keyword k) ho).congr
    fun ts => ?_
  by_cases hhead : ts.head? = some (.keyword k)
  · have hguard := hword ts.tail
    rw [List.cons_head?_tail hhead] at hguard
    rw [Sql.ifHead, if_pos hhead, taking, hguard]
    rfl
  · rw [Sql.ifHead, if_neg hhead, taking, hother ts hhead]
    rfl

theorem skipIfNotExists : Local (taking skipIfNotExists) := by
  refine skipAfter .ifWord .not .existsWord (peek fun _ => ()) (fun ts => rfl) fun ts hhead => ?_
  unfold Sql.skipIfNotExists
  split
  · exact absurd rfl hhead
  · rfl

theorem skipIfExistsOnly : Local (taking skipIfExistsOnly) := by
  refine skipAfter .ifWord .existsWord .only (skipKeyword .only) (fun ts => rfl) fun ts hhead => ?_
  unfold Sql.skipIfExistsOnly
  split
  · exact absurd rfl hhead
  · rfl

theorem skipTableModifiers : Local (taking skipTableModifiers) := by
  intro ts
  induction ts with
  | nil => exact .nil rfl
  | cons t ts ih =>
    by_cases ht : isTableModifier t = true
    · exact .cons (f := id) (fun more => by
        rw [taking, Sql.skipTableModifiers, List.dropWhile_cons_of_pos ht]; rfl) ih
    · exact .stop (a := ()) fun more => by
        rw [taking, Sql.skipTableModifiers, List.dropWhile_cons_of_neg ht]

theorem skipStatement : Local (taking skipStatement) := by
  intro ts
  induction ts with
  | nil => exact .nil rfl
  | cons t ts ih =>
    by_cases hs : t = .semicolon
    · exact .take (a := ()) fun more => by rw [hs]; rfl
    by_cases hc : t = .keyword .create
    · exact .stop (a := ()) fun more => by rw [hc]; rfl
    by_cases ha : t = .keyword .alter
    · exact .stop (a := ()) fun more => by rw [ha]; rfl
    · exact .cons (f := id) (fun more => by
        rw [taking, Sql.skipStatement] <;> first | rfl | assumption) ih

theorem qualifiedTail (name : String) : Local (qualifiedTail name) := by
  intro ts
  fun_induction Sql.qualifiedTail name ts with
  | case1 name t rest part hpart ih =>
    refine .cons (f := id) (g := fun more => Sql.qualifiedTail name (.dot :: more))
      (fun more => rfl) (.cons (f := id) (fun more => ?_) ih)
    rw [Sql.qualifiedTail]
    simp only [hpart]
    rfl
  | case2 name t rest hnone =>
    refine .cons (f := id) (g := fun more => Sql.qualifiedTail name (.dot :: more))
      (fun more => rfl) (.stop (a := name) fun more => ?_)
    rw [Sql.qualifiedTail]
    simp only [hnone]
  | case3 name =>
    exact .cons (f := id) (g := fun more => Sql.qualifiedTail name (.dot :: more))
      (fun more => rfl) (.nil rfl)
  | case4 name ts hnot hdot =>
    cases ts with
    | nil => exact .nil rfl
    | cons t ts =>
      refine .stop (a := name) fun more => qualifiedTail_of_head? (fun hhead => ?_) name
      cases hhead
      cases ts with
      | nil => exact hdot rfl
      | cons u ts => exact hnot u ts rfl

/-- The group, as what is read of it and the tokens after it. -/
theorem balancedGroup (depth : Nat) : Local fun ts =>
    (((balancedGroup depth ts).inside, (balancedGroup depth ts).closed),
      (balancedGroup depth ts).after) := by
  intro ts
  induction ts generalizing depth with
  | nil => exact .nil rfl
  | cons t ts ih =>
    by_cases hl : t = .leftParen
    · refine .cons (f := fun g => (t :: g.1, g.2)) (fun more => ?_) (ih (depth + 1))
      rw [Sql.balancedGroup, if_pos hl]
      rfl
    by_cases hr : t = .rightParen
    · by_cases hdepth : depth = 0
      · refine .take (a := ([], true)) fun more => ?_
        rw [Sql.balancedGroup, if_neg hl, if_pos hr, if_pos hdepth]
      · refine .cons (f := fun g => (t :: g.1, g.2)) (fun more => ?_) (ih (depth - 1))
        rw [Sql.balancedGroup, if_neg hl, if_pos hr, if_neg hdepth]
        rfl
    · refine .cons (f := fun g => (t :: g.1, g.2)) (fun more => ?_) (ih depth)
      rw [Sql.balancedGroup, if_neg hl, if_neg hr]
      rfl

theorem actionTokens (depth : Nat) : Local (actionTokens depth) := by
  intro ts
  induction ts generalizing depth with
  | nil => exact .nil rfl
  | cons t ts ih =>
    by_cases hs : (depth = 0 && t = .semicolon) = true
    · exact .take (a := []) fun more => by rw [Sql.actionTokens, if_pos hs]
    by_cases hb : (depth = 0 && (t = .keyword .create || t = .keyword .alter)) = true
    · exact .stop (a := []) fun more => by rw [Sql.actionTokens, if_neg hs, if_pos hb]
    · exact .cons (f := (t :: ·)) (fun more => by
        rw [Sql.actionTokens, if_neg hs, if_neg hb]) (ih (depthAfter depth t))

end Local

/-! ## Headers and bodies

What stands between `CREATE` or `ALTER` and a body or actions: nothing if no `TABLE` follows, and a
name or none if one does. -/

/-- The name at which the tokens stand, if there is one. -/
def readName (ts : List Token) : Option String × List Token :=
  match qualifiedName? ts with
  | some (name, rest) => (some name, rest)
  | none => (none, ts)

/-- `TABLE` with a guard, and the name after it. -/
def readHeader (guard : List Token → List Token) :
    List Token → Option (Option String) × List Token :=
  ifHead (.keyword .table)
    (andThen (taking guard) fun _ => andThen readName fun name ts => (some name, ts))
    fun ts => (none, ts)

/-- The header of a `CREATE`. -/
def createHeader : List Token → Option (Option String) × List Token :=
  andThen (taking skipTableModifiers) fun _ => readHeader skipIfNotExists

/-- What follows the header of a `CREATE`. -/
def readBody : Option (Option String) → List Token → Option Statement × List Token
  | none => andThen (taking skipStatement) fun _ ts => (none, ts)
  | some none => andThen (fun ts => ((ts.head?.map Token.text).getD endText, ts)) fun found =>
      andThen (taking skipStatement) fun _ ts => (some (.nameless found), ts)
  | some (some name) => ifHead .leftParen
      (andThen (fun ts => (((balancedGroup 0 ts).inside, (balancedGroup 0 ts).closed),
          (balancedGroup 0 ts).after)) fun g =>
        andThen (taking skipStatement) fun _ ts => (some (.createTable name g.1 g.2), ts))
      (andThen (taking skipStatement) fun _ ts => (some (.bodiless name), ts))

/-- What follows the header of an `ALTER`. -/
def readActions : Option (Option String) → List Token → Option Statement × List Token
  | some (some name) => andThen (actionTokens 0) fun actions ts =>
      (some (.alterTable name (splitClauses actions)), ts)
  | _ => andThen (taking skipStatement) fun _ ts => (none, ts)

theorem headText_eq (ts : List Token) : headText ts = (ts.head?.map Token.text).getD endText := by
  cases ts <;> rfl

theorem createTable_eq (ts : List Token) :
    (some (createTable ts).1, (createTable ts).2)
      = andThen readName (fun name => readBody (some name)) (skipIfNotExists ts) := by
  unfold createTable andThen readName
  dsimp only
  split
  · rename_i hname
    rw [hname, headText_eq]
    rfl
  · rename_i name rest hname
    rw [hname]
    rfl
  · rename_i name rest hparen hname
    have hhead : rest.head? ≠ some .leftParen := fun hhead =>
      hparen _ (List.cons_head?_tail hhead).symm
    rw [hname]
    exact (if_neg hhead).symm

theorem createStatement_eq (ts : List Token) :
    createStatement ts = andThen createHeader readBody ts := by
  show _ = andThen (readHeader skipIfNotExists) readBody (skipTableModifiers ts)
  unfold createStatement
  split
  · rename_i rest hrest
    rw [hrest]
    exact createTable_eq rest
  · rename_i htable
    have hhead : (skipTableModifiers ts).head? ≠ some (.keyword .table) := fun hhead =>
      htable _ (List.cons_head?_tail hhead).symm
    rw [andThen, readHeader, ifHead, if_neg hhead]
    rfl

theorem alterTable_eq (ts : List Token) :
    alterTable ts = andThen (readHeader skipIfExistsOnly) readActions ts := by
  unfold alterTable
  split
  · rename_i rest
    show _ = andThen readName (fun name => readActions (some name)) (skipIfExistsOnly rest)
    unfold andThen readName
    dsimp only
    split
    · rename_i hname
      rw [hname]
      rfl
    · rename_i name more hname
      rw [hname]
      rfl
  · rename_i htable
    have hhead : ts.head? ≠ some (.keyword .table) := fun hhead =>
      htable _ (List.cons_head?_tail hhead).symm
    rw [andThen, readHeader, ifHead, if_neg hhead]
    rfl

namespace Local

theorem readName : Local readName := by
  intro ts
  cases ts with
  | nil => exact .nil rfl
  | cons t ts =>
    cases hname : t.name? with
    | none =>
      refine .stop (a := none) fun more => ?_
      simp [Sql.readName, qualifiedName?, hname]
    | some first =>
      refine .cons (f := some) (fun more => ?_) (qualifiedTail first ts)
      simp [Sql.readName, qualifiedName?, hname]

theorem readHeader {guard : List Token → List Token} (h : Local (taking guard)) :
    Local (readHeader guard) :=
  (h.andThen fun _ => readName.andThen fun name => give (some name)).ifHead (give none)

theorem skipTo {α : Type} (a : α) :
    Local (Sql.andThen (taking Sql.skipStatement) fun _ ts => (a, ts)) :=
  skipStatement.andThen fun _ => give a

theorem readBody (header : Option (Option String)) : Local (readBody header) := by
  match header with
  | none => exact skipTo none
  | some none =>
    exact (peek fun t => (t.map Token.text).getD endText).andThen fun found => skipTo _
  | some (some name) => exact ((balancedGroup 0).andThen fun g => skipTo _).ifHead (skipTo _)

theorem readActions (header : Option (Option String)) : Local (readActions header) := by
  match header with
  | none => exact skipTo none
  | some none => exact skipTo none
  | some (some name) => exact (actionTokens 0).andThen fun actions => give _

theorem createHeader : Local createHeader :=
  skipTableModifiers.andThen fun _ => readHeader skipIfNotExists

theorem createStatement : Local createStatement :=
  (createHeader.andThen readBody).congr createStatement_eq

theorem alterTable : Local alterTable :=
  ((readHeader skipIfExistsOnly).andThen readActions).congr alterTable_eq

end Local

/-! ## Openings -/

/-- The tokens of a script up to the parenthesis that opens the body of a `CREATE TABLE`. What they
say does not depend on what follows: the statements before that one, and its name. -/
structure Opening (before : List Statement) (name : String) (opening : List Token) : Prop where
  paren : opening.getLast? = some .leftParen
  read : ∀ rest, statements (opening ++ rest) = before ++
    .createTable name (balancedGroup 0 rest).inside (balancedGroup 0 rest).closed ::
      statements (skipStatement (balancedGroup 0 rest).after)

/-- An opening after one more statement. -/
theorem Opening.after {k : Token} {read : List Token → Option Statement × List Token}
    (hread : Local read)
    (hk : ∀ ts, statements (k :: ts) = (read ts).1.toList ++ statements (read ts).2)
    {before : List Statement} {name : String} {ts opening rest : List Token}
    (h : Opening before name opening) (hts : (read ts).2 = opening ++ rest) :
    ∃ opening', k :: ts = opening' ++ rest ∧
      Opening ((read ts).1.toList ++ before) name opening' := by
  obtain ⟨used, hused, hlocal⟩ := hread ts
  cases opening with
  | nil => cases h.paren
  | cons t opening =>
    refine ⟨k :: (used ++ t :: opening), ?_, ?_, fun more => ?_⟩
    · rw [hused, hts]
      simp
    · have hpar := h.paren
      rw [← List.cons_append, List.getLast?_append, hpar]
      rfl
    · have hmore : read (used ++ t :: (opening ++ more)) = ((read ts).1, t :: (opening ++ more)) :=
        hlocal t _ hts _
      have hrest := h.read more
      rw [List.cons_append] at hrest
      rw [List.cons_append, List.append_assoc, List.cons_append, hk, hmore, hrest,
        List.append_assoc]

/-- The opening of a statement at the beginning. -/
theorem opening_of_createStatement {ts after : List Token} {name : String} {body : List Token}
    {closed : Bool} (h : createStatement ts = (some (.createTable name body closed), after)) :
    ∃ opening rest, .keyword .create :: ts = opening ++ rest ∧ Opening [] name opening := by
  obtain ⟨used, hused, hlocal⟩ := Local.createHeader ts
  rw [createStatement_eq, andThen] at h
  cases hheader : createHeader ts with
  | mk header rest =>
    rw [hheader] at h hused hlocal
    match header with
    | none => cases h
    | some none => cases h
    | some (some name') =>
      unfold readBody ifHead at h
      dsimp only at h
      split at h
      · rename_i hparen
        cases h
        cases rest with
        | nil => cases hparen
        | cons t rest =>
          cases hparen
          refine ⟨.keyword .create :: (used ++ [.leftParen]), rest, by simp [hused], ?_, ?_⟩
          · rw [← List.cons_append, List.getLast?_append]
            rfl
          · intro more
            have hcreate : createStatement (used ++ .leftParen :: more)
                = readBody (some (some name)) (.leftParen :: more) := by
              rw [createStatement_eq, andThen, hlocal .leftParen rest rfl more]
            rw [List.cons_append, List.append_assoc, List.singleton_append, statements, hcreate]
            rfl
      · cases h

/-- The opening is that of the first statement, or one in the rest. -/
theorem exists_opening_step {k : Token} {read : List Token → Option Statement × List Token}
    (hread : Local read)
    (hk : ∀ ts, statements (k :: ts) = (read ts).1.toList ++ statements (read ts).2)
    {ts : List Token} {before after : List Statement} {name : String} {s : Statement}
    (hfirst : (read ts).1 = some s →
      ∃ opening rest, k :: ts = opening ++ rest ∧ Opening [] name opening)
    (hrest : ∀ before, statements (read ts).2 = before ++ s :: after →
      ∃ opening rest, (read ts).2 = opening ++ rest ∧ Opening before name opening)
    (h : statements (k :: ts) = before ++ s :: after) :
    ∃ opening rest, k :: ts = opening ++ rest ∧ Opening before name opening := by
  have hlater : ∀ before', statements (read ts).2 = before' ++ s :: after →
      ∃ opening rest, k :: ts = opening ++ rest ∧
        Opening ((read ts).1.toList ++ before') name opening := by
    intro before' hbefore
    obtain ⟨opening, rest, hopening, ho⟩ := hrest before' hbefore
    obtain ⟨opening', hts, ho'⟩ := ho.after hread hk hopening
    exact ⟨opening', rest, hts, ho'⟩
  rw [hk] at h
  cases hs : (read ts).1 with
  | none =>
    rw [hs] at h hlater
    exact hlater before h
  | some s' =>
    rw [hs] at h hlater
    cases before with
    | nil =>
      obtain ⟨rfl, -⟩ := List.cons.inj h
      exact hfirst hs
    | cons s'' before =>
      obtain ⟨rfl, htail⟩ := List.cons.inj h
      exact hlater before htail

theorem alterTable_ne_createTable (ts : List Token) {name : String} {body : List Token}
    {closed : Bool} : (alterTable ts).1 ≠ some (.createTable name body closed) := by
  unfold alterTable
  split
  · dsimp only
    split <;> simp
  · simp

/-- Every `CREATE TABLE` of a script has an opening. -/
theorem exists_opening {ts : List Token} {before after : List Statement} {name : String}
    {body : List Token} {closed : Bool}
    (h : statements ts = before ++ .createTable name body closed :: after) :
    ∃ opening rest, ts = opening ++ rest ∧ Opening before name opening := by
  induction ts using statements.induct generalizing before with
  | case1 => simp [statements] at h
  | case2 rest =>
    rename_i ih
    exact exists_opening_step Local.createStatement (fun ts => by rw [statements])
      (fun hs => opening_of_createStatement (Prod.ext hs rfl)) (fun before' => ih) h
  | case3 rest =>
    rename_i ih
    exact exists_opening_step Local.alterTable (fun ts => by rw [statements])
      (fun hs => absurd hs (alterTable_ne_createTable rest)) (fun before' => ih) h
  | case4 t rest hc ha ih =>
    have hskip : ∀ ts, statements (t :: ts) = statements ts := fun ts => by
      rw [statements] <;> assumption
    rw [hskip] at h
    obtain ⟨opening, more, rfl, ho⟩ := ih h
    refine ⟨t :: opening, more, rfl, ?_, fun more => (hskip _).trans (ho.read more)⟩
    rw [List.getLast?_cons, ho.paren]
    rfl

end SchemaGraph.Sql
