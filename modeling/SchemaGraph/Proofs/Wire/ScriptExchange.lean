import SchemaGraph.Host
import SchemaGraph.Proofs.Sql.Validity
import SchemaGraph.Proofs.Wire.StoredTables

/-!
# Scripts through the host

A host reads a script, keeps the answer as a text, and hands that text in again to have a script
written. The schema passes its checks twice and is stored in between. Here it is shown that nothing
is lost on the way: what is written, or the reason why nothing is, depends on the tables of the
first script alone.
-/

namespace SchemaGraph.Host

open Json (Value readsBack)

section
variable {d e : Sql.Dialect} {dName eName text : String} {ids : IdSupply} {script : Sql.Script}

theorem dialectNamed_of_ofName? (hd : Sql.Dialect.ofName? dName = some d) :
    dialectNamed dName = .ok d := by
  simp only [dialectNamed, hd]

/-- The answer to a script: its tables with their relationships, and the reports. -/
def report (ids : IdSupply) (script : Sql.Script) : Value :=
  Wire.encodeReport (.withTables (Workspace.tablesOf .standard ids script).1) script.diagnostics

theorem mapError_lift_writing (r : Except Sql.WritingError String) :
    (lift .writing r).mapError HostError.message = r.mapError Sql.WritingError.message := by
  cases r with
  | ok s => rfl
  | error err => rfl

/-! ## Any layer of texts -/

namespace TextLayer

variable (layer : TextLayer)

/-- The text of the value is read as the value again. -/
def Keeps (v : Value) : Prop := layer.read? (layer.write v) = some v

/-- Every script that can be read is answered with its schema: the schema refuses no tables that
come from a script. -/
theorem parseSql_of_readScript (hd : Sql.Dialect.ofName? dName = some d)
    (hread : Sql.readScript d text = .ok script) :
    layer.parseSql ids text (some dName)
      = .ok (layer.write (report ids script),
          (Workspace.tablesOf (K := Float) .standard ids script).2) := by
  have hmodel : Model.ofTables (Workspace.tablesOf (K := Float) .standard ids script).1 = _ :=
    Sql.replaceAll_tablesOf hread .standard ids
  simp only [parseSql, dialectNamed_of_ofName? hd, bind, Except.bind, hread, lift, hmodel, pure,
    Except.pure, report]

theorem parseSql_of_unread (hd : Sql.Dialect.ofName? dName = some d) {reason : Sql.ScriptError}
    (hread : Sql.readScript d text = .error reason) :
    layer.parseSql ids text (some dName) = .error (.script reason) := by
  simp only [parseSql, dialectNamed_of_ofName? hd, bind, Except.bind, hread, lift]

/-- A stored schema is written as its tables are. -/
theorem generateSql_of_tables (he : Sql.Dialect.ofName? eName = some e) {json : String}
    {ts : List (Table Float)} (hdecode : layer.decode Wire.decodeTables json = .ok ts)
    (hchecked : Model.ofTables ts = .ok (.withTables ts)) (now : Sql.Instant) :
    layer.generateSql now json (some eName)
      = lift .writing (Sql.writeScript e now (ts.map (·.toTableDefinition))) := by
  simp only [generateSql, dialectNamed_of_ofName? he, bind, Except.bind, hdecode, lift, hchecked,
    Model.withTables]

/-- A layer that keeps the answer to a script loses nothing of it, as far as its places are
finite. -/
theorem exchange_of_keeps (hd : Sql.Dialect.ofName? dName = some d)
    (he : Sql.Dialect.ofName? eName = some e)
    (hfinite : ∀ script, Sql.readScript d text = .ok script →
      ∀ t ∈ (Workspace.tablesOf (K := Float) .standard ids script).1,
        t.position.x.isFinite = true ∧ t.position.y.isFinite = true)
    (hkeeps : ∀ script, Sql.readScript d text = .ok script → layer.Keeps (report ids script)) :
    match Sql.readScript d text with
    | .error reason => layer.parseSql ids text (some dName) = .error (.script reason)
    | .ok script => ∃ json ids', layer.parseSql ids text (some dName) = .ok (json, ids') ∧
        layer.decode Wire.decodeTables json = .ok (Workspace.tablesOf .standard ids script).1 ∧
        ∀ now, (layer.generateSql now json (some eName)).mapError HostError.message
          = (Sql.writeScript e now script.definitions).mapError Sql.WritingError.message := by
  split
  · rename_i reason hread
    exact layer.parseSql_of_unread hd hread
  · rename_i script hread
    have hchecked := Sql.replaceAll_tablesOf (K := Float) hread .standard ids
    have hdecode : layer.decode Wire.decodeTables (layer.write (report ids script))
        = .ok (Workspace.tablesOf .standard ids script).1 := by
      rw [decode, hkeeps script hread, Option.bind_some, report,
        Wire.decodeTables_encodeReport _ (hfinite script hread)]
      rfl
    refine ⟨_, _, layer.parseSql_of_readScript hd hread, hdecode, fun now => ?_⟩
    rw [layer.generateSql_of_tables he hdecode hchecked, mapError_lift_writing]
    exact congrArg _ (congrArg _ (Workspace.definitions_tablesOf .standard ids script))

end TextLayer

/-! ## Texts without blanks -/

theorem TextLayer.keeps_of_legible {v : Value} (h : v.Legible) : compact.Keeps v :=
  Value.ofText?_compact h

/-- **Nothing is lost in JSON.** A stored table at a finite place is read as the same table, with
whatever flags and references. Now take any text and any two names of dialects. The one thing asked
of JSON texts is that the numbers of the places are read back as they were written; this is not so
for all numbers, and it makes these finite. If the text cannot be read in the first dialect, the
host is told why. Else the answer holds the tables of the script, and when it is handed in again,
the host gets what is written for the tables of the script in the second dialect, or the reason why
nothing is, in the same words. -/
theorem generateSql_of_parseSql (hd : Sql.Dialect.ofName? dName = some d)
    (he : Sql.Dialect.ofName? eName = some e)
    (hplaces : ∀ script, Sql.readScript d text = .ok script →
      ∀ t ∈ (Workspace.tablesOf .standard ids script).1,
        readsBack t.position.x = true ∧ readsBack t.position.y = true) :
    (∀ t : Table Float, t.position.x.isFinite = true → t.position.y.isFinite = true →
      Wire.decodeTable (Wire.encodeTable t) = some t) ∧
    match Sql.readScript d text with
    | .error reason => parseSql ids text (some dName) = .error (.script reason)
    | .ok script => ∃ json ids', parseSql ids text (some dName) = .ok (json, ids') ∧
        decode Wire.decodeTables json = .ok (Workspace.tablesOf .standard ids script).1 ∧
        ∀ now, (generateSql now json (some eName)).mapError HostError.message
          = (Sql.writeScript e now script.definitions).mapError Sql.WritingError.message := by
  refine ⟨fun t hx hy => Wire.decodeTable_encodeTable hx hy, ?_⟩
  refine TextLayer.exchange_of_keeps .compact hd he (fun script hread t ht => ?_)
    fun script hread => ?_
  · obtain ⟨hx, hy⟩ := hplaces script hread t ht
    exact ⟨Json.isFinite_of_readsBack hx, Json.isFinite_of_readsBack hy⟩
  · have hlegible : (report ids script).Legible := by
      unfold report
      exact Wire.legible_encodeReport _ (hplaces script hread)
    exact TextLayer.keeps_of_legible hlegible

end

/-- A script with a reference that has quotes in it. -/
def petsText : String :=
  "CREATE TABLE users (\"a\"\"b\" INT PRIMARY KEY);
  CREATE TABLE pets (owner INT NOT NULL REFERENCES users(\"a\"\"b\"));"

/-- The tables of the script. -/
def petTables : List TableDefinition :=
  [⟨"users", [⟨"a\"b", "INT", true, false, none⟩]⟩,
    ⟨"pets", [⟨"owner", "INT", false, true, some ⟨"users", "a\"b"⟩⟩]⟩]

/-- The tables are read from the answer, and written in another dialect. -/
theorem generateSql_of_petsText :
    ∃ json ids', parseSql ⟨0, 0⟩ petsText (some "Postgres") = .ok (json, ids') ∧
      (decode Wire.decodeTables json).map (fun ts => ts.map (·.toTableDefinition))
        = .ok petTables ∧
      ∀ now, (generateSql now json (some "mysql")).mapError HostError.message
        = (Sql.writeScript .mysql now petTables).mapError Sql.WritingError.message := by
  obtain ⟨script, hread, hdefs⟩ := @Sql.exists_script .postgresql petsText petTables
    (by decide +kernel)
  have hplaces : ∀ other, Sql.readScript .postgresql petsText = .ok other →
      ∀ t ∈ (Workspace.tablesOf .standard ⟨0, 0⟩ other).1,
        readsBack t.position.x = true ∧ readsBack t.position.y = true := by
    intro other hother
    cases hread.symm.trans hother
    simp only [Workspace.tablesOf, hdefs]
    decide +kernel
  have h := (@generateSql_of_parseSql .postgresql .mysql "Postgres" "mysql" petsText ⟨0, 0⟩
    (by decide +kernel) (by decide +kernel) hplaces).2
  rw [hread] at h
  obtain ⟨json, ids', hparse, hdecode, hwrite⟩ := h
  refine ⟨json, ids', hparse, ?_, fun now => ?_⟩
  · rw [hdecode]
    exact congrArg Except.ok ((Workspace.definitions_tablesOf .standard ⟨0, 0⟩ script).trans hdefs)
  · rw [hwrite, hdefs]

end SchemaGraph.Host
