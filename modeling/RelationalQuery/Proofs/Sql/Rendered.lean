import RelationalQuery.Proofs.Computation
import RelationalQuery.Sql.Chain

/-!
# Rendered statements

What a statement or a chain that is rendered consists of: which of its parts are there, what they
are rendered as, and how their tokens stand one after the other.  The renderer is opened here; what
the tokens of statements hold is then derived from what the tokens of their parts hold.

Main results:

- `Record.tokens_cases`: a rendered row has no columns, or its values are listed or selected.
- `Insert.tokens_eq_ok`, `Assignment.tokens_eq_ok`, `Update.tokens_eq_ok` and `Delete.tokens_eq_ok`:
  the parts of the other statements.
- `Chain.tokens_eq_ok`: a rendered chain ends with its last statement, behind the named ones.
-/

namespace RelationalQuery.Sql

variable {tokens : List Token}

/-! ## Statements -/

/-- A rendered row has no columns, or it lists its columns and then either its values or a selection
of them from the statements that they refer to. -/
theorem Record.tokens_cases {record : Record} (h : record.tokens = .ok tokens) :
    (record.entries = [] ∧ tokens = [.fixed " DEFAULT VALUES"]) ∨
      ∃ columns values rows, namesTokens "," record.columns = .ok columns ∧
        Expr.listTokens (record.entries.map (·.2)) = .ok values ∧
        tokens = .fixed " (" :: columns ++ .fixed ")" :: rows ∧
        ((record.sources = [] ∧
            rows = .fixed " VALUES (" :: Token.separated "," values ++ [.fixed ")"]) ∨
          ∃ sources, sourcesTokens record.sources = .ok sources ∧
            rows = .fixed " SELECT " :: Token.separated ", " values ++ sources) := by
  unfold Record.tokens at h
  split at h
  · rename_i hempty
    exact .inl ⟨List.isEmpty_iff.1 hempty, (pure_eq_ok_iff.1 h).symm⟩
  · simp only [bind_eq_ok_iff] at h
    obtain ⟨columns, hcolumns, values, hvalues, h⟩ := h
    split at h
    · rename_i hsources
      simp only [bind_eq_ok_iff, pure_eq_ok_iff] at h
      obtain ⟨rows, hrows, rfl⟩ := h
      exact .inr ⟨columns, values, rows, hcolumns, hvalues, rfl,
        .inl ⟨List.isEmpty_iff.1 hsources, hrows.symm⟩⟩
    · simp only [bind_eq_ok_iff, pure_eq_ok_iff] at h
      obtain ⟨sources, hsources, rows, hrows, rfl⟩ := h
      exact .inr ⟨columns, values, rows, hcolumns, hvalues, rfl,
        .inr ⟨sources, hsources, hrows.symm⟩⟩

/-- A rendered insert has a table and a row. -/
theorem Insert.tokens_eq_ok {insert : Insert} (h : insert.tokens = .ok tokens) :
    ∃ table record name row columns,
      insert.table? = some table ∧ insert.record? = some record ∧
      nameTokens table = .ok name ∧ record.tokens = .ok row ∧
      returningTokens insert.returning = .ok columns ∧
      tokens = .fixed "INSERT INTO " :: name ++ row ++ columns := by
  obtain ⟨table?, record?, returning⟩ := insert
  cases table? with
  | none => simp [Insert.tokens] at h
  | some table =>
    cases record? with
    | none => simp [Insert.tokens] at h
    | some record =>
      simp only [Insert.tokens, bind_eq_ok_iff, pure_eq_ok_iff] at h
      obtain ⟨name, hname, row, hrow, columns, hcolumns, htokens⟩ := h
      exact ⟨table, record, name, row, columns, rfl, rfl, hname, hrow, hcolumns, htokens.symm⟩

/-- A rendered assignment is its target and its value with an equals sign between them. -/
theorem Assignment.tokens_eq_ok {assignment : Assignment} (h : assignment.tokens = .ok tokens) :
    ∃ target value, assignment.target.tokens = .ok target ∧
      assignment.value.tokens = .ok value ∧ tokens = target ++ .fixed " = " :: value := by
  simp only [Assignment.tokens, bind_eq_ok_iff, pure_eq_ok_iff] at h
  obtain ⟨target, htarget, value, hvalue, htokens⟩ := h
  exact ⟨target, value, htarget, hvalue, htokens.symm⟩

/-- A rendered update has a table; the statements that it reads stand behind the assignments. -/
theorem Update.tokens_eq_ok {update : Update} (h : update.tokens = .ok tokens) :
    ∃ table name assignments sources condition columns,
      update.table? = some table ∧ nameTokens table = .ok name ∧
      update.assignments.mapM Assignment.tokens = .ok assignments ∧
      sourcesTokens update.allSources = .ok sources ∧
      Condition.clauseTokens update.where? = .ok condition ∧
      returningTokens update.returning = .ok columns ∧
      tokens = .fixed "UPDATE ONLY " :: name ++ .fixed " SET " ::
        Token.separated ", " assignments ++ sources ++ condition ++ columns := by
  obtain ⟨table?, assignments, sources, where?, returning⟩ := update
  cases table? with
  | none => simp [Update.tokens] at h
  | some table =>
    simp only [Update.tokens] at h
    split at h
    · simp at h
    · simp only [bind_eq_ok_iff, pure_eq_ok_iff] at h
      obtain ⟨name, hname, parts, hparts, sources, hsources, condition, hcondition,
        columns, hcolumns, htokens⟩ := h
      exact ⟨table, name, parts, sources, condition, columns, rfl, hname, hparts, hsources,
        hcondition, hcolumns, htokens.symm⟩

/-- A rendered delete has a table. -/
theorem Delete.tokens_eq_ok {delete : Delete} (h : delete.tokens = .ok tokens) :
    ∃ table name condition columns,
      delete.table? = some table ∧ nameTokens table = .ok name ∧
      Condition.clauseTokens delete.where? = .ok condition ∧
      returningTokens delete.returning = .ok columns ∧
      tokens = .fixed "DELETE FROM " :: name ++ condition ++ columns := by
  obtain ⟨table?, where?, returning⟩ := delete
  cases table? with
  | none => simp [Delete.tokens] at h
  | some table =>
    simp only [Delete.tokens, bind_eq_ok_iff, pure_eq_ok_iff] at h
    obtain ⟨name, hname, condition, hcondition, columns, hcolumns, htokens⟩ := h
    exact ⟨table, name, condition, columns, rfl, hname, hcondition, hcolumns, htokens.symm⟩

/-! ## Chains -/

namespace Chain

/-- A chain that is rendered has a last statement, and its tokens are the last ones.  In front of
them stand the named statements, if there are any. -/
theorem tokens_eq_ok {chain : Chain} (h : chain.tokens = .ok tokens) :
    ∃ named body own, chain.statements = named ++ [body] ∧ body.tokens = .ok own ∧
      ((named = [] ∧ tokens = own) ∨
        ∃ parts, namedTokens chain.stem 0 named = .ok parts ∧
          tokens = .fixed "WITH " :: Token.separated ", " parts ++ .fixed " " :: own) := by
  unfold Chain.tokens at h
  split at h
  · simp at h
  · rename_i body hbody
    have hstatements := (List.dropLast_append_getLast? body hbody).symm
    split at h
    · rename_i hnone
      exact ⟨[], body, tokens, hnone ▸ hstatements, h, .inl ⟨rfl, rfl⟩⟩
    · simp only [bind_eq_ok_iff, pure_eq_ok_iff] at h
      obtain ⟨parts, hparts, own, hown, htokens⟩ := h
      exact ⟨chain.statements.dropLast, body, own, hstatements, hown,
        .inr ⟨parts, hparts, htokens.symm⟩⟩

end Chain

end RelationalQuery.Sql
