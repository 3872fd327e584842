import BoundUpdate.Proofs.Backend.Exchange
import BoundUpdate.Proofs.Backend.ReturningClause
import BoundUpdate.Proofs.Template.MarkerCount

namespace BoundUpdate

/-!
# The markers of a prepared statement

A driver must find as many markers in the text of a prepared statement as the
statement has slots.  It does when the text is the rendered one.  A returning
clause can change the number: text that is taken off in front of it may hold
markers, and so may the columns.
-/

open Template

namespace Returning

/-- No marker goes on from the kept text of a statement into the text that is taken off. -/
theorem IsCut.endsMarkers {s kept gap rest : List Char} {k : Nat} (h : IsCut s kept gap k rest) :
    EndsMarkers (gap ++ (List.replicate k ';' ++ rest)) := by
  intro c hc
  rcases h.head?_cases hc with hblank | rfl | ⟨rfl, -⟩
  · exact ⟨StatementText.ne_of_isBlank hblank (by decide),
      StatementText.ne_of_isBlank hblank (by decide), isWord_of_isBlank hblank⟩
  · decide
  · decide

/-- A clause changes the number of markers by those of its columns and of the text that is taken
off. -/
theorem markers?_withClause (style : MarkerStyle) {sql : List Char} {n : Nat}
    (h : markers? style sql = some n) (columns : List Char) :
    ∃ removed i j, sql = body sql ++ removed ∧ markers? style (body sql) = some i ∧
      markers? style removed = some j ∧ n = i + j ∧
      markers? style (body sql ++ (" RETURNING ".toList ++ columns)) =
        (markers? style columns).map (i + ·) := by
  obtain ⟨gap, k, rest, hcut⟩ := exists_cut sql
  have hends := hcut.endsMarkers
  have htotal := h
  rw [hcut.eq] at htotal
  obtain ⟨i, hi⟩ := exists_markers? style hends htotal
  rw [markers?_append style hends hi] at htotal
  obtain ⟨j, hj, hn⟩ := Option.map_eq_some_iff.1 htotal
  have hclause : EndsMarkers (" RETURNING ".toList ++ columns) := by
    intro c hc
    rw [List.head?_append_of_ne_nil _ (by decide)] at hc
    cases hc
    decide
  refine ⟨_, i, j, hcut.eq, hi, hj, hn.symm, ?_⟩
  rw [markers?_append style hclause hi,
    markers?_plain style (by decide) (by decide) (by decide)]

end Returning

namespace Database

/-- Preparing gives a statement with one slot for every placeholder.  A driver finds as many markers
in its text as it has slots, with a returning clause exactly when the columns hold as many markers
as the text that was taken off in front of the clause. -/
theorem markers_of_prepared_iff (d : Database) (style : MarkerStyle) (hstyle : d.style = style.word)
    (t : Template) (hplain : ∀ text, Segment.literal text ∈ t.segments →
      ':' ∉ text.toList ∧ '?' ∉ text.toList)
    (keys : KeyRequest) (columns : List Value)
    (hcolumns : ∀ v ∈ columns, v.text?.isSome = true) (activity : Activity) :
    ∃ s after, d.unit.prepare t keys columns activity = (.ok s, after) ∧
      s.slots = t.placeholders.length ∧
      (s.returning = false → markers? style s.sql.toList = some s.slots) ∧
      (s.returning = true → ∃ removed,
        (t.render style).toList = Returning.body (t.render style).toList ++ removed ∧
        s.sql.toList = Returning.body (t.render style).toList ++ " RETURNING ".toList ++
          (Returning.columnsText columns).toList ∧
        (markers? style s.sql.toList = some s.slots ↔
          markers? style (Returning.columnsText columns).toList = markers? style removed)) := by
  obtain ⟨journal, hrun⟩ := d.prepare_run t keys columns activity
  have hrendered : t.renderAs d.style = .ok (t.render style) := by
    rw [hstyle, renderAs_word]
  have hcount := markers?_render style hplain
  rw [Dialect.statementText_of_rendered hrendered] at hrun
  cases hkeys : d.dialect.returnsKeys activity.surroundings.sqliteVersion keys columns with
  | false =>
    rw [hkeys] at hrun
    exact ⟨_, _, hrun, rfl, fun _ => hcount, nofun⟩
  | true =>
    rw [hkeys, if_pos rfl, Returning.append_of_texts hcolumns] at hrun
    refine ⟨_, _, hrun, rfl, nofun, fun _ => ?_⟩
    obtain ⟨removed, i, j, hsql, -, hj, hn, hclause⟩ := Returning.markers?_withClause style hcount
      (Returning.columnsText columns).toList
    have htext : (String.ofList (Returning.body (t.render style).toList) ++ " RETURNING " ++
        Returning.columnsText columns).toList = Returning.body (t.render style).toList ++
          (" RETURNING ".toList ++ (Returning.columnsText columns).toList) := by
      simp only [String.toList_append, String.toList_ofList, List.append_assoc]
    refine ⟨removed, hsql, by rw [htext, List.append_assoc], ?_⟩
    rw [htext, hclause, hj]
    show (markers? style _).map (i + ·) = some t.placeholders.length ↔ _
    rw [hn]
    cases markers? style (Returning.columnsText columns).toList <;> simp

/-- A comment without markers is taken off, and the percent sign of a literal is doubled. -/
theorem markers_of_prepared_with_comment :
    let d : Database := { dialect := .postgres, connection := none, style := "format" }
    let t : Template := { source := "SET a = 5% + ?1 WHERE b = ?2; -- 5%", segments :=
      [.literal "SET a = 5% + ", .placeholder { index := 1 }, .literal " WHERE b = ",
        .placeholder { index := 2 }, .literal "; -- 5%"] }
    (d.style = MarkerStyle.format.word ∧
      (∀ text, Segment.literal text ∈ t.segments → ':' ∉ text.toList ∧ '?' ∉ text.toList) ∧
      ∀ v ∈ [Value.text "id"], v.text?.isSome = true) ∧
      ∃ s after, d.unit.prepare t .columns [.text "id"] {} = (.ok s, after) ∧
        s.sql = "SET a = 5%% + %s WHERE b = %s RETURNING id" ∧
        markers? .format s.sql.toList = some s.slots := by
  intro d t
  have hplain : ∀ text, Segment.literal text ∈ t.segments →
      ':' ∉ text.toList ∧ '?' ∉ text.toList := by
    intro text htext
    have hcases : text = "SET a = 5% + " ∨ text = " WHERE b = " ∨ text = "; -- 5%" := by
      simpa [t] using htext
    rcases hcases with rfl | rfl | rfl <;> decide
  have hcolumns : ∀ v ∈ [Value.text "id"], v.text?.isSome = true := by simp [Value.text?]
  obtain ⟨s, after, hrun, -, -, hcount⟩ :=
    markers_of_prepared_iff d .format rfl t hplain .columns [.text "id"] hcolumns {}
  obtain ⟨hsql, hreturning⟩ := prepare_ok hrun
  have htext : d.dialect.statementText ({} : Activity).surroundings.sqliteVersion d.style t .columns
      [.text "id"] = .ok "SET a = 5%% + %s WHERE b = %s RETURNING id" := by cbv
  obtain ⟨removed, hremoved, -, hiff⟩ := hcount hreturning
  have hbody : Returning.body (t.render .format).toList =
      "SET a = 5%% + %s WHERE b = %s".toList := by cbv
  have hrendered : (t.render .format).toList =
      "SET a = 5%% + %s WHERE b = %s".toList ++ "; -- 5%%".toList := by decide +kernel
  rw [hbody, hrendered] at hremoved
  obtain rfl := List.append_cancel_left hremoved
  refine ⟨⟨rfl, hplain, hcolumns⟩, s, after, hrun, ?_, hiff.2 (by decide +kernel)⟩
  exact Except.ok.inj (hsql.symm.trans htext)

/-- A comment that holds a marker is taken off: the driver finds one marker and is given two
values. -/
theorem marker_lost_with_comment :
    let d : Database := { dialect := .postgres, connection := none, style := "format" }
    let t : Template := { source := "INSERT INTO t (a) VALUES (?1) -- ?2", segments :=
      [.literal "INSERT INTO t (a) VALUES (", .placeholder { index := 1 }, .literal ") -- ",
        .placeholder { index := 2 }] }
    read "INSERT INTO t (a) VALUES (?1) -- ?2" = .ok t ∧
      ∃ s after, d.unit.prepare t .driverDefined [] {} = (.ok s, after) ∧
        s.sql = "INSERT INTO t (a) VALUES (%s) RETURNING *" ∧
        markers? .format s.sql.toList = some 1 ∧ s.slots = 2 := by
  intro d t
  have htext : d.dialect.statementText ({} : Activity).surroundings.sqliteVersion d.style t
      .driverDefined [] = .ok "INSERT INTO t (a) VALUES (%s) RETURNING *" := by cbv
  obtain ⟨journal, hrun⟩ := d.prepare_run t .driverDefined [] {}
  rw [htext] at hrun
  exact ⟨by cbv, _, _, hrun, rfl, by decide +kernel, rfl⟩

end Database
end BoundUpdate
