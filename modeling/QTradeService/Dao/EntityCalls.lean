import QTradeService.Dao.Autocommit
import QTradeService.Dao.Entities

set_option relaxedAutoImplicit false
set_option autoImplicit false

/-!
# Calls on tables of entities

The calls of a data access object on a database that conforms, outside a transaction: each of them
is executed as a whole or leaves the entities as they were, but for an insertion, which keeps what
was inserted before the failure.

## Main definitions

* `Dao.ITableDml.Accesses` — a data access object is the one of a table.
* `Dao.Entities.HeldBy` — a database holds the entities.
* `Dao.DmlCall.ReportedBy` — what a connection reports, by the way in which it counts.
* `Dao.ITableDml.Refines` — all runs of calls do to the table what they are to do to the entities.
* `Dao.ITableDml.RefinesEntities` — they do, in whatever way the connection counts.

## Main results

* `Dao.perform_ensures` — one call.
* `Dao.ITableDml.Accesses.refines` — any calls, one after the other.
-/

namespace Dao

open Sql Database

variable {schema : Schema} {Record Entity : Type} {T : EntityTable schema Record Entity}

/-! ## Data access objects of a table -/

/-- The data access object is the one of the table. -/
structure ITableDml.Accesses (dml : ITableDml Record) (T : EntityTable schema Record Entity) :
    Prop where
  insert : ∀ records, dml.insert records = insertRecords T.name T.buildValues records
  delete : ∀ whereConditions,
    dml.delete whereConditions = deleteRecords T.name T.buildValues whereConditions
  batchDelete : ∀ ids, dml.batchDelete ids = pure (.void .kInternalError "composite primary key")
  update : ∀ record whereConditions, dml.update record whereConditions =
    updateRecords T.name T.buildValues record whereConditions
  count : ∀ whereConditions,
    dml.count whereConditions = countRecords T.name T.buildValues whereConditions
  /-- It answers with the records of the rows, in some order. -/
  select : ∀ {σ : Type} {db : Program.Handler Call.Answer σ} {content : σ → Session schema}
    {faults : Prop} {counting : Counting}, ConformsInFull faults counting db content →
    ∀ whereConditions s, (dml.select whereConditions).Ensures db s fun result s' =>
      Queried faults (fun records => ∃ rows : List Row, records = rows.map T.ofRow ∧
        rows.Perm ((content s).view.select T.name
          (conditionsOf (T.buildValues whereConditions)))) result ∧ content s' = content s
  truncate : dml.truncate = truncateRows T.name

/-- The database holds the entities, and no transaction is open. -/
structure Entities.HeldBy (held : Entities T) (session : Session schema) : Prop where
  idle : session.working = none
  rows : session.committed.rows T.name = held.entities.map T.row

/-- The session of a database that holds entities. -/
lemma Entities.HeldBy.session_eq {held : Entities T} {session : Session schema}
    (h : held.HeldBy session) : session = ⟨session.committed, none⟩ := by
  obtain ⟨committed, working⟩ := session
  obtain rfl : working = none := h.idle
  rfl

/-- The rows that a statement finds. -/
lemma Entities.HeldBy.view_rows {held : Entities T} {session : Session schema}
    (h : held.HeldBy session) : session.view.rows T.name = held.entities.map T.row := by
  rw [h.session_eq]
  exact h.rows

/-! ## Entities as rows -/

/-- The entity satisfies the conditions that reach the database. -/
lemma satisfies_row (entity : Entity) (whereConditions : Record) :
    (T.row entity).satisfies (conditionsOf (T.buildValues whereConditions)) =
      decide (T.Selects whereConditions entity) := by
  rw [satisfies_conditionsOf, decide_eq_decide]
  exact T.matches_row entity whereConditions

/-- The rows that a query finds. -/
lemma select_eq {held : Entities T} {session : Session schema} (h : held.HeldBy session)
    (whereConditions : Record) :
    session.view.select T.name (conditionsOf (T.buildValues whereConditions)) =
      (held.selected whereConditions).map T.row := by
  rw [Store.select, h.view_rows, List.filter_map]
  exact congrArg _ (List.filter_congr fun entity _ => satisfies_row entity whereConditions)

/-- A declared table is the one of its name. -/
lemma eq_table {table : TableSchema} (h : table ∈ schema T.name) : table = T.table :=
  Option.some.inj (h.symm.trans T.declared)

/-- The keys of rows differ if the keys of the entities do. -/
lemma nodup_keyOf {entities : List Entity} :
    ((entities.map T.row).map T.table.keyOf).Nodup ↔ (entities.map T.key).Nodup := by
  have hinjective : Function.Injective (List.map (some : String → Option String)) :=
    List.map_injective_iff.mpr (Option.some_injective String)
  have hkeys : (entities.map T.row).map T.table.keyOf =
      (entities.map T.key).map (List.map some) := by
    rw [List.map_map, List.map_map]
    exact List.map_congr_left fun entity _ => T.keyOf_row entity
  rw [hkeys, List.nodup_map_iff hinjective]

/-- A statement that was executed leaves entities if its rows are theirs. -/
lemma exists_heldBy {store store' : Store schema} {statement : Statement}
    (htable : statement.table = T.name) (hexec : store.exec statement = some store')
    {entities : List Entity}
    (hchange : statement.change (store.rows T.name) = entities.map T.row) :
    ∃ left : Entities T, left.entities = entities ∧ left.HeldBy ⟨store', none⟩ := by
  have hrows := Store.exec_eq_some hexec
  have hkeyed := store'.keyed T.name T.table T.declared
  rw [htable, hchange] at hrows
  rw [hrows] at hkeyed
  exact ⟨⟨entities, nodup_keyOf.mp hkeyed⟩, rfl, rfl, hrows⟩

/-- A statement that is refused would leave two entities with one key. -/
lemma not_nodup_of_exec {store : Store schema} {statement : Statement}
    (htable : statement.table = T.name) (hexec : store.exec statement = none)
    {entities : List Entity}
    (hchange : statement.change (store.rows T.name) = entities.map T.row) :
    ¬(entities.map T.key).Nodup := by
  intro hnodup
  refine Store.write_ne_none (fun table h => ?_) hexec
  rw [htable] at h ⊢
  rw [eq_table h, hchange]
  exact nodup_keyOf.mpr hnodup

/-! ## What calls report -/

/-- The statement of a deletion or an update. -/
def DmlCall.statement : DmlCall T → Option Statement
  | .delete whereConditions =>
    some (.delete T.name (conditionsOf (T.buildValues whereConditions)))
  | .update values _ whereConditions =>
    some (.update T.name (T.buildValues values) (conditionsOf (T.buildValues whereConditions)))
  | .truncate => some (.delete T.name [])
  | .insert _ | .batchDelete _ | .count _ | .select _ => none

/-- A connection that counts in this way may report the number. -/
def DmlCall.ReportedBy (counting : Counting) (held : Entities T) (call : DmlCall T)
    (affected : ℤ) : Prop :=
  ∃ statement ∈ call.statement, counting.Reports statement (held.entities.map T.row) affected

/-- The number of rows that satisfy the conditions. -/
lemma countP_satisfies (held : Entities T) (whereConditions : Record) :
    ((held.entities.map T.row).countP fun row =>
      row.satisfies (conditionsOf (T.buildValues whereConditions))) =
    (held.selected whereConditions).length := by
  rw [Entities.selected, ← List.countP_eq_length_filter, List.countP_map]
  exact List.countP_congr fun entity _ => by simp [satisfies_row]

/-- The number of rows that a statement is about. -/
lemma affected_statement (held : Entities T) {call : DmlCall T} {statement : Statement}
    (hstatement : statement ∈ call.statement) :
    statement.affected (held.entities.map T.row) = call.found held := by
  cases call with
  | delete whereConditions | update _ _ whereConditions =>
    obtain rfl := Option.some.inj hstatement
    exact countP_satisfies held whereConditions
  | truncate =>
    obtain rfl := Option.some.inj hstatement
    simp [Statement.affected, Row.satisfies, DmlCall.found]
  | insert | batchDelete | count | select => cases hstatement

/-- An entity stays as it was if its row does.

**Proof sketch.** A row agrees with the given values if and only if assigning them changes nothing,
and the row determines the record. -/
lemma satisfies_values (entity : Entity) (values : Record) (hvalues : T.Readable values) :
    (T.row entity).satisfies (T.buildValues values) = true ↔
      T.record (T.assign values hvalues entity) = T.record entity := by
  rw [← Row.assign_eq_self (T.fits values).distinct]
  have hrow : (T.row entity).assign (T.buildValues values) =
      T.row (T.assign values hvalues entity) := T.assign_row entity values hvalues
  rw [hrow]
  constructor
  · intro h
    have hrecord := congrArg T.ofRow h
    rwa [EntityTable.row, EntityTable.row, T.ofRow_row, T.ofRow_row] at hrecord
  · intro h
    rw [EntityTable.row, h]
    rfl

/-- The number of rows that a statement changes.

**Proof sketch.** By cases on the call. A deletion changes all rows that it finds, and an update
those that do not agree with its values yet. -/
lemma changedRows_statement [DecidableEq Record] (held : Entities T) {call : DmlCall T}
    {statement : Statement} (hstatement : statement ∈ call.statement) :
    changedRows statement (held.entities.map T.row) = call.changed held := by
  cases call with
  | delete | truncate =>
    have haffected := affected_statement held hstatement
    obtain rfl := Option.some.inj hstatement
    exact haffected
  | update values hvalues whereConditions =>
    obtain rfl := Option.some.inj hstatement
    rw [changedRows, DmlCall.changed, Entities.selected, List.countP_map, List.countP_filter]
    refine List.countP_congr fun entity _ => ?_
    simp [satisfies_row, ← satisfies_values entity values hvalues, and_comm]
  | insert | batchDelete | count | select => cases hstatement

/-- A connection that counts the rows that it finds. -/
lemma DmlCall.ReportedBy.found {held : Entities T} {call : DmlCall T} {affected : ℤ}
    (h : call.ReportedBy countFound held affected) : affected = call.found held := by
  obtain ⟨statement, hstatement, hreports⟩ := h
  rw [show affected = statement.affected _ from hreports, affected_statement held hstatement]

/-- A connection that counts the rows that it changes. -/
lemma DmlCall.ReportedBy.changed [DecidableEq Record] {held : Entities T} {call : DmlCall T}
    {affected : ℤ} (h : call.ReportedBy countChanged held affected) :
    affected = call.changed held := by
  obtain ⟨statement, hstatement, hreports⟩ := h
  rw [show affected = changedRows statement _ from hreports,
    changedRows_statement held hstatement]

/-! ## What the calls do -/

section

variable {σ : Type} {db : Program.Handler Call.Answer σ} {content : σ → Session schema}
  {faults : Prop} {counting : Counting} (hdb : ConformsInFull faults counting db content)
  (hopens : OpensOnDemand db content) (hwords : schema.Wordy) {dml : ITableDml Record}
  (hdml : dml.Accesses T) {held : Entities T} {s : σ} (hheld : held.HeldBy (content s))

include hopens hheld

/-- A write that is to leave some entities. -/
lemma write_ensures {p : Db (Result ℤ)} (hp : p.Only (· ≠ .beginTransaction))
    {statement : Statement} (htable : statement.table = T.name)
    {reported : ℤ → Prop} (hwritten : p.Ensures db s fun result s' =>
      Written faults reported (content s) statement result (content s'))
    {new : List Entity}
    (hchange : statement.change (held.entities.map T.row) = new.map T.row) :
    p.Ensures db s fun result s' => ∃ left : Entities T, left.HeldBy (content s') ∧
      ((∃ affected, reported affected ∧ result = ⟨.kSuccess, "", some affected⟩ ∧
        left.entities = new) ∨
      ∃ message, result = .void .kSystemError message ∧ left = held ∧
        (faults ∨ ¬(new.map T.key).Nodup)) := by
  rw [← hheld.rows] at hchange
  refine (settled_ensures hopens hp hheld.idle hwritten).mono fun result s' hsettled => ?_
  generalize content s' = session at hsettled ⊢
  cases hsettled with
  | executed hexec hreported =>
    obtain ⟨left, hleft, hheld'⟩ := exists_heldBy htable hexec hchange
    exact ⟨left, hheld', .inl ⟨_, hreported, rfl, hleft⟩⟩
  | refused hexec =>
    refine ⟨held, hheld.session_eq ▸ hheld, .inr ⟨_, rfl, rfl, hexec.symm.imp_right ?_⟩⟩
    exact fun hexec => not_nodup_of_exec htable hexec hchange

include hdb hwords

/-- Inserting one entity.

**Proof sketch.** The insert appends the row of the entity, or it is refused: on a faulty database,
or because its key is taken. -/
lemma insertEntity_ensures (entity : Entity) :
    (insertRow T.name (T.buildValues (T.record entity))).Ensures db s
      fun result s' => ∃ left : Entities T, left.HeldBy (content s') ∧
        ((result = ⟨.kSuccess, "", some 1⟩ ∧ left.entities = held.entities ++ [entity]) ∨
        ∃ message, result = .void .kSystemError message ∧ left = held ∧
          (faults ∨ T.key entity ∈ held.entities.map T.key)) := by
  have hvalues : T.buildValues (T.record entity) ≠ [] :=
    mt (T.buildValues_eq_nil _).mp (T.record_ne entity)
  have hchange : (Statement.insert T.name (T.buildValues (T.record entity))).change
        (held.entities.map T.row) = (held.entities ++ [entity]).map T.row := by
    rw [List.map_append]
    rfl
  refine (write_ensures hopens hheld (insertRow_only _ _) rfl
    (insertRow_ensures hdb.toConforms hwords T.declared (T.fits _) (T.complete entity) hvalues s)
    hchange).mono ?_
  rintro result s' ⟨left, hheld', ⟨affected, rfl, rfl, hleft⟩ | ⟨message, rfl, rfl, hfailed⟩⟩
  · exact ⟨left, hheld', .inl ⟨rfl, hleft⟩⟩
  · refine ⟨left, hheld', .inr ⟨message, rfl, rfl, hfailed.imp_right fun hnodup => ?_⟩⟩
    by_contra hkey
    refine hnodup ?_
    rw [List.map_append, List.map_singleton, List.nodup_append']
    exact ⟨left.distinct, List.nodup_singleton _, List.disjoint_singleton.mpr hkey⟩

/-- Inserting entities, one by one.

**Proof sketch.** By induction on the entities. Each one is inserted and counted, or the loop stops
at it with what was inserted before. -/
lemma insertFrom_ensures (new : List Entity) (n : ℕ) :
    (insertFrom T.name T.buildValues n (new.map T.record)).Ensures db s fun result s' =>
        ∃ left : Entities T, left.HeldBy (content s') ∧
          ((result = ⟨.kSuccess, "", some ((n + new.length : ℕ) : ℤ)⟩ ∧
            left.entities = held.entities ++ new) ∨
          ∃ message inserted entity rest, result = .void .kSystemError message ∧
            new = inserted ++ entity :: rest ∧ left.entities = held.entities ++ inserted ∧
            (faults ∨ T.key entity ∈ left.entities.map T.key)) := by
  induction new generalizing held n s with
  | nil => exact .pure ⟨held, hheld, .inl ⟨by simp, by simp⟩⟩
  | cons entity new ih =>
    have hvalues : T.buildValues (T.record entity) ≠ [] :=
      mt (T.buildValues_eq_nil _).mp (T.record_ne entity)
    unfold insertFrom
    rw [List.map_cons]
    simp only
    rw [if_neg (by simpa using hvalues)]
    refine (insertEntity_ensures hdb hopens hwords hheld entity).bind ?_
    rintro result s₁ ⟨left₁, hheld₁, ⟨rfl, hleft₁⟩ | ⟨message, rfl, rfl, hfailed⟩⟩
    · rw [if_neg (by simp)]
      refine (ih hheld₁ (n + 1)).mono ?_
      rintro result s₂ ⟨left₂, hheld₂, hs₂⟩
      refine ⟨left₂, hheld₂, ?_⟩
      rw [hleft₁] at hs₂
      rcases hs₂ with ⟨rfl, hleft₂⟩ | ⟨message, inserted, entity', rest, rfl, rfl, hleft₂, hfailed⟩
      · refine .inl ⟨?_, by rw [hleft₂, List.append_assoc, List.singleton_append]⟩
        rw [List.length_cons, Nat.add_right_comm, Nat.add_assoc]
      · exact .inr ⟨message, entity :: inserted, entity', rest, rfl, rfl,
          by rw [hleft₂, List.append_assoc, List.singleton_append], hfailed⟩
    · rw [if_pos (by simp [Result.void])]
      exact .pure ⟨left₁, hheld₁, .inr ⟨message, [], entity, new, rfl, rfl,
        (List.append_nil _).symm, hfailed⟩⟩

include hdml

/-- `Insert`.

**Proof sketch.** No entity is refused at once; otherwise the loop inserts them one by one. -/
lemma insert_ensures (new : List Entity) :
    (dml.insert (new.map T.record)).Ensures db s fun result s' =>
      ∃ left : Entities T, left.HeldBy (content s') ∧
        DmlStep faults (DmlCall.ReportedBy counting) held (.insert new) (.rows result) left := by
  rw [hdml.insert]
  unfold insertRecords
  by_cases hnew : new = []
  · subst hnew
    exact .pure ⟨held, hheld, .insertedNone⟩
  rw [if_neg (by simpa using hnew)]
  refine (insertFrom_ensures hdb hopens hwords hheld new 0).mono ?_
  rintro result s' ⟨left, hheld', hresult⟩
  refine ⟨left, hheld', ?_⟩
  rcases hresult with ⟨rfl, hleft⟩ | ⟨message, inserted, entity, rest, rfl, rfl, hleft, hfailed⟩
  · rw [Nat.zero_add]
    exact .inserted hnew hleft
  · exact .insertFailed rfl hleft hfailed

/-- `Delete`.

**Proof sketch.** Empty conditions are refused. Otherwise the rows that agree are deleted, which
leaves no two rows with one key. -/
lemma delete_ensures (whereConditions : Record) :
    (dml.delete whereConditions).Ensures db s fun result s' =>
      ∃ left : Entities T, left.HeldBy (content s') ∧
        DmlStep faults (DmlCall.ReportedBy counting) held (.delete whereConditions)
          (.rows result) left := by
  rw [hdml.delete]
  unfold deleteRecords
  by_cases hwhere : whereConditions = T.empty
  · rw [if_pos (by simpa using (T.buildValues_eq_nil _).mpr hwhere)]
    exact .pure ⟨held, hheld, .deleteFailed (.inl hwhere)⟩
  have hne : T.buildValues whereConditions ≠ [] := mt (T.buildValues_eq_nil _).mp hwhere
  have hfits := T.fits whereConditions
  have hread := read_delete (hwords _ _ T.declared).1 (columns_of_fits hwords T.declared hfits)
  have hadmits : schema.Admits (.delete T.name (conditionsOf (T.buildValues whereConditions))) :=
    ⟨T.table, T.declared, hfits.sublist List.filter_sublist⟩
  have hwritten := deleteRows_ensures_of hdb.toConforms hne (s := s)
    fun s₁ _ => execute_ensures hdb.toConforms hread trivial hadmits s₁
  have hchange : (Statement.delete T.name (conditionsOf (T.buildValues whereConditions))).change
      (held.entities.map T.row) = (held.others whereConditions).map T.row := by
    simp only [Statement.change, List.filter_map]
    refine congrArg _ (List.filter_congr fun entity _ => ?_)
    simp [satisfies_row]
  rw [if_neg (by simpa using hne)]
  refine (write_ensures hopens hheld (deleteRows_only _ _) rfl hwritten hchange).mono ?_
  rintro result s' ⟨left, hheld', ⟨affected, hreported, rfl, hleft⟩ | ⟨message, rfl, rfl, hfailed⟩⟩
  · rw [Statement.table, hheld.view_rows] at hreported
    exact ⟨left, hheld', .deleted hwhere hleft ⟨_, rfl, hreported⟩⟩
  · refine ⟨left, hheld', .deleteFailed (.inr (hfailed.resolve_right (not_not.mpr ?_)))⟩
    exact left.distinct.sublist (List.filter_sublist.map _)

/-- `Update`.

**Proof sketch.** Empty values or conditions are refused. Otherwise the rows that agree are
overwritten, or the update is refused as a whole. -/
lemma update_ensures (values whereConditions : Record) (hvalues : T.Readable values) :
    (dml.update values whereConditions).Ensures db s fun result s' =>
      ∃ left : Entities T, left.HeldBy (content s') ∧
        DmlStep faults (DmlCall.ReportedBy counting) held (.update values hvalues whereConditions)
          (.rows result) left := by
  rw [hdml.update]
  unfold updateRecords
  by_cases hempty : values = T.empty ∨ whereConditions = T.empty
  · rw [if_pos (by simpa [T.buildValues_eq_nil] using hempty)]
    exact .pure ⟨held, hheld, .updateFailed (hempty.imp_right .inl)⟩
  obtain ⟨hne, hwhere⟩ := not_or.mp hempty
  have hchange : (Statement.update T.name (T.buildValues values)
      (conditionsOf (T.buildValues whereConditions))).change (held.entities.map T.row) =
      (held.updated values hvalues whereConditions).map T.row := by
    simp only [Statement.change, Entities.updated, List.map_map]
    refine List.map_congr_left fun entity _ => ?_
    simp only [Function.comp_apply, satisfies_row, decide_eq_true_eq]
    rw [apply_ite T.row]
    exact if_congr Iff.rfl (T.assign_row entity values hvalues) rfl
  rw [if_neg (by simpa [T.buildValues_eq_nil] using hempty)]
  refine (write_ensures hopens hheld (updateRows_only _ _ _) rfl
    (updateRows_ensures hdb.toConforms hwords T.declared (T.fits values) (T.fits whereConditions)
      (mt (T.buildValues_eq_nil _).mp hne) (mt (T.buildValues_eq_nil _).mp hwhere) s) hchange).mono
    ?_
  rintro result s' ⟨left, hheld', ⟨affected, hreported, rfl, hleft⟩ | ⟨message, rfl, rfl, hfailed⟩⟩
  · rw [hheld.view_rows] at hreported
    exact ⟨left, hheld', .updated hne hwhere hleft ⟨_, rfl, hreported⟩⟩
  · exact ⟨left, hheld', .updateFailed (.inr (.inr hfailed))⟩

/-- `Truncate`. -/
lemma truncate_ensures :
    dml.truncate.Ensures db s fun result s' => ∃ left : Entities T, left.HeldBy (content s') ∧
      DmlStep faults (DmlCall.ReportedBy counting) held .truncate (.rows result) left := by
  rw [hdml.truncate]
  have hchange : (Statement.delete T.name []).change (held.entities.map T.row) = [].map T.row := by
    simp [Statement.change, Row.satisfies]
  refine (write_ensures hopens hheld (truncateRows_only _) rfl
    (truncateRows_ensures hdb.toConforms hwords T.declared s) hchange).mono ?_
  rintro result s' ⟨left, hheld', ⟨affected, hreported, rfl, hleft⟩ | ⟨message, rfl, rfl, hfailed⟩⟩
  · rw [hheld.view_rows] at hreported
    exact ⟨left, hheld', .truncated hleft ⟨_, rfl, hreported⟩⟩
  · exact ⟨left, hheld', .truncateFailed (hfailed.resolve_right (by simp))⟩

omit hopens in
/-- `Count`. -/
lemma count_ensures (whereConditions : Record) :
    (dml.count whereConditions).Ensures db s fun result s' => held.HeldBy (content s') ∧
      DmlStep faults (DmlCall.ReportedBy counting) held (.count whereConditions)
        (.rows result) held := by
  rw [hdml.count]
  refine (countRows_ensures hdb.toConforms hwords T.declared (T.fits whereConditions) s).mono ?_
  rintro result s' ⟨hqueried, hs'⟩
  refine ⟨by rwa [hs'], ?_⟩
  cases hqueried with
  | answered hcount =>
    rw [hcount, select_eq hheld, List.length_map]
    exact .counted
  | failed hfaults => exact .countFailed hfaults

omit hopens hwords in
/-- `Select`.

**Proof sketch.** The rows that agree are answered in some order, and a row is read as the record of
its entity. -/
lemma select_ensures (whereConditions : Record) :
    (dml.select whereConditions).Ensures db s fun result s' => held.HeldBy (content s') ∧
      DmlStep faults (DmlCall.ReportedBy counting) held (.select whereConditions)
        (.records result) held := by
  refine (hdml.select hdb whereConditions s).mono ?_
  rintro result s' ⟨hqueried, hs'⟩
  refine ⟨by rwa [hs'], ?_⟩
  cases hqueried with
  | answered hrecords =>
    obtain ⟨rows, rfl, hperm⟩ := hrecords
    have hofRow (found : List Entity) : (found.map T.row).map T.ofRow = found.map T.record := by
      rw [List.map_map]
      exact List.map_congr_left fun entity _ => T.ofRow_row entity
    rw [select_eq hheld] at hperm
    refine .selected ?_
    rw [← hofRow]
    exact hperm.map T.ofRow
  | failed hfaults => exact .selectFailed hfaults

/-- One call.

**Proof sketch.** By cases on the call. -/
lemma perform_ensures (call : DmlCall T) :
    (call.perform dml).Ensures db s fun reply s' => ∃ left : Entities T,
      left.HeldBy (content s') ∧
        DmlStep faults (DmlCall.ReportedBy counting) held call reply left := by
  cases call with
  | insert new =>
    exact (insert_ensures hdb hopens hwords hdml hheld new).bind fun _ _ h => .pure h
  | delete whereConditions =>
    exact (delete_ensures hdb hopens hwords hdml hheld whereConditions).bind fun _ _ h => .pure h
  | batchDelete ids =>
    rw [DmlCall.perform, hdml.batchDelete]
    exact .pure ⟨held, hheld, .batchDeleted⟩
  | update values hvalues whereConditions =>
    exact (update_ensures hdb hopens hwords hdml hheld values whereConditions hvalues).bind
      fun _ _ h => .pure h
  | count whereConditions =>
    exact (count_ensures hdb hwords hdml hheld whereConditions).bind fun _ _ h => .pure ⟨held, h⟩
  | select whereConditions =>
    exact (select_ensures hdb hdml hheld whereConditions).bind fun _ _ h => .pure ⟨held, h⟩
  | truncate => exact (truncate_ensures hdb hopens hwords hdml hheld).bind fun _ _ h => .pure h

/-- Any calls, one after the other. -/
lemma performAll_ensures (calls : List (DmlCall T)) :
    (DmlCall.performAll dml calls).Ensures db s fun replies s' => ∃ left : Entities T,
      left.HeldBy (content s') ∧
        DmlRun faults (DmlCall.ReportedBy counting) held calls replies left := by
  induction calls generalizing held s with
  | nil => exact .pure ⟨held, hheld, .nil⟩
  | cons call calls ih =>
    refine (perform_ensures hdb hopens hwords hdml hheld call).bind ?_
    rintro reply s₁ ⟨between, hbetween, hfirst⟩
    refine (ih hbetween).bind ?_
    rintro replies s₂ ⟨left, hleft, hrest⟩
    exact .pure ⟨left, hleft, .cons hfirst hrest⟩

end

/-! ## Refinement -/

/-- Whenever the table holds entities and no transaction is open, calls one after the other do to
the table and answer what they are to do to the entities, on a connection that counts in the given
way. Without faults they leave the same entities in every run. -/
def ITableDml.Refines (dml : ITableDml Record) (T : EntityTable schema Record Entity)
    (counting : Counting) (reports : Entities T → DmlCall T → ℤ → Prop) : Prop :=
  ∀ {σ : Type} {db : Program.Handler Call.Answer σ} {content : σ → Session schema} {faults : Prop},
    ConformsInFull faults counting db content → OpensOnDemand db content →
    ∀ (held : Entities T) (s : σ), held.HeldBy (content s) → ∀ calls : List (DmlCall T),
      (DmlCall.performAll dml calls).Ensures db s fun replies s' => ∃ left : Entities T,
        left.HeldBy (content s') ∧ DmlRun faults reports held calls replies left ∧
        (¬faults → ∀ replies' left', DmlRun faults reports held calls replies' left' → left' = left)

/-- The data access object refines the entities of its table, in whatever way the connection
counts. Two ways are said in terms of the entities. -/
structure ITableDml.RefinesEntities [DecidableEq Record] (dml : ITableDml Record)
    (T : EntityTable schema Record Entity) : Prop where
  counting : ∀ counting, dml.Refines T counting (DmlCall.ReportedBy counting)
  /-- All entities count that a deletion or an update concerns. -/
  found : dml.Refines T countFound fun held call affected => affected = call.found held
  /-- Entities do not count that an update leaves as they were. -/
  changed : dml.Refines T countChanged fun held call affected => affected = call.changed held

/-- The data access object of a table, if what the connection reports is said in other words. -/
lemma ITableDml.Accesses.refines {dml : ITableDml Record} (hdml : dml.Accesses T)
    (hwords : schema.Wordy) {counting : Counting} {reports : Entities T → DmlCall T → ℤ → Prop}
    (hreports : ∀ held call affected, call.ReportedBy counting held affected →
      reports held call affected) : dml.Refines T counting reports := by
  intro σ db content faults hdb hopens held s hheld calls
  refine (performAll_ensures hdb hopens hwords hdml hheld calls).mono ?_
  rintro replies s' ⟨left, hleft, hrun⟩
  have hrun' := hrun.mono hreports
  exact ⟨left, hleft, hrun', fun hfaults _ _ hother => hother.unique hfaults hrun'⟩

/-- The data access object of a table refines its entities. -/
lemma ITableDml.Accesses.refinesEntities [DecidableEq Record] {dml : ITableDml Record}
    (hdml : dml.Accesses T) (hwords : schema.Wordy) : dml.RefinesEntities T where
  counting _ := hdml.refines hwords fun _ _ _ h => h
  found := hdml.refines hwords fun _ _ _ h => h.found
  changed := hdml.refines hwords fun _ _ _ h => h.changed

end Dao
