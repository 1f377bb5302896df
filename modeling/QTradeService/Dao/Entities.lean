import QTradeService.Dao.Conditions
import QTradeService.Dao.EngineConfigTable

set_option relaxedAutoImplicit false
set_option autoImplicit false

/-!
# Tables of entities

`ITableDml` offers the same operations on every table. Whoever calls them sees a list of entities,
no two with the same key, that grows, shrinks and changes: the text of the statements, the rows and
the primary key of the table are out of sight.

## Main definitions

* `Dao.ITableDml` — the operations of a data access object.
* `Dao.EntityTable` — how the rows of a table are read as entities.
* `Dao.Entities` — the entities of a table; their keys differ.
* `Dao.DmlCall`, `Dao.DmlReply` — the calls and what they return.
* `Dao.DmlCall.found`, `Dao.DmlCall.changed` — two ways to count the entities that a call is about.
* `Dao.DmlStep`, `Dao.DmlRun` — what calls do to the entities and answer.

## Main results

* `Dao.DmlRun.unique` — without faults, calls determine the entities they leave.
-/

namespace Dao

open Sql Database

/-! ## Data access objects -/

/-- `ITableDml`. -/
structure ITableDml (Record : Type) where
  insert (records : List Record) : Db (Result ℤ)
  delete (whereConditions : Record) : Db (Result ℤ)
  batchDelete (ids : List ℤ) : Db (Result ℤ)
  update (record whereConditions : Record) : Db (Result ℤ)
  count (whereConditions : Record) : Db (Result ℤ)
  select (whereConditions : Record) : Db (Result (List Record))
  truncate : Db (Result ℤ)

/-! ## Entities -/

/-- How the rows of a table are read as entities. -/
structure EntityTable (schema : Schema) (Record Entity : Type) where
  name : String
  table : TableSchema
  declared : table ∈ schema name
  buildValues : Record → KeyValues
  /-- The record of a row. -/
  ofRow : Row → Record
  /-- A record without any field. -/
  empty : Record
  /-- The entity as a record that has all fields. -/
  record : Entity → Record
  /-- The texts of the primary key. -/
  key : Entity → List String
  /-- The entity agrees with the given fields of a record. -/
  Selects : Record → Entity → Prop
  decidableSelects : ∀ whereConditions entity, Decidable (Selects whereConditions entity)
  /-- The given fields have values that can be read back. -/
  Readable : Record → Prop
  /-- The entity with new values in the given fields. -/
  assign (values : Record) (hvalues : Readable values) (entity : Entity) : Entity
  -- From here on: what relates the texts in a row to the fields of an entity.
  fits : ∀ record, table.Fits (buildValues record)
  buildValues_eq_nil : ∀ record, buildValues record = [] ↔ record = empty
  record_ne : ∀ entity, record entity ≠ empty
  complete : ∀ entity, ∀ column ∈ table.columns, column ∈ (buildValues (record entity)).map Prod.fst
  matches_row : ∀ entity whereConditions,
    Matches (.ofValues (buildValues (record entity))) (buildValues whereConditions) ↔
      Selects whereConditions entity
  assign_row : ∀ entity values hvalues,
    (Row.ofValues (buildValues (record entity))).assign (buildValues values) =
      .ofValues (buildValues (record (assign values hvalues entity)))
  ofRow_row : ∀ entity, ofRow (.ofValues (buildValues (record entity))) = record entity
  keyOf_row : ∀ entity,
    table.keyOf (.ofValues (buildValues (record entity))) = (key entity).map some

variable {schema : Schema} {Record Entity : Type}

instance (T : EntityTable schema Record Entity) (whereConditions : Record) (entity : Entity) :
    Decidable (T.Selects whereConditions entity) := T.decidableSelects whereConditions entity

/-- The entity as a row. -/
def EntityTable.row (T : EntityTable schema Record Entity) (entity : Entity) : Row :=
  .ofValues (T.buildValues (T.record entity))

/-- The entities of a table. -/
@[ext]
structure Entities (T : EntityTable schema Record Entity) where
  entities : List Entity
  /-- No two have the same key. -/
  distinct : (entities.map T.key).Nodup

section

variable {T : EntityTable schema Record Entity} (held : Entities T)

/-- The entities that agree with the given fields. -/
def Entities.selected (whereConditions : Record) : List Entity :=
  held.entities.filter fun entity => T.Selects whereConditions entity

/-- The other entities. -/
def Entities.others (whereConditions : Record) : List Entity :=
  held.entities.filter fun entity => ¬T.Selects whereConditions entity

/-- The entities after an update of those that agree with the given fields. -/
def Entities.updated (values : Record) (hvalues : T.Readable values) (whereConditions : Record) :
    List Entity :=
  held.entities.map fun entity =>
    if T.Selects whereConditions entity then T.assign values hvalues entity else entity

/-- An entity whose key is taken cannot be added. -/
lemma Entities.not_nodup_append {entity : Entity} (hkey : T.key entity ∈ held.entities.map T.key)
    (rest : List Entity) : ¬((held.entities ++ entity :: rest).map T.key).Nodup := by
  intro hnodup
  rw [List.map_append, List.nodup_append', List.map_cons] at hnodup
  exact hnodup.2.2 hkey List.mem_cons_self

end

/-! ## Calls -/

/-- The calls of a data access object. What is inserted are entities, so records with all fields. -/
inductive DmlCall (T : EntityTable schema Record Entity)
  | insert (entities : List Entity)
  | delete (whereConditions : Record)
  | batchDelete (ids : List ℤ)
  | update (values : Record) (hvalues : T.Readable values) (whereConditions : Record)
  | count (whereConditions : Record)
  | select (whereConditions : Record)
  | truncate

/-- What they return. -/
inductive DmlReply (Record : Type)
  | rows (result : Result ℤ)
  | records (result : Result (List Record))

/-- Make a call. -/
def DmlCall.perform {T : EntityTable schema Record Entity} (dml : ITableDml Record) :
    DmlCall T → Db (DmlReply Record)
  | .insert entities => .rows <$> dml.insert (entities.map T.record)
  | .delete whereConditions => .rows <$> dml.delete whereConditions
  | .batchDelete ids => .rows <$> dml.batchDelete ids
  | .update values _ whereConditions => .rows <$> dml.update values whereConditions
  | .count whereConditions => .rows <$> dml.count whereConditions
  | .select whereConditions => .records <$> dml.select whereConditions
  | .truncate => .rows <$> dml.truncate

/-- Make calls, one after the other. -/
def DmlCall.performAll {T : EntityTable schema Record Entity} (dml : ITableDml Record) :
    List (DmlCall T) → Db (List (DmlReply Record))
  | [] => return []
  | call :: calls => do
    let reply ← call.perform dml
    let replies ← performAll dml calls
    return reply :: replies

/-! ## What calls report

A deletion, an update and `Truncate` answer with a number of entities. It depends on the connection
which entities count that an update concerns. -/

/-- The number of entities that a deletion or an update concerns. -/
def DmlCall.found {T : EntityTable schema Record Entity} (held : Entities T) : DmlCall T → ℕ
  | .delete whereConditions | .update _ _ whereConditions => (held.selected whereConditions).length
  | .truncate => held.entities.length
  | .insert _ | .batchDelete _ | .count _ | .select _ => 0

/-- The number of entities that a deletion removes, or that an update does not leave as they
were. -/
def DmlCall.changed [DecidableEq Record] {T : EntityTable schema Record Entity}
    (held : Entities T) : DmlCall T → ℕ
  | .update values hvalues whereConditions =>
    (held.selected whereConditions).countP fun entity =>
      T.record (T.assign values hvalues entity) ≠ T.record entity
  | call => call.found held

/-! ## What calls do -/

/-- What a call does to the entities and answers, if there are `faults`. What a deletion or an
update may answer is what `reports` says. -/
inductive DmlStep {T : EntityTable schema Record Entity} (faults : Prop)
    (reports : Entities T → DmlCall T → ℤ → Prop) (held : Entities T) :
    DmlCall T → DmlReply Record → Entities T → Prop
  /-- New entities come last. -/
  | inserted {new : List Entity} {left : Entities T} (hnew : new ≠ [])
      (hleft : left.entities = held.entities ++ new) :
      DmlStep faults reports held (.insert new) (.rows ⟨.kSuccess, "", some new.length⟩) left
  | insertedNone {message : String} :
      DmlStep faults reports held (.insert []) (.rows (.void .kSystemError message)) held
  /-- Entities are inserted up to the first one whose key is taken. -/
  | insertFailed {new inserted rest : List Entity} {entity : Entity} {left : Entities T}
      {message : String} (hnew : new = inserted ++ entity :: rest)
      (hleft : left.entities = held.entities ++ inserted)
      (hfailed : faults ∨ T.key entity ∈ left.entities.map T.key) :
      DmlStep faults reports held (.insert new) (.rows (.void .kSystemError message)) left
  | deleted {whereConditions : Record} {left : Entities T} {affected : ℤ}
      (hwhere : whereConditions ≠ T.empty)
      (hleft : left.entities = held.others whereConditions)
      (hreports : reports held (.delete whereConditions) affected) :
      DmlStep faults reports held (.delete whereConditions)
        (.rows ⟨.kSuccess, "", some affected⟩) left
  | deleteFailed {whereConditions : Record} {message : String}
      (hfailed : whereConditions = T.empty ∨ faults) :
      DmlStep faults reports held (.delete whereConditions)
        (.rows (.void .kSystemError message)) held
  /-- No number names an entity. -/
  | batchDeleted {ids : List ℤ} :
      DmlStep faults reports held (.batchDelete ids)
        (.rows (.void .kInternalError "composite primary key")) held
  | updated {values whereConditions : Record} {hvalues : T.Readable values} {left : Entities T}
      {affected : ℤ} (hne : values ≠ T.empty) (hwhere : whereConditions ≠ T.empty)
      (hleft : left.entities = held.updated values hvalues whereConditions)
      (hreports : reports held (.update values hvalues whereConditions) affected) :
      DmlStep faults reports held (.update values hvalues whereConditions)
        (.rows ⟨.kSuccess, "", some affected⟩) left
  /-- An update is refused if two entities would have one key. -/
  | updateFailed {values whereConditions : Record} {hvalues : T.Readable values} {message : String}
      (hfailed : values = T.empty ∨ whereConditions = T.empty ∨ faults ∨
        ¬((held.updated values hvalues whereConditions).map T.key).Nodup) :
      DmlStep faults reports held (.update values hvalues whereConditions)
        (.rows (.void .kSystemError message)) held
  | counted {whereConditions : Record} :
      DmlStep faults reports held (.count whereConditions)
        (.rows ⟨.kSuccess, "", some (held.selected whereConditions).length⟩) held
  | countFailed {whereConditions : Record} {message : String} (hfaults : faults) :
      DmlStep faults reports held (.count whereConditions)
        (.rows (.void .kSystemError message)) held
  /-- The selected entities are answered in some order, as they are. -/
  | selected {whereConditions : Record} {records : List Record}
      (hrecords : records.Perm ((held.selected whereConditions).map T.record)) :
      DmlStep faults reports held (.select whereConditions)
        (.records ⟨.kSuccess, "", some records⟩) held
  | selectFailed {whereConditions : Record} {message : String} (hfaults : faults) :
      DmlStep faults reports held (.select whereConditions)
        (.records (.void .kSystemError message)) held
  | truncated {left : Entities T} {affected : ℤ} (hleft : left.entities = [])
      (hreports : reports held .truncate affected) :
      DmlStep faults reports held .truncate (.rows ⟨.kSuccess, "", some affected⟩) left
  | truncateFailed {message : String} (hfaults : faults) :
      DmlStep faults reports held .truncate (.rows (.void .kSystemError message)) held

/-- Calls in a row. -/
inductive DmlRun {T : EntityTable schema Record Entity} (faults : Prop)
    (reports : Entities T → DmlCall T → ℤ → Prop) :
    Entities T → List (DmlCall T) → List (DmlReply Record) → Entities T → Prop
  | nil {held : Entities T} : DmlRun faults reports held [] [] held
  | cons {held between left : Entities T} {call : DmlCall T} {reply : DmlReply Record}
      {calls : List (DmlCall T)} {replies : List (DmlReply Record)}
      (first : DmlStep faults reports held call reply between)
      (rest : DmlRun faults reports between calls replies left) :
      DmlRun faults reports held (call :: calls) (reply :: replies) left

/-! ## The entities that calls leave -/

section

variable {T : EntityTable schema Record Entity} {faults : Prop} {held left : Entities T}
  {reports reports' : Entities T → DmlCall T → ℤ → Prop}
  (hreports : ∀ held call affected, reports held call affected → reports' held call affected)

include hreports

/-- What a call answers depends on what may be reported. -/
lemma DmlStep.mono {call : DmlCall T} {reply : DmlReply Record}
    (h : DmlStep faults reports held call reply left) :
    DmlStep faults reports' held call reply left := by
  cases h with
  | inserted hnew hleft => exact .inserted hnew hleft
  | insertedNone => exact .insertedNone
  | insertFailed hnew hleft hfailed => exact .insertFailed hnew hleft hfailed
  | deleted hwhere hleft h => exact .deleted hwhere hleft (hreports _ _ _ h)
  | deleteFailed hfailed => exact .deleteFailed hfailed
  | batchDeleted => exact .batchDeleted
  | updated hne hwhere hleft h => exact .updated hne hwhere hleft (hreports _ _ _ h)
  | updateFailed hfailed => exact .updateFailed hfailed
  | counted => exact .counted
  | countFailed hfaults => exact .countFailed hfaults
  | selected hrecords => exact .selected hrecords
  | selectFailed hfaults => exact .selectFailed hfaults
  | truncated hleft h => exact .truncated hleft (hreports _ _ _ h)
  | truncateFailed hfaults => exact .truncateFailed hfaults

/-- What calls answer depends on what may be reported. -/
lemma DmlRun.mono {calls : List (DmlCall T)} {replies : List (DmlReply Record)}
    (h : DmlRun faults reports held calls replies left) :
    DmlRun faults reports' held calls replies left := by
  induction h with
  | nil => exact .nil
  | cons first _ ih => exact .cons (first.mono hreports) ih

end

section

variable {T : EntityTable schema Record Entity} {faults : Prop}
  {reports : Entities T → DmlCall T → ℤ → Prop} {held left₁ left₂ : Entities T}

/-- An insertion that stops at a key that is taken cannot also go on. -/
lemma not_mem_of_append {inserted rest : List Entity} {entity : Entity}
    (hstopped : left₁.entities = held.entities ++ inserted)
    (hlonger : left₂.entities = held.entities ++ (inserted ++ entity :: rest)) :
    T.key entity ∉ left₁.entities.map T.key := by
  intro hkey
  refine left₁.not_nodup_append hkey rest ?_
  rw [hstopped, List.append_assoc, ← hlonger]
  exact left₂.distinct

/-- There is one place where an insertion can stop.

**Proof sketch.** If one of the two stopped earlier, the other has inserted the entity whose key was
taken, so that two entities would share this key. -/
lemma eq_of_stopped {inserted₁ inserted₂ rest₁ rest₂ : List Entity}
    {entity₁ entity₂ : Entity}
    (hnew : inserted₁ ++ entity₁ :: rest₁ = inserted₂ ++ entity₂ :: rest₂)
    (hleft₁ : left₁.entities = held.entities ++ inserted₁)
    (hleft₂ : left₂.entities = held.entities ++ inserted₂)
    (hkey₁ : T.key entity₁ ∈ left₁.entities.map T.key)
    (hkey₂ : T.key entity₂ ∈ left₂.entities.map T.key) :
    left₁ = left₂ := by
  rcases List.append_eq_append_iff.mp hnew with ⟨between, hinserted, hrest⟩ |
    ⟨between, hinserted, hrest⟩
  · cases between with
    | nil => exact Entities.ext (by rw [hleft₁, hleft₂, hinserted, List.append_nil])
    | cons entity between =>
      obtain ⟨rfl, -⟩ := List.cons.inj hrest
      rw [hinserted] at hleft₂
      exact absurd hkey₁ (not_mem_of_append hleft₁ hleft₂)
  · cases between with
    | nil => exact Entities.ext (by rw [hleft₁, hleft₂, hinserted, List.append_nil])
    | cons entity between =>
      obtain ⟨rfl, -⟩ := List.cons.inj hrest
      rw [hinserted] at hleft₁
      exact absurd hkey₂ (not_mem_of_append hleft₂ hleft₁)

/-- An update that is executed is not refused. -/
lemma not_updateFailed (hfaults : ¬faults) {values whereConditions : Record}
    {hvalues : T.Readable values} (hne : values ≠ T.empty) (hwhere : whereConditions ≠ T.empty)
    (hleft : left₁.entities = held.updated values hvalues whereConditions) :
    ¬(values = T.empty ∨ whereConditions = T.empty ∨ faults ∨
      ¬((held.updated values hvalues whereConditions).map T.key).Nodup) := by
  have hdistinct := left₁.distinct
  rw [hleft] at hdistinct
  simp only [not_or, not_not]
  exact ⟨hne, hwhere, hfaults, hdistinct⟩

/-- Without faults a call determines the entities it leaves.

**Proof sketch.** By cases on both steps. A success and a failure exclude each other, since a
failure without faults has a reason that no success leaves room for. -/
lemma DmlStep.unique (hfaults : ¬faults) {call : DmlCall T}
    {reply₁ reply₂ : DmlReply Record} (h₁ : DmlStep faults reports held call reply₁ left₁)
    (h₂ : DmlStep faults reports held call reply₂ left₂) : left₁ = left₂ := by
  cases h₁ with
  | inserted hnew hleft₁ =>
    cases h₂ with
    | inserted _ hleft₂ => exact Entities.ext (hleft₁.trans hleft₂.symm)
    | insertedNone => exact absurd rfl hnew
    | insertFailed hnew₂ hleft₂ hfailed =>
      rw [hnew₂] at hleft₁
      exact absurd (hfailed.resolve_left hfaults) (not_mem_of_append hleft₂ hleft₁)
  | insertedNone =>
    cases h₂ with
    | inserted hnew _ => exact absurd rfl hnew
    | insertedNone => rfl
    | insertFailed hnew _ _ => simp at hnew
  | insertFailed hnew₁ hleft₁ hfailed₁ =>
    have hkey₁ := hfailed₁.resolve_left hfaults
    cases h₂ with
    | inserted _ hleft₂ =>
      rw [hnew₁] at hleft₂
      exact absurd hkey₁ (not_mem_of_append hleft₁ hleft₂)
    | insertedNone => simp at hnew₁
    | insertFailed hnew₂ hleft₂ hfailed₂ =>
      exact eq_of_stopped (hnew₁.symm.trans hnew₂) hleft₁ hleft₂ hkey₁
        (hfailed₂.resolve_left hfaults)
  | deleted hwhere hleft₁ _ =>
    cases h₂ with
    | deleted _ hleft₂ _ => exact Entities.ext (hleft₁.trans hleft₂.symm)
    | deleteFailed hfailed => exact absurd hfailed (not_or.mpr ⟨hwhere, hfaults⟩)
  | deleteFailed hfailed =>
    cases h₂ with
    | deleted hwhere _ _ => exact absurd hfailed (not_or.mpr ⟨hwhere, hfaults⟩)
    | deleteFailed _ => rfl
  | batchDeleted =>
    cases h₂
    rfl
  | updated hne hwhere hleft₁ _ =>
    cases h₂ with
    | updated _ _ hleft₂ _ => exact Entities.ext (hleft₁.trans hleft₂.symm)
    | updateFailed hfailed => exact absurd hfailed (not_updateFailed hfaults hne hwhere hleft₁)
  | updateFailed hfailed =>
    cases h₂ with
    | updated hne hwhere hleft₂ _ =>
      exact absurd hfailed (not_updateFailed hfaults hne hwhere hleft₂)
    | updateFailed _ => rfl
  | counted | countFailed =>
    cases h₂ <;> rfl
  | selected | selectFailed =>
    cases h₂ <;> rfl
  | truncated hleft₁ _ =>
    cases h₂ with
    | truncated hleft₂ _ => exact Entities.ext (hleft₁.trans hleft₂.symm)
    | truncateFailed hfailed => exact absurd hfailed hfaults
  | truncateFailed hfailed => exact absurd hfailed hfaults

/-- Without faults calls determine the entities they leave. -/
lemma DmlRun.unique (hfaults : ¬faults) {calls : List (DmlCall T)}
    {replies₁ replies₂ : List (DmlReply Record)}
    (h₁ : DmlRun faults reports held calls replies₁ left₁)
    (h₂ : DmlRun faults reports held calls replies₂ left₂) : left₁ = left₂ := by
  induction h₁ generalizing replies₂ with
  | nil =>
    cases h₂
    rfl
  | cons first₁ _ ih =>
    cases h₂ with
    | cons first₂ rest₂ =>
      obtain rfl := first₁.unique hfaults first₂
      exact ih rest₂

end

end Dao
