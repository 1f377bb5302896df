import QTradeService.Dao.AccountTables
import QTradeService.Support.Lifecycle

set_option relaxedAutoImplicit false
set_option autoImplicit false

/-!
# The tables of a service that listens

A service creates its tables when it is initialized, and it may fail in the middle, be initialized
again, or find the tables of an earlier run. Whenever a server starts to listen, the database has
exactly the tables of the service and those that were there before.

## Main definitions

* `Support.Service.schema` — what the statements of a service make of an empty database.
* `Support.Service.Declares` — a service declares a table.
* `Support.Prepared` — what a service has made of its database.

## Main results

* `Support.schema_account` — the account service creates the tables that its statements work on.
* `Support.schema_before_serving` — a server starts to listen when the tables are there.
-/

namespace Support

open Dao Database Program Sql

variable {J ω : Type}

/-! ## What a service declares -/

/-- Execute the texts of statements, one after the other. -/
def executeTexts (catalog : Schema) (sqls : List String) : Schema := sqls.foldl executeText catalog

/-- What the statements of a service make of an empty database. -/
def Service.schema (service : Service) : Schema := executeTexts (fun _ => none) service.sqls

/-- The service declares a table. -/
def Service.Declares (service : Service) (table : String × TableSchema) : Prop :=
  ∃ ddl ∈ service.tables, ddl.tableName = table.1 ∧ ddl.Sound table.2

/-- All tables of a service are in order.

**Proof sketch.** By cases on the service: its definitions have been read. -/
lemma exists_sound (service : Service) : ∀ ddl ∈ service.tables, ∃ table, ddl.Sound table := by
  obtain ⟨htrading, hcredential⟩ := sound_accountTables
  obtain ⟨htenant, hinstance, hstrategy, hinstrument, horder, hquote⟩ := sound_policyTables
  obtain ⟨hpolicy, hreservation, hledger⟩ := sound_accountRiskTables
  have hengine := sound_engineConfigDdl
  cases service with
  | account => simpa [Service.tables, accountTables] using ⟨⟨_, htrading⟩, ⟨_, hcredential⟩⟩
  | config =>
    simpa [Service.tables, configTables] using
      ⟨⟨_, hengine⟩, htenant, hinstance, hstrategy, hinstrument, horder, hquote⟩
  | accountRisk =>
    simpa [Service.tables, accountRiskTables] using ⟨hpolicy, hreservation, hledger⟩

/-- The tables of a service have different names. -/
lemma tableNames_nodup (service : Service) : (service.tables.map ITableDdl.tableName).Nodup := by
  cases service <;> decide +kernel

section

variable {service : Service} {table table' : String × TableSchema}

/-- A service declares at most one table under a name. -/
lemma Service.Declares.unique (h : service.Declares table) (h' : service.Declares table')
    (hname : table.1 = table'.1) : table = table' := by
  obtain ⟨ddl, hddl, hddlName, hsound⟩ := h
  obtain ⟨ddl', hddl', hddlName', hsound'⟩ := h'
  have hsame : ddl.tableName = ddl'.tableName := by rw [hddlName, hddlName', hname]
  obtain rfl := List.inj_on_of_nodup_map (tableNames_nodup service) hddl hddl' hsame
  exact Prod.ext hname (hsound.unique hsound')

/-- The statements of a service are read, and declare tables of the service. -/
lemma Service.exists_definition {sql : String} (hsql : sql ∈ service.sqls) :
    ∃ definition, readDefinition sql = some definition ∧
      ∀ declared ∈ definition.declares, service.Declares declared := by
  obtain ⟨ddl, hddl, hsql⟩ := List.mem_flatMap.mp hsql
  obtain ⟨table, hsound⟩ := exists_sound service ddl hddl
  obtain ⟨definition, hread, hdeclares⟩ := hsound.exists_of_mem hsql
  refine ⟨definition, hread, fun declared hdeclared => ?_⟩
  obtain rfl := hdeclares declared hdeclared
  exact ⟨ddl, hddl, rfl, hsound⟩

/-- A table of a service is declared by one of its statements. -/
lemma Service.Declares.exists_sql (h : service.Declares table) : ∃ sql ∈ service.sqls,
    ∃ definition, readDefinition sql = some definition ∧ definition.declares = some table := by
  obtain ⟨ddl, hddl, hname, hsound⟩ := h
  obtain ⟨sql, hsql, definition, hread, hdeclares⟩ := hsound.exists_declares
  exact ⟨sql, List.mem_flatMap.mpr ⟨ddl, hddl, hsql⟩, definition, hread, by
    rw [hdeclares, hname]⟩

end

/-! ## What a service has made of its database -/

/-- What the statements that a service has executed so far made of a catalog. -/
structure Prepared (service : Service) (catalog : Schema) (executed : List String)
    (catalog' : Schema) : Prop where
  /-- No other tables stand under the names of the service. -/
  admissible : ∀ table, service.Declares table → catalog'.Admissible table
  /-- All other tables are as they were. -/
  others : ∀ name, (∀ table, service.Declares table → table.1 ≠ name) →
    catalog' name = catalog name
  /-- What was declared is there. -/
  declared : ∀ sql ∈ executed, ∀ definition, readDefinition sql = some definition →
    ∀ table ∈ definition.declares, catalog'.Has table

section

variable {service : Service} {catalog catalog' : Schema} {executed : List String}

/-- One more statement.

**Proof sketch.** The statement declares tables of the service only, and leaves one alone that is
there already, which has the same definition. -/
lemma Prepared.executeText (h : Prepared service catalog executed catalog') {sql : String}
    (hsql : sql ∈ service.sqls) :
    Prepared service catalog (executed ++ [sql]) (Support.executeText catalog' sql) := by
  obtain ⟨definition, hread, hdeclares⟩ := Service.exists_definition hsql
  have hexecute : Support.executeText catalog' sql = catalog'.define definition := by
    rw [Support.executeText, hread]
  rw [hexecute]
  refine ⟨fun table htable => ?_, fun name hname => ?_, fun sql' hsql' other hother table
    htable => ?_⟩
  · exact (h.admissible table htable).define fun declared hdeclared hname =>
      (hdeclares declared hdeclared).unique htable hname
  · have hne : ∀ declared ∈ definition.declares, declared.1 ≠ name :=
      fun declared hdeclared => hname declared (hdeclares declared hdeclared)
    rw [Schema.define_of_ne hne, h.others name hname]
  · rcases List.mem_append.mp hsql' with hsql' | hsql'
    · exact (h.declared sql' hsql' other hother table htable).define
    · obtain rfl := List.mem_singleton.mp hsql'
      obtain rfl := Option.some.inj (hread.symm.trans hother)
      exact (h.admissible table (hdeclares table htable)).has_define htable

/-- More statements. -/
lemma Prepared.executeTexts (h : Prepared service catalog executed catalog') {sqls : List String}
    (hsqls : ∀ sql ∈ sqls, sql ∈ service.sqls) :
    Prepared service catalog (executed ++ sqls) (Support.executeTexts catalog' sqls) := by
  induction sqls generalizing executed catalog' with
  | nil =>
    rw [List.append_nil]
    exact h
  | cons sql sqls ih =>
    have hfirst := h.executeText (hsqls sql (List.mem_cons_self ..))
    have hrest := ih hfirst fun sql' hsql' => hsqls sql' (List.mem_cons_of_mem _ hsql')
    rwa [List.append_assoc] at hrest

/-- An initialization starts over. -/
lemma Prepared.restart (h : Prepared service catalog executed catalog') :
    Prepared service catalog [] catalog' :=
  ⟨h.admissible, h.others, nofun⟩

/-- When all statements of a service were executed, its tables are there. -/
lemma Prepared.has (h : Prepared service catalog service.sqls catalog')
    {table : String × TableSchema} (htable : service.Declares table) : catalog'.Has table := by
  obtain ⟨sql, hsql, definition, hread, hdeclares⟩ := htable.exists_sql
  exact h.declared sql hsql definition hread table hdeclares

/-- What a service makes of an empty database. -/
lemma prepared_schema (service : Service) :
    Prepared service (fun _ => none) service.sqls service.schema := by
  have hempty : Prepared service (fun _ => none) [] (fun _ => none) :=
    ⟨fun _ _ => .inl rfl, fun _ _ => rfl, nofun⟩
  exact hempty.executeTexts fun _ hsql => hsql

/-- When all statements of a service were executed, the database has its tables and those that
were there. -/
lemma Prepared.eq_union (h : Prepared service catalog service.sqls catalog') :
    catalog' = service.schema.union catalog := by
  have hschema := prepared_schema service
  funext name
  unfold Schema.union
  by_cases hname : ∃ table, service.Declares table ∧ table.1 = name
  · obtain ⟨table, htable, rfl⟩ := hname
    rw [h.has htable, hschema.has htable, Option.some_or]
  · have hother : ∀ table, service.Declares table → table.1 ≠ name :=
      fun table htable hne => hname ⟨table, htable, hne⟩
    rw [h.others name hother, hschema.others name hother, Option.none_or]

/-- A database that agrees with the tables of a service. -/
lemma prepared_start (hcatalog : catalog.Agrees service.schema) :
    Prepared service catalog [] catalog := by
  refine ⟨fun table htable => ?_, fun _ _ => rfl, nofun⟩
  have hschema := (prepared_schema service).has htable
  rcases hcatalog table.1 with hnone | hnone | hsame
  · exact .inl hnone
  · rw [hschema] at hnone
    cases hnone
  · exact .inr (hsame.trans hschema)

end

/-- The account service creates the tables that the statements of its data access objects work
on.

**Proof sketch.** The schema has the two tables, as their definitions declare them, and no other
name. -/
lemma schema_account : Service.account.schema = accountSchema := by
  obtain ⟨htrading, hcredential⟩ := sound_accountTables
  have hschema := prepared_schema .account
  have hhas : Service.account.schema.Has (TradingAccount.tableName, tradingAccountTable) :=
    hschema.has ⟨tradingAccountDdl, by simp [Service.tables, accountTables], rfl, htrading⟩
  have hhas' : Service.account.schema.Has (AccountCredential.tableName, accountCredentialTable) :=
    hschema.has ⟨accountCredentialDdl, by simp [Service.tables, accountTables], rfl, hcredential⟩
  funext name
  unfold accountSchema
  split_ifs with hname hname'
  · rw [hname]
    exact hhas
  · rw [hname']
    exact hhas'
  · refine hschema.others name ?_
    rintro table ⟨ddl, hddl, hddlName, -⟩ rfl
    simp only [Service.tables, accountTables, List.mem_cons, List.not_mem_nil, or_false] at hddl
    rcases hddl with rfl | rfl
    · exact hname hddlName.symm
    · exact hname' hddlName.symm

/-! ## The tables when a server starts -/

/-- A service starts a server when the database has its tables and those that were there. -/
def serving (service : Service) (catalog : Schema) :
    Discipline (Call.Answer (J := J) (ω := ω)) Observed :=
  { discipline service with
    allows := fun l i =>
      match i with
      | .buildAndStart _ => l.catalog = service.schema.union catalog
      | _ => True }

/-- The calls of a service keep its database prepared. -/
lemma Prepared.next {service : Service} {catalog : Schema} {l : Observed}
    (h : Prepared service catalog l.executed l.catalog) (i : Call J ω) (answer : i.Answer)
    (hallows : (discipline service).allows l i) :
    Prepared service catalog ((discipline service).next l i answer).executed
      ((discipline service).next l i answer).catalog := by
  cases i with
  | openPool databaseName options => exact h.restart
  | database call =>
    cases call with
    | execute sql =>
      cases answer with
      | none => exact h
      | some affected => exact h.executeText hallows.2
    | _ => exact h
  | _ => exact h

/-- Whoever calls a service in whatever order, and whatever fails: when a server starts to listen,
and as long as it does, the database has exactly the tables of the service and those that were
there before.

**Proof sketch.** Along the run the catalog is prepared by what has been executed. A server starts
to listen only when all statements have been, and a prepared catalog is then the union; what is
listening later is a ready service, which has executed them all. -/
theorem schema_before_serving (parse : Parser J ω)
    (service : Service) (apiCalls : List ApiCall) {catalog : Schema}
    (hcatalog : catalog.Agrees service.schema) :
    (session parse service apiCalls false .new).Follows (serving service catalog)
      ⟨false, [], catalog⟩
      fun _ l => l.listening = true → l.catalog = service.schema.union catalog := by
  have hsession : (session parse service apiCalls false .new).Follows _ _ _ :=
    follows_session apiCalls (consistent_new service catalog)
  have hprepared := hsession.invariant (prepared_start hcatalog)
    fun l i answer h hallows => Prepared.next h i answer hallows
  refine (hprepared.weaken fun l i hallows => ?_).mono fun result l hpost hlistening => ?_
  · cases i with
    | buildAndStart listenAddress =>
      obtain ⟨⟨-, hexecuted⟩, h⟩ := hallows
      rw [hexecuted] at h
      exact h.eq_union
    | _ => trivial
  · obtain ⟨⟨-, hconsistent⟩, h⟩ := hpost
    have hready := hconsistent.listening.mp hlistening
    obtain ⟨manager, hmanager⟩ := Option.isSome_iff_exists.mp (hconsistent.connected hready)
    obtain ⟨-, -, hexecuted⟩ := hconsistent.pools (.inr hready) manager hmanager
    rw [hexecuted] at h
    exact h.eq_union

/-- The account service on the tables of an earlier run: initialized, started, waited for, stopped
and initialized again. -/
theorem schema_before_serving_sample :
    (session (J := Unit) (ω := Unit) (fun _ _ => .ok (some ⟨"127.0.0.1:50051", ()⟩)) .account
      [.initializeFrom "account.json", .start, .wait, .stop, .waitReturns,
        .initializeFrom "account.json", .start] false .new).Follows
      (serving .account Service.account.schema) ⟨false, [], Service.account.schema⟩
      fun _ l => l.listening = true →
        l.catalog = Service.account.schema.union Service.account.schema :=
  schema_before_serving _ _ _ fun _ => .inr (.inr rfl)

end Support
