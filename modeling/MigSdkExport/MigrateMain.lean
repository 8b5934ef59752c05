import MigSdkExport.MigrateTable

/-! `main` of `migrate_db_data.py`: the connection check, the tables present in both
databases, the global confirmation, one `migrate_table` per table, and the summary that goes
into the JSON log. -/
namespace MigSdkExport.Migrate

def sourceSchema : String := "arbitrage"

def targetSchema : String := "mig_topology"

def tablesToMigrate : List String :=
  ["tokens", "pools", "dex_state", "pool_state_snapshots", "token_relations", "audit_log",
    "graph_weights", "pool_statistics", "dex_statistics", "configurations", "event_index"]

/-- The object `main` dumps into `migration_log_<timestamp>.json`. -/
structure Report where
  timestamp : String
  sourceSchema : String
  targetSchema : String
  results : List MigrationResult
  totalRowsMigrated : Nat
deriving DecidableEq, Repr

/-- How `main` ends when it raises nothing. -/
inductive Outcome
  /-- `sys.exit(1)` after `verify_connections()` failed. -/
  | exit1
  | noCommonTables
  | cancelled
  | report (r : Report)
deriving DecidableEq, Repr

variable {V : Type}

/-- `verify_connections()`: both servers accept a connection. -/
def verifyConnections : Py V Bool := fun w =>
  (.ok (w.reachable .source && w.reachable .target), w)

/-- `datetime.now().isoformat()`. -/
def currentTime : Py V String := fun w => (.ok w.now, w)

/-- `d.get(t, False)` on a dict built by `check_tables_exist`. -/
def dictGet (d : List (String × Bool)) (t : String) : Bool := (d.lookup t).getD false

/-- `total_rows`: the summary loop adds `rows_migrated` of the successful results only. -/
def totalRows : List MigrationResult → Nat
  | [] => 0
  | .success _ n _ :: rs => n + totalRows rs
  | _ :: rs => totalRows rs

theorem totalRows_eq_sum (rs : List MigrationResult) :
    totalRows rs =
      ((rs.filter fun r => r.status = "success").map MigrationResult.rowsMigrated).sum := by
  induction rs with
  | nil => rfl
  | cons r rs ih =>
    cases r <;> simp +decide [totalRows, MigrationResult.status, MigrationResult.rowsMigrated, ih]

theorem dictGet_map (f : String → Bool) {ts : List String} {t : String} (ht : t ∈ ts) :
    dictGet (ts.map fun t => (t, f t)) t = f t := by
  induction ts with
  | nil => cases ht
  | cons u ts ih =>
    by_cases hu : t = u
    · subst hu
      simp [dictGet, List.lookup]
    · have hb : (t == u) = false := by simpa using hu
      simpa [dictGet, List.lookup, hb] using ih (by simpa [hu] using ht)

variable [DecidableEq V]

/-- The `for table in tables_to_migrate` loop collecting the results. -/
def migrateAll (ss ts : String) : List String → Py V (List MigrationResult)
  | [] => pure []
  | t :: rest =>
    migrateTable t ss ts >>= fun r => migrateAll ss ts rest >>= fun rs => pure (r :: rs)

def main : Py V Outcome :=
  verifyConnections >>= fun ok =>
  if !ok then pure .exit1 else
  checkTablesExist .source sourceSchema tablesToMigrate >>= fun sourceTables =>
  checkTablesExist .target targetSchema tablesToMigrate >>= fun targetTables =>
  let tables := tablesToMigrate.filter fun t => dictGet sourceTables t && dictGet targetTables t
  if tables = [] then pure .noCommonTables else
  input >>= fun response =>
  if lower response ≠ "s" then pure .cancelled else
  migrateAll sourceSchema targetSchema tables >>= fun results =>
  currentTime >>= fun timestamp =>
  pure (.report ⟨timestamp, sourceSchema, targetSchema, results, totalRows results⟩)

/-! The rows the run commits, table by table. -/

section Accounting

/-- What one table adds to the calls on the target commits exactly the rows its result
reports. -/
theorem migrateTable_calls (table ss ts : String) (w : World V) {r : MigrationResult}
    {w' : World V} (h : migrateTable table ss ts w = (.ok r, w')) :
    ∃ new, w'.calls = w.calls ++ new ∧
      ∀ l, committedRows (new ++ l) = r.rowsMigrated + committedRows l := by
  have hB : 0 < batchSize := by decide
  rcases migrateTable_cases table ss ts w with ⟨r', w'', h', hr, hs⟩ | ⟨w₁, hr, -, h'⟩
  · rw [h'] at h
    cases h
    obtain ⟨reason, rfl⟩ := hs r rfl
    exact ⟨[], by rw [hr.calls, List.append_nil], fun l => by simp [MigrationResult.rowsMigrated]⟩
  · rw [h'] at h
    rcases transfer_cases table _ _ _ hB w₁ with ⟨m, ht⟩ | ⟨k, msg, m, st, cs, ht, hcs⟩ <;>
      rw [ht] at h <;> cases h
    · refine ⟨_, by rw [hr.calls], fun l => ?_⟩
      rw [committedRows_committedCalls_append, sum_length_batches hB, List.length_map]
      rfl
    · refine ⟨committedCalls _ _ ++ cs ++ [.rollback],
        by simp only [hr.calls, List.append_assoc]; rfl, fun l => ?_⟩
      simp only [List.append_assoc, List.singleton_append, committedRows_committedCalls_append,
        MigrationResult.rowsMigrated]
      rcases hcs with ⟨rfl, rfl⟩ | ⟨hk, hcs⟩
      · simp [committedRows]
      · rw [sum_length_take_batches hB _ hk, committedRows_failed_append hcs]

theorem migrateAll_calls (ss ts : String) (tables : List String) (w : World V)
    {rs : List MigrationResult} {w' : World V} (h : migrateAll ss ts tables w = (.ok rs, w')) :
    ∃ new, w'.calls = w.calls ++ new ∧
      committedRows new = (rs.map MigrationResult.rowsMigrated).sum := by
  induction tables generalizing w rs with
  | nil =>
    cases h
    exact ⟨[], by simp, rfl⟩
  | cons t tables ih =>
    obtain ⟨r, w₁, h₁, h⟩ := Py.bind_eq_ok h
    obtain ⟨rs', w₂, h₂, h⟩ := Py.bind_eq_ok h
    cases h
    obtain ⟨new₁, hc₁, hs₁⟩ := migrateTable_calls t ss ts w h₁
    obtain ⟨new₂, hc₂, hs₂⟩ := ih w₁ h₂
    exact ⟨new₁ ++ new₂, by rw [hc₂, hc₁, List.append_assoc],
      by rw [hs₁, hs₂, List.map_cons, List.sum_cons]⟩

/-- A run that writes the report read the catalogs, ran the loop over some tables, and put
the loop's results and their `total_rows` into the report. -/
theorem main_report (w : World V) {rep : Report} (h : (main w).1 = .ok (.report rep)) :
    ∃ tables w₁, ReadOnly w w₁ ∧
      migrateAll sourceSchema targetSchema tables w₁ = (.ok rep.results, (main w).2) ∧
      rep.totalRowsMigrated = totalRows rep.results := by
  replace h : main w = (.ok (.report rep), (main w).2) := Prod.ext h rfl
  generalize (main w).2 = w' at h ⊢
  unfold main at h
  obtain ⟨ok, w₁, h₁, h⟩ := Py.bind_eq_ok h
  cases h₁
  split_ifs at h
  · cases h
  obtain ⟨st, w₂, h₂, h⟩ := Py.bind_eq_ok h
  obtain ⟨tt, w₃, h₃, h⟩ := Py.bind_eq_ok h
  dsimp only at h
  split_ifs at h
  · cases h
  obtain ⟨resp, w₄, h₄, h⟩ := Py.bind_eq_ok h
  split_ifs at h
  · cases h
  obtain ⟨results, w₅, h₅, h⟩ := Py.bind_eq_ok h
  obtain ⟨now, w₆, h₆, h⟩ := Py.bind_eq_ok h
  cases h₆
  cases h
  exact ⟨_, w₄, ((ReadOnly.of_send h₂).trans (ReadOnly.of_send h₃)).trans (ReadOnly.of_input h₄),
    h₅, rfl⟩

end Accounting

/-- The report's `total_rows_migrated` adds up the successful tables only, while the calls of
the run commit the rows of every result, those a failed table committed before its error
included. -/
theorem report_total_counts_successes (w : World V) {rep : Report}
    (h : (main w).1 = .ok (.report rep)) :
    rep.totalRowsMigrated =
        ((rep.results.filter fun r => r.status = "success").map MigrationResult.rowsMigrated).sum ∧
      ∃ new, (main w).2.calls = w.calls ++ new ∧
        committedRows new = (rep.results.map MigrationResult.rowsMigrated).sum := by
  obtain ⟨tables, w₁, hr, hm, ht⟩ := main_report w h
  obtain ⟨new, hc, hs⟩ := migrateAll_calls _ _ tables w₁ hm
  exact ⟨ht.trans (totalRows_eq_sum _), new, hc.trans (by rw [hr.calls]), hs⟩

/-- Once both servers answer, both table lists are read and the operator confirms, `main` is
the loop over the tables present in both databases, followed by the report. -/
theorem main_of_confirmed (w : World V) (tables : List String)
    (htables : (tablesToMigrate.filter fun t =>
      w.source.catalog.tables sourceSchema t && w.target.catalog.tables targetSchema t) = tables)
    (hne : tables ≠ []) (hr : w.reachable .source = true) (hr' : w.reachable .target = true)
    (hs : w.source.status ≠ .inError) (ht : w.target.status ≠ .inError)
    (hq : w.fault w.tick .source (.tablesExist sourceSchema) = none ∧
      w.fault (w.tick + 1) .target (.tablesExist targetSchema) = none)
    (a : String) (rest : List String) (ha : w.answers = a :: rest) (hy : lower a = "s") :
    main w = (migrateAll sourceSchema targetSchema tables >>= fun results =>
      currentTime >>= fun timestamp =>
        pure (.report ⟨timestamp, sourceSchema, targetSchema, results, totalRows results⟩))
      { w with
        tick := w.tick + 2
        answers := rest
        source := { w.source with status := .inTrans }
        target := { w.target with status := .inTrans } } := by
  have hv : verifyConnections w = (.ok true, w) := by simp [verifyConnections, hr, hr']
  have hfilter : (tablesToMigrate.filter fun t =>
      dictGet (tablesToMigrate.map fun t => (t, w.source.catalog.tables sourceSchema t)) t &&
        dictGet (tablesToMigrate.map fun t => (t, w.target.catalog.tables targetSchema t)) t) =
      tables :=
    (List.filter_congr fun t ht => by rw [dictGet_map _ ht, dictGet_map _ ht]).trans htables
  simp only [main, checkTablesExist]
  rw [Py.bind_ok hv]
  simp only [Bool.not_true, Bool.false_eq_true, if_false]
  rw [Py.bind_ok (send_of_quiet .source _ _ id hs hq.1 rfl),
    Py.bind_ok (send_of_quiet .target (.tablesExist targetSchema) _ id (by simpa [World.setConn, World.conn] using ht) hq.2 rfl)]
  simp only [World.conn, World.setConn, id, hfilter, hne, if_false]
  have hi : input { w with
      tick := w.tick + 1 + 1
      source := { w.source with status := .inTrans }
      target := { w.target with status := .inTrans } } =
      (.ok a, { w with
        tick := w.tick + 2
        answers := rest
        source := { w.source with status := .inTrans }
        target := { w.target with status := .inTrans } }) := by
    simp only [input, ha]
  rw [Py.bind_ok hi, hy]
  rfl

/-! Runs on small databases: every table of `tables` has the one column `address` on both
sides, the same source rows, and an empty target. -/

/-- A row whose `address` is `n`. -/
def addressRow (n : Nat) : Row Nat := fun c => if c = "address" then some n else none

def addressCatalog (schema : String) (tables : List String) : Catalog where
  columns s t := if s = schema ∧ t ∈ tables then ["address"] else []
  tables s t := s = schema ∧ t ∈ tables
  tableConstraints := []
  constraintColumnUsage := []
  uniqueKeys _ _ := []

/-- Both servers up, the operator answering `s`, and the environment failing what `fault`
says. -/
def runWorld (tables : List String) (rows : List (Row Nat))
    (fault : Nat → Side → Stmt → Option String) : World Nat where
  source := ⟨addressCatalog "arbitrage" tables, fun _ _ _ => none, fun _ _ => rows,
    fun _ _ => rows, .idle⟩
  target := ⟨addressCatalog "mig_topology" tables, fun _ _ _ => none, fun _ _ => [],
    fun _ _ => [], .idle⟩
  reachable _ := true
  tick := 0
  fault := fault
  answers := ["s"]
  calls := []
  now := "2025-01-01T00:00:00"

theorem report_total_one_table :
    (main (runWorld ["tokens"] [addressRow 1] fun _ _ _ => none)).1 =
        .ok (.report ⟨"2025-01-01T00:00:00", sourceSchema, targetSchema,
          [.success "tokens" 1 1], 1⟩) ∧
      1 = ((([.success "tokens" 1 1] : List MigrationResult).filter
        fun r => r.status = "success").map MigrationResult.rowsMigrated).sum := by
  have h : (main (runWorld ["tokens"] [addressRow 1] fun _ _ _ => none)).1 =
      .ok (.report ⟨"2025-01-01T00:00:00", sourceSchema, targetSchema,
        [.success "tokens" 1 1], 1⟩) := by
    rw [main_of_confirmed _ ["tokens"] (by decide) (by decide) rfl rfl (by decide)
      (by decide) ⟨rfl, rfl⟩ "s" [] rfl rfl, migrateAll, Py.bind_assoc,
      Py.bind_ok ((migrateTable_of_quiet_reads _ _ _ _ ?_ ?_ ?_ ?_ ?_ ?_).trans
        (transfer_eq_of_quiet _ _ _ _ (by decide) _ (fun _ _ _ => rfl) ?_ ?_ ?_))]
    · rfl
    all_goals first
      | exact ⟨rfl, rfl, rfl, rfl, rfl⟩
      | exact (show TxnStatus.inTrans ≠ .inError by decide)
      | exact accepts_address _ _ _ (by decide) (by decide)
      | exact List.cons_ne_nil _ _
      | rfl
  exact ⟨h, (report_total_counts_successes _ h).1⟩

/-- The disk of the target fills up at the statement in position 1009, the first INSERT of the
second batch of a table of 1001 rows. -/
def diskFullFrom (t : Nat) (_ : Side) (_ : Stmt) : Option String :=
  if 1009 ≤ t then some "could not extend file: No space left on device" else none

/-- A table whose first batch of 1000 rows was committed before the error: the report's
`total_rows_migrated` is 0, while the run committed 1000 rows. -/
theorem report_total_omits_failed_table_rows :
    (main (runWorld ["tokens"] (List.replicate 1001 (addressRow 0)) diskFullFrom)).1 =
        .ok (.report ⟨"2025-01-01T00:00:00", sourceSchema, targetSchema,
          [.error "tokens" "could not extend file: No space left on device" 1000], 0⟩) ∧
      committedRows (main (runWorld ["tokens"] (List.replicate 1001 (addressRow 0))
        diskFullFrom)).2.calls = 1000 := by
  have h : (main (runWorld ["tokens"] (List.replicate 1001 (addressRow 0)) diskFullFrom)).1 =
      .ok (.report ⟨"2025-01-01T00:00:00", sourceSchema, targetSchema,
        [.error "tokens" "could not extend file: No space left on device" 1000], 0⟩) := by
    rw [main_of_confirmed _ ["tokens"] (by decide) (by decide) rfl rfl (by decide)
      (by decide) ⟨rfl, rfl⟩ "s" [] rfl rfl, migrateAll, Py.bind_assoc,
      Py.bind_ok ((migrateTable_of_quiet_reads _ _ _ _ ?_ ?_ ?_ ?_ ?_ ?_).trans
        (transfer_of_second_batch_fault _ _ _ _ (by decide) _ (List.replicate 1000 [some 0])
          [some 0] "could not extend file: No space left on device" ?_ ?_ ?_ ?_ ?_ ?_ ?_))]
    · rfl
    all_goals first
      | exact List.map_replicate.trans (List.replicate_succ' 1000 _)
      | exact List.length_replicate _ _
      | exact ⟨rfl, rfl, rfl, rfl, rfl⟩
      | exact (show TxnStatus.inTrans ≠ .inError by decide)
      | exact accepts_address _ _ _ (by decide) (by decide)
      | exact List.cons_ne_nil _ _
      | rfl
      | skip
    intro i hi side s
    refine if_neg ?_
    show ¬ 1009 ≤ 0 + 2 + 5 + i
    simp only [batchSize] at hi
    omega
  obtain ⟨tables, w₁, hr, hm, -⟩ := main_report _ h
  obtain ⟨new, hc, hs⟩ := migrateAll_calls _ _ tables w₁ hm
  refine ⟨h, ?_⟩
  rw [hc, hr.calls, show (runWorld ["tokens"] (List.replicate 1001 (addressRow 0))
    diskFullFrom).calls = [] from rfl, List.nil_append, hs]
  rfl

/-- The source SELECT of `tokens` times out; nothing else fails. -/
def sourceSelectTimeout (_ : Nat) (side : Side) (s : Stmt) : Option String :=
  if side = .source ∧ s = .select "arbitrage" "tokens" then
    some "canceling statement due to statement timeout"
  else none

/-- The `except` branch rolls back the target only: the source connection stays aborted, the
first catalog read of `pools` raises `InFailedSqlTransaction` outside the `try`, and `main`
ends without a report. -/
theorem main_raises_after_source_select_timeout :
    (main (runWorld ["tokens", "pools"] [addressRow 1] sourceSelectTimeout)).1 =
      .error (.database inFailedSqlTransaction) := by
  rw [main_of_confirmed _ ["tokens", "pools"] (by decide) (by decide) rfl rfl (by decide)
    (by decide) ⟨rfl, rfl⟩ "s" [] rfl rfl, migrateAll, migrateAll,
    Py.bind_assoc, Py.bind_ok ((migrateTable_of_quiet_reads _ _ _ _ ?_ ?_ ?_ ?_ ?_ ?_).trans
      (transfer_of_select_fault _ _ _ _ "canceling statement due to statement timeout" ?_ ?_)),
    Py.bind_error (Py.bind_error (Py.bind_error (migrateTable_of_source_aborted _ _ _ _ rfl)))]
  all_goals first
    | exact ⟨rfl, rfl, rfl, rfl, rfl⟩
    | exact (show TxnStatus.inTrans ≠ .inError by decide)
    | exact List.cons_ne_nil _ _
    | rfl

end MigSdkExport.Migrate
