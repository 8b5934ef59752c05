import MigSdkExport.MigrateBatch

/-! `migrate_table`: the checks that may skip a table, the choice of statements, and the
transfer in its `try` block, whose `except` branch rolls the target back. -/
namespace MigSdkExport.Migrate

/-- The dict `migrate_table` returns, by its `'status'`. -/
inductive MigrationResult
  | success (table : String) (rowsMigrated columnsMigrated : Nat)
  | skipped (table reason : String)
  | error (table msg : String) (rowsMigrated : Nat)
deriving DecidableEq, Repr

def MigrationResult.status : MigrationResult → String
  | .success .. => "success"
  | .skipped .. => "skipped"
  | .error .. => "error"

/-- `result['rows_migrated']`, which every result has; it is 0 in a skipped one. -/
def MigrationResult.rowsMigrated : MigrationResult → Nat
  | .success _ n _ => n
  | .skipped .. => 0
  | .error _ _ n => n

variable {V : Type}

/-- The SELECT returns the rows of the source table, or raises and leaves the source
transaction in error. -/
theorem selectRows_cases (sq : SelectQuery) (w : World V) :
    selectRows sq w = (.ok (w.source.pending sq.schema sq.table),
        { w with tick := w.tick + 1, source := { w.source with status := .inTrans } }) ∨
      ∃ msg, selectRows sq w = (.error (.database msg),
        { w with tick := w.tick + 1, source := { w.source with status := .inError } }) := by
  by_cases hs : w.source.status = .inError
  · refine .inr ⟨inFailedSqlTransaction, (send_of_inError (w := w) .source _ _ id hs).trans ?_⟩
    rcases w with ⟨⟨_, _, _, _, st⟩, _⟩
    cases hs
    rfl
  rcases hf : w.fault w.tick .source (.select sq.schema sq.table) with _ | msg
  · exact .inl (send_of_quiet (w := w) .source _ _ id hs hf rfl)
  · exact .inr ⟨msg, send_of_fault (w := w) .source _ _ id hs hf rfl⟩

/-- Python's `str.lower()`, on the letters `A` to `Z`. -/
def lower (s : String) : String := ⟨s.data.map Char.toLower⟩

/-- The prompt `migrate_table` shows when the target table already has rows: it goes on only
if the answer is `s` once lowered. -/
def confirmOverwrite (targetCount : Nat) : Py V Bool :=
  if targetCount > 0 then input >>= fun response => pure (lower response = "s")
  else pure true

theorem confirmOverwrite_cases (n : Nat) (w : World V) :
    ∃ r w', confirmOverwrite n w = (r, w') ∧ ReadOnly w w' ∧ w'.source = w.source ∧
      w'.target = w.target := by
  unfold confirmOverwrite
  split_ifs
  · rcases input_cases w with ⟨a, w', h, hr, hs, ht⟩ | h
    · exact ⟨_, w', Py.bind_ok h, hr, hs, ht⟩
    · exact ⟨_, w, Py.bind_error h, .refl w, rfl, rfl⟩
  · exact ⟨_, w, rfl, .refl w, rfl, rfl⟩

variable [DecidableEq V]

/-- The `try` block of `migrate_table` with its `except` branch: read the rows, send them in
batches, and after any exception roll the target back and report the rows counted so far. -/
def transfer (table : String) (commonColumns : List String) (q : InsertQuery)
    (sq : SelectQuery) (batchSize : Nat) : Py V MigrationResult := fun w =>
  match selectRows sq w with
  | (.error e, w') => (.ok (.error table e.str 0), (rollback w').2)
  | (.ok rows, w') =>
    match batchLoop (flushBatch q) batchSize (fun r => commonColumns.map r) rows [] 0 w' with
    | (none, n, w'') => (.ok (.success table n commonColumns.length), w'')
    | (some e, n, w'') => (.ok (.error table e.str n), (rollback w'').2)

section Transfer

variable (table : String) (cols : List String) (q : InsertQuery) (sq : SelectQuery) {B : Nat}

theorem transfer_of_select (hB : 0 < B) {w w₁ : World V} {rows : List (Row V)}
    (h : selectRows sq w = (.ok rows, w₁)) :
    transfer table cols q sq B w =
      match flushAll (flushBatch q) (batches B (rows.map fun r => cols.map r)) 0 w₁ with
      | (none, n, w'') => (.ok (.success table n cols.length), w'')
      | (some e, n, w'') => (.ok (.error table e.str n), (rollback w'').2) := by
  have hl := batchLoop_eq_flushAll (flushBatch q) hB (fun r => cols.map r) rows [] (by simpa) 0 w₁
  rw [List.nil_append] at hl
  rw [← hl]
  simp only [transfer, h]

/-- A SELECT that fails ends the transfer at once: an error counting no row, the target rolled
back, and the source transaction left in error. -/
theorem transfer_of_select_fault {w : World V} (msg : String) (hs : w.source.status ≠ .inError)
    (hf : w.fault w.tick .source (.select sq.schema sq.table) = some msg) :
    transfer table cols q sq B w = (.ok (.error table msg 0),
      { w with
        tick := w.tick + 1
        source := { w.source with status := .inError }
        target := w.target.rollback
        calls := w.calls ++ [.rollback] }) := by
  simp only [transfer, selectRows, send_of_fault (w := w) .source _ _ id hs hf rfl]
  rfl

/-- Every run of the transfer: all batches committed and a success counting every row, or an
exception at the SELECT or at batch `k`, after which the target holds the first `k` batches
and the result counts their `k * B` rows. -/
theorem transfer_cases (hB : 0 < B) (w : World V) :
    let rows := w.source.pending sq.schema sq.table
    let bs := batches B (rows.map fun r => cols.map r)
    (∃ m, transfer table cols q sq B w = (.ok (.success table rows.length cols.length),
      { w with
        tick := m
        source := { w.source with status := .inTrans }
        target := w.target.flushed q bs
        calls := w.calls ++ committedCalls q bs })) ∨
    ∃ k msg m st cs, transfer table cols q sq B w = (.ok (.error table msg (k * B)),
      { w with
        tick := m
        source := { w.source with status := st }
        target := (w.target.flushed q (bs.take k)).rollback
        calls := w.calls ++ committedCalls q (bs.take k) ++ cs ++ [.rollback] }) ∧
      (k = 0 ∧ cs = [] ∨ ∃ hk : k < bs.length,
        cs = [.executemany q bs[k] false] ∨ cs = [.executemany q bs[k] true, .commit false]) := by
  intro rows bs
  rcases selectRows_cases sq w with h | ⟨msg, h⟩
  · rw [transfer_of_select table cols q sq hB h]
    rcases flushAll_cases q bs 0 { w with tick := w.tick + 1, source := { w.source with status := .inTrans } }
      with ⟨m, h'⟩ | ⟨k, hk, e, m, p, st, cs, h', hcs⟩
    · refine .inl ⟨m, ?_⟩
      rw [h', sum_length_batches hB, List.length_map, Nat.zero_add]
    · refine .inr ⟨k, e.str, m, .inTrans, cs, ?_, .inr ⟨hk, hcs⟩⟩
      rw [h', sum_length_take_batches hB _ hk, Nat.zero_add]
      rfl
  · refine .inr ⟨0, msg, w.tick + 1, .inError, [], ?_, .inl ⟨rfl, rfl⟩⟩
    simp only [transfer, h, Nat.zero_mul, List.take_zero, committedCalls_nil, Conn.flushed_nil,
      List.append_nil]
    rfl

theorem transfer_eq_of_quiet (hB : 0 < B) (w : World V) (hq : Quiet w)
    (hs : w.source.status ≠ .inError) (ht : w.target.status ≠ .inError)
    (ha : Accepts w.target.catalog q cols.length) :
    let rows := w.source.pending sq.schema sq.table
    let bs := batches B (rows.map fun r => cols.map r)
    transfer table cols q sq B w = (.ok (.success table rows.length cols.length),
      { w with
        tick := w.tick + 1 + (bs.map fun b => b.length + 1).sum
        source := { w.source with status := .inTrans }
        target := w.target.flushed q bs
        calls := w.calls ++ committedCalls q bs }) := by
  intro rows bs
  have hsel : selectRows sq w = (.ok rows,
      { w with tick := w.tick + 1, source := { w.source with status := .inTrans } }) :=
    send_of_quiet .source _ _ id hs (hq _ _ _) rfl
  rw [transfer_of_select table cols q sq hB hsel, flushAll_of_quiet q bs 0
    { w with tick := w.tick + 1, source := { w.source with status := .inTrans } } hq ht
    fun b hb t ht => length_of_mem_batches hb hB ht ▸ ha,
    sum_length_batches hB, List.length_map, Nat.zero_add]

/-- When no statement fails, the rows reach the target in `⌈N/B⌉` batches of `B` consecutive
rows, each written and committed before the next, and the result counts all `N` rows. -/
theorem transfer_of_quiet (hB : 0 < B) (w : World V) (hq : Quiet w)
    (hs : w.source.status ≠ .inError) (ht : w.target.status ≠ .inError)
    (ha : Accepts w.target.catalog q cols.length) :
    let rows := w.source.pending sq.schema sq.table
    let tuples := rows.map fun r => cols.map r
    let bs := batches B tuples
    (transfer table cols q sq B w).1 = .ok (.success table rows.length cols.length) ∧
    (transfer table cols q sq B w).2.calls = w.calls ++ committedCalls q bs ∧
    (transfer table cols q sq B w).2.target = w.target.flushed q bs ∧
    bs.length = (rows.length + B - 1) / B ∧
    (∀ k (hk : k < bs.length), bs[k] = (tuples.drop (k * B)).take B) ∧
    bs.flatten = tuples ∧ (∀ b ∈ bs, b ≠ []) ∧ ∀ b ∈ bs.dropLast, b.length = B := by
  intro rows tuples bs
  rw [transfer_eq_of_quiet table cols q sq hB w hq hs ht ha]
  exact ⟨rfl, rfl, rfl, by rw [length_batches, List.length_map], getElem_batches tuples,
    flatten_batches hB tuples, batches_shape hB tuples⟩

/-- A source with two rows of a one-column table, an empty target, and nothing failing. -/
def twoRowWorld : World Nat where
  source := ⟨⟨fun _ _ => ["address"], fun _ _ => true, [], [], fun _ _ => []⟩, fun _ _ _ => none,
    fun _ _ => [], fun _ _ => [fun _ => some 1, fun _ => some 2], .idle⟩
  target := ⟨⟨fun _ _ => ["address"], fun _ _ => true, [], [], fun _ _ => []⟩, fun _ _ _ => none,
    fun _ _ => [], fun _ _ => [], .idle⟩
  reachable _ := true
  tick := 0
  fault _ _ _ := none
  answers := []
  calls := []
  now := ""

/-- The INSERT of a one-column table without a key, accepted on any catalog. -/
theorem accepts_address (cat : Catalog) (ts table : String) (hs : '%' ∉ ts.data)
    (ht : '%' ∉ table.data) : Accepts cat (insertQuery ts table ["address"] none) 1 :=
  accepts_insertQuery hs ht (by decide) fun _ _ h => nomatch h

theorem transfer_of_quiet_two_rows :
    Quiet twoRowWorld ∧ twoRowWorld.source.status ≠ .inError ∧
      twoRowWorld.target.status ≠ .inError ∧
      Accepts twoRowWorld.target.catalog (insertQuery "mig_topology" "tokens" ["address"] none) 1 ∧
      (transfer "tokens" ["address"] (insertQuery "mig_topology" "tokens" ["address"] none)
        (selectQuery "arbitrage" "tokens" ["address"]) 1 twoRowWorld).1 =
        .ok (.success "tokens" 2 1) :=
  have ha := accepts_address twoRowWorld.target.catalog "mig_topology" "tokens" (by decide) (by decide)
  ⟨fun _ _ _ => rfl, by decide, by decide, ha,
    (transfer_of_quiet "tokens" ["address"] (insertQuery "mig_topology" "tokens" ["address"] none)
      (selectQuery "arbitrage" "tokens" ["address"]) Nat.one_pos twoRowWorld (fun _ _ _ => rfl)
      (by decide) (by decide) ha).1⟩

/-- The transfer of a table of `B + 1` rows whose second batch fails at its first INSERT: the
first batch is committed, and the result is an error counting its `B` rows. -/
theorem transfer_of_second_batch_fault (hB : 0 < B) (w : World V)
    (b₁ : List (List (Option V))) (t : List (Option V)) (msg : String)
    (hrows : (w.source.pending sq.schema sq.table).map (fun r => cols.map r) = b₁ ++ [t])
    (hb : b₁.length = B) (hs : w.source.status ≠ .inError) (ht : w.target.status ≠ .inError)
    (ha : Accepts w.target.catalog q cols.length)
    (hq : ∀ i ≤ B + 1, ∀ side s, w.fault (w.tick + i) side s = none)
    (hf : w.fault (w.tick + B + 2) .target (.insert q) = some msg) :
    transfer table cols q sq B w = (.ok (.error table msg B),
      { w with
        tick := w.tick + 1 + B + 1 + 1
        source := { w.source with status := .inTrans }
        target := ((w.target.insertAll q b₁).commit).rollback
        calls := w.calls ++ committedCalls q [b₁] ++ [.executemany q [t] false] ++ [.rollback] }) := by
  have hlen : ∀ u ∈ b₁ ++ [t], u.length = cols.length := by
    rw [← hrows]
    intro u hu
    obtain ⟨r, -, rfl⟩ := List.mem_map.1 hu
    exact List.length_map _ _
  have hsel : selectRows sq w = (.ok (w.source.pending sq.schema sq.table),
      { w with tick := w.tick + 1, source := { w.source with status := .inTrans } }) :=
    send_of_quiet .source _ _ id hs (hq 0 (Nat.zero_le _) _ _) rfl
  have hbs : batches B (b₁ ++ [t]) = [b₁, [t]] := by
    rw [batches_append hB hb, batches_of_length_le (List.cons_ne_nil t []) (by simpa using hB)]
  rw [transfer_of_select table cols q sq hB hsel, hrows, hbs, flushAll,
    flushBatch_of_quiet q b₁ { w with tick := w.tick + 1, source := { w.source with status := .inTrans } }
      ht (fun u hu => hlen u (List.mem_append_left _ hu) ▸ ha)
      (fun i hi => by simpa [Nat.add_assoc] using hq (1 + i) (by omega) _ _)
      (by simpa [hb, Nat.add_assoc, Nat.add_comm 1 B] using hq (B + 1) le_rfl _ _)]
  dsimp only
  subst hb
  rw [Nat.zero_add, flushAll, flushBatch_of_insert_fault q t [] { w with
      tick := w.tick + 1 + b₁.length + 1
      source := { w.source with status := .inTrans }
      target := (w.target.insertAll q b₁).commit
      calls := w.calls ++ committedCalls q [b₁] } msg (by simp [Conn.commit])
    (hlen t (by simp) ▸ ha.1)
    (by simp only [Conn.commit, Conn.insertAll_catalog, ha.2, Option.none_or]
        rw [show w.tick + 1 + b₁.length + 1 = w.tick + b₁.length + 2 by omega]
        exact hf)]
  rfl

/-- The same tables with the source SELECT timing out. -/
def selectTimeoutWorld : World Nat :=
  { twoRowWorld with
    fault := fun _ side _ => if side = .source then some "canceling statement due to statement timeout" else none }

/-- The same tables with the disk of the target full from the statement in position 3 on: the
INSERT of the second row, which is the second batch when a batch holds one row. -/
def diskFullWorld : World Nat :=
  { twoRowWorld with
    fault := fun t side _ =>
      if 3 ≤ t ∧ side = .target then some "could not extend file: No space left on device" else none }

end Transfer

def migrateTable (table sourceSchema targetSchema : String) : Py V MigrationResult :=
  getTableColumns .source sourceSchema table >>= fun sourceColumns =>
  getTableColumns .target targetSchema table >>= fun targetColumns =>
  let common := commonColumns (columnMapping table) sourceColumns targetColumns
  if common = [] then pure (.skipped table "No hay columnas comunes") else
  getTableRowCount .source sourceSchema table >>= fun sourceCount =>
  getTableRowCount .target targetSchema table >>= fun targetCount =>
  if sourceCount = 0 then pure (.skipped table "Tabla vacía en origen") else
  confirmOverwrite targetCount >>= fun go =>
  if !go then pure (.skipped table "Usuario canceló") else
  fetchPkColumn targetSchema table >>= fun pkColumn =>
  transfer table common (insertQuery targetSchema table common pkColumn)
    (selectQuery sourceSchema table common) batchSize

section MigrateTable

variable (table ss ts : String)

/-- Every run of `migrate_table`: it raises or skips the table before writing anything, or it
reaches the transfer of a source table with rows, with the statements built from the
catalogs, in a world that differs from the first only by reads. -/
theorem migrateTable_cases (w : World V) :
    let common := commonColumns (columnMapping table) (w.source.catalog.columns ss table)
      (w.target.catalog.columns ts table)
    (∃ r w', migrateTable table ss ts w = (r, w') ∧ ReadOnly w w' ∧
      ∀ res, r = .ok res → ∃ reason, res = .skipped table reason) ∨
    ∃ w', ReadOnly w w' ∧ w.source.pending ss table ≠ [] ∧
      migrateTable table ss ts w = transfer table common
        (insertQuery ts table common (pkColumnOf (pkQuery w.target.catalog ts table)))
        (selectQuery ss table common) batchSize w' := by
  intro common
  have skip : ∀ {w' : World V} (reason : String), ReadOnly w w' →
      (∃ r w'', (pure (.skipped table reason) : Py V MigrationResult) w' = (r, w'') ∧
        ReadOnly w w'' ∧ ∀ res, r = .ok res → ∃ reason, res = .skipped table reason) :=
    fun reason hr => ⟨_, _, rfl, hr, fun _ h => ⟨reason, by cases h; rfl⟩⟩
  have raise : ∀ {β : Type} {x : Py V β} {f : β → Py V MigrationResult} {w₁ w₂ : World V}
      {e : PyErr}, ReadOnly w w₂ → x w₁ = (.error e, w₂) →
      ∃ r w', (x >>= f) w₁ = (r, w') ∧ ReadOnly w w' ∧
        ∀ res, r = .ok res → ∃ reason, res = .skipped table reason :=
    fun hr h => ⟨_, _, Py.bind_error h, hr, fun _ h => by cases h⟩
  simp only [migrateTable, getTableColumns, getTableRowCount, fetchPkColumn]
  rcases send_id_cases .source (.columns ss table) (fun c => c.catalog.columns ss table) w with
    ⟨w₁, h₁, r₁, s₁, -⟩ | ⟨msg, w₁, h₁, r₁, -⟩
  swap; · exact .inl (raise r₁ h₁)
  rw [Py.bind_ok h₁]
  rcases send_id_cases .target (.columns ts table) (fun c => c.catalog.columns ts table) w₁ with
    ⟨w₂, h₂, r₂, s₂, -⟩ | ⟨msg, w₂, h₂, r₂, -⟩
  swap; · exact .inl (raise (r₁.trans r₂) h₂)
  rw [Py.bind_ok h₂]
  have hcols : commonColumns (columnMapping table) ((w.conn .source).catalog.columns ss table)
      ((w₁.conn .target).catalog.columns ts table) = common := by
    simp only [World.conn, r₁.target.catalog, common]
  rw [hcols]
  split_ifs with hc
  · exact .inl (skip _ (r₁.trans r₂))
  rcases send_id_cases .source (.rowCount ss table) (fun c => (c.pending ss table).length) w₂ with
    ⟨w₃, h₃, r₃, s₃, -⟩ | ⟨msg, w₃, h₃, r₃, -⟩
  swap; · exact .inl (raise ((r₁.trans r₂).trans r₃) h₃)
  rw [Py.bind_ok h₃]
  rcases send_id_cases .target (.rowCount ts table) (fun c => (c.pending ts table).length) w₃ with
    ⟨w₄, h₄, r₄, s₄, -⟩ | ⟨msg, w₄, h₄, r₄, -⟩
  swap; · exact .inl (raise (((r₁.trans r₂).trans r₃).trans r₄) h₄)
  rw [Py.bind_ok h₄]
  have r₄' := ((r₁.trans r₂).trans r₃).trans r₄
  split_ifs with hn
  · exact .inl (skip _ r₄')
  obtain ⟨go, w₅, h₅, r₅, hs₅, ht₅⟩ := confirmOverwrite_cases _ w₄
  rcases go with e | go
  · exact .inl (raise (r₄'.trans r₅) h₅)
  rw [Py.bind_ok h₅]
  split_ifs with hg
  · exact .inl (skip _ (r₄'.trans r₅))
  rcases send_id_cases .target (.primaryKey ts table)
      (fun c => pkColumnOf (pkQuery c.catalog ts table)) w₅ with
    ⟨w₆, h₆, r₆, s₆, -⟩ | ⟨msg, w₆, h₆, r₆, -⟩
  swap; · exact .inl (raise ((r₄'.trans r₅).trans r₆) h₆)
  rw [Py.bind_ok h₆]
  have hcount : (w₂.conn .source).pending ss table = w.source.pending ss table :=
    congrFun (congrFun (r₁.trans r₂).source.pending ss) table
  refine .inr ⟨w₆, (r₄'.trans r₅).trans r₆, fun h0 => hn (by rw [hcount, h0]; rfl), ?_⟩
  simp only [World.conn, (r₄'.trans r₅).target.catalog]

/-- With no common column `migrate_table` writes nothing, and it skips the table once its two
column reads succeed. -/
theorem migrateTable_of_common_nil (w : World V)
    (hc : commonColumns (columnMapping table) (w.source.catalog.columns ss table)
      (w.target.catalog.columns ts table) = []) :
    ReadOnly w (migrateTable table ss ts w).2 ∧
      (w.source.status ≠ .inError → w.target.status ≠ .inError →
        w.fault w.tick .source (.columns ss table) = none →
        w.fault (w.tick + 1) .target (.columns ts table) = none →
        (migrateTable table ss ts w).1 = .ok (.skipped table "No hay columnas comunes")) := by
  constructor
  · simp only [migrateTable, getTableColumns]
    rcases send_id_cases .source (.columns ss table) (fun c => c.catalog.columns ss table) w with
      ⟨w₁, h₁, r₁, -, -⟩ | ⟨msg, w₁, h₁, r₁, -⟩
    swap; · rw [Py.bind_error h₁]; exact r₁
    rw [Py.bind_ok h₁]
    rcases send_id_cases .target (.columns ts table) (fun c => c.catalog.columns ts table) w₁ with
      ⟨w₂, h₂, r₂, -, -⟩ | ⟨msg, w₂, h₂, r₂, -⟩
    swap; · rw [Py.bind_error h₂]; exact r₁.trans r₂
    rw [Py.bind_ok h₂, if_pos (by simpa only [World.conn, r₁.target.catalog] using hc)]
    exact r₁.trans r₂
  · intro hs ht hf₁ hf₂
    have h₁ : getTableColumns .source ss table w = (.ok (w.source.catalog.columns ss table),
        { w with tick := w.tick + 1, source := { w.source with status := .inTrans } }) :=
      send_of_quiet .source _ _ id hs hf₁ rfl
    have h₂ : getTableColumns .target ts table
        { w with tick := w.tick + 1, source := { w.source with status := .inTrans } } =
        (.ok (w.target.catalog.columns ts table), { w with
          tick := w.tick + 1 + 1
          source := { w.source with status := .inTrans }
          target := { w.target with status := .inTrans } }) :=
      send_of_quiet .target _ _ id ht hf₂ rfl
    simp only [migrateTable]
    rw [Py.bind_ok h₁, Py.bind_ok h₂, if_pos hc]
    rfl

/-- When the five reads before the transfer succeed, the table has common columns and source
rows, and the target table is empty (so there is no prompt), `migrate_table` is the transfer
with the statements built from the catalogs. -/
theorem migrateTable_of_quiet_reads (w : World V) (hs : w.source.status ≠ .inError)
    (ht : w.target.status ≠ .inError)
    (hq : w.fault w.tick .source (.columns ss table) = none ∧
      w.fault (w.tick + 1) .target (.columns ts table) = none ∧
      w.fault (w.tick + 2) .source (.rowCount ss table) = none ∧
      w.fault (w.tick + 3) .target (.rowCount ts table) = none ∧
      w.fault (w.tick + 4) .target (.primaryKey ts table) = none)
    (hc : commonColumns (columnMapping table) (w.source.catalog.columns ss table)
      (w.target.catalog.columns ts table) ≠ [])
    (hn : w.source.pending ss table ≠ []) (h0 : w.target.pending ts table = []) :
    let common := commonColumns (columnMapping table) (w.source.catalog.columns ss table)
      (w.target.catalog.columns ts table)
    migrateTable table ss ts w = transfer table common
      (insertQuery ts table common (pkColumnOf (pkQuery w.target.catalog ts table)))
      (selectQuery ss table common) batchSize
      { w with
        tick := w.tick + 5
        source := { w.source with status := .inTrans }
        target := { w.target with status := .inTrans } } := by
  intro common
  obtain ⟨hq₀, hq₁, hq₂, hq₃, hq₄⟩ := hq
  simp only [migrateTable, getTableColumns, getTableRowCount, fetchPkColumn, confirmOverwrite]
  rw [Py.bind_ok (send_of_quiet .source _ _ id hs hq₀ rfl),
    Py.bind_ok (send_of_quiet .target (.columns ts table) _ id (by simpa [World.setConn, World.conn] using ht) hq₁ rfl)]
  simp only [World.conn, World.setConn, id, hc, if_false]
  rw [Py.bind_ok (send_of_quiet .source (.rowCount ss table) _ id (by simp [World.conn]) hq₂ rfl),
    Py.bind_ok (send_of_quiet .target (.rowCount ts table) _ id (by simp [World.conn, World.setConn]) hq₃ rfl)]
  simp only [World.conn, World.setConn, id, List.length_eq_zero, hn, h0, if_false,
    List.length_nil, gt_iff_lt, Nat.lt_irrefl]
  rw [Py.bind_ok (Py.pure_run true _)]
  simp only [Bool.not_true, Bool.false_eq_true, if_false]
  rw [Py.bind_ok (send_of_quiet .target (.primaryKey ts table) _ id (by simp [World.conn]) hq₄ rfl)]
  rfl

/-- On a source connection whose transaction is in error, `migrate_table` raises at its first
catalog read, which is outside its `try`. -/
theorem migrateTable_of_source_aborted (w : World V) (h : w.source.status = .inError) :
    migrateTable table ss ts w =
      (.error (.database inFailedSqlTransaction), { w with tick := w.tick + 1 }) := by
  simp only [migrateTable, getTableColumns]
  rw [Py.bind_error (send_of_inError (w := w) .source _ _ id h)]

end MigrateTable

/-- An upsert on a key column `k` without a unique index of its own, as `pk_column` is on a
composite key, commits no row: the server refuses `ON CONFLICT ("k")` at the first INSERT. The
run skips the table, raises, or returns an error that counts no row. -/
theorem migrateTable_upsert_without_arbiter (table ss ts k : String) (w : World V)
    (hpk : pkColumnOf (pkQuery w.target.catalog ts table) = some k) (hk : k ≠ "")
    (hkC : k ∈ commonColumns (columnMapping table) (w.source.catalog.columns ss table)
      (w.target.catalog.columns ts table))
    (hu : [k] ∉ w.target.catalog.uniqueKeys ts table) :
    (migrateTable table ss ts w).2.target.committed = w.target.committed ∧
      ∀ r, (migrateTable table ss ts w).1 = .ok r →
        (∃ reason, r = .skipped table reason) ∨ ∃ msg, r = .error table msg 0 := by
  rcases migrateTable_cases table ss ts w with ⟨r, w', hm, hr, hskip⟩ | ⟨w', hr, hne, hm⟩
  · rw [hm]
    exact ⟨hr.target.committed, fun r' h => .inl (hskip r' h)⟩
  rw [hpk] at hm
  generalize commonColumns (columnMapping table) (w.source.catalog.columns ss table)
    (w.target.catalog.columns ts table) = common at hm hkC
  have hconf : conflictAction common (some k) =
      .doUpdate k ((common.filter fun c => c ≠ k).map fun c => (c, c)) := if_pos ⟨hk, hkC⟩
  have hrefuse : (Stmt.insert (insertQuery ts table common (some k))).refusal
      w'.target.catalog ≠ none := by
    rw [hr.target.catalog]
    simp only [Stmt.refusal, insertQuery, hconf, if_neg hu]
    exact Option.some_ne_none _
  rw [hm]
  rcases selectRows_cases (selectQuery ss table common) w' with hs | ⟨msg, hs⟩
  · rw [transfer_of_select _ _ _ _ (by decide) hs]
    obtain ⟨t, ts', bs, hbs⟩ := batches_ne_nil (by decide : 0 < batchSize)
      (show (w'.source.pending ss table).map (fun r => common.map r) ≠ [] by
        rw [Ne, List.map_eq_nil_iff, hr.source.pending]
        exact hne)
    obtain ⟨e, w'', hf, hc⟩ := flushBatch_of_refusal _ t ts'
      { w' with tick := w'.tick + 1, source := { w'.source with status := .inTrans } } hrefuse
    simp only [selectQuery]
    rw [hbs, flushAll, hf]
    exact ⟨(rollback_committed w'').trans (hc.trans hr.target.committed),
      fun r h => .inr ⟨e.str, (Except.ok.inj h).symm⟩⟩
  · simp only [transfer, hs]
    exact ⟨(rollback_committed _).trans hr.target.committed,
      fun r h => .inr ⟨_, (Except.ok.inj h).symm⟩⟩

/-- A source holding one relation of two tokens, and the target whose `token_relations` has the
composite key; nothing fails. -/
def compositeKeyWorld : World Nat where
  source := ⟨⟨fun _ _ => ["token_a", "token_b", "weight"], fun _ _ => true, [], [], fun _ _ => []⟩,
    fun _ _ _ => none, fun _ _ => [], fun _ _ => [fun c => if c = "weight" then some 5 else some 1],
    .idle⟩
  target := ⟨compositeKeyCatalog, fun _ _ _ => none, fun _ _ => [], fun _ _ => [], .idle⟩
  reachable _ := true
  tick := 0
  fault _ _ _ := none
  answers := []
  calls := []
  now := ""

/-- The composite key of `token_relations`: `pk_column` is `token_a`, whose only unique index
is the pair, and the run ends in the server's refusal. -/
theorem migrateTable_composite_key_refused :
    (pkColumnOf (pkQuery compositeKeyWorld.target.catalog "mig_topology" "token_relations") =
        some "token_a" ∧ "token_a" ≠ "" ∧
      "token_a" ∈ commonColumns (columnMapping "token_relations")
        (compositeKeyWorld.source.catalog.columns "arbitrage" "token_relations")
        (compositeKeyWorld.target.catalog.columns "mig_topology" "token_relations") ∧
      ["token_a"] ∉ compositeKeyWorld.target.catalog.uniqueKeys "mig_topology" "token_relations") ∧
    (migrateTable "token_relations" "arbitrage" "mig_topology" compositeKeyWorld).1 =
        .ok (.error "token_relations" noArbiter 0) ∧
      (migrateTable "token_relations" "arbitrage" "mig_topology" compositeKeyWorld).2.target.committed =
          compositeKeyWorld.target.committed ∧
        ∀ r, (migrateTable "token_relations" "arbitrage" "mig_topology" compositeKeyWorld).1 = .ok r →
          (∃ reason, r = .skipped "token_relations" reason) ∨
            ∃ msg, r = .error "token_relations" msg 0 :=
  ⟨⟨by decide, by decide, by decide, by decide⟩, by set_option maxRecDepth 4000 in rfl,
    migrateTable_upsert_without_arbiter "token_relations" "arbitrage" "mig_topology" "token_a"
      compositeKeyWorld (by decide) (by decide) (by decide) (by decide)⟩

/-- `common_columns` keeps, in source order, the columns that pass the three tests of the
table's rule, whichever order the exclude and include filters run in; it is empty exactly
when no column passes, and then the table is skipped with nothing written. -/
theorem commonColumns_filter_skip (mapping : Option ColumnRule) (S T : List String) :
    commonColumns mapping S T = S.filter (passes mapping T) ∧
    (∀ c, passes mapping T c = true ↔
      c ∉ excludedBy mapping ∧ (∀ inc, includedBy mapping = some inc → c ∈ inc) ∧ c ∈ T) ∧
    commonColumns mapping S T = reconcile mapping S T ∧
    (commonColumns mapping S T).Sublist S ∧ (∀ c ∈ commonColumns mapping S T, c ∈ T) ∧
    (commonColumns mapping S T = [] ↔ ∀ c ∈ S, passes mapping T c = false) ∧
    ∀ (table ss ts : String) (w : World V),
      commonColumns (columnMapping table) (w.source.catalog.columns ss table)
        (w.target.catalog.columns ts table) = [] →
      ReadOnly w (migrateTable table ss ts w).2 ∧
        (w.source.status ≠ .inError → w.target.status ≠ .inError →
          w.fault w.tick .source (.columns ss table) = none →
          w.fault (w.tick + 1) .target (.columns ts table) = none →
          (migrateTable table ss ts w).1 = .ok (.skipped table "No hay columnas comunes")) := by
  have hf := commonColumns_eq_filter mapping S T
  refine ⟨hf, passes_iff mapping T, hf.trans (reconcile_eq_filter mapping S T).symm,
    hf ▸ List.filter_sublist S, fun c hc => ?_, commonColumns_eq_nil_iff mapping S T,
    fun table ss ts w hc => migrateTable_of_common_nil table ss ts w hc⟩
  rw [hf, List.mem_filter] at hc
  exact ((passes_iff mapping T c).1 hc.2).2.2

end MigSdkExport.Migrate
