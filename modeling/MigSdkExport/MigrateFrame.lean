import MigSdkExport.MigrateMain

/-! What a run of `migrate_db_data.py` may change. The source database is only read; on the
target the script writes the tables it migrates and nothing else, and each table ends with its
batches committed or rolled back. Every statement is shown once to stay inside this footprint,
whatever the servers refuse; `main` is then assembled from its parts. -/
namespace MigSdkExport.Migrate

variable {V : Type}

/-- The open transaction of `c` sees the committed contents of every table outside the tables
`schema.t` with `t ∈ tables`. -/
def Settled (schema : String) (tables : List String) (c : Conn V) : Prop :=
  ∀ s t, (s = schema → t ∉ tables) → c.pending s t = c.committed s t

/-- `c'` keeps the catalog, the column defaults and, outside the tables `schema.t` with
`t ∈ tables`, the committed contents of `c`, and is settled there. -/
structure TargetFrame (schema : String) (tables : List String) (c c' : Conn V) : Prop where
  catalog : c'.catalog = c.catalog
  defaults : c'.defaults = c.defaults
  committed : ∀ s t, (s = schema → t ∉ tables) → c'.committed s t = c.committed s t
  settled : Settled schema tables c'

/-- `w'` follows `w` by statements that changed no data of the source and, on the target,
nothing outside the tables `schema.t` with `t ∈ tables`. -/
structure Frame (schema : String) (tables : List String) (w w' : World V) : Prop where
  source : Conn.SameData w.source w'.source
  target : TargetFrame schema tables w.target w'.target

/-- Every run of `p` from a target settled outside the tables stays inside them, whether it
returns or raises. -/
def Writes {α : Type} (schema : String) (tables : List String) (p : Py V α) : Prop :=
  ∀ w, Settled schema tables w.target → Frame schema tables w (p w).2

section Footprint

variable {schema : String} {tables : List String}

theorem TargetFrame.of_sameData {c c' : Conn V} (hs : Settled schema tables c)
    (h : c.SameData c') : TargetFrame schema tables c c' :=
  ⟨h.catalog, h.defaults, fun s t _ => by rw [h.committed],
    fun s t ht => by rw [h.pending, h.committed]; exact hs s t ht⟩

theorem TargetFrame.trans {c₁ c₂ c₃ : Conn V} (h₁ : TargetFrame schema tables c₁ c₂)
    (h₂ : TargetFrame schema tables c₂ c₃) : TargetFrame schema tables c₁ c₃ :=
  ⟨h₂.catalog.trans h₁.catalog, h₂.defaults.trans h₁.defaults,
    fun s t h => (h₂.committed s t h).trans (h₁.committed s t h), h₂.settled⟩

/-- A COMMIT makes the open transaction's contents the committed ones, which outside the
tables they already were. -/
theorem TargetFrame.commit {c : Conn V} (hs : Settled schema tables c) :
    TargetFrame schema tables c c.commit :=
  ⟨rfl, rfl, hs, fun _ _ _ => rfl⟩

theorem TargetFrame.rollback (c : Conn V) : TargetFrame schema tables c c.rollback :=
  ⟨rfl, rfl, fun _ _ _ => rfl, fun _ _ _ => rfl⟩

theorem Frame.refl {w : World V} (hs : Settled schema tables w.target) : Frame schema tables w w :=
  ⟨.refl _, .of_sameData hs (.refl _)⟩

theorem Frame.trans {w₁ w₂ w₃ : World V} (h₁ : Frame schema tables w₁ w₂)
    (h₂ : Frame schema tables w₂ w₃) : Frame schema tables w₁ w₃ :=
  ⟨h₁.source.trans h₂.source, h₁.target.trans h₂.target⟩

theorem Frame.of_readOnly {w w' : World V} (hs : Settled schema tables w.target)
    (h : ReadOnly w w') : Frame schema tables w w' :=
  ⟨h.source, .of_sameData hs h.target⟩

/-! The frame rule of `Py`: a sequence stays inside the footprint when its parts do. -/

theorem Writes.pure {α : Type} (a : α) : Writes schema tables (pure a : Py V α) :=
  fun _ hs => .refl hs

theorem Writes.bind {α β : Type} {x : Py V α} {f : α → Py V β} (hx : Writes schema tables x)
    (hf : ∀ a, Writes schema tables (f a)) : Writes schema tables (x >>= f) := by
  intro w hs
  have h₁ := hx w hs
  rcases h : x w with ⟨e | a, w₁⟩ <;> rw [h] at h₁
  · rwa [Py.bind_error h]
  · rw [Py.bind_ok h]
    exact h₁.trans (hf a w₁ h₁.target.settled)

theorem Writes.ite {α : Type} {c : Prop} [Decidable c] {p q : Py V α}
    (hp : Writes schema tables p) (hq : Writes schema tables q) :
    Writes schema tables (if c then p else q) := by
  split <;> assumption

/-- Every statement that writes nothing: the catalog reads, the row counts and the SELECT. -/
theorem writes_send_id {α : Type} (side : Side) (s : Stmt) (read : Conn V → α) :
    Writes schema tables (send side s read id) :=
  fun _ hs => .of_readOnly hs (ReadOnly.of_send rfl)

theorem writes_input : Writes schema tables (input : Py V String) :=
  fun _ hs => .of_readOnly hs (ReadOnly.of_input rfl)

theorem writes_verifyConnections : Writes schema tables (verifyConnections : Py V Bool) :=
  fun _ hs => .refl hs

theorem writes_currentTime : Writes schema tables (currentTime : Py V String) :=
  fun _ hs => .refl hs

/-- psycopg2's formatting runs on the client and touches no database. -/
theorem writes_mogrify (q : InsertQuery) (t : List (Option V)) :
    Writes schema tables (mogrify q t) := by
  intro w hs
  unfold mogrify
  split <;> exact .refl hs

/-- A statement on the target whose write stays inside the tables. -/
theorem writes_send_target {α : Type} (s : Stmt) (read : Conn V → α) {write : Conn V → Conn V}
    (hw : ∀ c, Settled schema tables c → TargetFrame schema tables c (write c)) :
    Writes schema tables (send .target s read write) := by
  intro w hs
  have hst := TargetFrame.of_sameData hs (Conn.SameData.status w.target .inError)
  by_cases he : (w.conn .target).status = .inError
  · rw [send_of_inError .target s read write he]
    exact ⟨.refl _, .of_sameData hs (.refl _)⟩
  rcases hr : s.refusal (w.conn .target).catalog with _ | msg
  swap
  · rw [send_of_refusal .target s read write he hr]
    exact ⟨.refl _, hst⟩
  rcases hf : w.fault w.tick .target s with _ | msg
  · rw [send_of_quiet .target s read write he hf hr]
    have h₁ := TargetFrame.of_sameData hs (Conn.SameData.status w.target .inTrans)
    exact ⟨.refl _, h₁.trans (hw _ h₁.settled)⟩
  · rw [send_of_fault .target s read write he hf hr]
    exact ⟨.refl _, hst⟩

theorem writes_commit : Writes schema tables (commit : Py V Unit) := by
  intro w hs
  rcases commit_cases w with h | ⟨msg, h⟩ <;> rw [h]
  · exact ⟨.refl _, .commit hs⟩
  · exact ⟨.refl _, .rollback _⟩

theorem writes_rollback : Writes schema tables (rollback : Py V Unit) :=
  fun w _ => ⟨.refl _, .rollback w.target⟩

/-- The batches flushed one by one stay inside the tables, up to the one that raised. -/
theorem flushAll_frame {T : Type} {flush : List T → Py V Unit}
    (hf : ∀ b, Writes schema tables (flush b)) (bs : List (List T)) (n : Nat) (w : World V)
    (hs : Settled schema tables w.target) : Frame schema tables w (flushAll flush bs n w).2.2 := by
  induction bs generalizing n w with
  | nil => exact .refl hs
  | cons b bs ih =>
    have h₁ := hf b w hs
    rcases h : flush b w with ⟨e | ⟨⟩, w₁⟩ <;> rw [h] at h₁ <;> simp only [flushAll, h]
    · exact h₁
    · exact h₁.trans (ih _ w₁ h₁.target.settled)

variable [DecidableEq V] {q : InsertQuery}

/-- An INSERT into one of the tables changes no other table. -/
theorem TargetFrame.insert {q : InsertQuery} (hq : q.schema = schema) (ht : q.table ∈ tables)
    (t : List (Option V)) {c : Conn V} (hs : Settled schema tables c) :
    TargetFrame schema tables c (c.insert q t) := by
  refine ⟨rfl, rfl, fun _ _ _ => rfl, fun s u h => ?_⟩
  have hne : ¬(s = q.schema ∧ u = q.table) := fun ⟨h₁, h₂⟩ => h (h₁.trans hq) (h₂ ▸ ht)
  simp only [Conn.insert, updateTable, if_neg hne]
  exact hs s u h

theorem writes_execute (hq : q.schema = schema) (ht : q.table ∈ tables) (t : List (Option V)) :
    Writes schema tables (execute q t) :=
  (writes_mogrify q t).bind fun _ => writes_send_target _ _ fun _ hc => .insert hq ht t hc

theorem writes_executemany (hq : q.schema = schema) (ht : q.table ∈ tables)
    (batch : List (List (Option V))) : Writes schema tables (executemany q batch) := by
  have hrows : ∀ ts : List (List (Option V)), Writes schema tables (executeRows q ts) := by
    intro ts
    induction ts with
    | nil => exact .pure ()
    | cons t ts ih =>
      rw [executeRows]
      exact (writes_execute hq ht t).bind fun _ => ih
  intro w hs
  have h := hrows batch w hs
  exact ⟨h.source, h.target⟩

theorem writes_flushBatch (hq : q.schema = schema) (ht : q.table ∈ tables)
    (batch : List (List (Option V))) : Writes schema tables (flushBatch q batch) :=
  (writes_executemany hq ht batch).bind fun _ => writes_commit

theorem writes_transfer (table : String) (cols : List String) (sq : SelectQuery) {B : Nat}
    (hB : 0 < B) (hq : q.schema = schema) (ht : q.table ∈ tables) :
    Writes schema tables (transfer table cols q sq B : Py V MigrationResult) := by
  intro w hs
  have h₁ : Frame schema tables w (selectRows sq w).2 := writes_send_id _ _ _ w hs
  rcases h : selectRows sq w with ⟨e | rows, w₁⟩ <;> rw [h] at h₁ <;> simp only [transfer, h]
  · exact h₁.trans (writes_rollback w₁ h₁.target.settled)
  · have h₂ := flushAll_frame (writes_flushBatch hq ht) (batches B (rows.map fun r => cols.map r))
      0 w₁ h₁.target.settled
    rw [← List.nil_append (rows.map _), ← batchLoop_eq_flushAll _ hB _ _ _ (by simpa)] at h₂
    rcases hl : batchLoop (flushBatch q) B (fun r => cols.map r) rows [] 0 w₁ with ⟨_ | e, n, w₂⟩ <;>
      rw [hl] at h₂ <;> simp only [hl]
    · exact h₁.trans h₂
    · exact (h₁.trans h₂).trans (writes_rollback w₂ h₂.target.settled)

theorem writes_migrateTable {table : String} (ss : String) (ht : table ∈ tables) :
    Writes schema tables (migrateTable table ss schema : Py V MigrationResult) := by
  intro w hs
  rcases migrateTable_cases table ss schema w with ⟨r, w', h, hr, -⟩ | ⟨w', hr, -, h⟩ <;> rw [h]
  · exact .of_readOnly hs hr
  · have h₁ : Frame schema tables w w' := .of_readOnly hs hr
    exact h₁.trans (writes_transfer (q := insertQuery schema table _ _) _ _ _ (by decide) rfl ht
      w' h₁.target.settled)

theorem writes_migrateAll (ss : String) {ts : List String} (ht : ∀ t ∈ ts, t ∈ tables) :
    Writes schema tables (migrateAll ss schema ts : Py V (List MigrationResult)) := by
  induction ts with
  | nil => exact .pure []
  | cons t ts ih =>
    exact (writes_migrateTable ss (ht t (.head _))).bind fun _ =>
      (ih fun u hu => ht u (.tail _ hu)).bind fun _ => .pure _

theorem writes_main : Writes targetSchema tablesToMigrate (main : Py V Outcome) := by
  refine writes_verifyConnections.bind fun ok =>
    .ite (.pure _) ((writes_send_id _ _ _).bind fun _ => (writes_send_id _ _ _).bind fun _ =>
      .ite (.pure _) (writes_input.bind fun _ => .ite (.pure _)
        ((writes_migrateAll _ fun t ht => (List.mem_filter.1 ht).1).bind fun _ =>
          writes_currentTime.bind fun _ => .pure _)))

end Footprint

/-- Whatever the servers refuse and the operator answers, a run of `main` from a target whose
open transaction sees its committed contents changes no data of the source database, neither
the catalog nor the column defaults of the target, and no target table other than the eleven
tables of `mig_topology` it migrates; those other tables are still settled at the end. -/
theorem main_frame [DecidableEq V] (w : World V) (hw : w.target.pending = w.target.committed) :
    Frame targetSchema tablesToMigrate w (main w).2 :=
  writes_main w fun s t _ => by rw [hw]

theorem main_frame_one_table :
    (runWorld ["tokens"] [addressRow 1] fun _ _ _ => none).target.pending =
        (runWorld ["tokens"] [addressRow 1] fun _ _ _ => none).target.committed ∧
      Frame targetSchema tablesToMigrate (runWorld ["tokens"] [addressRow 1] fun _ _ _ => none)
        (main (runWorld ["tokens"] [addressRow 1] fun _ _ _ => none)).2 :=
  ⟨rfl, main_frame _ rfl⟩

/-! ### Nothing left uncommitted -/

/-- The target's open transaction holds nothing that is not committed. -/
def Clean (w : World V) : Prop := w.target.pending = w.target.committed

/-- Every run of `p` from a world where `I` holds ends in one where it holds. -/
def Preserves {α : Type} (I : World V → Prop) (p : Py V α) : Prop := ∀ w, I w → I (p w).2

section Clean

variable {I : World V → Prop}

theorem Preserves.pure {α : Type} (a : α) : Preserves I (pure a : Py V α) := fun _ h => h

theorem Preserves.bind {α β : Type} {x : Py V α} {f : α → Py V β} (hx : Preserves I x)
    (hf : ∀ a, Preserves I (f a)) : Preserves I (x >>= f) := by
  intro w hw
  have h₁ := hx w hw
  rcases h : x w with ⟨e | a, w₁⟩ <;> rw [h] at h₁
  · rwa [Py.bind_error h]
  · rw [Py.bind_ok h]
    exact hf a w₁ h₁

theorem Preserves.ite {α : Type} {c : Prop} [Decidable c] {p q : Py V α} (hp : Preserves I p)
    (hq : Preserves I q) : Preserves I (if c then p else q) := by
  split <;> assumption

theorem Clean.of_readOnly {w w' : World V} (hw : Clean w) (h : ReadOnly w w') : Clean w' := by
  rw [Clean, h.target.pending, h.target.committed]
  exact hw

variable [DecidableEq V]

/-- A table ends committed or rolled back: the transfer commits each batch it writes, and its
`except` branch rolls back whatever the failed batch left. -/
theorem preserves_migrateTable (table ss ts : String) :
    Preserves Clean (migrateTable table ss ts : Py V MigrationResult) := by
  intro w hw
  rcases migrateTable_cases table ss ts w with ⟨r, w', h, hr, -⟩ | ⟨w', hr, -, h⟩ <;> rw [h]
  · exact hw.of_readOnly hr
  · rcases transfer_cases table _ _ _ (B := batchSize) (by decide) w' with ⟨m, ht⟩ |
      ⟨k, msg, m, st, cs, ht, -⟩ <;> rw [ht]
    · exact (Conn.flushed_committed _ _ (hw.of_readOnly hr)).symm
    · rfl

theorem preserves_main : Preserves Clean (main : Py V Outcome) := by
  have hmig : ∀ ts : List String,
      Preserves Clean (migrateAll sourceSchema targetSchema ts : Py V (List MigrationResult)) := by
    intro ts
    induction ts with
    | nil => exact .pure []
    | cons t ts ih => exact (preserves_migrateTable _ _ _).bind fun _ => ih.bind fun _ => .pure _
  have hread : ∀ {α : Type} (side : Side) (s : Stmt) (read : Conn V → α),
      Preserves Clean (send side s read id) :=
    fun _ _ _ _ hw => hw.of_readOnly (ReadOnly.of_send rfl)
  exact Preserves.bind (x := verifyConnections) (fun _ hw => hw) fun _ => .ite (.pure _)
    ((hread _ _ _).bind fun _ => (hread _ _ _).bind fun _ => .ite (.pure _)
      (Preserves.bind (x := input) (fun _ hw => hw.of_readOnly (ReadOnly.of_input rfl)) fun _ =>
        .ite (.pure _) ((hmig _).bind fun _ =>
          Preserves.bind (x := currentTime) (fun _ hw => hw) fun _ => .pure _)))

end Clean

/-- From a target session with nothing uncommitted, every run of `main`, whatever raised,
ends with nothing uncommitted on the target: closing the connection in the `finally` block
discards no write of the run. -/
theorem main_leaves_nothing_uncommitted [DecidableEq V] (w : World V)
    (hw : w.target.pending = w.target.committed) :
    (main w).2.target.pending = (main w).2.target.committed :=
  preserves_main w hw

theorem main_leaves_nothing_uncommitted_one_table :
    (runWorld ["tokens"] [addressRow 1] fun _ _ _ => none).target.pending =
        (runWorld ["tokens"] [addressRow 1] fun _ _ _ => none).target.committed ∧
      (main (runWorld ["tokens"] [addressRow 1] fun _ _ _ => none)).2.target.pending =
        (main (runWorld ["tokens"] [addressRow 1] fun _ _ _ => none)).2.target.committed :=
  ⟨rfl, main_leaves_nothing_uncommitted _ rfl⟩

end MigSdkExport.Migrate
