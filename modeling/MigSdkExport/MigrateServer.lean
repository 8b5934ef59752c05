import MigSdkExport.MigrateCatalog

/-! The two databases as `migrate_db_data.py` reaches them through psycopg2: a connection to
each with its transaction status, the statements the script sends, and an environment that
may make any statement fail. psycopg2 formats each INSERT with its tuple on the client before
sending it, and the server itself refuses an upsert whose conflict target no unique index
matches. As in PostgreSQL, a failed statement leaves the transaction in error and every later
statement on that connection is refused until a rollback. -/
namespace MigSdkExport.Migrate

/-- A row as `RealDictCursor` hands it over, column name to value; `none` is NULL. -/
abbrev Row (V : Type) := String → Option V

inductive Side
  | source
  | target
deriving DecidableEq, Repr

/-- psycopg2's transaction status of a connection. -/
inductive TxnStatus
  | idle
  | inTrans
  | inError
deriving DecidableEq, Repr

/-- The statements of the script, as the environment sees them when it decides which fail. -/
inductive Stmt
  | tablesExist (schema : String)
  | columns (schema table : String)
  | rowCount (schema table : String)
  | primaryKey (schema table : String)
  | select (schema table : String)
  | insert (q : InsertQuery)
  | commit
deriving DecidableEq, Repr

/-- The exceptions of the database calls: an error of the server, one psycopg2 raises on the
client before it sends anything (its formatting of the query with the parameters), and the
`EOFError` of `input()`. -/
inductive PyErr
  | database (msg : String)
  | client (msg : String)
  | eof
deriving DecidableEq, Repr

/-- `str(e)`. -/
def PyErr.str : PyErr → String
  | .database msg => msg
  | .client msg => msg
  | .eof => "EOF when reading a line"

/-- The message of `InFailedSqlTransaction`. -/
def inFailedSqlTransaction : String :=
  "current transaction is aborted, commands ignored until end of transaction block\n"

/-- The message of the error PostgreSQL raises on an `ON CONFLICT (k)` that no unique index
matches. -/
def noArbiter : String :=
  "there is no unique or exclusion constraint matching the ON CONFLICT specification\n"

/-- What the server refuses before it runs a statement, from its catalog alone: an
`ON CONFLICT (k) DO UPDATE` needs a unique index over exactly the column `k` to arbitrate its
conflicts. Refusals that depend on the rows (a clash on another unique index, a NULL in a key
column) are the environment's. -/
def Stmt.refusal (cat : Catalog) : Stmt → Option String
  | .insert q =>
    match q.onConflict with
    | .doUpdate k _ => if [k] ∈ cat.uniqueKeys q.schema q.table then none else some noArbiter
    | .doNothing => none
  | _ => none

/-- One database through its connection: the catalog, the column defaults, the committed
contents, the contents the open transaction sees, and the transaction status. -/
structure Conn (V : Type) where
  catalog : Catalog
  defaults : String → String → Row V
  committed : String → String → List (Row V)
  pending : String → String → List (Row V)
  status : TxnStatus

/-- The calls the script makes on the target connection, with whether each succeeded. -/
inductive Call (V : Type)
  | executemany (q : InsertQuery) (batch : List (List (Option V))) (ok : Bool)
  | commit (ok : Bool)
  | rollback

/-- Both databases and the environment: which servers answer, which statements fail (by
position in the run and by statement), the operator's answers to `input()`, and the clock. -/
structure World (V : Type) where
  source : Conn V
  target : Conn V
  reachable : Side → Bool
  tick : Nat
  fault : Nat → Side → Stmt → Option String
  answers : List String
  calls : List (Call V)
  now : String

variable {V : Type}

/-- A Python computation against the databases: its value or the exception it raised, and
the world its statements left behind in either case. -/
def Py (V α : Type) := World V → Except PyErr α × World V

instance : Monad (Py V) where
  pure a w := (.ok a, w)
  bind x f w :=
    match x w with
    | (.ok a, w') => f a w'
    | (.error e, w') => (.error e, w')

theorem Py.pure_run {α : Type} (a : α) (w : World V) : (pure a : Py V α) w = (.ok a, w) := rfl

theorem Py.bind_ok {α β : Type} {x : Py V α} {f : α → Py V β} {w w' : World V} {a : α}
    (h : x w = (.ok a, w')) : (x >>= f) w = f a w' := by
  show (match x w with | (.ok a, w') => f a w' | (.error e, w') => (.error e, w')) = _
  rw [h]

theorem Py.bind_error {α β : Type} {x : Py V α} {f : α → Py V β} {w w' : World V} {e : PyErr}
    (h : x w = (.error e, w')) : (x >>= f) w = (.error e, w') := by
  show (match x w with | (.ok a, w') => f a w' | (.error e, w') => (.error e, w')) = _
  rw [h]

theorem Py.bind_assoc {α β γ : Type} (x : Py V α) (f : α → Py V β) (g : β → Py V γ) :
    (x >>= f >>= g) = x >>= fun a => f a >>= g := by
  funext w
  show (match (match x w with | (.ok a, w') => f a w' | (.error e, w') => (.error e, w')) with
      | (.ok b, w'') => g b w'' | (.error e, w'') => (.error e, w'')) =
    (match x w with | (.ok a, w') => (f a >>= g) w' | (.error e, w') => (.error e, w'))
  rcases x w with ⟨_ | a, w'⟩ <;> rfl

/-- A bind that returned a value ran both of its parts to a value. -/
theorem Py.bind_eq_ok {α β : Type} {x : Py V α} {f : α → Py V β} {w w' : World V} {b : β}
    (h : (x >>= f) w = (.ok b, w')) : ∃ a w₁, x w = (.ok a, w₁) ∧ f a w₁ = (.ok b, w') := by
  rcases hx : x w with ⟨_ | a, w₁⟩
  · rw [Py.bind_error hx] at h
    cases h
  · exact ⟨a, w₁, rfl, by rwa [Py.bind_ok hx] at h⟩

def World.conn (w : World V) : Side → Conn V
  | .source => w.source
  | .target => w.target

def World.setConn (w : World V) : Side → Conn V → World V
  | .source, c => { w with source := c }
  | .target, c => { w with target := c }

def World.record (w : World V) (c : Call V) : World V := { w with calls := w.calls ++ [c] }

def Conn.commit (c : Conn V) : Conn V := { c with committed := c.pending, status := .idle }

def Conn.rollback (c : Conn V) : Conn V := { c with pending := c.committed, status := .idle }

/-- Replace the contents of one table. -/
def updateTable (data : String → String → List (Row V)) (schema table : String)
    (f : List (Row V) → List (Row V)) : String → String → List (Row V) :=
  fun s t => if s = schema ∧ t = table then f (data s t) else data s t

/-- Send one statement: refused on a transaction in error; otherwise refused by the server when
its catalog rules the statement out, or failing when the environment says so, either of which
puts the transaction in error; otherwise it runs in the open transaction, reading `read` and
applying `write`. -/
def send {α : Type} (side : Side) (s : Stmt) (read : Conn V → α) (write : Conn V → Conn V) :
    Py V α := fun w =>
  let c := w.conn side
  let w' := { w with tick := w.tick + 1 }
  if c.status = .inError then (.error (.database inFailedSqlTransaction), w')
  else
    match (s.refusal c.catalog).or (w.fault w.tick side s) with
    | some msg => (.error (.database msg), w'.setConn side { c with status := .inError })
    | none => (.ok (read c), w'.setConn side (write { c with status := .inTrans }))

def getTableColumns (side : Side) (schema table : String) : Py V (List String) :=
  send side (.columns schema table) (fun c => c.catalog.columns schema table) id

def getTableRowCount (side : Side) (schema table : String) : Py V Nat :=
  send side (.rowCount schema table) (fun c => (c.pending schema table).length) id

/-- `check_tables_exist`: the dict `{table: table in existing for table in tables}`. -/
def checkTablesExist (side : Side) (schema : String) (tables : List String) :
    Py V (List (String × Bool)) :=
  send side (.tablesExist schema) (fun c => tables.map fun t => (t, c.catalog.tables schema t)) id

/-- The `pk_query` of `migrate_table` and its `fetchone()`. -/
def fetchPkColumn (targetSchema table : String) : Py V (Option String) :=
  send .target (.primaryKey targetSchema table)
    (fun c => pkColumnOf (pkQuery c.catalog targetSchema table)) id

/-- `source_cur.execute(select_query)` on a client-side cursor: every row, in storage order. -/
def selectRows (q : SelectQuery) : Py V (List (Row V)) :=
  send .source (.select q.schema q.table) (fun c => c.pending q.schema q.table) id

/-- `target_conn.commit()`. A COMMIT that fails ends the transaction rolled back. -/
def commit : Py V Unit := fun w =>
  let c := w.target
  let w' := { w with tick := w.tick + 1 }
  if c.status = .inError then
    (.error (.database inFailedSqlTransaction), (w'.setConn .target c.rollback).record (.commit false))
  else
    match w.fault w.tick .target .commit with
    | some msg => (.error (.database msg), (w'.setConn .target c.rollback).record (.commit false))
    | none => (.ok (), (w'.setConn .target c.commit).record (.commit true))

/-- `target_conn.rollback()`. -/
def rollback : Py V Unit := fun w =>
  (.ok (), (w.setConn .target w.target.rollback).record .rollback)

@[simp] theorem rollback_committed (w : World V) :
    (rollback w).2.target.committed = w.target.committed := rfl

/-- `input()`: the operator's next answer; `EOFError` when there is none. -/
def input : Py V String := fun w =>
  match w.answers with
  | [] => (.error .eof, w)
  | a :: rest => (.ok a, { w with answers := rest })

/-! Each primitive, once: what it returns and what it leaves, for every world. -/

section Spec

variable {α : Type} {w : World V}

@[simp] theorem World.conn_setConn (w : World V) (side : Side) (c : Conn V) :
    (w.setConn side c).conn side = c := by
  cases side <;> rfl

@[simp] theorem World.setConn_answers (w : World V) (side : Side) (c : Conn V) :
    (w.setConn side c).answers = w.answers := by
  cases side <;> rfl

@[simp] theorem World.setConn_calls (w : World V) (side : Side) (c : Conn V) :
    (w.setConn side c).calls = w.calls := by
  cases side <;> rfl

@[simp] theorem World.setConn_conn (w : World V) (side : Side) : w.setConn side (w.conn side) = w := by
  cases side <;> rfl

theorem send_of_inError (side : Side) (s : Stmt) (read : Conn V → α) (write : Conn V → Conn V)
    (h : (w.conn side).status = .inError) :
    send side s read write w = (.error (.database inFailedSqlTransaction), { w with tick := w.tick + 1 }) := by
  simp [send, h]

theorem send_of_refusal (side : Side) (s : Stmt) (read : Conn V → α) (write : Conn V → Conn V)
    {msg : String} (h : (w.conn side).status ≠ .inError)
    (hr : s.refusal (w.conn side).catalog = some msg) :
    send side s read write w = (.error (.database msg),
      { w with tick := w.tick + 1 }.setConn side { w.conn side with status := .inError }) := by
  simp [send, h, hr]

theorem send_of_fault (side : Side) (s : Stmt) (read : Conn V → α) (write : Conn V → Conn V)
    {msg : String} (h : (w.conn side).status ≠ .inError) (hf : w.fault w.tick side s = some msg)
    (hr : s.refusal (w.conn side).catalog = none) :
    send side s read write w = (.error (.database msg),
      { w with tick := w.tick + 1 }.setConn side { w.conn side with status := .inError }) := by
  simp [send, h, hf, hr]

theorem send_of_quiet (side : Side) (s : Stmt) (read : Conn V → α) (write : Conn V → Conn V)
    (h : (w.conn side).status ≠ .inError) (hf : w.fault w.tick side s = none)
    (hr : s.refusal (w.conn side).catalog = none) :
    send side s read write w = (.ok (read (w.conn side)),
      { w with tick := w.tick + 1 }.setConn side (write { w.conn side with status := .inTrans })) := by
  simp [send, h, hf, hr]

theorem commit_cases (w : World V) :
    commit w = (.ok (), { w with tick := w.tick + 1, target := w.target.commit }.record (.commit true)) ∨
      ∃ msg, commit w = (.error (.database msg),
        { w with tick := w.tick + 1, target := w.target.rollback }.record (.commit false)) := by
  simp only [commit]
  by_cases hs : w.target.status = .inError
  · exact .inr ⟨_, by rw [if_pos hs]; rfl⟩
  · rw [if_neg hs]
    rcases w.fault w.tick .target .commit with _ | msg
    · exact .inl rfl
    · exact .inr ⟨msg, rfl⟩

theorem commit_of_quiet (h : w.target.status ≠ .inError) (hf : w.fault w.tick .target .commit = none) :
    commit w = (.ok (), { w with tick := w.tick + 1, target := w.target.commit }.record (.commit true)) := by
  simp [commit, h, hf]
  rfl

end Spec

/-! Statements that write nothing: the reads of the catalog and of row counts, and `input()`. -/

section Frame

/-- Two states of one connection with the same catalog, defaults and contents. -/
structure Conn.SameData (c c' : Conn V) : Prop where
  catalog : c'.catalog = c.catalog
  defaults : c'.defaults = c.defaults
  committed : c'.committed = c.committed
  pending : c'.pending = c.pending

/-- `w'` follows `w` by statements that wrote nothing and made no call on the target. -/
structure ReadOnly (w w' : World V) : Prop where
  source : Conn.SameData w.source w'.source
  target : Conn.SameData w.target w'.target
  calls : w'.calls = w.calls

theorem Conn.SameData.refl (c : Conn V) : c.SameData c := ⟨rfl, rfl, rfl, rfl⟩

theorem Conn.SameData.status (c : Conn V) (st : TxnStatus) : c.SameData { c with status := st } :=
  ⟨rfl, rfl, rfl, rfl⟩

theorem Conn.SameData.trans {c₁ c₂ c₃ : Conn V} (h₁ : c₁.SameData c₂) (h₂ : c₂.SameData c₃) :
    c₁.SameData c₃ :=
  ⟨h₂.1.trans h₁.1, h₂.2.trans h₁.2, h₂.3.trans h₁.3, h₂.4.trans h₁.4⟩

theorem ReadOnly.refl (w : World V) : ReadOnly w w := ⟨.refl _, .refl _, rfl⟩

theorem ReadOnly.trans {w₁ w₂ w₃ : World V} (h₁ : ReadOnly w₁ w₂) (h₂ : ReadOnly w₂ w₃) :
    ReadOnly w₁ w₃ :=
  ⟨h₁.1.trans h₂.1, h₁.2.trans h₂.2, h₂.3.trans h₁.3⟩

/-- A statement that writes nothing either returns what it reads, leaving its connection in
an open transaction, or raises; either way it changes no data. -/
theorem send_id_cases {α : Type} (side : Side) (s : Stmt) (read : Conn V → α) (w : World V) :
    (∃ w', send side s read id w = (.ok (read (w.conn side)), w') ∧ ReadOnly w w' ∧
      (w'.conn side).status = .inTrans ∧ w'.answers = w.answers) ∨
    ∃ msg w', send side s read id w = (.error (.database msg), w') ∧ ReadOnly w w' ∧
      w'.answers = w.answers := by
  have hst : ∀ st, ReadOnly w ({ w with tick := w.tick + 1 }.setConn side
      { w.conn side with status := st }) := fun st => by
    cases side
    · exact ⟨.status _ _, .refl _, rfl⟩
    · exact ⟨.refl _, .status _ _, rfl⟩
  by_cases hs : (w.conn side).status = .inError
  · exact .inr ⟨_, _, send_of_inError side s read id hs, ⟨.refl _, .refl _, rfl⟩, rfl⟩
  rcases hr : s.refusal (w.conn side).catalog with _ | msg
  · rcases hf : w.fault w.tick side s with _ | msg
    · exact .inl ⟨_, send_of_quiet side s read id hs hf hr, hst _, by simp, by simp⟩
    · exact .inr ⟨msg, _, send_of_fault side s read id hs hf hr, hst _, by simp⟩
  · exact .inr ⟨msg, _, send_of_refusal side s read id hs hr, hst _, by simp⟩

theorem input_cases (w : World V) :
    (∃ a w', input w = (.ok a, w') ∧ ReadOnly w w' ∧ w'.source = w.source ∧ w'.target = w.target) ∨
      (input w = (.error .eof, w)) := by
  unfold input
  rcases w.answers with _ | ⟨a, rest⟩
  · exact .inr rfl
  · exact .inl ⟨a, _, rfl, ⟨.refl _, .refl _, rfl⟩, rfl, rfl⟩

theorem ReadOnly.of_send {α : Type} {side : Side} {s : Stmt} {read : Conn V → α} {w w' : World V}
    {r : Except PyErr α} (h : send side s read id w = (r, w')) : ReadOnly w w' := by
  rcases send_id_cases side s read w with ⟨w₁, h₁, r₁, -⟩ | ⟨msg, w₁, h₁, r₁, -⟩ <;>
    rw [h₁] at h <;> cases h <;> exact r₁

theorem ReadOnly.of_input {w w' : World V} {r : Except PyErr String} (h : input w = (r, w')) :
    ReadOnly w w' := by
  rcases input_cases w with ⟨a, w₁, h₁, r₁, -⟩ | h₁ <;> rw [h₁] at h <;> cases h
  · exact r₁
  · exact .refl w

end Frame

/-- The environment makes no statement fail. -/
def Quiet (w : World V) : Prop := ∀ t side s, w.fault t side s = none

/-- The environment makes the INSERTs of `n` executions starting at `tick` succeed. -/
def InsertsQuiet (w : World V) (q : InsertQuery) (tick n : Nat) : Prop :=
  ∀ i < n, w.fault (tick + i) .target (.insert q) = none

/-- An execution of `q` with a tuple of `n` values raises nothing of itself: psycopg2 formats
the text with it, and the server of catalog `cat` finds the arbiter of its conflict target. -/
def Accepts (cat : Catalog) (q : InsertQuery) (n : Nat) : Prop :=
  mogrifyError q.text.data n = none ∧ (Stmt.insert q).refusal cat = none

instance (cat : Catalog) (q : InsertQuery) (n : Nat) : Decidable (Accepts cat q n) :=
  inferInstanceAs (Decidable (_ ∧ _))

/-- The INSERT of `migrate_table` is accepted with its `|C|`-tuples when no name in it holds a
`%` and, for an upsert on `k`, the table has a unique index over `k` alone. -/
theorem accepts_insertQuery {cat : Catalog} {ts table : String} {cols : List String}
    {pk : Option String} (hs : '%' ∉ ts.data) (ht : '%' ∉ table.data)
    (hc : ∀ c ∈ cols, '%' ∉ c.data)
    (hk : ∀ k as, conflictAction cols pk = .doUpdate k as → [k] ∈ cat.uniqueKeys ts table) :
    Accepts cat (insertQuery ts table cols pk) cols.length := by
  refine ⟨mogrifyError_insertQuery hs ht hc, ?_⟩
  show (match conflictAction cols pk with
      | .doUpdate k _ => if [k] ∈ cat.uniqueKeys ts table then none else some noArbiter
      | .doNothing => none) = none
  rcases h : conflictAction cols pk with ⟨k, as⟩ | _
  · exact if_pos (hk k as h)
  · rfl

/-- The row an INSERT makes of a tuple: the listed columns from the tuple, the others from
their defaults. -/
def newRow (q : InsertQuery) (dflt : Row V) (t : List (Option V)) : Row V :=
  fun c => ((q.columns.zip t).lookup c).getD (dflt c)

/-- `DO UPDATE SET a = EXCLUDED.b, ...` applied to an existing row. -/
def updateRow (as : List (String × String)) (excluded e : Row V) : Row V :=
  fun c => match as.lookup c with
    | some b => excluded b
    | none => e c

variable [DecidableEq V]

/-- Whether the unique index over the columns `key` holds `e` and `r` under one key: equal on
every column of it, none of them NULL. -/
def clashOn (key : List String) (e r : Row V) : Bool :=
  !key.isEmpty && key.all fun c => (r c).isSome && e c = r c

/-- One INSERT on a table whose unique indexes are over the column lists `keys`: `DO NOTHING`
skips a row that clashes on any of them with a row already there; `DO UPDATE` on `k`, whose
arbiter the server has found, updates the row of the same non-NULL `k`; otherwise the new row
is appended. -/
def insertRow (q : InsertQuery) (keys : List (List String)) (r : Row V) (rows : List (Row V)) :
    List (Row V) :=
  match q.onConflict with
  | .doNothing =>
    if rows.any (fun e => keys.any fun key => clashOn key e r) then rows else rows ++ [r]
  | .doUpdate k as =>
    if (r k).isSome ∧ rows.any (fun e => e k = r k) then
      rows.map fun e => if e k = r k then updateRow as r e else e
    else rows ++ [r]

def Conn.insert (q : InsertQuery) (t : List (Option V)) (c : Conn V) : Conn V :=
  { c with
    pending := updateTable c.pending q.schema q.table
      (insertRow q (c.catalog.uniqueKeys q.schema q.table)
        (newRow q (c.defaults q.schema q.table) t)) }

@[simp] theorem Conn.insert_pending (q : InsertQuery) (t : List (Option V)) (c : Conn V) :
    (c.insert q t).pending q.schema q.table =
      insertRow q (c.catalog.uniqueKeys q.schema q.table)
        (newRow q (c.defaults q.schema q.table) t) (c.pending q.schema q.table) := by
  simp [Conn.insert, updateTable]

/-- psycopg2's formatting of the INSERT text with the tuple `t`, on the client: it raises
before anything is sent, or changes nothing. -/
def mogrify (q : InsertQuery) (t : List (Option V)) : Py V Unit := fun w =>
  match mogrifyError q.text.data t.length with
  | some msg => (.error (.client msg), w)
  | none => (.ok (), w)

/-- One execution of `executemany`: the text formatted with the tuple, then the INSERT. -/
def execute (q : InsertQuery) (t : List (Option V)) : Py V Unit :=
  mogrify q t >>= fun _ => send .target (.insert q) (fun _ => ()) (Conn.insert q t)

/-- psycopg2's `executemany`: one execution per tuple, stopping at the first that raises. -/
def executeRows (q : InsertQuery) : List (List (Option V)) → Py V Unit
  | [] => pure ()
  | t :: ts => execute q t >>= fun _ => executeRows q ts

def executemany (q : InsertQuery) (batch : List (List (Option V))) : Py V Unit := fun w =>
  let r := executeRows q batch w
  (r.1, r.2.record (.executemany q batch r.1.toBool))

/-- The connection after the INSERTs of a batch have all run in its open transaction. -/
def Conn.insertAll (q : InsertQuery) (ts : List (List (Option V))) (c : Conn V) : Conn V :=
  ts.foldl (fun c t => Conn.insert q t { c with status := .inTrans }) c

/-- Every outcome of one execution: the row is inserted in the open transaction, when the
statement is accepted on a transaction not in error and the environment fails nothing; or it
raises with nothing but the target's transaction status and the position changed. -/
theorem execute_cases (q : InsertQuery) (t : List (Option V)) (w : World V) :
    (execute q t w = (.ok (),
        { w with tick := w.tick + 1, target := Conn.insert q t { w.target with status := .inTrans } }) ∧
      Accepts w.target.catalog q t.length) ∨
      ∃ e n st, execute q t w = (.error e,
        { w with tick := n, target := { w.target with status := st } }) := by
  rcases hm : mogrifyError q.text.data t.length with _ | msg
  swap
  · exact .inr ⟨.client msg, w.tick, w.target.status,
      by rw [execute, Py.bind_error (show mogrify q t w = (.error (.client msg), w) by simp [mogrify, hm])]⟩
  rw [execute, Py.bind_ok (show mogrify q t w = (.ok (), w) by simp [mogrify, hm])]
  by_cases hs : w.target.status = .inError
  · exact .inr ⟨_, _, w.target.status, send_of_inError (w := w) .target _ _ _ hs⟩
  rcases hr : (Stmt.insert q).refusal w.target.catalog with _ | msg
  · rcases hf : w.fault w.tick .target (.insert q) with _ | msg
    · exact .inl ⟨send_of_quiet (w := w) .target _ _ _ hs hf hr, hm, hr⟩
    · exact .inr ⟨_, _, _, send_of_fault (w := w) .target _ _ _ hs hf hr⟩
  · exact .inr ⟨_, _, _, send_of_refusal (w := w) .target _ _ _ hs hr⟩

theorem execute_of_quiet (q : InsertQuery) (t : List (Option V)) (w : World V)
    (hs : w.target.status ≠ .inError) (ha : Accepts w.target.catalog q t.length)
    (hf : w.fault w.tick .target (.insert q) = none) :
    execute q t w = (.ok (),
      { w with tick := w.tick + 1, target := Conn.insert q t { w.target with status := .inTrans } }) := by
  rw [execute, Py.bind_ok (show mogrify q t w = (.ok (), w) by simp [mogrify, ha.1])]
  exact send_of_quiet (w := w) .target _ _ _ hs hf ha.2

/-- An execution whose text formats but whose INSERT the server refuses, or the environment
fails, raises that error and leaves the transaction in error. -/
theorem execute_of_fault (q : InsertQuery) (t : List (Option V)) (w : World V) {msg : String}
    (hs : w.target.status ≠ .inError) (hm : mogrifyError q.text.data t.length = none)
    (hf : ((Stmt.insert q).refusal w.target.catalog).or (w.fault w.tick .target (.insert q)) =
      some msg) :
    execute q t w = (.error (.database msg),
      { w with tick := w.tick + 1, target := { w.target with status := .inError } }) := by
  rw [execute, Py.bind_ok (show mogrify q t w = (.ok (), w) by simp [mogrify, hm])]
  simp only [send, World.conn, if_neg hs, hf]
  rfl

/-- Every outcome of `executemany`'s executions: all ran, or one raised and left nothing but
the open transaction, its status and the position changed. -/
theorem executeRows_cases (q : InsertQuery) (ts : List (List (Option V))) (w : World V) :
    executeRows q ts w = (.ok (), { w with tick := w.tick + ts.length, target := w.target.insertAll q ts }) ∨
      ∃ e n p st, executeRows q ts w = (.error e,
        { w with tick := n, target := { w.target with pending := p, status := st } }) := by
  induction ts generalizing w with
  | nil => exact .inl rfl
  | cons t ts ih =>
    rw [executeRows]
    rcases execute_cases q t w with ⟨h, -⟩ | ⟨e, n, st, h⟩
    · rw [Py.bind_ok h]
      rcases ih { w with tick := w.tick + 1, target := Conn.insert q t { w.target with status := .inTrans } }
        with h' | ⟨e, n, p, st, h'⟩
      · refine .inl (h'.trans ?_)
        simp [Conn.insertAll, Nat.add_assoc, Nat.add_comm 1]
      · exact .inr ⟨e, n, p, st, h'⟩
    · exact .inr ⟨e, n, w.target.pending, st, by rw [Py.bind_error h]⟩

theorem executemany_cases (q : InsertQuery) (ts : List (List (Option V))) (w : World V) :
    executemany q ts w = (.ok (),
        { w with tick := w.tick + ts.length, target := w.target.insertAll q ts }.record
          (.executemany q ts true)) ∨
      ∃ e n p st, executemany q ts w = (.error e,
        { w with tick := n, target := { w.target with pending := p, status := st } }.record
          (.executemany q ts false)) := by
  rcases executeRows_cases q ts w with h | ⟨e, n, p, st, h⟩
  · exact .inl (by simp only [executemany, h]; rfl)
  · exact .inr ⟨e, n, p, st, by simp only [executemany, h]; rfl⟩

@[simp] theorem Conn.insertAll_catalog (q : InsertQuery) (ts : List (List (Option V))) (c : Conn V) :
    (c.insertAll q ts).catalog = c.catalog := by
  induction ts generalizing c <;> simp_all [Conn.insertAll, Conn.insert]

@[simp] theorem Conn.insertAll_defaults (q : InsertQuery) (ts : List (List (Option V))) (c : Conn V) :
    (c.insertAll q ts).defaults = c.defaults := by
  induction ts generalizing c <;> simp_all [Conn.insertAll, Conn.insert]

@[simp] theorem Conn.insertAll_committed (q : InsertQuery) (ts : List (List (Option V)))
    (c : Conn V) : (c.insertAll q ts).committed = c.committed := by
  induction ts generalizing c <;> simp_all [Conn.insertAll, Conn.insert]

theorem executeRows_of_quiet (q : InsertQuery) (ts : List (List (Option V))) (w : World V)
    (hs : w.target.status ≠ .inError) (ha : ∀ t ∈ ts, Accepts w.target.catalog q t.length)
    (hq : InsertsQuiet w q w.tick ts.length) :
    executeRows q ts w = (.ok (), { w with tick := w.tick + ts.length, target := w.target.insertAll q ts }) := by
  induction ts generalizing w with
  | nil => rfl
  | cons t ts ih =>
    have hf := hq 0 (by simp)
    rw [Nat.add_zero] at hf
    let w₁ := { w with tick := w.tick + 1, target := Conn.insert q t { w.target with status := .inTrans } }
    have hq₁ : InsertsQuiet w₁ q w₁.tick ts.length := fun i hi => by
      simpa [w₁, Nat.add_assoc, Nat.add_comm 1] using hq (i + 1) (by simpa using hi)
    rw [executeRows, Py.bind_ok (execute_of_quiet q t w hs (ha t (.head _)) hf),
      ih w₁ (by simp [w₁, Conn.insert]) (fun t' ht' => ha t' (.tail _ ht')) hq₁]
    simp [w₁, Conn.insertAll, Nat.add_assoc, Nat.add_comm 1]

theorem executemany_of_quiet (q : InsertQuery) (ts : List (List (Option V))) (w : World V)
    (hs : w.target.status ≠ .inError) (ha : ∀ t ∈ ts, Accepts w.target.catalog q t.length)
    (hq : InsertsQuiet w q w.tick ts.length) :
    executemany q ts w = (.ok (),
      { w with tick := w.tick + ts.length, target := w.target.insertAll q ts }.record
        (.executemany q ts true)) := by
  simp only [executemany, executeRows_of_quiet q ts w hs ha hq]
  rfl

theorem Conn.insertAll_status_ne (q : InsertQuery) (ts : List (List (Option V))) {c : Conn V}
    (h : c.status ≠ .inError) : (c.insertAll q ts).status ≠ .inError := by
  induction ts generalizing c with
  | nil => exact h
  | cons t ts ih => exact ih (by simp [Conn.insert])

end MigSdkExport.Migrate
