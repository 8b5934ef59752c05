import MigSdkExport.MigrateServer

/-! The transfer loop of `migrate_table`. `batches B xs` is the intended cut of the rows into
`⌈N/B⌉` slices of `B` consecutive rows; the loop, which collects one tuple per row and flushes
once `B` are collected, flushes exactly these slices, in order. -/
namespace MigSdkExport.Migrate

def batchSize : Nat := 1000

/-- The `k`-th batch holds rows `k*B` to `k*B + B - 1`; there are `⌈N/B⌉` of them. -/
def batches {α : Type} (B : Nat) (xs : List α) : List (List α) :=
  (List.range ((xs.length + B - 1) / B)).map fun k => (xs.drop (k * B)).take B

section Batches

variable {α : Type} {B : Nat}

@[simp] theorem batches_nil (B : Nat) : batches B ([] : List α) = [] := by
  cases B <;> simp [batches, Nat.div_eq_of_lt]

theorem length_batches (B : Nat) (xs : List α) :
    (batches B xs).length = (xs.length + B - 1) / B := by
  simp [batches]

theorem batches_of_length_le {xs : List α} (h0 : xs ≠ []) (h : xs.length ≤ B) :
    batches B xs = [xs] := by
  have hpos : 0 < xs.length := List.length_pos.2 h0
  have hk : (xs.length + B - 1) / B = 1 := by
    exact Nat.div_eq_of_lt_le (by omega) (by omega)
  simp [batches, hk, List.range_succ, List.take_of_length_le h]

theorem batches_append {xs ys : List α} (hB : 0 < B) (h : xs.length = B) :
    batches B (xs ++ ys) = xs :: batches B ys := by
  have hk : (xs.length + ys.length + B - 1) / B = (ys.length + B - 1) / B + 1 := by
    rw [h, show B + ys.length + B - 1 = ys.length + B - 1 + B * 1 by omega,
      Nat.add_mul_div_left _ _ hB]
  simp only [batches, List.length_append, hk, List.range_succ_eq_map, List.map_cons,
    List.map_map, Nat.zero_mul, List.drop_zero, List.take_append_of_le_length (le_of_eq h.symm),
    List.take_of_length_le (le_of_eq h)]
  congr 1
  refine List.map_congr_left fun k _ => ?_
  simp only [Function.comp, Nat.succ_mul, Nat.add_comm _ B]
  rw [← h, List.drop_append]

/-- Cutting the rows into batches neither loses, duplicates nor reorders any of them. -/
theorem flatten_batches (hB : 0 < B) (xs : List α) : (batches B xs).flatten = xs := by
  obtain ⟨n, hn⟩ : ∃ n, xs.length = n := ⟨_, rfl⟩
  induction n using Nat.strong_induction_on generalizing xs with
  | _ n ih =>
    by_cases hle : xs.length ≤ B
    · rcases xs with _ | ⟨x, xs⟩
      · simp
      · simp [batches_of_length_le (List.cons_ne_nil x xs) hle]
    · have ht : (xs.take B).length = B := by simp; omega
      rw [← List.take_append_drop B xs, batches_append hB ht, List.flatten_cons,
        ih _ (by simp; omega) _ rfl]

/-- No batch is empty, and every batch but the last holds exactly `B` rows. -/
theorem batches_shape (hB : 0 < B) (xs : List α) :
    (∀ b ∈ batches B xs, b ≠ []) ∧ ∀ b ∈ (batches B xs).dropLast, b.length = B := by
  obtain ⟨n, hn⟩ : ∃ n, xs.length = n := ⟨_, rfl⟩
  induction n using Nat.strong_induction_on generalizing xs with
  | _ n ih =>
    by_cases hle : xs.length ≤ B
    · rcases xs with _ | ⟨x, xs⟩
      · simp
      · simp [batches_of_length_le (List.cons_ne_nil x xs) hle]
    · have ht : (xs.take B).length = B := by simp; omega
      have hd := ih _ (by simp; omega) (xs.drop B) rfl
      have hne : batches B (xs.drop B) ≠ [] := by
        rw [← List.length_pos, length_batches]
        exact Nat.div_pos (by simp; omega) hB
      rw [← List.take_append_drop B xs, batches_append hB ht]
      refine ⟨?_, ?_⟩
      · simp only [List.mem_cons, forall_eq_or_imp]
        exact ⟨fun h0 => by simp [h0] at ht; omega, hd.1⟩
      · rw [List.dropLast_cons_of_ne_nil hne]
        simp only [List.mem_cons, forall_eq_or_imp]
        exact ⟨ht, hd.2⟩

/-- A nonempty list has a first batch, and it is nonempty. -/
theorem batches_ne_nil (hB : 0 < B) {xs : List α} (h : xs ≠ []) :
    ∃ t ts bs, batches B xs = (t :: ts) :: bs := by
  rcases hb : batches B xs with _ | ⟨b, bs⟩
  · exact absurd (by rw [← flatten_batches hB xs, hb]; rfl) h
  · obtain ⟨t, ts, rfl⟩ := List.exists_cons_of_ne_nil ((batches_shape hB xs).1 b (hb ▸ .head _))
    exact ⟨t, ts, bs, rfl⟩

theorem batches_map {β : Type} (f : α → β) (xs : List α) :
    batches B (xs.map f) = (batches B xs).map (List.map f) := by
  simp [batches, Function.comp_def]

theorem getElem_batches (xs : List α) (k : Nat) (hk : k < (batches B xs).length) :
    (batches B xs)[k] = (xs.drop (k * B)).take B := by
  simp [batches]

/-- The first `k` batches hold the first `k * B` rows. -/
theorem flatten_take_batches (hB : 0 < B) (xs : List α) (k : Nat) :
    ((batches B xs).take k).flatten = xs.take (k * B) := by
  induction k generalizing xs with
  | zero => simp
  | succ k ih =>
    by_cases hle : xs.length ≤ B
    · rcases xs with _ | ⟨x, xs⟩
      · simp
      · rw [batches_of_length_le (List.cons_ne_nil x xs) hle,
          List.take_of_length_le (hle.trans (Nat.le_mul_of_pos_left B (Nat.succ_pos k)))]
        simp
    · have ht : (xs.take B).length = B := by simp; omega
      conv_lhs => rw [← List.take_append_drop B xs]
      rw [batches_append hB ht, List.take_succ_cons, List.flatten_cons, ih, Nat.succ_mul,
        Nat.add_comm _ B, List.take_add]

theorem sum_length_batches (hB : 0 < B) (xs : List α) :
    ((batches B xs).map List.length).sum = xs.length := by
  rw [← List.length_flatten, flatten_batches hB]

/-- Before batch `k` there are exactly `k * B` rows. -/
theorem sum_length_take_batches (hB : 0 < B) (xs : List α) {k : Nat}
    (hk : k < (batches B xs).length) : (((batches B xs).take k).map List.length).sum = k * B := by
  have hle : (k + 1) * B ≤ xs.length + B - 1 := by
    rw [length_batches] at hk
    exact (Nat.le_div_iff_mul_le hB).1 hk
  rw [← List.length_flatten, flatten_take_batches hB, List.length_take, Nat.succ_mul] at *
  omega

end Batches

variable {V T R : Type}

/-- `for row in source_cur`: append the row's tuple, flush the batch once
`len(batch) >= batch_size`, and flush what remains at the end. The result is the exception
that stopped the loop, if any, the value of `rows_migrated`, and the world. -/
def batchLoop (flush : List T → Py V Unit) (B : Nat) (proj : R → T) :
    List R → List T → Nat → World V → Option PyErr × Nat × World V
  | [], batch, n, w =>
    if batch.isEmpty then (none, n, w)
    else
      match flush batch w with
      | (.ok (), w') => (none, n + batch.length, w')
      | (.error e, w') => (some e, n, w')
  | row :: rows, batch, n, w =>
    let batch := batch ++ [proj row]
    if batch.length ≥ B then
      match flush batch w with
      | (.ok (), w') => batchLoop flush B proj rows [] (n + batch.length) w'
      | (.error e, w') => (some e, n, w')
    else batchLoop flush B proj rows batch n w

/-- The batches flushed one after the other, stopping at the first that raises. -/
def flushAll (flush : List T → Py V Unit) : List (List T) → Nat → World V →
    Option PyErr × Nat × World V
  | [], n, w => (none, n, w)
  | b :: bs, n, w =>
    match flush b w with
    | (.ok (), w') => flushAll flush bs (n + b.length) w'
    | (.error e, w') => (some e, n, w')

/-- The loop flushes the batches of the tuples, in order: it is `flushAll` of `batches`. -/
theorem batchLoop_eq_flushAll (flush : List T → Py V Unit) {B : Nat} (hB : 0 < B)
    (proj : R → T) (rows : List R) (batch : List T) (hb : batch.length < B) (n : Nat)
    (w : World V) :
    batchLoop flush B proj rows batch n w = flushAll flush (batches B (batch ++ rows.map proj)) n w := by
  induction rows generalizing batch n w with
  | nil =>
    rcases batch with _ | ⟨t, ts⟩
    · simp [batchLoop, flushAll]
    · rw [List.map_nil, List.append_nil, batches_of_length_le (List.cons_ne_nil t ts) hb.le]
      simp only [batchLoop, List.isEmpty_cons, Bool.false_eq_true, if_false, flushAll]
  | cons row rows ih =>
    have happ : batch ++ (row :: rows).map proj = (batch ++ [proj row]) ++ rows.map proj := by simp
    simp only [batchLoop]
    split_ifs with hge
    · have hlen : (batch ++ [proj row]).length = B := by simp at hge ⊢; omega
      rw [happ, batches_append hB hlen, flushAll]
      rcases flush (batch ++ [proj row]) w with ⟨_ | ⟨⟩, w'⟩
      · rfl
      · exact ih [] hB _ _
    · rw [happ]
      exact ih _ (by simpa using hge) _ _

/-- The calls of batches that were written and committed. -/
def committedCalls (q : InsertQuery) (bs : List (List (List (Option V)))) : List (Call V) :=
  bs.flatMap fun b => [.executemany q b true, .commit true]

@[simp] theorem committedCalls_nil (q : InsertQuery) : committedCalls (V := V) q [] = [] := rfl

@[simp] theorem committedCalls_cons (q : InsertQuery) (b : List (List (Option V)))
    (bs : List (List (List (Option V)))) :
    committedCalls q (b :: bs) = .executemany q b true :: .commit true :: committedCalls q bs := rfl

/-- The rows of the batches whose `executemany` and the `commit` right after it both
succeeded: what a sequence of target calls committed. -/
def committedRows : List (Call V) → Nat
  | .executemany _ b true :: .commit true :: rest => b.length + committedRows rest
  | _ :: rest => committedRows rest
  | [] => 0

theorem committedRows_committedCalls_append (q : InsertQuery) (bs : List (List (List (Option V))))
    (l : List (Call V)) :
    committedRows (committedCalls q bs ++ l) = (bs.map List.length).sum + committedRows l := by
  induction bs with
  | nil => simp
  | cons b bs ih =>
    rw [committedCalls_cons, List.cons_append, List.cons_append, committedRows, ih]
    simp [Nat.add_assoc]

/-- The calls of a batch that raised, and the rollback after them, commit nothing. -/
theorem committedRows_failed_append {q : InsertQuery} {b : List (List (Option V))}
    {cs : List (Call V)}
    (hcs : cs = [.executemany q b false] ∨ cs = [.executemany q b true, .commit false])
    (l : List (Call V)) : committedRows (cs ++ .rollback :: l) = committedRows l := by
  rcases hcs with rfl | rfl <;> simp [committedRows]

/-- Every tuple of the batches of the transfer has a value for each column. -/
theorem length_of_mem_batches {B : Nat} {cols : List String} {rows : List (Row V)}
    {b : List (List (Option V))} (hb : b ∈ batches B (rows.map fun r => cols.map r)) (hB : 0 < B)
    {t : List (Option V)} (ht : t ∈ b) : t.length = cols.length := by
  have hmem : t ∈ (batches B (rows.map fun r => cols.map r)).flatten := List.mem_flatten_of_mem hb ht
  rw [flatten_batches hB] at hmem
  obtain ⟨r, -, rfl⟩ := List.mem_map.1 hmem
  exact List.length_map _ _

section Flush

variable [DecidableEq V]

/-- The body of `with target_conn.cursor() as target_cur`: `executemany`, then `commit`. -/
def flushBatch (q : InsertQuery) (batch : List (List (Option V))) : Py V Unit :=
  executemany q batch >>= fun _ => commit

/-- The target connection after the batches were written and committed one by one. -/
def Conn.flushed (q : InsertQuery) (bs : List (List (List (Option V)))) (c : Conn V) : Conn V :=
  bs.foldl (fun c b => (c.insertAll q b).commit) c

/-- What a flush can do: write and commit the batch, or raise and leave the committed
contents as they were, with the failed `executemany` or the failed `commit` recorded. -/
theorem flushBatch_cases (q : InsertQuery) (b : List (List (Option V))) (w : World V) :
    flushBatch q b w = (.ok (),
      { w with
        tick := w.tick + b.length + 1
        target := (w.target.insertAll q b).commit
        calls := w.calls ++ committedCalls q [b] }) ∨
    ∃ e n p st cs, flushBatch q b w = (.error e,
        { w with
          tick := n
          target := { w.target with pending := p, status := st }
          calls := w.calls ++ cs }) ∧
      (cs = [.executemany q b false] ∨ cs = [.executemany q b true, .commit false]) := by
  rcases executemany_cases q b w with h | ⟨e, n, p, st, h⟩
  · rw [flushBatch, Py.bind_ok h]
    rcases commit_cases ({ w with tick := w.tick + b.length, target := w.target.insertAll q b }.record
        (.executemany q b true)) with h' | ⟨msg, h'⟩
    · exact .inl (by rw [h']; simp [World.record, committedCalls])
    · refine .inr ⟨.database msg, w.tick + b.length + 1, w.target.committed, .idle,
        [.executemany q b true, .commit false], ?_, .inr rfl⟩
      rw [h']
      simp [World.record, Conn.rollback]
  · exact .inr ⟨e, _, _, _, _, by rw [flushBatch, Py.bind_error h]; rfl, .inl rfl⟩

@[simp] theorem Conn.flushed_nil (q : InsertQuery) (c : Conn V) : c.flushed q [] = c := rfl

@[simp] theorem Conn.flushed_cons (q : InsertQuery) (b : List (List (Option V)))
    (bs : List (List (List (Option V)))) (c : Conn V) :
    c.flushed q (b :: bs) = ((c.insertAll q b).commit).flushed q bs := rfl

@[simp] theorem Conn.flushed_catalog (q : InsertQuery) (bs : List (List (List (Option V))))
    (c : Conn V) : (c.flushed q bs).catalog = c.catalog := by
  induction bs generalizing c <;> simp_all [Conn.commit]

@[simp] theorem Conn.flushed_defaults (q : InsertQuery) (bs : List (List (List (Option V))))
    (c : Conn V) : (c.flushed q bs).defaults = c.defaults := by
  induction bs generalizing c <;> simp_all [Conn.commit]

/-- From a connection with nothing uncommitted, the flushes leave nothing uncommitted. -/
theorem Conn.flushed_committed (q : InsertQuery) (bs : List (List (List (Option V))))
    {c : Conn V} (h : c.pending = c.committed) :
    (c.flushed q bs).committed = (c.flushed q bs).pending := by
  induction bs generalizing c with
  | nil => exact h.symm
  | cons b bs ih => exact ih rfl

/-- A run of flushes commits every batch, or commits the first `k` and stops at batch `k`,
whose `executemany` or `commit` raised; nothing of it stays committed. -/
theorem flushAll_cases (q : InsertQuery) (bs : List (List (List (Option V)))) (n : Nat)
    (w : World V) :
    (∃ m, flushAll (flushBatch q) bs n w = (none, n + (bs.map List.length).sum,
      { w with
        tick := m
        target := w.target.flushed q bs
        calls := w.calls ++ committedCalls q bs })) ∨
    ∃ k, ∃ hk : k < bs.length, ∃ e m p st cs,
      flushAll (flushBatch q) bs n w = (some e, n + ((bs.take k).map List.length).sum,
        { w with
          tick := m
          target := { w.target.flushed q (bs.take k) with pending := p, status := st }
          calls := w.calls ++ committedCalls q (bs.take k) ++ cs }) ∧
      (cs = [.executemany q bs[k] false] ∨ cs = [.executemany q bs[k] true, .commit false]) := by
  induction bs generalizing n w with
  | nil => exact .inl ⟨w.tick, by simp [flushAll]⟩
  | cons b bs ih =>
    rcases flushBatch_cases q b w with h | ⟨e, m, p, st, cs, h, hcs⟩
    · rcases ih (n + b.length) { w with
          tick := w.tick + b.length + 1
          target := (w.target.insertAll q b).commit
          calls := w.calls ++ committedCalls q [b] } with ⟨m, h'⟩ | ⟨k, hk, e, m, p, st, cs, h', hcs⟩
      · refine .inl ⟨m, ?_⟩
        rw [flushAll, h]
        dsimp only
        rw [h']
        simp [Nat.add_assoc]
      · refine .inr ⟨k + 1, by simpa using hk, e, m, p, st, cs, ?_, by simpa using hcs⟩
        rw [flushAll, h]
        dsimp only
        rw [h']
        simp [Nat.add_assoc]
    · refine .inr ⟨0, by simp, e, m, p, st, cs, ?_, by simpa using hcs⟩
      rw [flushAll, h]
      simp

theorem flushBatch_of_quiet (q : InsertQuery) (b : List (List (Option V))) (w : World V)
    (ht : w.target.status ≠ .inError) (ha : ∀ t ∈ b, Accepts w.target.catalog q t.length)
    (hi : InsertsQuiet w q w.tick b.length) (hc : w.fault (w.tick + b.length) .target .commit = none) :
    flushBatch q b w = (.ok (),
      { w with
        tick := w.tick + b.length + 1
        target := (w.target.insertAll q b).commit
        calls := w.calls ++ committedCalls q [b] }) := by
  rw [flushBatch, Py.bind_ok (executemany_of_quiet q b w ht ha hi),
    commit_of_quiet (Conn.insertAll_status_ne q b ht) hc]
  simp [World.record]

theorem flushAll_of_quiet (q : InsertQuery) (bs : List (List (List (Option V)))) (n : Nat)
    (w : World V) (hq : Quiet w) (ht : w.target.status ≠ .inError)
    (ha : ∀ b ∈ bs, ∀ t ∈ b, Accepts w.target.catalog q t.length) :
    flushAll (flushBatch q) bs n w = (none, n + (bs.map List.length).sum,
      { w with
        tick := w.tick + (bs.map fun b => b.length + 1).sum
        target := w.target.flushed q bs
        calls := w.calls ++ committedCalls q bs }) := by
  induction bs generalizing n w with
  | nil => simp [flushAll]
  | cons b bs ih =>
    rw [flushAll, flushBatch_of_quiet q b w ht (ha b (.head _)) (fun i _ => hq _ _ _) (hq _ _ _)]
    dsimp only
    rw [ih _ { w with
        tick := w.tick + b.length + 1
        target := (w.target.insertAll q b).commit
        calls := w.calls ++ committedCalls q [b] } hq (by simp [Conn.commit])
      (by simpa [Conn.commit] using fun b' hb' => ha b' (.tail _ hb'))]
    simp [Nat.add_assoc]

/-- An INSERT of the batch that the server refuses or the environment fails leaves the
transaction in error and stops the flush before its commit. -/
theorem flushBatch_of_insert_fault (q : InsertQuery) (t : List (Option V))
    (ts : List (List (Option V))) (w : World V) (msg : String) (ht : w.target.status ≠ .inError)
    (hm : mogrifyError q.text.data t.length = none)
    (hf : ((Stmt.insert q).refusal w.target.catalog).or (w.fault w.tick .target (.insert q)) =
      some msg) :
    flushBatch q (t :: ts) w = (.error (.database msg),
      { w with
        tick := w.tick + 1
        target := { w.target with status := .inError }
        calls := w.calls ++ [.executemany q (t :: ts) false] }) := by
  have h : executeRows q (t :: ts) w = (.error (.database msg),
      { w with tick := w.tick + 1, target := { w.target with status := .inError } }) := by
    rw [executeRows, Py.bind_error (execute_of_fault q t w ht hm hf)]
  have he : executemany q (t :: ts) w = (.error (.database msg),
      { w with tick := w.tick + 1, target := { w.target with status := .inError } }.record
        (.executemany q (t :: ts) false)) := by
    simp only [executemany, h]
    rfl
  rw [flushBatch, Py.bind_error he]
  rfl

/-- A batch whose INSERT the server refuses raises at its first execution and commits
nothing. -/
theorem flushBatch_of_refusal (q : InsertQuery) (t : List (Option V))
    (ts : List (List (Option V))) (w : World V)
    (hr : (Stmt.insert q).refusal w.target.catalog ≠ none) :
    ∃ e w', flushBatch q (t :: ts) w = (.error e, w') ∧ w'.target.committed = w.target.committed := by
  rcases execute_cases q t w with ⟨-, -, hr'⟩ | ⟨e, n, st, h⟩
  · exact absurd hr' hr
  let w' := { w with tick := n, target := { w.target with status := st } }.record
    (.executemany q (t :: ts) false)
  have he : executemany q (t :: ts) w = (.error e, w') := by
    simp only [executemany, executeRows, Py.bind_error h]
    rfl
  have hf : flushBatch q (t :: ts) w = (.error e, w') := by rw [flushBatch, Py.bind_error he]
  exact ⟨e, w', hf, rfl⟩

end Flush

end MigSdkExport.Migrate
