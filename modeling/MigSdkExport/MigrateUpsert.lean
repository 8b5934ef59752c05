import MigSdkExport.MigrateTable

/-! The target table under the upsert statement of `migrate_table`, seen through its primary
key `k`. `upsertView` says what `INSERT ... ON CONFLICT (k) DO UPDATE` of the source rows is
meant to make of the table; the INSERT model of `MigrateServer` refines it row by row, batch
by batch and run by run, whatever the earlier runs over the same rows committed. -/
namespace MigSdkExport.Migrate

variable {V : Type}

/-! ### The keyed view and the upsert it is meant to compute -/

/-- The primary-key constraint on `k`: no row has a NULL key and no two rows share one. -/
structure Keyed (k : String) (rows : List (Row V)) : Prop where
  isSome : ∀ e ∈ rows, (e k).isSome
  nodup : (rows.map fun e => e k).Nodup

/-- Rows with the same key are the same row. -/
def KeyUnique (k : String) (rows : List (Row V)) : Prop :=
  ∀ e ∈ rows, ∀ e' ∈ rows, e k = e' k → e = e'

/-- A source row `s` over the old row of its key: the columns of `C` from `s`, the others
kept. -/
def mergeRow (C : List String) (s old : Row V) : Row V := fun c => if c ∈ C then s c else old c

theorem Keyed.keyUnique {k : String} {rows : List (Row V)} (h : Keyed k rows) :
    KeyUnique k rows :=
  fun _ he _ he' hk => List.inj_on_of_nodup_map h.nodup he he' hk

theorem KeyUnique.mono {k : String} {P Q : List (Row V)} (h : KeyUnique k Q) (hP : P ⊆ Q) :
    KeyUnique k P :=
  fun _ he _ he' => h _ (hP he) _ (hP he')

@[simp] theorem mergeRow_mergeRow (C : List String) (s old : Row V) :
    mergeRow C s (mergeRow C s old) = mergeRow C s old := by
  funext c
  by_cases hc : c ∈ C <;> simp [mergeRow, hc]

/-! ### The rows an INSERT writes -/

section Rows

variable {C : List String} {k : String}

theorem lookup_zip_map (s : Row V) (c : String) :
    (C.zip (C.map s)).lookup c = if c ∈ C then some (s c) else none := by
  induction C with
  | nil => rfl
  | cons a C ih =>
    by_cases h : c = a
    · subst h
      simp
    · have hb : (c == a) = false := by simpa using h
      rw [List.map_cons, List.zip_cons_cons, List.lookup, hb, ih]
      simp [h]

theorem lookup_map_pair (L : List String) (c : String) :
    ((L.map fun c => (c, c)).lookup c) = if c ∈ L then some c else none := by
  induction L with
  | nil => rfl
  | cons a L ih =>
    by_cases h : c = a
    · subst h
      simp
    · have hb : (c == a) = false := by simpa using h
      simp [List.lookup, hb, h, ih]

/-- The row an INSERT makes of a source row's tuple: the reconciled columns from the row, the
others from their defaults. -/
theorem newRow_map {q : InsertQuery} (hq : q.columns = C) (d s : Row V) :
    newRow q d (C.map s) = mergeRow C s d := by
  funext c
  simp only [newRow, hq, lookup_zip_map, mergeRow]
  split_ifs <;> rfl

/-- `DO UPDATE SET c = EXCLUDED.c` for every other column of `C` merges the source row into
the row with its key. -/
theorem updateRow_assignments (hk : k ∈ C) {s e : Row V} (d : Row V) (he : e k = s k) :
    updateRow ((C.filter fun c => c ≠ k).map fun c => (c, c)) (mergeRow C s d) e =
      mergeRow C s e := by
  funext c
  simp only [updateRow, lookup_map_pair, List.mem_filter, mergeRow]
  by_cases hc : c = k
  · subst hc
    simp [hk, he]
  · by_cases hC : c ∈ C <;> simp [hc, hC]

end Rows

variable [DecidableEq V]

/-- The row of `rows` whose key column `k` holds `v`. -/
def keyView (k : String) (rows : List (Row V)) (v : V) : Option (Row V) :=
  rows.find? fun e => e k = some v

/-- The upsert of the source rows `S` into the keyed contents `T`: each key of a source row
gets that row merged into its old row, or into the defaults `dflt` for a key new to `T`;
every other key keeps its row. -/
def upsertView (C : List String) (k : String) (dflt : Row V) (T : V → Option (Row V))
    (S : List (Row V)) (v : V) : Option (Row V) :=
  match keyView k S v with
  | some s => some (mergeRow C s ((T v).getD dflt))
  | none => T v

/-- The table `rows` is keyed by `k` and holds the upsert of `P` into `T`. -/
structure UpsertOf (C : List String) (k : String) (dflt : Row V) (T : V → Option (Row V))
    (P rows : List (Row V)) : Prop where
  keyed : Keyed k rows
  view : keyView k rows = upsertView C k dflt T P

section KeyView

variable {k : String} {rows P Q : List (Row V)} {v : V} {e : Row V}

theorem keyView_some (h : keyView k rows v = some e) : e ∈ rows ∧ e k = some v := by
  unfold keyView at h
  exact ⟨List.mem_of_find?_eq_some h, by simpa using List.find?_some h⟩

theorem keyView_eq_none : keyView k rows v = none ↔ ∀ e ∈ rows, e k ≠ some v := by
  simp only [keyView, List.find?_eq_none, decide_eq_true_eq, ne_eq]

theorem keyView_eq_some (hu : KeyUnique k rows) (he : e ∈ rows) (hk : e k = some v) :
    keyView k rows v = some e := by
  cases h : keyView k rows v with
  | none => exact absurd hk (keyView_eq_none.1 h e he)
  | some e' =>
    obtain ⟨he', hk'⟩ := keyView_some h
    rw [hu _ he' _ he (hk'.trans hk.symm)]

@[simp] theorem keyView_append : keyView k (P ++ Q) v = (keyView k P v).or (keyView k Q v) :=
  List.find?_append

theorem keyView_singleton (r : Row V) :
    keyView k [r] v = if r k = some v then some r else none := by
  by_cases h : r k = some v <;> simp [keyView, List.find?, h]

/-- A map that keeps every key commutes with the view. -/
theorem keyView_map {f : Row V → Row V} (hf : ∀ e, f e k = e k) (rows : List (Row V)) :
    keyView k (rows.map f) = fun v => (keyView k rows v).map f := by
  funext v
  simp [keyView, Function.comp_def, hf]

/-- On rows without two of one key, the view depends only on which rows there are. -/
theorem keyView_congr (hu : KeyUnique k Q) (h : ∀ e, e ∈ P ↔ e ∈ Q) :
    keyView k P = keyView k Q := by
  funext v
  cases hP : keyView k P v with
  | none => exact (keyView_eq_none.2 fun e he => keyView_eq_none.1 hP e ((h e).2 he)).symm
  | some e =>
    obtain ⟨he, hk⟩ := keyView_some hP
    exact (keyView_eq_some hu ((h e).1 he) hk).symm

end KeyView

section Upsert

variable {C : List String} {k : String} {d : Row V} {T : V → Option (Row V)}
  {P Q : List (Row V)}

@[simp] theorem upsertView_nil : upsertView C k d T [] = T := rfl

theorem upsertView_singleton (s : Row V) (v : V) :
    upsertView C k d T [s] v = if s k = some v then some (mergeRow C s ((T v).getD d)) else T v := by
  by_cases h : s k = some v <;> simp [upsertView, keyView_singleton, h]

/-- Source rows with distinct keys: the upsert does not depend on their order. -/
theorem upsertView_congr (hu : KeyUnique k Q) (h : ∀ e, e ∈ P ↔ e ∈ Q) :
    upsertView C k d T P = upsertView C k d T Q := by
  funext v
  simp only [upsertView, keyView_congr hu h]

/-- Upserting `P` then `Q` is upserting `P ++ Q`, when no key has two different rows: a row
upserted twice is upserted once. -/
theorem upsertView_upsertView (hu : KeyUnique k (P ++ Q)) :
    upsertView C k d (upsertView C k d T P) Q = upsertView C k d T (P ++ Q) := by
  funext v
  unfold upsertView
  rw [keyView_append]
  cases hQ : keyView k Q v with
  | none => cases keyView k P v <;> rfl
  | some s =>
    cases hP : keyView k P v with
    | none => rfl
    | some s' =>
      have hs := keyView_some hQ
      have hs' := keyView_some hP
      obtain rfl : s' = s := hu _ (List.mem_append_left _ hs'.1) _ (List.mem_append_right _ hs.1)
        (hs'.2.trans hs.2.symm)
      simp

end Upsert

/-! ### One INSERT of the upsert statement -/

section Insert

variable {C : List String} {k : String}

variable {q : InsertQuery} (hq : q.columns = C)
  (hc : q.onConflict = .doUpdate k ((C.filter fun c => c ≠ k).map fun c => (c, c))) (hk : k ∈ C)
include hq hc hk

theorem insertRow_upsert (keys : List (List String)) (d s : Row V) (rows : List (Row V)) :
    insertRow q keys (newRow q d (C.map s)) rows =
      if (s k).isSome ∧ rows.any (fun e => e k = s k) then
        rows.map fun e => if e k = s k then mergeRow C s e else e
      else rows ++ [mergeRow C s d] := by
  have hs : mergeRow C s d k = s k := if_pos hk
  simp only [insertRow, hc, newRow_map hq, hs]
  congr 2
  funext e
  split_ifs with he
  · exact updateRow_assignments hk d he
  · rfl

/-- One INSERT of a source row with a non-NULL key into a keyed table: the row of its key is
updated or a new row appended, so the view becomes the upsert of that row and the table stays
keyed. -/
theorem upsertOf_insertRow (keys : List (List String)) (d : Row V) {rows : List (Row V)}
    (hr : Keyed k rows) {s : Row V} (hs : (s k).isSome) :
    UpsertOf C k d (keyView k rows) [s] (insertRow q keys (newRow q d (C.map s)) rows) := by
  have hm : ∀ e, mergeRow C s e k = s k := fun _ => if_pos hk
  rw [insertRow_upsert hq hc hk]
  split_ifs with hclash
  · obtain ⟨e₀, he₀, hk₀⟩ : ∃ e₀ ∈ rows, e₀ k = s k := by
      simpa only [List.any_eq_true, decide_eq_true_eq] using hclash.2
    have hf : ∀ e : Row V, (if e k = s k then mergeRow C s e else e) k = e k := fun e => by
      split_ifs with h
      · rw [hm, h]
      · rfl
    refine ⟨⟨fun e he => ?_, ?_⟩, ?_⟩
    · obtain ⟨e', he', rfl⟩ := List.mem_map.1 he
      rw [hf]
      exact hr.isSome e' he'
    · simpa only [List.map_map, Function.comp_def, hf] using hr.nodup
    · rw [keyView_map hf]
      funext v
      rw [upsertView_singleton]
      split_ifs with hv
      · rw [keyView_eq_some hr.keyUnique he₀ (hk₀.trans hv)]
        simp [hk₀]
      · cases he : keyView k rows v with
        | none => rfl
        | some e =>
          have hne : e k ≠ s k := fun h => hv ((keyView_some he).2 ▸ h).symm
          simp [hne]
  · have hnone : ∀ e ∈ rows, e k ≠ s k := by
      simpa only [hs, true_and, List.any_eq_true, decide_eq_true_eq, not_exists, not_and]
        using hclash
    refine ⟨⟨fun e he => ?_, ?_⟩, ?_⟩
    · rcases List.mem_append.1 he with he | he
      · exact hr.isSome e he
      · rw [List.mem_singleton.1 he, hm]
        exact hs
    · rw [List.map_append, List.map_singleton, hm]
      exact hr.nodup.append (List.nodup_singleton _)
        (List.disjoint_singleton.2 fun h => by
          obtain ⟨e, he, hek⟩ := List.mem_map.1 h
          exact hnone e he hek)
    · funext v
      rw [keyView_append, keyView_singleton, upsertView_singleton, hm]
      split_ifs with hv
      · rw [keyView_eq_none.2 fun e he h => hnone e he (h.trans hv.symm)]
        rfl
      · exact Option.or_none

/-- The INSERTs of a batch of source rows, run in the open transaction, upsert them one after
the other. -/
theorem UpsertOf.insertAll {d : Row V} {T : V → Option (Row V)} {P : List (Row V)} {c : Conn V}
    (hd : c.defaults q.schema q.table = d) (h : UpsertOf C k d T P (c.pending q.schema q.table))
    (Q : List (Row V)) (hs : ∀ s ∈ Q, (s k).isSome) (hu : KeyUnique k (P ++ Q)) :
    UpsertOf C k d T (P ++ Q) ((c.insertAll q (Q.map fun s => C.map s)).pending q.schema q.table) := by
  induction Q generalizing P c with
  | nil => simpa [Conn.insertAll] using h
  | cons s Q ih =>
    have hs₁ := upsertOf_insertRow hq hc hk (c.catalog.uniqueKeys q.schema q.table) d
      h.keyed (hs s (.head _))
    have h₁ : UpsertOf C k d T (P ++ [s])
        ((Conn.insert q (C.map s) { c with status := .inTrans }).pending q.schema q.table) := by
      refine ⟨by simpa [hd] using hs₁.keyed, ?_⟩
      rw [← upsertView_upsertView (hu.mono fun e he => by simp at he ⊢; tauto), ← h.view]
      simpa [hd] using hs₁.view
    simpa using ih (c := Conn.insert q (C.map s) { c with status := .inTrans }) hd h₁
      (fun s' h' => hs s' (.tail _ h')) (by simpa using hu)

/-- Batch after batch, each written and committed, the upserts add up. -/
theorem UpsertOf.flushed {d : Row V} {T : V → Option (Row V)} {P : List (Row V)} {c : Conn V}
    (hd : c.defaults q.schema q.table = d) (h : UpsertOf C k d T P (c.pending q.schema q.table))
    (Ps : List (List (Row V))) (hs : ∀ s ∈ Ps.flatten, (s k).isSome)
    (hu : KeyUnique k (P ++ Ps.flatten)) :
    UpsertOf C k d T (P ++ Ps.flatten)
      ((c.flushed q (Ps.map fun Q => Q.map fun s => C.map s)).pending q.schema q.table) := by
  induction Ps generalizing P c with
  | nil => simpa using h
  | cons Q Ps ih =>
    have h₁ := h.insertAll hq hc hk hd Q (fun s h' => hs s (List.mem_flatten_of_mem (.head _) h'))
      (hu.mono fun e he => by simp only [List.flatten_cons, List.mem_append] at he ⊢; tauto)
    have h₂ := ih (c := (c.insertAll q (Q.map fun s => C.map s)).commit)
      (by simpa [Conn.commit] using hd) h₁ (fun s h' => hs s (List.mem_append_right Q h'))
      (by rwa [List.append_assoc])
    rwa [List.append_assoc] at h₂

end Insert

/-! ### Reruns of `migrate_table` over the same source rows -/

section Reruns

variable (src : Catalog) (S : List (Row V)) (table ss ts : String)

/-- A session of the script reaching `migrate_table` of `table` against the target `c`: nothing
uncommitted on it, in whatever transaction state the statements before left it, and a source
whose catalog is `src` and whose table holds the rows `S` in some order. -/
def FreshRun (c : Conn V) (w : World V) : Prop :=
  w.source.catalog = src ∧ (w.source.pending ss table).Perm S ∧
    ∃ st, w.target = { c with pending := c.committed, status := st }

/-- One run of `migrate_table` over the source rows `S` takes the target from `c` to `c'`,
whatever the environment makes fail. -/
def Rerun (c c' : Conn V) : Prop :=
  ∃ w, FreshRun src S table ss c w ∧ (migrateTable table ss ts w).2.target = c'

variable (C : List String) (k : String) (c₀ : Conn V)

/-- What the runs so far made of the target `c₀`: the same catalog and defaults, and the table
the upsert into its contents in `c₀` of the source rows `P`, some of `S`. -/
structure Reran (P : List (Row V)) (c : Conn V) : Prop where
  catalog : c.catalog = c₀.catalog
  defaults : c.defaults = c₀.defaults
  sub : P ⊆ S
  upsert : UpsertOf C k (c₀.defaults ts table) (keyView k (c₀.committed ts table)) P
    (c.committed ts table)

variable {S table ss ts C k c₀}

/-- A rollback leaves the committed contents as they are. -/
theorem Reran.rollback {P : List (Row V)} {c : Conn V} (h : Reran S table ts C k c₀ P c) :
    Reran S table ts C k c₀ P c.rollback :=
  ⟨h.catalog, h.defaults, h.sub, h.upsert⟩

/-- A run of `migrate_table` from where earlier runs left the target upserts some more of the
source rows, and all of them when it succeeds. -/
theorem migrateTable_reran (hpk : pkColumnOf (pkQuery c₀.catalog ts table) = some k)
    (hk : k ≠ "")
    (hC : commonColumns (columnMapping table) (src.columns ss table) (c₀.catalog.columns ts table) = C)
    (hkC : k ∈ C) (hS : Keyed k S) {P : List (Row V)} {c : Conn V} {w : World V}
    (h : Reran S table ts C k c₀ P c) (hw : FreshRun src S table ss c w) :
    ∃ P', Reran S table ts C k c₀ P' (migrateTable table ss ts w).2.target ∧
      ∀ n m, (migrateTable table ss ts w).1 = .ok (.success table n m) → S ⊆ P' := by
  obtain ⟨hsrc, hperm, st, htgt⟩ := hw
  have hcat : w.target.catalog = c₀.catalog := by rw [htgt]; exact h.catalog
  rcases migrateTable_cases table ss ts w with ⟨r, w', hm, hr, hskip⟩ | ⟨w', hr, -, hm⟩
  · refine ⟨P, ?_, fun n m hs => ?_⟩
    · rw [hm]
      have hcom : w'.target.committed = c.committed := by rw [hr.target.committed, htgt]
      exact ⟨by rw [hr.target.catalog, hcat], by rw [hr.target.defaults, htgt]; exact h.defaults,
        h.sub, by rw [hcom]; exact h.upsert⟩
    · rw [hm] at hs
      obtain ⟨_, hres⟩ := hskip _ hs
      cases hres
  · simp only [hcat, hsrc, hC, hpk] at hm
    have hc : (insertQuery ts table C (some k)).onConflict =
        .doUpdate k ((C.filter fun c => c ≠ k).map fun c => (c, c)) := if_pos ⟨hk, hkC⟩
    have hpend : w'.target.pending = w'.target.committed := by
      rw [hr.target.pending, hr.target.committed, htgt]
    have hsub : w.source.pending ss table ⊆ S := hperm.subset
    have hstart : UpsertOf C k (c₀.defaults ts table) (keyView k (c₀.committed ts table)) P
        (w'.target.pending ts table) := by
      rw [hr.target.pending, htgt]
      exact h.upsert
    have hflush : ∀ Ps : List (List (Row V)), Ps.flatten ⊆ S →
        Reran S table ts C k c₀ (P ++ Ps.flatten) (w'.target.flushed (insertQuery ts table C (some k))
          (Ps.map fun Q => Q.map fun s => C.map s)) := fun Ps hPs =>
      ⟨by simp [hr.target.catalog, hcat], by simp [hr.target.defaults, htgt, h.defaults],
        List.append_subset.2 ⟨h.sub, hPs⟩, by
          rw [Conn.flushed_committed _ _ hpend]
          exact hstart.flushed rfl hc hkC (by rw [hr.target.defaults, htgt, h.defaults]; rfl) Ps
            (fun s hs => hS.isSome s (hPs hs))
            (hS.keyUnique.mono (List.append_subset.2 ⟨h.sub, hPs⟩))⟩
    rw [hm]
    rcases transfer_cases table C (insertQuery ts table C (some k)) (selectQuery ss table C)
        (B := batchSize) (by decide) w' with ⟨mt, ht⟩ | ⟨kk, msg, mt, st, cs, ht, -⟩
    · refine ⟨P ++ w.source.pending ss table, ?_, fun _ _ _ e he =>
        List.mem_append_right _ (hperm.symm.subset he)⟩
      have hP := hflush (batches batchSize (w.source.pending ss table))
        (by rw [flatten_batches (by decide)]; exact hsub)
      rw [flatten_batches (by decide)] at hP
      rw [ht]
      simpa [selectQuery, hr.source.pending, batches_map] using hP
    · refine ⟨P ++ (w.source.pending ss table).take (kk * batchSize), ?_, fun _ _ h => by rw [ht] at h; cases h⟩
      have hP := hflush ((batches batchSize (w.source.pending ss table)).take kk)
        (by rw [flatten_take_batches (by decide)]; exact (List.take_subset _ _).trans hsub)
      rw [flatten_take_batches (by decide)] at hP
      rw [ht]
      simpa [selectQuery, hr.source.pending, batches_map, List.map_take] using hP.rollback

/-- Whatever the earlier runs over the same source rows did, from a keyed target they leave
the table the upsert of some of those rows. -/
theorem reran_of_reruns (hpk : pkColumnOf (pkQuery c₀.catalog ts table) = some k)
    (hk : k ≠ "")
    (hC : commonColumns (columnMapping table) (src.columns ss table) (c₀.catalog.columns ts table) = C)
    (hkC : k ∈ C) (hS : Keyed k S) (hT : Keyed k (c₀.committed ts table)) {c : Conn V}
    (hruns : Relation.ReflTransGen (Rerun src S table ss ts) c₀ c) :
    ∃ P, Reran S table ts C k c₀ P c := by
  induction hruns with
  | refl => exact ⟨[], rfl, rfl, List.nil_subset _, hT, rfl⟩
  | tail _ hstep ih =>
    obtain ⟨P, hP⟩ := ih
    obtain ⟨w, hw, rfl⟩ := hstep
    obtain ⟨P', hP', -⟩ := migrateTable_reran src hpk hk hC hkC hS hP hw
    exact ⟨P', hP'⟩

/-- After any number of earlier runs over the same source rows, each stopped anywhere, a run
that succeeds leaves the table keyed by `k` and equal to the upsert of all of `S` into its
first contents, whatever order the cursor yields the rows in. -/
theorem upsert_of_success_after_reruns (hpk : pkColumnOf (pkQuery c₀.catalog ts table) = some k)
    (hk : k ≠ "")
    (hC : commonColumns (columnMapping table) (src.columns ss table) (c₀.catalog.columns ts table) = C)
    (hkC : k ∈ C) (hS : Keyed k S) (hT : Keyed k (c₀.committed ts table)) {c : Conn V}
    (hruns : Relation.ReflTransGen (Rerun src S table ss ts) c₀ c) {w : World V}
    (hw : FreshRun src S table ss c w) {n m : Nat}
    (hsucc : (migrateTable table ss ts w).1 = .ok (.success table n m)) :
    UpsertOf C k (c₀.defaults ts table) (keyView k (c₀.committed ts table)) S
      ((migrateTable table ss ts w).2.target.committed ts table) := by
  obtain ⟨P, hP⟩ := reran_of_reruns src hpk hk hC hkC hS hT hruns
  obtain ⟨P', hP', hall⟩ := migrateTable_reran src hpk hk hC hkC hS hP hw
  have hS' := hall n m hsucc
  exact ⟨hP'.upsert.keyed, hP'.upsert.view.trans
    (upsertView_congr hS.keyUnique fun e => ⟨fun he => hP'.sub he, fun he => hS' he⟩)⟩

end Reruns

/-- A token row: its `address` and its `symbol`. -/
def tokenRow (address symbol : Nat) : Row Nat := fun c =>
  if c = "address" then some address else if c = "symbol" then some symbol else none

/-- One table `tokens (address PRIMARY KEY, symbol)` in `schema`. -/
def tokenCatalog (schema : String) : Catalog where
  columns s t := if s = schema ∧ t = "tokens" then ["address", "symbol"] else []
  tables s t := s = schema ∧ t = "tokens"
  tableConstraints := [⟨schema, "tokens_pkey", schema, "tokens", "PRIMARY KEY"⟩]
  constraintColumnUsage := [⟨schema, "tokens", "address", schema, "tokens_pkey"⟩]
  uniqueKeys s t := if s = schema ∧ t = "tokens" then [["address"]] else []

def tokenTarget : Conn Nat :=
  ⟨tokenCatalog "mig_topology", fun _ _ _ => none, fun _ _ => [], fun _ _ => [], .idle⟩

/-- Two tokens in the source, the empty target, and nothing failing. -/
def tokenRun : World Nat where
  source := ⟨tokenCatalog "arbitrage", fun _ _ _ => none, fun _ _ => [tokenRow 1 7, tokenRow 2 8],
    fun _ _ => [tokenRow 1 7, tokenRow 2 8], .idle⟩
  target := tokenTarget
  reachable _ := true
  tick := 0
  fault _ _ _ := none
  answers := []
  calls := []
  now := ""

theorem upsert_of_success_two_tokens :
    (migrateTable "tokens" "arbitrage" "mig_topology" tokenRun).1 = .ok (.success "tokens" 2 2) ∧
      UpsertOf ["address", "symbol"] "address" (tokenTarget.defaults "mig_topology" "tokens")
        (keyView "address" (tokenTarget.committed "mig_topology" "tokens"))
        [tokenRow 1 7, tokenRow 2 8]
        ((migrateTable "tokens" "arbitrage" "mig_topology" tokenRun).2.target.committed
          "mig_topology" "tokens") := by
  have hsucc : (migrateTable "tokens" "arbitrage" "mig_topology" tokenRun).1 =
      .ok (.success "tokens" 2 2) := by
    rw [migrateTable_of_quiet_reads _ _ _ _ ?_ ?_ ?_ ?_ ?_ ?_,
      transfer_eq_of_quiet _ _ _ _ (by decide) _ (fun _ _ _ => rfl) ?_ ?_ ?_]
    · rfl
    all_goals first
      | exact ⟨rfl, rfl, rfl, rfl, rfl⟩
      | exact (show TxnStatus.inTrans ≠ .inError by decide)
      | exact List.cons_ne_nil _ _
      | rfl
      | decide
  exact ⟨hsucc, upsert_of_success_after_reruns (tokenCatalog "arbitrage") (by decide) (by decide)
    (by decide) (by decide) ⟨by simp [tokenRow], by simp [tokenRow]⟩
    ⟨by simp [tokenTarget], by simp [tokenTarget]⟩ .refl ⟨rfl, .refl _, _, rfl⟩ hsucc⟩

end MigSdkExport.Migrate
