import MigSdkExport.MigrateColumns

/-! The statements `migrate_table` builds: their shape, which the database runs, the text the
f-strings of the source give them, and what psycopg2 makes of that text when it formats it with
a tuple of values. -/
namespace MigSdkExport.Migrate

/-- `f'"{c}"'`: the name between double quotes, with no escaping of a quote inside it. -/
def quoteName (c : String) : String := "\"" ++ c ++ "\""

/-- Python's `sep.join(xs)`. -/
def joinWith (sep : String) : List String → String
  | [] => ""
  | [a] => a
  | a :: b :: rest => a ++ sep ++ joinWith sep (b :: rest)

/-- What follows `ON CONFLICT`: an update of the listed columns from `EXCLUDED` on a clash of
the key column, or nothing. An assignment `(a, b)` is `"a" = EXCLUDED."b"`. -/
inductive ConflictAction
  | doUpdate (pkColumn : String) (assignments : List (String × String))
  | doNothing
deriving DecidableEq, Repr

structure InsertQuery where
  schema : String
  table : String
  columns : List String
  placeholders : Nat
  onConflict : ConflictAction
deriving DecidableEq, Repr

structure SelectQuery where
  columns : List String
  schema : String
  table : String
deriving DecidableEq, Repr

/-- The strategy choice `if pk_column and pk_column in common_columns`, where an empty name
is falsy, and the `update_clause` over the common columns other than the key. -/
def conflictAction (commonColumns : List String) : Option String → ConflictAction
  | some pk =>
    if pk ≠ "" ∧ pk ∈ commonColumns then
      .doUpdate pk ((commonColumns.filter fun c => c ≠ pk).map fun c => (c, c))
    else .doNothing
  | none => .doNothing

def insertQuery (targetSchema table : String) (commonColumns : List String)
    (pkColumn : Option String) : InsertQuery :=
  ⟨targetSchema, table, commonColumns, commonColumns.length,
    conflictAction commonColumns pkColumn⟩

def selectQuery (sourceSchema table : String) (commonColumns : List String) : SelectQuery :=
  ⟨commonColumns, sourceSchema, table⟩

/-- `migrate_table` upserts on `k` only when `k` is a nonempty name among the common columns,
and its `SET` list then assigns every other common column from `EXCLUDED`. -/
theorem conflictAction_doUpdate {cols : List String} {pk : Option String} {k : String}
    {as : List (String × String)} (h : conflictAction cols pk = .doUpdate k as) :
    pk = some k ∧ k ≠ "" ∧ k ∈ cols ∧ as = (cols.filter fun c => c ≠ k).map fun c => (c, c) := by
  rcases pk with _ | pk
  · cases h
  · simp only [conflictAction] at h
    split_ifs at h with hk
    cases h
    exact ⟨rfl, hk.1, hk.2, rfl⟩

def columnsStr (cols : List String) : String := joinWith ", " (cols.map quoteName)

def placeholdersStr (n : Nat) : String := joinWith ", " (List.replicate n "%s")

def assignmentText (a : String × String) : String :=
  quoteName a.1 ++ " = EXCLUDED." ++ quoteName a.2

def ConflictAction.text : ConflictAction → String
  | .doUpdate pk as => "(" ++ quoteName pk ++ ") DO UPDATE SET " ++ joinWith ", " (as.map assignmentText)
  | .doNothing => "DO NOTHING"

/-- The triple-quoted `insert_query` of either branch, newlines and indentation included. -/
def InsertQuery.text (q : InsertQuery) : String :=
  "\n            INSERT INTO " ++ quoteName q.schema ++ "." ++ quoteName q.table ++ " (" ++
    columnsStr q.columns ++ ")\n            VALUES (" ++ placeholdersStr q.placeholders ++
    ")\n            ON CONFLICT " ++ q.onConflict.text ++ "\n        "

def SelectQuery.text (q : SelectQuery) : String :=
  "SELECT " ++ columnsStr q.columns ++ " FROM " ++ quoteName q.schema ++ "." ++ quoteName q.table

/-! psycopg2 formats the text with each tuple, on the client, before it sends anything. Its
`_mogrify` takes a value of the tuple for every `%` of the text that is not half of a `%%`, the
`%` inside a quoted name included, and asks the tuple for the key of a `%(`; the `%`
formatting of the text that follows accepts `%s` only and needs every value taken. -/

/-- The directive at the `i`-th value of a tuple of `n`: that value, or the `IndexError` of
`PySequence_GetItem`. -/
def takeValue (n i : Nat) : Except String Nat :=
  if i < n then .ok (i + 1) else .error "tuple index out of range"

/-- What a `%(` followed by `rest` raises on a tuple: the formats are mixed once a directive
took a value; otherwise the tuple refuses the name as a key, or the name has no `)` before the
next `%`. -/
def keyDirectiveError (i : Nat) (rest : List Char) : String :=
  if 0 < i then "argument formats can't be mixed"
  else if (rest.dropWhile fun c => c ≠ ')' ∧ c ≠ '%').head? = some ')' then
    "tuple indices must be integers or slices, not str"
  else "incomplete placeholder: '%(' without ')'"

/-- `_mogrify` over the rest of the text from the `i`-th value on: the number of values the
directives take, or the message of what it raises. -/
def mogrifyTake (n : Nat) : List Char → Nat → Except String Nat
  | [], i => .ok i
  | [c], i => if c = '%' then takeValue n i else .ok i
  | c :: d :: ds, i =>
    if c = '%' then
      if d = '%' then mogrifyTake n ds i
      else if d = '(' then .error (keyDirectiveError i ds)
      else (takeValue n i).bind (mogrifyTake n ds)
    else mogrifyTake n (d :: ds) i

/-- The character after each `%` of a text that is not half of a `%%`, in order; `none` for a
`%` that ends the text. -/
def directives : List Char → List (Option Char)
  | [] => []
  | [c] => if c = '%' then [none] else []
  | c :: d :: ds =>
    if c = '%' then (if d = '%' then directives ds else some d :: directives ds)
    else directives (d :: ds)

/-- The `%` formatting once `_mogrify` took `m` of the tuple's `n` values: a directive other
than `%s` raises `ValueError` (given here without the character's code and position), and
values left over raise the `TypeError` that psycopg2 raises again as a `ProgrammingError`. -/
def formatError (ds : List (Option Char)) (m n : Nat) : Option String :=
  match ds.find? fun d => d ≠ some 's' with
  | some none => some "incomplete format"
  | some (some c) => some ("unsupported format character '" ++ c.toString ++ "'")
  | none => if m < n then some "not all arguments converted during string formatting" else none

/-- What psycopg2 raises when it formats the text `cs` with a tuple of `n` values, if
anything. -/
def mogrifyError (cs : List Char) (n : Nat) : Option String :=
  match mogrifyTake n cs 0 with
  | .error msg => some msg
  | .ok m => formatError (directives cs) m n

section Mogrify

variable {n i : Nat} {cs ys : List Char}

theorem mogrifyTake_cons_of_ne {c : Char} (hc : c ≠ '%') (cs : List Char) :
    mogrifyTake n (c :: cs) i = mogrifyTake n cs i := by
  cases cs <;> simp [mogrifyTake, hc]

theorem directives_cons_of_ne {c : Char} (hc : c ≠ '%') (cs : List Char) :
    directives (c :: cs) = directives cs := by
  cases cs <;> simp [directives, hc]

/-- Text without a `%` takes no value and holds no directive. -/
theorem mogrifyTake_append_of_not_mem (h : '%' ∉ cs) :
    mogrifyTake n (cs ++ ys) i = mogrifyTake n ys i := by
  induction cs with
  | nil => rfl
  | cons c cs ih =>
    rw [List.cons_append, mogrifyTake_cons_of_ne (fun hc => h (hc ▸ .head _)),
      ih fun hm => h (.tail _ hm)]

theorem directives_append_of_not_mem (h : '%' ∉ cs) : directives (cs ++ ys) = directives ys := by
  induction cs with
  | nil => rfl
  | cons c cs ih =>
    rw [List.cons_append, directives_cons_of_ne (fun hc => h (hc ▸ .head _)),
      ih fun hm => h (.tail _ hm)]

/-- The placeholders take one value each. -/
theorem mogrifyTake_placeholdersStr (k : Nat) (hk : i + k ≤ n) :
    mogrifyTake n ((placeholdersStr k).data ++ ys) i = mogrifyTake n ys (i + k) := by
  induction k generalizing i with
  | zero => rfl
  | succ k ih =>
    have ht : takeValue n i = .ok (i + 1) := if_pos (by omega)
    cases k with
    | zero => simp [placeholdersStr, joinWith, mogrifyTake, ht, Except.bind]
    | succ k =>
      simp only [placeholdersStr, List.replicate_succ, joinWith, String.data_append,
        List.append_assoc] at ih ⊢
      show mogrifyTake n ('%' :: 's' :: ([',', ' '] ++ _)) i = _
      rw [mogrifyTake, if_pos rfl, if_neg (by decide), if_neg (by decide), ht, Except.bind,
        mogrifyTake_append_of_not_mem (by decide), ih (by omega)]
      congr 1
      omega

theorem directives_placeholdersStr (k : Nat) :
    directives ((placeholdersStr k).data ++ ys) = List.replicate k (some 's') ++ directives ys := by
  induction k with
  | zero => rfl
  | succ k ih =>
    cases k with
    | zero => simp [placeholdersStr, joinWith, directives]
    | succ k =>
      simp only [placeholdersStr, List.replicate_succ, joinWith, String.data_append,
        List.append_assoc] at ih ⊢
      show directives ('%' :: 's' :: ([',', ' '] ++ _)) = _
      rw [directives, if_pos rfl, if_neg (by decide), directives_append_of_not_mem (by decide), ih]
      rfl

theorem not_mem_joinWith {c : Char} {sep : String} (hsep : c ∉ sep.data) :
    ∀ {xs : List String}, (∀ x ∈ xs, c ∉ x.data) → c ∉ (joinWith sep xs).data
  | [], _ => nofun
  | [a], h => h a (.head _)
  | a :: b :: rest, h => by
    simp only [joinWith, String.data_append, List.mem_append, not_or]
    exact ⟨⟨h a (.head _), hsep⟩, not_mem_joinWith hsep fun x hx => h x (.tail _ hx)⟩

theorem not_mem_quoteName {c : Char} (hc : c ≠ '"') {s : String} (h : c ∉ s.data) :
    c ∉ (quoteName s).data := by
  simp [quoteName, hc, h]

end Mogrify

/-- psycopg2 formats the INSERT text of `migrate_table` with a tuple of as many values as it
has placeholders, when no name in it holds a `%`. -/
theorem mogrifyError_insertText (q : InsertQuery) (hs : '%' ∉ q.schema.data)
    (ht : '%' ∉ q.table.data) (hc : ∀ c ∈ q.columns, '%' ∉ c.data)
    (hk : ∀ k as, q.onConflict = .doUpdate k as → '%' ∉ k.data ∧ ∀ a ∈ as, '%' ∉ a.1.data ∧ '%' ∉ a.2.data) :
    mogrifyError q.text.data q.placeholders = none := by
  have hq : ∀ {s : String}, '%' ∉ s.data → '%' ∉ (quoteName s).data := not_mem_quoteName (by decide)
  have hhead : '%' ∉ ("\n            INSERT INTO " ++ quoteName q.schema ++ "." ++ quoteName q.table ++
      " (" ++ columnsStr q.columns ++ ")\n            VALUES (").data := by
    simp only [String.data_append, List.mem_append, not_or]
    exact ⟨⟨⟨⟨⟨⟨by decide, hq hs⟩, by decide⟩, hq ht⟩, by decide⟩,
      not_mem_joinWith (by decide) (by simpa using fun c h => hq (hc c h))⟩, by decide⟩
  have htail : '%' ∉ (")\n            ON CONFLICT " ++ q.onConflict.text ++ "\n        ").data := by
    simp only [String.data_append, List.mem_append, not_or]
    refine ⟨⟨by decide, ?_⟩, by decide⟩
    rcases hq' : q.onConflict with _ | _
    · obtain ⟨hk', has⟩ := hk _ _ hq'
      simp only [ConflictAction.text, String.data_append, List.mem_append, not_or]
      refine ⟨⟨⟨by decide, hq hk'⟩, by decide⟩, not_mem_joinWith (by decide) ?_⟩
      simp only [List.mem_map, forall_exists_index, and_imp, forall_apply_eq_imp_iff₂]
      intro a ha
      simp only [assignmentText, String.data_append, List.mem_append, not_or]
      exact ⟨⟨hq (has a ha).1, by decide⟩, hq (has a ha).2⟩
    · decide
  have htext : q.text.data = ("\n            INSERT INTO " ++ quoteName q.schema ++ "." ++
      quoteName q.table ++ " (" ++ columnsStr q.columns ++ ")\n            VALUES (").data ++
      ((placeholdersStr q.placeholders).data ++
        (")\n            ON CONFLICT " ++ q.onConflict.text ++ "\n        ").data) := by
    simp only [InsertQuery.text, String.data_append, List.append_assoc]
  rw [mogrifyError, htext, mogrifyTake_append_of_not_mem hhead,
    mogrifyTake_placeholdersStr _ (by omega), Nat.zero_add, ← List.append_nil (String.data _),
    mogrifyTake_append_of_not_mem htail, directives_append_of_not_mem hhead,
    directives_placeholdersStr, directives_append_of_not_mem htail]
  simp [mogrifyTake, formatError, directives, List.find?_replicate]

/-- The INSERT of `migrate_table` formats with its `|C|`-tuples when no name in it holds a
`%`. -/
theorem mogrifyError_insertQuery {ts table : String} {cols : List String} {pk : Option String}
    (hs : '%' ∉ ts.data) (ht : '%' ∉ table.data) (hc : ∀ c ∈ cols, '%' ∉ c.data) :
    mogrifyError (insertQuery ts table cols pk).text.data cols.length = none := by
  refine mogrifyError_insertText _ hs ht hc fun k as h => ?_
  obtain ⟨-, -, hkc, rfl⟩ := conflictAction_doUpdate h
  refine ⟨hc k hkc, fun a ha => ?_⟩
  obtain ⟨c, hc', rfl⟩ := List.mem_map.1 ha
  exact ⟨hc c (List.mem_of_mem_filter hc'), hc c (List.mem_of_mem_filter hc')⟩

/-- A `%` in a column name takes a value of the tuple, and the last `%s` finds none left. -/
example : mogrifyError (insertQuery "mig_topology" "pools" ["fee%"] none).text.data 1 =
    some "tuple index out of range" := by decide

end MigSdkExport.Migrate
