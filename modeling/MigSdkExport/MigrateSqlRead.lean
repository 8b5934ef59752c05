import MigSdkExport.MigrateStatements

/-! How PostgreSQL reads the statement texts of `migrate_table`: a lexer for the tokens they
use (bare words, double-quoted identifiers in which `""` stands for a quote, `%s` and
punctuation) and a parser for the INSERT of either branch and for the SELECT. Keywords are
read in the upper case the code writes them in. -/
namespace MigSdkExport.Migrate

inductive Token
  | word (w : String)
  | ident (s : String)
  | param
  | sym (c : Char)
deriving DecidableEq, Repr

inductive LexState
  | start
  | word (acc : List Char)
  | ident (acc : List Char)
  | identQuote (acc : List Char)
  | percent
deriving DecidableEq, Repr

def isSpace (c : Char) : Bool := c = ' ' || c = '\n' || c = '\t' || c = '\r'

def isWordChar (c : Char) : Bool := c.isAlphanum || c = '_'

def startStep (c : Char) : Option (LexState × List Token) :=
  if isSpace c then some (.start, [])
  else if c = '"' then some (.ident [], [])
  else if c = '%' then some (.percent, [])
  else if c = '(' || c = ')' || c = ',' || c = '.' || c = '=' then some (.start, [.sym c])
  else if c.isAlpha || c = '_' then some (.word [c], [])
  else none

/-- One character of the lexer. After a quote inside an identifier a second quote is an
escaped quote; anything else ends the identifier, which may not be empty. -/
def step : LexState → Char → Option (LexState × List Token)
  | .start, c => startStep c
  | .word acc, c =>
    if isWordChar c then some (.word (acc ++ [c]), [])
    else (startStep c).map fun p => (p.1, .word ⟨acc⟩ :: p.2)
  | .ident acc, c => if c = '"' then some (.identQuote acc, []) else some (.ident (acc ++ [c]), [])
  | .identQuote acc, c =>
    if c = '"' then some (.ident (acc ++ ['"']), [])
    else if acc = [] then none
    else (startStep c).map fun p => (p.1, .ident ⟨acc⟩ :: p.2)
  | .percent, c => if c = 's' then some (.start, [.param]) else none

/-- Tokens already read, in front of what the rest of the text gives. -/
def prepend (ts : List Token) (o : Option (LexState × List Token)) :
    Option (LexState × List Token) :=
  o.map fun q => (q.1, ts ++ q.2)

def run : LexState → List Char → Option (LexState × List Token)
  | st, [] => some (st, [])
  | st, c :: cs => (step st c).bind fun p => prepend p.2 (run p.1 cs)

def finish : LexState → Option (List Token)
  | .start => some []
  | .word acc => some [.word ⟨acc⟩]
  | .identQuote acc => if acc = [] then none else some [.ident ⟨acc⟩]
  | .ident _ => none
  | .percent => none

def lex (cs : List Char) : Option (List Token) :=
  (run .start cs).bind fun p => (finish p.1).map fun ts => p.2 ++ ts

def identList : List Token → Option (List String × List Token)
  | .ident s :: .sym ',' :: rest => (identList rest).map fun p => (s :: p.1, p.2)
  | .ident s :: rest => some ([s], rest)
  | _ => none

def paramList : List Token → Option (Nat × List Token)
  | .param :: .sym ',' :: rest => (paramList rest).map fun p => (p.1 + 1, p.2)
  | .param :: rest => some (1, rest)
  | _ => none

def assignList : List Token → Option (List (String × String) × List Token)
  | .ident a :: .sym '=' :: .word "EXCLUDED" :: .sym '.' :: .ident b :: .sym ',' :: rest =>
    (assignList rest).map fun p => ((a, b) :: p.1, p.2)
  | .ident a :: .sym '=' :: .word "EXCLUDED" :: .sym '.' :: .ident b :: rest =>
    some ([(a, b)], rest)
  | _ => none

def parseConflict : List Token → Option ConflictAction
  | [.word "DO", .word "NOTHING"] => some .doNothing
  | .sym '(' :: .ident pk :: .sym ')' :: .word "DO" :: .word "UPDATE" :: .word "SET" :: rest =>
    match assignList rest with
    | some (as, []) => some (.doUpdate pk as)
    | _ => none
  | _ => none

def parseInsert : List Token → Option InsertQuery
  | .word "INSERT" :: .word "INTO" :: .ident schema :: .sym '.' :: .ident table :: .sym '(' ::
      rest =>
    match identList rest with
    | some (cols, .sym ')' :: .word "VALUES" :: .sym '(' :: rest) =>
      match paramList rest with
      | some (n, .sym ')' :: .word "ON" :: .word "CONFLICT" :: rest) =>
        (parseConflict rest).map fun a => ⟨schema, table, cols, n, a⟩
      | _ => none
    | _ => none
  | _ => none

def parseSelect : List Token → Option SelectQuery
  | .word "SELECT" :: rest =>
    match identList rest with
    | some (cols, [.word "FROM", .ident schema, .sym '.', .ident table]) =>
      some ⟨cols, schema, table⟩
    | _ => none
  | _ => none

/-- The statement PostgreSQL reads in an INSERT text, each `%s` standing for the literal
psycopg2 formats into its place. -/
def readInsert (text : String) : Option InsertQuery := (lex text.data).bind parseInsert

def readSelect (text : String) : Option SelectQuery := (lex text.data).bind parseSelect

/-- A name that the code's quoting reads back as itself: nonempty, without a double quote. -/
def GoodName (s : String) : Prop := s.data ≠ [] ∧ '"' ∉ s.data

instance (s : String) : Decidable (GoodName s) := inferInstanceAs (Decidable (_ ∧ _))

def identTokens : List String → List Token
  | [] => []
  | [a] => [.ident a]
  | a :: b :: rest => .ident a :: .sym ',' :: identTokens (b :: rest)

def paramTokens : Nat → List Token
  | 0 => []
  | 1 => [.param]
  | n + 2 => .param :: .sym ',' :: paramTokens (n + 1)

def assignTokens : List (String × String) → List Token
  | [] => []
  | [a] => [.ident a.1, .sym '=', .word "EXCLUDED", .sym '.', .ident a.2]
  | a :: b :: rest =>
    .ident a.1 :: .sym '=' :: .word "EXCLUDED" :: .sym '.' :: .ident a.2 :: .sym ',' ::
      assignTokens (b :: rest)

def ConflictAction.tokens : ConflictAction → List Token
  | .doUpdate pk as =>
    [.sym '(', .ident pk, .sym ')', .word "DO", .word "UPDATE", .word "SET"] ++ assignTokens as
  | .doNothing => [.word "DO", .word "NOTHING"]

/-- The tokens an INSERT's text is meant to consist of. -/
def InsertQuery.tokens (q : InsertQuery) : List Token :=
  [.word "INSERT", .word "INTO", .ident q.schema, .sym '.', .ident q.table, .sym '('] ++
    identTokens q.columns ++ [.sym ')', .word "VALUES", .sym '('] ++
    paramTokens q.placeholders ++ [.sym ')', .word "ON", .word "CONFLICT"] ++ q.onConflict.tokens

@[simp] theorem string_mk_data (s : String) : String.mk s.data = s := rfl

@[simp] theorem prepend_nil (o : Option (LexState × List Token)) : prepend [] o = o := by
  cases o <;> rfl

@[simp] theorem prepend_prepend (ts us : List Token) (o : Option (LexState × List Token)) :
    prepend ts (prepend us o) = prepend (ts ++ us) o := by
  cases o <;> simp [prepend]

@[simp] theorem prepend_some (ts : List Token) (q : LexState × List Token) :
    prepend ts (some q) = some (q.1, ts ++ q.2) := rfl

@[simp] theorem prepend_none (ts : List Token) : prepend ts none = none := rfl

/-! The lexer, one piece of text at a time. A piece that ends in an identifier needs the next
character to end it, so those lemmas keep the rest of the text in view. -/

theorem run_ident_append (acc cs rest : List Char) (h : '"' ∉ cs) :
    run (.ident acc) (cs ++ rest) = run (.ident (acc ++ cs)) rest := by
  induction cs generalizing acc with
  | nil => simp
  | cons c cs ih =>
    have hc : c ≠ '"' := fun hc => h (hc ▸ List.mem_cons_self _ _)
    rw [List.cons_append, run, step, if_neg hc, Option.some_bind, prepend_nil,
      ih _ (fun hm => h (List.mem_cons_of_mem _ hm))]
    simp

theorem run_append (st : LexState) (xs ys : List Char) :
    run st (xs ++ ys) = (run st xs).bind fun p => prepend p.2 (run p.1 ys) := by
  induction xs generalizing st with
  | nil => simp [run]
  | cons c cs ih =>
    rw [List.cons_append]
    simp only [run]
    cases step st c with
    | none => rfl
    | some p => cases h : run p.1 cs <;> simp [ih, h]

/-- A piece of text read from the start state back to it. -/
theorem run_start_append (xs ys : List Char) (ts : List Token)
    (h : run .start xs = some (.start, ts)) :
    run .start (xs ++ ys) = prepend ts (run .start ys) := by
  simp [run_append, h]

/-- The separator of `", ".join`. -/
theorem run_comma (cs : List Char) : run .start (", ".data ++ cs) = prepend [.sym ','] (run .start cs) :=
  run_start_append _ _ _ rfl

/-- The next character does not continue an identifier. -/
def EndsIdent (cs : List Char) : Prop := cs.head?.any (· ≠ '"') = true

theorem run_quoteName (s : String) (h : GoodName s) (cs : List Char) (hcs : EndsIdent cs) :
    run .start ((quoteName s).data ++ cs) = prepend [.ident s] (run .start cs) := by
  obtain _ | ⟨c, cs⟩ := cs
  · simp [EndsIdent] at hcs
  have hc : c ≠ '"' := by simpa [EndsIdent] using hcs
  have hq : (quoteName s).data ++ c :: cs = '"' :: (s.data ++ '"' :: c :: cs) := by
    simp [quoteName]
  rw [hq, run, show step .start '"' = some (.ident [], []) from rfl, Option.some_bind,
    prepend_nil, run_ident_append _ _ _ h.2]
  simp only [List.nil_append, run, step, if_true, Option.some_bind, if_neg hc, if_neg h.1,
    prepend_nil]
  cases startStep c <;> simp

theorem run_columnsStr (cols : List String) (h : ∀ c ∈ cols, GoodName c) (cs : List Char)
    (hcs : EndsIdent cs) :
    run .start ((columnsStr cols).data ++ cs) = prepend (identTokens cols) (run .start cs) := by
  induction cols with
  | nil => simp [columnsStr, joinWith, identTokens]
  | cons a l ih =>
    cases l with
    | nil => simpa [columnsStr, joinWith, identTokens] using run_quoteName a (h a (by simp)) cs hcs
    | cons b l =>
      have ht := ih (fun x hx => h x (List.mem_cons_of_mem _ hx))
      simp only [columnsStr, List.map_cons, joinWith, String.data_append,
        List.append_assoc] at ht ⊢
      rw [run_quoteName a (h a (by simp)) _ (by simp [EndsIdent]), run_comma, ht, prepend_prepend,
        prepend_prepend]
      rfl

theorem run_placeholdersStr (n : Nat) (cs : List Char) :
    run .start ((placeholdersStr n).data ++ cs) = prepend (paramTokens n) (run .start cs) := by
  induction n with
  | zero => simp [placeholdersStr, joinWith, paramTokens]
  | succ n ih =>
    cases n with
    | zero => exact run_start_append "%s".data cs [.param] rfl
    | succ n =>
      simp only [placeholdersStr, List.replicate_succ, joinWith, String.data_append,
        List.append_assoc] at ih ⊢
      rw [run_start_append _ _ [.param] ?_, run_comma, ih, prepend_prepend, prepend_prepend]
      all_goals rfl

theorem run_assignmentText (a : String × String) (h : GoodName a.1 ∧ GoodName a.2)
    (cs : List Char) (hcs : EndsIdent cs) :
    run .start ((assignmentText a).data ++ cs) =
      prepend [.ident a.1, .sym '=', .word "EXCLUDED", .sym '.', .ident a.2] (run .start cs) := by
  simp only [assignmentText, String.data_append, List.append_assoc]
  rw [run_quoteName a.1 h.1 _ (by simp [EndsIdent]), run_start_append _ _ [.sym '=', .word "EXCLUDED", .sym '.'] ?_,
    run_quoteName a.2 h.2 cs hcs]
  · simp
  · rfl

theorem run_assignments (as : List (String × String)) (h : ∀ a ∈ as, GoodName a.1 ∧ GoodName a.2)
    (cs : List Char) (hcs : EndsIdent cs) :
    run .start ((joinWith ", " (as.map assignmentText)).data ++ cs) =
      prepend (assignTokens as) (run .start cs) := by
  induction as with
  | nil => simp [joinWith, assignTokens]
  | cons a l ih =>
    cases l with
    | nil => simpa [joinWith, assignTokens] using run_assignmentText a (h a (by simp)) cs hcs
    | cons b l =>
      have ht := ih (fun x hx => h x (List.mem_cons_of_mem _ hx))
      simp only [List.map_cons, joinWith, String.data_append, List.append_assoc] at ht ⊢
      rw [run_assignmentText a (h a (by simp)) _ (by simp [EndsIdent]), run_comma, ht,
        prepend_prepend, prepend_prepend]
      rfl

def ConflictAction.Quotable : ConflictAction → Prop
  | .doUpdate pk as => GoodName pk ∧ ∀ a ∈ as, GoodName a.1 ∧ GoodName a.2
  | .doNothing => True

/-- Every name in the statement is one the code's quoting reads back. -/
structure InsertQuery.Quotable (q : InsertQuery) : Prop where
  schema : GoodName q.schema
  table : GoodName q.table
  columns : ∀ c ∈ q.columns, GoodName c
  onConflict : q.onConflict.Quotable

theorem run_conflictText (a : ConflictAction) (h : a.Quotable) (cs : List Char) :
    run .start (a.text.data ++ '\n' :: cs) = prepend a.tokens (run .start ('\n' :: cs)) := by
  cases a with
  | doNothing =>
    show run .start ("DO NOTHING\n".data ++ cs) = prepend _ (run .start (['\n'] ++ cs))
    rw [run_start_append "DO NOTHING\n".data cs [.word "DO", .word "NOTHING"] rfl,
      run_start_append ['\n'] cs [] rfl, prepend_nil]
    rfl
  | doUpdate pk as =>
    simp only [ConflictAction.text, String.data_append, List.append_assoc]
    rw [run_start_append _ _ [.sym '('] ?_, run_quoteName pk h.1 _ (by simp [EndsIdent]),
      run_start_append _ _ [.sym ')', .word "DO", .word "UPDATE", .word "SET"] ?_,
      run_assignments as h.2 _ (by simp [EndsIdent])]
    · simp [ConflictAction.tokens]
    all_goals rfl

theorem lex_insertText (q : InsertQuery) (h : q.Quotable) : lex q.text.data = some q.tokens := by
  simp only [InsertQuery.text, String.data_append, List.append_assoc]
  rw [lex, run_start_append _ _ [.word "INSERT", .word "INTO"] ?_,
    run_quoteName _ h.schema _ (by simp [EndsIdent]), run_start_append _ _ [.sym '.'] ?_,
    run_quoteName _ h.table _ (by simp [EndsIdent]), run_start_append _ _ [.sym '('] ?_,
    run_columnsStr _ h.columns _ (by simp [EndsIdent]),
    run_start_append _ _ [.sym ')', .word "VALUES", .sym '('] ?_, run_placeholdersStr,
    run_start_append _ _ [.sym ')', .word "ON", .word "CONFLICT"] ?_,
    run_conflictText _ h.onConflict,
    show run .start ['\n', ' ', ' ', ' ', ' ', ' ', ' ', ' ', ' '] = some (.start, []) from rfl]
  · simp [finish, InsertQuery.tokens]
  all_goals rfl

/-! The parser on the tokens of a statement. -/

theorem identList_identTokens (cols : List String) (hc : cols ≠ []) (rest : List Token)
    (hr : rest.head? ≠ some (.sym ',')) :
    identList (identTokens cols ++ rest) = some (cols, rest) := by
  induction cols with
  | nil => contradiction
  | cons a l ih =>
    cases l with
    | nil =>
      rcases rest with _ | ⟨_ | _ | _ | c, r⟩
      all_goals simp_all [identTokens, identList]
    | cons b l => simp [identTokens, identList, ih (List.cons_ne_nil b l)]

theorem paramList_paramTokens (n : Nat) (hn : 0 < n) (rest : List Token)
    (hr : rest.head? ≠ some (.sym ',')) :
    paramList (paramTokens n ++ rest) = some (n, rest) := by
  induction n with
  | zero => contradiction
  | succ n ih =>
    cases n with
    | zero =>
      rcases rest with _ | ⟨_ | _ | _ | c, r⟩
      all_goals simp_all [paramTokens, paramList]
    | succ n => simp [paramTokens, paramList, ih (Nat.succ_pos n)]

theorem assignList_assignTokens (as : List (String × String)) (ha : as ≠ []) :
    assignList (assignTokens as) = some (as, []) := by
  induction as with
  | nil => contradiction
  | cons a l ih =>
    cases l with
    | nil => rfl
    | cons b l =>
      show (assignList (assignTokens (b :: l))).map _ = _
      rw [ih (List.cons_ne_nil b l)]
      rfl

/-- The conflict clause parses back unless it is an update with nothing to set. -/
def ConflictAction.Parsable : ConflictAction → Prop
  | .doUpdate _ as => as ≠ []
  | .doNothing => True

/-- An update clause is read through its assignment list. -/
theorem parseConflict_doUpdate (pk : String) (as : List (String × String)) :
    parseConflict (ConflictAction.doUpdate pk as).tokens =
      match assignList (assignTokens as) with
      | some (as', []) => some (.doUpdate pk as')
      | _ => none := rfl

theorem parseConflict_tokens (a : ConflictAction) (h : a.Parsable) :
    parseConflict a.tokens = some a := by
  cases a with
  | doNothing => rfl
  | doUpdate pk as => rw [parseConflict_doUpdate, assignList_assignTokens as h]

theorem parseConflict_doUpdate_nil (pk : String) :
    parseConflict (ConflictAction.doUpdate pk []).tokens = none := rfl

theorem parseInsert_tokens (q : InsertQuery) (hc : q.columns ≠ []) (hn : 0 < q.placeholders) :
    parseInsert q.tokens = (parseConflict q.onConflict.tokens).map fun a => { q with onConflict := a } := by
  simp only [InsertQuery.tokens, List.append_assoc, List.cons_append, List.nil_append]
  conv_lhs => whnf
  rw [identList_identTokens _ hc _ (by simp)]
  conv_lhs => whnf
  rw [paramList_paramTokens _ hn _ (by simp)]
  rfl

/-- The INSERT text of a statement with readable names and at least one column reads back as
that statement, unless its update list is empty: then PostgreSQL rejects the text. -/
theorem readInsert_text (q : InsertQuery) (h : q.Quotable) (hc : q.columns ≠ [])
    (hn : 0 < q.placeholders) (ha : q.onConflict.Parsable) : readInsert q.text = some q := by
  simp [readInsert, lex_insertText q h, parseInsert_tokens q hc hn, parseConflict_tokens _ ha]

theorem readInsert_text_of_empty_update (q : InsertQuery) (h : q.Quotable)
    (hc : q.columns ≠ []) (hn : 0 < q.placeholders) (pk : String)
    (ha : q.onConflict = .doUpdate pk []) : readInsert q.text = none := by
  simp [readInsert, lex_insertText q h, parseInsert_tokens q hc hn, ha,
    parseConflict_doUpdate_nil]

def SelectQuery.tokens (q : SelectQuery) : List Token :=
  [.word "SELECT"] ++ identTokens q.columns ++ [.word "FROM", .ident q.schema, .sym '.', .ident q.table]

theorem run_quoteName_nil (s : String) (h : GoodName s) :
    run .start (quoteName s).data = some (.identQuote s.data, []) := by
  have hq : (quoteName s).data = '"' :: (s.data ++ ['"']) := by simp [quoteName]
  rw [hq, run, show step .start '"' = some (.ident [], []) from rfl, Option.some_bind,
    prepend_nil, run_ident_append _ _ _ h.2]
  rfl

theorem lex_selectText (q : SelectQuery) (hs : GoodName q.schema) (ht : GoodName q.table)
    (hc : ∀ c ∈ q.columns, GoodName c) : lex q.text.data = some q.tokens := by
  simp only [SelectQuery.text, String.data_append, List.append_assoc]
  rw [lex, run_start_append _ _ [.word "SELECT"] ?_, run_columnsStr _ hc _ (by simp [EndsIdent]),
    run_start_append _ _ [.word "FROM"] ?_, run_quoteName _ hs _ (by simp [EndsIdent]),
    run_start_append _ _ [.sym '.'] ?_, run_quoteName_nil _ ht]
  · simp [finish, ht.1, SelectQuery.tokens]
  all_goals rfl

theorem readSelect_text (q : SelectQuery) (hs : GoodName q.schema) (ht : GoodName q.table)
    (hc : ∀ c ∈ q.columns, GoodName c) (hne : q.columns ≠ []) : readSelect q.text = some q := by
  simp only [readSelect, lex_selectText q hs ht hc, Option.some_bind, SelectQuery.tokens,
    List.cons_append, List.nil_append]
  conv_lhs => whnf
  rw [identList_identTokens _ hne _ (by simp)]
  rfl

theorem readSelect_tokens :
    readSelect (selectQuery "arbitrage" "tokens" ["address", "symbol"]).text =
      some (selectQuery "arbitrage" "tokens" ["address", "symbol"]) :=
  readSelect_text _ (by decide) (by decide) (by decide) (by simp [selectQuery])

/-! The statements `migrate_table` builds. -/

theorem insertQuery_quotable (ts table : String) (cols : List String) (pk : Option String)
    (hs : GoodName ts) (ht : GoodName table) (hc : ∀ c ∈ cols, GoodName c) :
    (insertQuery ts table cols pk).Quotable := by
  refine ⟨hs, ht, hc, ?_⟩
  rcases pk with _ | k
  · trivial
  · simp only [insertQuery, conflictAction]
    split_ifs with hk
    · exact ⟨hc k hk.2, fun a ha => by
        obtain ⟨c, hc', rfl⟩ := List.mem_map.mp ha
        exact ⟨hc c (List.mem_of_mem_filter hc'), hc c (List.mem_of_mem_filter hc')⟩⟩
    · trivial

/-- When the key is the only common column the update list is empty and the text is
rejected. -/
theorem readInsert_insertQuery_key_only (ts table k : String) (cols : List String)
    (hs : GoodName ts) (ht : GoodName table) (hk : GoodName k) (hmem : k ∈ cols)
    (honly : ∀ c ∈ cols, c = k) : readInsert (insertQuery ts table cols (some k)).text = none := by
  have hc : ∀ c ∈ cols, GoodName c := fun c h => honly c h ▸ hk
  have hne : cols ≠ [] := List.ne_nil_of_mem hmem
  refine readInsert_text_of_empty_update _ (insertQuery_quotable ts table cols _ hs ht hc) hne
    (List.length_pos.mpr hne) k ?_
  have hk0 : k ≠ "" := fun h => hk.1 (by simp [h])
  simpa [insertQuery, conflictAction, hk0, hmem, List.filter_eq_nil_iff] using honly

theorem readInsert_insertQuery_pools_key_only :
    readInsert (insertQuery "mig_topology" "pools" ["pool_address"] (some "pool_address")).text =
      none :=
  readInsert_insertQuery_key_only _ _ _ _ (by decide) (by decide) (by decide) (by simp) (by simp)

set_option maxRecDepth 20000 in
/-- Two reconciled lists the INSERT of `migrate_table` is unreadable for: the common columns of
`tokens` reduced to its key `address` (the text ends in `DO UPDATE SET` with nothing after
it), and a column named `a"b` (its quoting closes the identifier after `a`). -/
theorem insertQuery_unreadable_key_only_or_quote :
    readInsert (insertQuery "mig_topology" "tokens" ["address"] (some "address")).text = none ∧
      readInsert (insertQuery "mig_topology" "tokens" ["a\"b"] none).text = none := by
  decide

end MigSdkExport.Migrate
