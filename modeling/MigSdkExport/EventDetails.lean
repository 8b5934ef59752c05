import MigSdkExport.AnalyzerSafety

/-! `analyze_events.py`: the events of one recorder file, its phase events listed one by one,
and each place where a discovery cycle ends right before a graph update starts. The script
raises exactly when the file has bytes that are not UTF-8 or a line holds JSON that is not an
object, and on a file in `ts` order it prints as many such places as
`analyze_system_interactions` counts. -/
namespace MigSdkExport.FlightRecorder

/-- The file the script opens. -/
def eventsFilePath : String := "benchmarks/flight_recorder_20260118_014659.jsonl"

/-- `e.get('type') in ['PhaseStart', 'PhaseEnd']`. -/
def isPhaseEvent (e : PyVal) : Except PyExc Bool :=
  (fun t => t.eqStr "PhaseStart" || t.eqStr "PhaseEnd") <$> e.get "type" .none

/-- `if v:` in front of a `json.dumps(v)`: the value, when it is not empty. -/
def ifNonEmpty (v : PyVal) : Option PyVal := if v.truthy then some v else none

/-- What the phase listing prints of an event. -/
inductive PhaseEntry
  /-- `START: <phase>`, and the metadata. -/
  | start (phase : PyVal) (metadata : Option PyVal)
  /-- `END: <phase> (duration: <d>ms)`, and the result. -/
  | finish (phase : PyVal) (durationMs : PyVal) (result : Option PyVal)
  /-- Neither a start nor an end: only the empty line. -/
  | neither

/-- One event of the phase listing. -/
def phaseEntry (e : PyVal) : Except PyExc PhaseEntry := do
  let phaseType ← e.get "type" .none
  let phaseName ← e.get "phase" (.str "unknown")
  if phaseType.eqStr "PhaseStart" then
    let metadata ← e.get "metadata" (.dict [])
    pure (.start phaseName (ifNonEmpty metadata))
  else if phaseType.eqStr "PhaseEnd" then
    let duration ← e.get "duration_ms" (.num 0)
    let result ← e.get "result" (.dict [])
    pure (.finish phaseName duration (ifNonEmpty result))
  else pure .neither

/-- What the script prints of a discovery end followed by a graph update start. -/
structure Sequence where
  discoveryDurationMs : PyVal
  graphMetadata : PyVal

/-- `e1.get('duration_ms', 0)` and `e2.get('metadata', {})`. -/
def sequenceLine (e₁ e₂ : PyVal) : Except PyExc Sequence := do
  pure ⟨← e₁.get "duration_ms" (.num 0), ← e₂.get "metadata" (.dict [])⟩

/-- The loop `for i in range(len(events) - 1)` over neighbours. -/
def sequences : List PyVal → Except PyExc (List Sequence)
  | e₁ :: e₂ :: rest => do
    let found ← discoveryThenGraph e₁ e₂
    let here ← if found then (fun s => [s]) <$> sequenceLine e₁ e₂ else pure []
    let more ← sequences (e₂ :: rest)
    pure (here ++ more)
  | _ => .ok []

/-- What the script prints. -/
structure EventsReport where
  events : List PyVal
  phases : List PhaseEntry
  sequences : List Sequence

/-- `analyze_events.py` on the contents of its file, `none` where `open` fails. Its read loop
catches what `json.loads` raises, not what `for line in f` does. -/
def analyzeEventsScript (file : Option (List Line)) : Except PyExc EventsReport :=
  match file with
  | none => .error (.fileNotFoundError eventsFilePath)
  | some lines =>
    if (readLines lines).2 then .error .unicodeDecodeError else do
    let events := (readLines lines).1
    let phases ← keepIf isPhaseEvent events
    let entries ← mapEach phaseEntry phases
    let found ← sequences events
    pure ⟨events, entries, found⟩

section Lemmas

variable {α β : Type}

theorem forall_of_keepIf {p : α → Except PyExc Bool} {xs ys : List α}
    (h : keepIf p xs = .ok ys) : ∀ x ∈ xs, ∃ b, p x = .ok b := by
  induction xs generalizing ys with
  | nil => exact fun _ h => nomatch h
  | cons x xs ih =>
    obtain ⟨b, hb, h⟩ := Except.bind_eq_ok.1 h
    obtain ⟨zs, hzs, -⟩ := Except.bind_eq_ok.1 h
    exact List.forall_mem_cons.2 ⟨⟨b, hb⟩, ih hzs⟩

/-- The first test that raises stops `keepIf` with its exception. -/
theorem keepIf_of_error {p : α → Except PyExc Bool} {pre : List α} {x : α} {err : PyExc}
    (post : List α) (hpre : ∀ y ∈ pre, ∃ b, p y = .ok b) (hx : p x = .error err) :
    keepIf p (pre ++ x :: post) = .error err := by
  induction pre with
  | nil => simp only [List.nil_append, keepIf, hx]; rfl
  | cons y pre ih =>
    obtain ⟨b, hb⟩ := hpre y (.head _)
    rw [List.cons_append]
    simp only [keepIf, hb, ih fun z hz => hpre z (.tail _ hz), Except.ok_bind]
    rfl

theorem forall_of_mapEach {f : α → Except PyExc β} {xs : List α} {ys : List β}
    (h : mapEach f xs = .ok ys) : ∀ x ∈ xs, ∃ y, f x = .ok y := by
  induction xs generalizing ys with
  | nil => exact fun _ h => nomatch h
  | cons x xs ih =>
    obtain ⟨y, hy, h⟩ := Except.bind_eq_ok.1 h
    obtain ⟨zs, hzs, -⟩ := Except.bind_eq_ok.1 h
    exact List.forall_mem_cons.2 ⟨⟨y, hy⟩, ih hzs⟩

theorem mapEach_eq_map {f : α → Except PyExc β} {g : α → β} {xs : List α}
    (h : ∀ x ∈ xs, f x = .ok (g x)) : mapEach f xs = .ok (xs.map g) := by
  induction xs with
  | nil => rfl
  | cons x xs ih =>
    exact Except.bind_eq_ok.2 ⟨_, h x (.head _),
      Except.bind_eq_ok.2 ⟨_, ih fun y hy => h y (.tail _ hy), rfl⟩⟩

theorem mapM_asNum_eq : ∀ {vs : List PyVal} {ts : List Int}, vs.mapM PyVal.asNum = some ts →
    ts = vs.map fun v => v.asNum.getD 0
  | [], ts, h => by cases h; rfl
  | v :: vs, ts, h => by
    rw [List.mapM_cons] at h
    obtain ⟨n, hn, h⟩ := Option.bind_eq_some.1 h
    obtain ⟨ns, hns, h⟩ := Option.bind_eq_some.1 h
    cases h
    rw [List.map_cons, hn, mapM_asNum_eq hns]
    rfl

theorem andThen_eq_ok_true {a c : Except PyExc Bool} (h : andThen a c = .ok true) :
    a = .ok true ∧ c = .ok true := by
  match a, h with
  | .ok true, h => exact ⟨rfl, h⟩
  | .ok false, h => cases h
  | .error _, h => cases h

theorem isDict_of_discoveryThenGraph {e₁ e₂ : PyVal} (h : discoveryThenGraph e₁ e₂ = .ok true) :
    e₁.IsDict ∧ e₂.IsDict := by
  obtain ⟨h₁, h⟩ := andThen_eq_ok_true h
  obtain ⟨-, h⟩ := andThen_eq_ok_true h
  obtain ⟨h₂, -⟩ := andThen_eq_ok_true h
  obtain ⟨_, hg₁, -⟩ := Except.exists_of_map_eq_ok h₁
  obtain ⟨_, hg₂, -⟩ := Except.exists_of_map_eq_ok h₂
  exact ⟨PyVal.isDict_of_get hg₁, PyVal.isDict_of_get hg₂⟩

end Lemmas

/-! ### The sequences, against section 9 of `analyze_system_interactions` -/

/-- The script prints a line for each neighbouring pair that section 9 of
`analyze_system_interactions` counts on the same list, and raises where that count raises. -/
theorem sequences_length : ∀ events : List PyVal,
    List.length <$> sequences events = countPairs discoveryThenGraph events
  | [] => rfl
  | [_] => rfl
  | e₁ :: e₂ :: rest => by
    rw [sequences, countPairs, ← sequences_length (e₂ :: rest)]
    cases ht : discoveryThenGraph e₁ e₂ with
    | error err => rfl
    | ok b =>
      cases b with
      | false => cases sequences (e₂ :: rest) <;> rfl
      | true =>
        obtain ⟨⟨i₁, rfl⟩, ⟨i₂, rfl⟩⟩ := isDict_of_discoveryThenGraph ht
        cases sequences (.dict i₂ :: rest) <;> rfl

theorem sequences_ok {events : List PyVal} (h : ∀ e ∈ events, e.IsDict) :
    ∃ r, sequences events = .ok r := by
  obtain ⟨n, hn⟩ : ∃ n, countPairs discoveryThenGraph events = .ok n :=
    countPairs_ok PyVal.IsDict (fun _ _ => discoveryThenGraph_ok) h
  rw [← sequences_length] at hn
  obtain ⟨r, hr, -⟩ := Except.exists_of_map_eq_ok hn
  exact ⟨r, hr⟩

/-- The key section 9 sorts the events by: `e.get('ts', 0)`. -/
def tsKey (e : PyVal) : Int := (e.field "ts" (.num 0)).asNum.getD 0

/-- A discovery cycle that ends, then a graph update that starts. -/
def discoveryThenGraphEvents : List PyVal :=
  [.dict [("type", .str "PhaseEnd"), ("phase", .str "discovery_cycle"), ("ts", .num 1),
      ("duration_ms", .num 40)],
    .dict [("type", .str "PhaseStart"), ("phase", .str "graph_updates"), ("ts", .num 2)]]

theorem phaseEntry_ok {e : PyVal} (h : e.IsDict) : ∃ r, phaseEntry e = .ok r := by
  obtain ⟨items, rfl⟩ := h
  simp only [phaseEntry, PyVal.get_dict, Except.ok_bind]
  split_ifs <;> exact ⟨_, rfl⟩

/-- The script on a UTF-8 file reports on the values of all its lines. -/
theorem analyzeEventsScript_of_decodes {lines : List Line} (hd : ∀ l ∈ lines, l.decodes = true) :
    analyzeEventsScript (some lines) = (do
      let events := lines.filterMap Line.event
      let phases ← keepIf isPhaseEvent events
      let entries ← mapEach phaseEntry phases
      let found ← sequences events
      pure ⟨events, entries, found⟩) := by
  simp only [analyzeEventsScript, readLines_of_decodes hd, Bool.false_eq_true, if_false]

/-- In a UTF-8 file, the first line holding JSON that is not an object stops the script at the
`.get` of its phase filter, with the `AttributeError` of that value's type. -/
theorem analyzeEventsScript_error (lines : List Line) {pre post : List PyVal} {v : PyVal}
    (hd : ∀ l ∈ lines, l.decodes = true)
    (hsplit : lines.filterMap Line.event = pre ++ v :: post) (hpre : ∀ e ∈ pre, e.IsDict)
    (hv : ¬ v.IsDict) :
    analyzeEventsScript (some lines) = .error (.attributeError v.typeName "get") := by
  have hx : isPhaseEvent v = .error (.attributeError v.typeName "get") := by
    cases v <;> first | rfl | exact absurd ⟨_, rfl⟩ hv
  have hk : keepIf isPhaseEvent (pre ++ v :: post) = .error (.attributeError v.typeName "get") :=
    keepIf_of_error post (fun e he => PyVal.map_get_ok (hpre e he) _ _ _) hx
  rw [analyzeEventsScript_of_decodes hd]
  simp only [hsplit, hk]
  rfl

theorem analyzeEventsScript_error_int :
    analyzeEventsScript (some [.json (rpcCall (some true)), .blank, .json (.num 1)]) =
      .error (.attributeError "int" "get") :=
  analyzeEventsScript_error _ (v := .num 1) (by decide)
    (rfl : [Line.json (rpcCall (some true)), .blank, .json (.num 1)].filterMap Line.event =
      [rpcCall (some true)] ++ .num 1 :: [])
    (List.forall_mem_singleton.2 ⟨_, rfl⟩) (by rintro ⟨_, ⟨⟩⟩)

end MigSdkExport.FlightRecorder
