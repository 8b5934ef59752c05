import MigSdkExport.SystemInteractions

/-! `analyze_flight_recorder.py`: the newest benchmark file and the blocks of statistics the
script prints about its events, an average kept as the sum it divides; then the RPC counts of
both analyzers, which leave out every call without a `success` field. -/
namespace MigSdkExport.FlightRecorder

/-- The script's weight refresh events: those of a refresh phase, and the graph updates whose
mode is `full` in `metadata` or in `result`. -/
def isWeightRefreshEvent (e : PyVal) : Except PyExc Bool := do
  if ← phaseIsWeightRefresh e then pure true else
  andThen (phaseIs e "graph_updates") (do
    let m ← (← e.get "metadata" (.dict [])).get "mode" .none
    if m.eqStr "full" then pure true else
    (·.eqStr "full") <$> (← e.get "result" (.dict [])).get "mode" .none)

/-- What the script prints of a refresh phase: its event count, the sum of its durations, whose
average it prints, and the pools of its first event when that has a dict `result`. -/
structure RefreshLine where
  phase : PyVal
  count : Nat
  durationSum : Int
  samplePools : Option PyVal

/-- `if sample and 'result' in sample` and `isinstance(result, dict)`: the pools of a sample. -/
def samplePools (sample : Option PyVal) : Except PyExc (Option PyVal) :=
  match sample with
  | some (.dict items) =>
    match items.lookup "result" with
    | some (.dict r) => do
      let dflt ← (PyVal.dict r).get "total_pools" (.num 0)
      some <$> (PyVal.dict r).get "pools_updated" dflt
    | _ => .ok none
  | _ => .ok none

/-- The weight refresh block: durations by phase, and a sample of each phase. -/
def refreshLines (wr : List PyVal) : Except PyExc (List RefreshLine) := do
  let phases ← groupBy (·.get "phase" (.str "unknown")) (·.get "duration_ms" (.num 0)) wr
  mapEach (fun (phase, ds) => do
    let s ← pySum ds
    meanOf s ds.length
    let firsts ← keepIf (fun e => (·.keyEq phase) <$> e.get "phase" .none) wr
    pure ⟨phase, ds.length, s, ← samplePools firsts.head?⟩) phases

/-- A block `if es:` that prints the averages of two sums over `es`, each divided as soon as
it is summed. -/
def twoSums (es : List PyVal) (f g : List PyVal → Except PyExc Int) :
    Except PyExc (Option (Int × Int)) :=
  if es.isEmpty then .ok none else do
    let a ← f es
    meanOf a es.length
    let b ← g es
    meanOf b es.length
    pure (some (a, b))

/-- Everything the script prints about the events of the newest file. -/
structure RecorderReport where
  events : List PyVal
  eventTypes : List (PyVal × Nat)
  weightRefreshEvents : List PyVal
  refresh : List RefreshLine
  graphUpdates : List PyVal
  graph : List (PyVal × Nat × Int × Int)
  cacheEvents : List PyVal
  cache : Option CacheStats
  rpcCalls : List PyVal
  rpc : Option RpcStats
  discoveryCycles : List PyVal
  discovery : Option (Int × Int)
  hotPoolEvents : List PyVal
  hotPool : Option (Int × Int)
  sample : Option PyVal

/-- How the script ends when it raises nothing. -/
inductive RecorderOutcome
  /-- `sys.exit(1)`: no benchmark file. -/
  | exit1
  | report (r : RecorderReport)

/-- The blocks of the script, in order, on the events of the file. -/
def analyzeRecorderEvents (events : List PyVal) : Except PyExc RecorderReport := do
  let eventTypes ← countBy (·.get "type" (.str "unknown")) events
  let wr ← keepIf isWeightRefreshEvent events
  let refresh ← refreshLines wr
  let graphUpdates ← keepIf (phaseIs · "graph_updates") events
  let modes ← groupBy (modeOf "metadata" "result") pure graphUpdates
  let graph ← mapEach modeLine modes
  let (cacheEvents, cache) ← cacheAnalysis events
  let rpcCalls ← eventsOfType events "RpcCall"
  let rpc ← rpcBlock rpcCalls
  let cycles ← keepIf (phaseIs · "discovery_cycle") events
  let discovery ← twoSums cycles durationSum (resultSum "pools_discovered")
  let hot ← keepIf (phaseIs · "hot_pool_manager_update_weights") events
  let hotPool ← twoSums hot durationSum (resultSum "weights_count")
  let hotSample ← keepIf (phaseIs · "weight_refresh_hot") wr
  pure ⟨events, eventTypes, wr, refresh, graphUpdates, graph, cacheEvents, cache, rpcCalls, rpc,
    cycles, discovery, hot, hotPool, hotSample.head?.or wr.head?⟩

/-- The script on the files `benchmarks/flight_recorder_*.jsonl`: it reads the newest, skipping
the lines `json.loads` rejects; bytes that are not UTF-8 stop it in its read loop, outside the
`try`. -/
def analyzeFlightRecorder (benchmarks : List (String × List Line)) :
    Except PyExc RecorderOutcome :=
  match newestFirst benchmarks with
  | [] => .ok .exit1
  | (_, lines) :: _ =>
    if (readLines lines).2 then .error .unicodeDecodeError
    else .report <$> analyzeRecorderEvents (readLines lines).1

/-! The script's blocks read back from a report they returned. -/

/-- A report of the flight-recorder script is its blocks, each as computed on the events. -/
theorem analyzeRecorderEvents_parts {events : List PyVal} {r : RecorderReport}
    (h : analyzeRecorderEvents events = .ok r) :
    r.events = events ∧ countBy (·.get "type" (.str "unknown")) events = .ok r.eventTypes ∧
      keepIf isWeightRefreshEvent events = .ok r.weightRefreshEvents ∧
      refreshLines r.weightRefreshEvents = .ok r.refresh ∧
      keepIf (phaseIs · "graph_updates") events = .ok r.graphUpdates ∧
      (∃ modes, groupBy (modeOf "metadata" "result") pure r.graphUpdates = .ok modes ∧
        mapEach modeLine modes = .ok r.graph) ∧
      cacheAnalysis events = .ok (r.cacheEvents, r.cache) ∧
      eventsOfType events "RpcCall" = .ok r.rpcCalls ∧ rpcBlock r.rpcCalls = .ok r.rpc ∧
      keepIf (phaseIs · "discovery_cycle") events = .ok r.discoveryCycles ∧
      twoSums r.discoveryCycles durationSum (resultSum "pools_discovered") = .ok r.discovery ∧
      keepIf (phaseIs · "hot_pool_manager_update_weights") events = .ok r.hotPoolEvents ∧
      twoSums r.hotPoolEvents durationSum (resultSum "weights_count") = .ok r.hotPool := by
  obtain ⟨_, ht, h⟩ := Except.bind_eq_ok.1 h
  obtain ⟨_, hwr, h⟩ := Except.bind_eq_ok.1 h
  obtain ⟨_, hrf, h⟩ := Except.bind_eq_ok.1 h
  obtain ⟨_, hgu, h⟩ := Except.bind_eq_ok.1 h
  obtain ⟨modes, hm, h⟩ := Except.bind_eq_ok.1 h
  obtain ⟨_, hg, h⟩ := Except.bind_eq_ok.1 h
  obtain ⟨⟨_, _⟩, hc, h⟩ := Except.bind_eq_ok.1 h
  obtain ⟨_, hcalls, h⟩ := Except.bind_eq_ok.1 h
  obtain ⟨_, hrpc, h⟩ := Except.bind_eq_ok.1 h
  obtain ⟨_, hcy, h⟩ := Except.bind_eq_ok.1 h
  obtain ⟨_, hd, h⟩ := Except.bind_eq_ok.1 h
  obtain ⟨_, hhot, h⟩ := Except.bind_eq_ok.1 h
  obtain ⟨_, hhp, h⟩ := Except.bind_eq_ok.1 h
  obtain ⟨_, -, h⟩ := Except.bind_eq_ok.1 h
  cases h
  exact ⟨rfl, ht, hwr, hrf, hgu, ⟨modes, hm, hg⟩, hc, hcalls, hrpc, hcy, hd, hhot, hhp⟩

/-- `analyze_flight_recorder` reports on the events of the newest benchmark file, which it read
to the end. -/
theorem analyzeRecorderEvents_of_report {benchmarks : List (String × List Line)}
    {r : RecorderReport} (h : analyzeFlightRecorder benchmarks = .ok (.report r)) :
    ∃ f ∈ (newestFirst benchmarks).head?, (∀ l ∈ f.2, l.decodes = true) ∧
      analyzeRecorderEvents (f.2.filterMap Line.event) = .ok r := by
  unfold analyzeFlightRecorder at h
  split at h
  · cases h
  next name lines rest hnew =>
  split_ifs at h with hd
  obtain ⟨r', h, hr⟩ := Except.exists_of_map_eq_ok h
  cases hr
  have hdec := readLines_snd_eq_false_iff.1 (Bool.eq_false_iff.2 hd)
  rw [readLines_of_decodes hdec] at h
  exact ⟨(name, lines), by simp [hnew], hdec, h⟩

/-! ### The RPC counts of both analyzers -/

/-- How the RPC block splits its calls: no call is counted both successful and failed, the
calls counted in neither are exactly those without a `success` field, and so the counts add
up to the number of calls exactly when every call has one. -/
structure RpcPartition (s : RpcStats) : Prop where
  disjoint : ∀ e ∈ s.successful, e ∉ s.failed
  counts : s.successful.length + s.failed.length +
    (s.calls.filter fun e => !e.hasField "success").length = s.calls.length
  complete : s.successful.length + s.failed.length = s.calls.length ↔
    ∀ e ∈ s.calls, e.hasField "success"

section Rpc

variable {events calls : List PyVal}

theorem length_filter_cons_toNat {α : Type} (p : α → Bool) (x : α) (xs : List α) :
    ((x :: xs).filter p).length = (xs.filter p).length + (p x).toNat := by
  rw [List.filter_cons]
  cases p x <;> rfl

theorem length_filter_three {α : Type} (p q r : α → Bool) (xs : List α)
    (h : ∀ x ∈ xs, (p x).toNat + (q x).toNat + (r x).toNat = 1) :
    (xs.filter p).length + (xs.filter q).length + (xs.filter r).length = xs.length := by
  induction xs with
  | nil => rfl
  | cons x xs ih =>
    have hx := h x (.head _)
    have ih := ih fun y hy => h y (.tail _ hy)
    simp only [length_filter_cons_toNat, List.length_cons]
    omega

/-- A dict call is successful, failed, or without a `success` field, and only one of them. -/
theorem rpc_call_classes {e : PyVal} (h : e.IsDict) :
    ((e.field "success" (.bool false)).truthy).toNat +
      (!(e.field "success" (.bool true)).truthy).toNat + (!e.hasField "success").toNat = 1 := by
  obtain ⟨items, rfl⟩ := h
  simp only [PyVal.field, PyVal.hasField]
  cases items.lookup "success" with
  | none => rfl
  | some v =>
    show v.truthy.toNat + (!v.truthy).toNat + (!true).toNat = 1
    cases v.truthy <;> rfl

theorem eventsOfType_isDict {t : String} (h : eventsOfType events t = .ok calls) :
    ∀ e ∈ calls, e.IsDict := fun e he => by
  obtain ⟨-, b, hb⟩ := mem_of_keepIf h he
  obtain ⟨v, hv, -⟩ := Except.exists_of_map_eq_ok hb
  exact PyVal.isDict_of_get hv

/-- On dict calls the block's two lists are the two filters on `success`. -/
theorem rpcStats_of_dicts (hd : ∀ e ∈ calls, e.IsDict) {s : RpcStats}
    (h : rpcStats calls = .ok s) :
    s.calls = calls ∧
      s.successful = calls.filter (fun e => (e.field "success" (.bool false)).truthy) ∧
      s.failed = calls.filter (fun e => !(e.field "success" (.bool true)).truthy) := by
  obtain ⟨succ, hs, h⟩ := Except.bind_eq_ok.1 h
  obtain ⟨fail, hf, h⟩ := Except.bind_eq_ok.1 h
  obtain ⟨_, -, h⟩ := Except.bind_mean_eq_ok h
  cases h
  rw [keepIf_eq_filter _ _ fun e he => by rw [PyVal.get_of_isDict (hd e he)]; rfl] at hs hf
  cases hs
  cases hf
  exact ⟨rfl, rfl, rfl⟩

theorem rpcPartition_of_dicts (hd : ∀ e ∈ calls, e.IsDict) {s : RpcStats}
    (h : rpcBlock calls = .ok (some s)) : s.calls = calls ∧ RpcPartition s := by
  have hs : rpcStats calls = .ok s := by
    unfold rpcBlock at h
    split_ifs at h
    · cases h
    · obtain ⟨s', hs', hss⟩ := Except.exists_of_map_eq_ok h
      exact Option.some.inj hss ▸ hs'
  obtain ⟨hc, hsucc, hfail⟩ := rpcStats_of_dicts hd hs
  have hcount := length_filter_three _ _ _ calls fun e he => rpc_call_classes (hd e he)
  refine ⟨hc, ⟨fun e he hf => ?_, ?_, ?_⟩⟩
  · rw [hsucc, List.mem_filter] at he
    rw [hfail, List.mem_filter] at hf
    have := rpc_call_classes (hd e he.1)
    simp only [he.2, hf.2, Bool.toNat_true] at this
    omega
  · rw [hc, hsucc, hfail]
    exact hcount
  · rw [hc, hsucc, hfail, ← hcount]
    simp [List.filter_eq_nil_iff]

theorem rpcAnalysis_block {rep : RpcReport} (h : rpcAnalysis events = .ok (calls, some rep)) :
    eventsOfType events "RpcCall" = .ok calls ∧ rpcBlock calls = .ok (some rep.stats) := by
  obtain ⟨calls', hc, h⟩ := Except.bind_eq_ok.1 h
  obtain ⟨o, ho, h⟩ := Except.bind_eq_ok.1 h
  rcases o with _ | stats
  · cases h
  · obtain ⟨_, -, h⟩ := Except.bind_eq_ok.1 h
    obtain ⟨_, -, h⟩ := Except.bind_eq_ok.1 h
    cases h
    exact ⟨hc, ho⟩

end Rpc

/-- In both analyzers, on every list of events whose RPC block runs to its end, an RPC call is
counted at most once, and the calls counted in neither list are exactly those without a
`success` field: `len(successful) + len(failed)` is `len(rpc_calls)` exactly when every call
has one. Both scripts run the block on `[e for e in events if e.get('type') == 'RpcCall']`;
section 4 of the system analyzer goes on to the endpoints. -/
theorem rpc_counts_leave_out_calls_without_success :
    (∀ events calls rep, rpcAnalysis events = .ok (calls, some rep) →
      rep.stats.calls = calls ∧ RpcPartition rep.stats) ∧
    ∀ events calls s, eventsOfType events "RpcCall" = .ok calls → rpcBlock calls = .ok (some s) →
      s.calls = calls ∧ RpcPartition s := by
  refine ⟨fun events calls rep h => ?_, fun events calls s hc hb => ?_⟩
  · obtain ⟨hc, hb⟩ := rpcAnalysis_block h
    exact rpcPartition_of_dicts (eventsOfType_isDict hc) hb
  · exact rpcPartition_of_dicts (eventsOfType_isDict hc) hb

/-- A successful call, and a call whose event has no `success` field. -/
def rpcCall (success : Option Bool) : PyVal :=
  .dict ([("type", .str "RpcCall"), ("endpoint", .str "eth_call"), ("duration_ms", .num 12)] ++
    (success.map fun b => [("success", .bool b)]).getD [])

theorem rpc_counts_one_successful_call :
    (∃ calls rep, rpcAnalysis [rpcCall (some true)] = .ok (calls, some rep) ∧
      rep.stats.calls = calls ∧ RpcPartition rep.stats) ∧
    ∃ calls s, eventsOfType [rpcCall (some true)] "RpcCall" = .ok calls ∧
      rpcBlock calls = .ok (some s) ∧ s.calls = calls ∧ RpcPartition s :=
  ⟨⟨_, _, rfl, rpc_counts_leave_out_calls_without_success.1 [rpcCall (some true)] _ _ rfl⟩,
    ⟨_, _, rfl, rfl,
      rpc_counts_leave_out_calls_without_success.2 [rpcCall (some true)] _ _ rfl rfl⟩⟩

/-- A call without `success` is counted neither successful nor failed, by either script. -/
theorem rpc_call_without_success_counted_nowhere :
    (∃ r rep, analyzeSystemInteractions (oneLineFile (rpcCall none)) [] = .ok (.report r) ∧
      r.rpc = some rep ∧ rep.stats.successful.length + rep.stats.failed.length = 0 ∧
      rep.stats.calls.length = 1) ∧
    ∃ r s, analyzeFlightRecorder
        [("benchmarks/flight_recorder_20260118_014659.jsonl", [.json (rpcCall none)])] =
          .ok (.report r) ∧ r.rpc = some s ∧ s.successful.length + s.failed.length = 0 ∧
      s.calls.length = 1 :=
  ⟨⟨_, _, rfl, rfl, rfl, rfl⟩, ⟨_, _, rfl, rfl, rfl, rfl⟩⟩

end MigSdkExport.FlightRecorder
