import MigSdkExport.RecorderValues

/-! `analyze_system_interactions.py`: the events of every flight-recorder file, and the ten
sections of statistics the script prints about them. Each section is computed as the script
computes it and raises where the script raises; what it prints is kept as numbers, not as
text, an average as the sum and the count it divides (`meanOf` raises where the division
does). The percentages divide a count by a larger one and raise nothing; they are left out.
The pieces `analyze_flight_recorder.py` shares come first. -/
namespace MigSdkExport.FlightRecorder

/-! ### Pieces the two analyzers share -/

/-- `e.get('type') == t`. -/
def hasType (e : PyVal) (t : String) : Except PyExc Bool := (·.eqStr t) <$> e.get "type" .none

/-- `e.get('phase') == p`. -/
def phaseIs (e : PyVal) (p : String) : Except PyExc Bool := (·.eqStr p) <$> e.get "phase" .none

/-- `e.get('phase') in ['weight_refresh_hot', 'weight_refresh_warm']`. -/
def phaseIsWeightRefresh (e : PyVal) : Except PyExc Bool :=
  (fun v => v.eqStr "weight_refresh_hot" || v.eqStr "weight_refresh_warm") <$> e.get "phase" .none

/-- `[e for e in events if e.get('type') == t]`. -/
def eventsOfType (events : List PyVal) (t : String) : Except PyExc (List PyVal) :=
  keepIf (hasType · t) events

/-- A `defaultdict(int)` loop: `d[key(e)] += 1` for each `e`. -/
def countBy (key : PyVal → Except PyExc PyVal) (xs : List PyVal) :
    Except PyExc (List (PyVal × Nat)) :=
  xs.foldlM (fun d e => do update d (← key e) 0 (· + 1)) []

/-- A `defaultdict(list)` loop: `d[key(e)].append(val(e))` for each `e`; the key is hashed
before the value is computed. -/
def groupBy {β : Type} (key : PyVal → Except PyExc PyVal) (val : PyVal → Except PyExc β)
    (xs : List PyVal) : Except PyExc (List (PyVal × List β)) :=
  xs.foldlM (fun d e => do
    let k ← key e
    let d ← update d k [] id
    let v ← val e
    pure (modifyAt k [] (· ++ [v]) d)) []

/-- `(e.get(first, {}).get('mode') or e.get(second, {}).get('mode') or 'unknown')`: the
system analyzer looks in `result` first, the flight-recorder script in `metadata`. -/
def modeOf (first second : String) (e : PyVal) : Except PyExc PyVal := do
  let a ← (← e.get first (.dict [])).get "mode" .none
  if a.truthy then pure a else
  let b ← (← e.get second (.dict [])).get "mode" .none
  pure (b.or (.str "unknown"))

/-- `(result.get('total_pools') or result.get('pools_updated') or result.get('total_updated')
or 0)` with `result = e.get('result', {})`. -/
def updatedPools (e : PyVal) : Except PyExc PyVal := do
  let result ← e.get "result" (.dict [])
  let total ← result.get "total_pools" .none
  let updated ← result.get "pools_updated" .none
  let totalUpdated ← result.get "total_updated" .none
  pure (total.or (updated.or (totalUpdated.or (.num 0))))

/-- `sum([e.get('duration_ms', 0) for e in es])`. -/
def durationSum (es : List PyVal) : Except PyExc Int := do
  pySum (← mapEach (·.get "duration_ms" (.num 0)) es)

/-- `sum([e.get('result', {}).get(field, 0) for e in es])`. -/
def resultSum (field : String) (es : List PyVal) : Except PyExc Int := do
  pySum (← mapEach (fun e => do (← e.get "result" (.dict [])).get field (.num 0)) es)

/-- The RPC block of both analyzers: the calls, those counted successful, those counted
failed, and the sum of their durations. -/
structure RpcStats where
  calls : List PyVal
  successful : List PyVal
  failed : List PyVal
  durationSum : Int

/-- `successful = [e for e in rpc_calls if e.get('success', False)]`,
`failed = [e for e in rpc_calls if not e.get('success', True)]`, the durations and their
average. -/
def rpcStats (calls : List PyVal) : Except PyExc RpcStats := do
  let successful ← keepIf (fun e => PyVal.truthy <$> e.get "success" (.bool false)) calls
  let failed ← keepIf (fun e => (fun v => !v.truthy) <$> e.get "success" (.bool true)) calls
  let total ← durationSum calls
  meanOf total calls.length
  pure ⟨calls, successful, failed, total⟩

/-- `if rpc_calls:` runs the block only on a nonempty list. -/
def rpcBlock (calls : List PyVal) : Except PyExc (Option RpcStats) :=
  if calls.isEmpty then .ok none else some <$> rpcStats calls

/-- `sorted(glob.glob(pattern), reverse=True)`: file names, last first. -/
def newestFirst {α : Type} (files : List (String × α)) : List (String × α) :=
  files.insertionSort fun a b => b.1 ≤ a.1

/-! ### `analyze_system_interactions` -/

/-- `load_events`: the events of a file, blank and undecodable lines skipped; a file that
cannot be opened gives none, and one with bytes that are not UTF-8 the events read before
them, the `except Exception` around the loop catching its `UnicodeDecodeError`. -/
def loadEvents (file : Option (List Line)) : List PyVal :=
  match file with
  | none => []
  | some lines => (readLines lines).1

/-- The `starts`, `ends` and `durations` of a phase in section 2. -/
structure PhaseGroup where
  starts : List PyVal
  ends : List PyVal
  durations : List PyVal

def PhaseGroup.empty : PhaseGroup := ⟨[], [], []⟩

/-- One event of the loop of section 2. -/
def addPhaseEvent (phases : List (PyVal × PhaseGroup)) (e : PyVal) :
    Except PyExc (List (PyVal × PhaseGroup)) := do
  let ty ← e.get "type" .none
  if ty.eqStr "PhaseStart" then
    let phase ← e.get "phase" (.str "unknown")
    update phases phase .empty fun g => { g with starts := g.starts ++ [e] }
  else if ty.eqStr "PhaseEnd" then
    let phase ← e.get "phase" (.str "unknown")
    let phases ← update phases phase .empty fun g => { g with ends := g.ends ++ [e] }
    if ← e.contains "duration_ms" then
      -- `e['duration_ms']`, the key being there
      let d ← e.get "duration_ms" .none
      update phases phase .empty fun g => { g with durations := g.durations ++ [d] }
    else pure phases
  else pure phases

/-- `[p for p in phases.keys() if w₁ in p.lower() or ...]`: `p.lower()` raises on a phase that
is not a string (the second `p.lower()` of an `or` raises exactly when the first does). -/
def phasesMatching (words : List String) : List (PyVal × PhaseGroup) → Except PyExc (List String)
  | [] => .ok []
  | (p, _) :: rest => do
    let l ← p.lower
    let ps ← phasesMatching words rest
    pure (if words.any (infixOf · l) then p.asStr.getD "" :: ps else ps)

/-- What section 2 prints of a phase. -/
structure PhaseLine where
  phase : String
  starts : Nat
  ends : Nat
  durationSum : Int
  durationCount : Nat

/-- `len(phases[phase]['starts'])`, `len(phases[phase]['ends'])` and
`sum(durations) / len(durations) if durations else 0`. -/
def phaseLine (phases : List (PyVal × PhaseGroup)) (phase : String) : Except PyExc PhaseLine := do
  let g := lookupKey phases (.str phase) .empty
  let s ← pySum g.durations
  meanOf s g.durations.length
  pure ⟨phase, g.starts.length, g.ends.length, s, g.durations.length⟩

/-- A graph phase: its line and `modes[mode] += 1` over its ends. -/
def graphPhase (phases : List (PyVal × PhaseGroup)) (phase : String) :
    Except PyExc (PhaseLine × List (PyVal × Nat)) := do
  let line ← phaseLine phases phase
  let modes ← countBy (modeOf "result" "metadata") (lookupKey phases (.str phase) .empty).ends
  pure (line, modes)

/-- `pools = result.get('pools_updated', result.get('total_pools', 0))` of an end event. -/
def poolsOf (e : PyVal) : Except PyExc PyVal := do
  let result ← e.get "result" (.dict [])
  let dflt ← result.get "total_pools" (.num 0)
  result.get "pools_updated" dflt

/-- A weight phase: its line, the `pools` of its ends with `pools > 0`, and their sum and
average. -/
def weightPhase (phases : List (PyVal × PhaseGroup)) (phase : String) :
    Except PyExc (PhaseLine × List PyVal × Int) := do
  let line ← phaseLine phases phase
  let pools ← (lookupKey phases (.str phase) .empty).ends.foldlM (fun acc e => do
    let p ← poolsOf e
    if ← p.gtZero then pure (acc ++ [p]) else pure acc) []
  let s ← pySum pools
  meanOf s pools.length
  pure (line, pools, s)

/-- What section 2 prints, category by category. -/
structure PhaseReport where
  discovery : List PhaseLine
  graph : List (PhaseLine × List (PyVal × Nat))
  weight : List (PhaseLine × List PyVal × Int)
  cache : List PhaseLine

/-- Section 2. -/
def phaseAnalysis (events : List PyVal) : Except PyExc PhaseReport := do
  let phases ← events.foldlM addPhaseEvent []
  let discovery ← phasesMatching ["discovery"] phases
  let graph ← phasesMatching ["graph"] phases
  let weight ← phasesMatching ["weight", "refresh"] phases
  let cache ← phasesMatching ["cache", "hot_pool"] phases
  let d ← mapEach (phaseLine phases) (sortedStrings discovery)
  let g ← mapEach (graphPhase phases) (sortedStrings graph)
  let w ← mapEach (weightPhase phases) (sortedStrings weight)
  let c ← mapEach (phaseLine phases) (sortedStrings cache)
  pure ⟨d, g, w, c⟩

/-- What section 3 prints when there are cache events. -/
structure CacheStats where
  total : Nat
  hits : Nat
  misses : Nat

/-- Section 3: the cache events, and their counts by `event_type`. -/
def cacheAnalysis (events : List PyVal) : Except PyExc (List PyVal × Option CacheStats) := do
  let cacheEvents ← eventsOfType events "CacheEvent"
  if cacheEvents.isEmpty then pure (cacheEvents, none) else
  let types ← countBy (·.get "event_type" (.str "unknown")) cacheEvents
  pure (cacheEvents, some ⟨(types.map Prod.snd).sum, lookupKey types (.str "hit") 0,
    lookupKey types (.str "miss") 0⟩)

/-- What section 4 prints when there are RPC calls: the shared block, then the calls by
endpoint with the sum of their durations, whose average it prints. -/
structure RpcReport where
  stats : RpcStats
  endpoints : List (PyVal × List PyVal × Int)

/-- Section 4. -/
def rpcAnalysis (events : List PyVal) : Except PyExc (List PyVal × Option RpcReport) := do
  let calls ← eventsOfType events "RpcCall"
  match ← rpcBlock calls with
  | none => pure (calls, none)
  | some stats =>
    let endpoints ← groupBy (·.get "endpoint" (.str "unknown")) (·.get "duration_ms" (.num 0)) calls
    let byCount := endpoints.insertionSort fun a b => b.2.length ≤ a.2.length
    let lines ← mapEach (fun (ep, ds) => do
      let s ← pySum ds
      meanOf s ds.length
      pure (ep, ds, s)) byCount
    pure (calls, some ⟨stats, lines⟩)

/-- What section 5 prints: the discovery cycles and the sums of their durations and pools,
whose averages it prints. -/
structure CycleStats where
  durationSum : Int
  discoveredSum : Int
  validatedSum : Int

/-- Section 5. -/
def discoveryAnalysis (events : List PyVal) : Except PyExc (List PyVal × Option CycleStats) := do
  let cycles ← keepIf (fun e => andThen (phaseIs e "discovery_cycle") (hasType e "PhaseEnd")) events
  if cycles.isEmpty then pure (cycles, none) else
  let ds ← durationSum cycles
  meanOf ds cycles.length
  let pools ← mapEach (fun e => do
    let result ← e.get "result" (.dict [])
    pure (← result.get "pools_discovered" (.num 0), ← result.get "pools_validated" (.num 0))) cycles
  let discovered ← pySum (pools.map Prod.fst)
  meanOf discovered pools.length
  let validated ← pySum (pools.map Prod.snd)
  meanOf validated pools.length
  pure (cycles, some ⟨ds, discovered, validated⟩)

/-- The line both analyzers print of the graph updates of one mode: their count and the sums
of their durations and of their pools, with the two averages. -/
def modeLine (line : PyVal × List PyVal) : Except PyExc (PyVal × Nat × Int × Int) := do
  let ds ← durationSum line.2
  meanOf ds line.2.length
  let pools ← mapEach updatedPools line.2
  let ps ← pySum pools
  meanOf ps pools.length
  pure (line.1, line.2.length, ds, ps)

/-- Section 6: the graph updates by mode, a line for each mode. -/
def graphAnalysis (events : List PyVal) :
    Except PyExc (List PyVal × List (PyVal × Nat × Int × Int)) := do
  let updates ← keepIf (fun e => andThen (phaseIs e "graph_updates") (hasType e "PhaseEnd")) events
  if updates.isEmpty then pure (updates, []) else
  let modes ← groupBy (modeOf "result" "metadata") pure updates
  let sorted ← sortedItems modes
  let lines ← mapEach modeLine sorted
  pure (updates, lines)

/-- Section 7: the weight refresh events by phase, each with the sums of its durations, pools
updated, candidates loaded and failed validations, and their averages. -/
def weightAnalysis (events : List PyVal) :
    Except PyExc (List PyVal × List (PyVal × Nat × Int × Int × Int × Int)) := do
  let evs ← keepIf (fun e => andThen (phaseIsWeightRefresh e) (hasType e "PhaseEnd")) events
  if evs.isEmpty then pure (evs, []) else
  let byPhase ← groupBy (·.get "phase" (.str "unknown")) pure evs
  let sorted ← sortedItems byPhase
  let lines ← mapEach (fun (phase, es) => do
    let ds ← durationSum es
    meanOf ds es.length
    let rs ← mapEach (fun e => do
      let result ← e.get "result" (.dict [])
      pure (← result.get "pools_updated" (.num 0), ← result.get "candidates_loaded" (.num 0),
        ← result.get "failed_validation" (.num 0))) es
    let pools ← pySum (rs.map (·.1))
    meanOf pools rs.length
    let candidates ← pySum (rs.map (·.2.1))
    meanOf candidates rs.length
    let failed ← pySum (rs.map (·.2.2))
    meanOf failed rs.length
    pure (phase, es.length, ds, pools, candidates, failed)) sorted
  pure (evs, lines)

/-- `'hot_pool_manager' in e.get('phase', '').lower()`. -/
def hotPoolPhase (e : PyVal) : Except PyExc Bool := do
  pure (infixOf "hot_pool_manager" (← (← e.get "phase" (.str "")).lower))

/-- Section 8: the hot pool manager updates by phase, each with the sums of its durations and
weight counts, and their averages. -/
def hotPoolAnalysis (events : List PyVal) : Except PyExc (List (PyVal × Nat × Int × Int)) := do
  let evs ← keepIf (fun e => andThen (hotPoolPhase e) (hasType e "PhaseEnd")) events
  if evs.isEmpty then pure [] else
  let byPhase ← groupBy (·.get "phase" (.str "unknown")) pure evs
  let sorted ← sortedItems byPhase
  mapEach (fun (phase, es) => do
    let ds ← durationSum es
    meanOf ds es.length
    let ws ← resultSum "weights_count" es
    meanOf ws es.length
    pure (phase, es.length, ds, ws)) sorted

/-- `for i in range(len(sorted_events) - 1)` counting the pairs that pass `test`. -/
def countPairs (test : PyVal → PyVal → Except PyExc Bool) : List PyVal → Except PyExc Nat
  | e₁ :: e₂ :: rest => do
    let b ← test e₁ e₂
    let n ← countPairs test (e₂ :: rest)
    pure (if b then n + 1 else n)
  | _ => .ok 0

/-- `e1.get('phase') == 'discovery_cycle' and e1.get('type') == 'PhaseEnd' and
e2.get('phase') == 'graph_updates' and e2.get('type') == 'PhaseStart'`: a discovery cycle ends
and a graph update starts next. Section 9 and `analyze_events.py` test neighbours with it. -/
def discoveryThenGraph (e₁ e₂ : PyVal) : Except PyExc Bool :=
  andThen (phaseIs e₁ "discovery_cycle") (andThen (hasType e₁ "PhaseEnd")
    (andThen (phaseIs e₂ "graph_updates") (hasType e₂ "PhaseStart")))

/-- What section 9 prints. -/
structure Timeline where
  firstTs : Int
  lastTs : Int
  discoveryGraphPairs : Nat
  weightHotPairs : Nat

/-- Section 9: the events sorted by `ts`, the first and last `ts`, the total duration in
seconds, and the two sequences. `sorted` and then `last_ts - first_ts` go through when every
`ts` is a number; otherwise one of them raises `TypeError`, since a sort that finishes has
compared every two neighbours of its result and no other values subtract. -/
def timeline (events : List PyVal) : Except PyExc (Option Timeline) := do
  let keys ← mapEach (·.get "ts" (.num 0)) events
  match keys.mapM PyVal.asNum with
  | none => .error .typeError
  | some ts =>
    match (events.zip ts).insertionSort (fun a b => a.2 ≤ b.2) with
    | [] => pure none
    | first :: rest =>
      let sorted := (first :: rest).map Prod.fst
      let last := (first :: rest).getLast (List.cons_ne_nil _ _)
      trueDiv (last.2 - first.2) 1000
      let dg ← countPairs discoveryThenGraph sorted
      let wh ← countPairs (fun e₁ e₂ => andThen (phaseIsWeightRefresh e₁) (andThen
        (hasType e₁ "PhaseEnd") (andThen (hotPoolPhase e₂) (hasType e₂ "PhaseStart")))) sorted
      pure (some ⟨first.2, last.2, dg, wh⟩)

/-- Everything the script prints about a nonempty list of events. -/
structure SystemReport where
  events : List PyVal
  eventTypes : List (PyVal × Nat)
  phases : PhaseReport
  cacheEvents : List PyVal
  cache : Option CacheStats
  rpcCalls : List PyVal
  rpc : Option RpcReport
  discoveryCycles : List PyVal
  discovery : Option CycleStats
  graphUpdates : List PyVal
  graph : List (PyVal × Nat × Int × Int)
  weightRefreshEvents : List PyVal
  weight : List (PyVal × Nat × Int × Int × Int × Int)
  hotPool : List (PyVal × Nat × Int × Int)
  timeline : Option Timeline
  cacheHits : Nat

/-- How the script ends when it raises nothing. -/
inductive SystemOutcome
  | noFiles
  | noEvents
  | report (r : SystemReport)

/-- Section 10's `len([e for e in cache_events if e.get('event_type') == 'hit'])`, printed
when there are cache events. -/
def cacheHits (cacheEvents : List PyVal) : Except PyExc Nat :=
  if cacheEvents.isEmpty then .ok 0 else
    List.length <$> keepIf (fun e => (·.eqStr "hit") <$> e.get "event_type" .none) cacheEvents

/-- The ten sections on a list of events. -/
def analyzeEvents (events : List PyVal) : Except PyExc SystemReport := do
  let eventTypes ← countBy (·.get "type" (.str "unknown")) events
  let phases ← phaseAnalysis events
  let (cacheEvents, cache) ← cacheAnalysis events
  let (rpcCalls, rpc) ← rpcAnalysis events
  let (discoveryCycles, discovery) ← discoveryAnalysis events
  let (graphUpdates, graph) ← graphAnalysis events
  let (weightRefreshEvents, weight) ← weightAnalysis events
  let hotPool ← hotPoolAnalysis events
  let tl ← timeline events
  let hits ← cacheHits cacheEvents
  pure ⟨events, eventTypes, phases, cacheEvents, cache, rpcCalls, rpc, discoveryCycles, discovery,
    graphUpdates, graph, weightRefreshEvents, weight, hotPool, tl, hits⟩

/-- `analyze_system_interactions()` on the files `benchmarks/flight_recorder_*.jsonl` and
`logs/flight_recorder_*.jsonl`, with their contents (`none` where `open` fails). -/
def analyzeSystemInteractions (benchmarks logs : List (String × Option (List Line))) :
    Except PyExc SystemOutcome :=
  let files := newestFirst benchmarks ++ newestFirst logs
  if files.isEmpty then .ok .noFiles else
  let events := files.flatMap fun f => loadEvents f.2
  if events.isEmpty then .ok .noEvents else .report <$> analyzeEvents events

/-! The script's stages read back from a report they returned. -/

/-- A report of the system analyzer is its sections, each as computed on the events. -/
theorem analyzeEvents_parts {events : List PyVal} {r : SystemReport}
    (h : analyzeEvents events = .ok r) :
    r.events = events ∧ countBy (·.get "type" (.str "unknown")) events = .ok r.eventTypes ∧
      phaseAnalysis events = .ok r.phases ∧ cacheAnalysis events = .ok (r.cacheEvents, r.cache) ∧
      rpcAnalysis events = .ok (r.rpcCalls, r.rpc) ∧
      discoveryAnalysis events = .ok (r.discoveryCycles, r.discovery) ∧
      graphAnalysis events = .ok (r.graphUpdates, r.graph) ∧
      weightAnalysis events = .ok (r.weightRefreshEvents, r.weight) ∧
      hotPoolAnalysis events = .ok r.hotPool ∧ timeline events = .ok r.timeline ∧
      cacheHits r.cacheEvents = .ok r.cacheHits := by
  obtain ⟨t, ht, h⟩ := Except.bind_eq_ok.1 h
  obtain ⟨ph, hph, h⟩ := Except.bind_eq_ok.1 h
  obtain ⟨⟨ce, c⟩, hc, h⟩ := Except.bind_eq_ok.1 h
  obtain ⟨⟨rc, rp⟩, hr, h⟩ := Except.bind_eq_ok.1 h
  obtain ⟨⟨dc, dd⟩, hd, h⟩ := Except.bind_eq_ok.1 h
  obtain ⟨⟨gu, g⟩, hg, h⟩ := Except.bind_eq_ok.1 h
  obtain ⟨⟨we, wl⟩, hw, h⟩ := Except.bind_eq_ok.1 h
  obtain ⟨hp, hhp, h⟩ := Except.bind_eq_ok.1 h
  obtain ⟨tl, htl, h⟩ := Except.bind_eq_ok.1 h
  obtain ⟨hits, hhits, h⟩ := Except.bind_eq_ok.1 h
  cases h
  exact ⟨rfl, ht, hph, hc, hr, hd, hg, hw, hhp, htl, hhits⟩

/-- `analyze_system_interactions` reports on the events of every file, the benchmark files
first, each newest first. -/
theorem analyzeEvents_of_report {benchmarks logs : List (String × Option (List Line))}
    {r : SystemReport} (h : analyzeSystemInteractions benchmarks logs = .ok (.report r)) :
    analyzeEvents ((newestFirst benchmarks ++ newestFirst logs).flatMap fun f => loadEvents f.2) =
      .ok r := by
  unfold analyzeSystemInteractions at h
  dsimp only at h
  split_ifs at h
  · cases h
  · cases h
  obtain ⟨r', h, hr⟩ := Except.exists_of_map_eq_ok h
  cases hr
  exact h

/-- A file of one line, named as the recorder names its files. -/
def oneLineFile (v : PyVal) : List (String × Option (List Line)) :=
  [("benchmarks/flight_recorder_20260118_014659.jsonl", some [.json v])]

/-- A line holding JSON that is no object stops the script at the `.get` of section 1, and an
event whose `phase` is `null` stops it at the `.lower()` of section 2. -/
theorem analyzer_raises_on_non_object_or_null_phase :
    analyzeSystemInteractions (oneLineFile (.num 1)) [] = .error (.attributeError "int" "get") ∧
      analyzeSystemInteractions
          (oneLineFile (.dict [("type", .str "PhaseStart"), ("phase", .none)])) [] =
        .error (.attributeError "NoneType" "lower") :=
  ⟨rfl, rfl⟩

end MigSdkExport.FlightRecorder
