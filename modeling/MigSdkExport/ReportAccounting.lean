import MigSdkExport.RecorderStore

/-! What the analyzers' reports count. Every section built on a `defaultdict` accounts for its
events exactly once: each key is printed once, with the count, or the line, of exactly the
events of that key, and no event is left without its line. These are the store laws of
`RecorderStore` carried through each section's loops. -/
namespace MigSdkExport.FlightRecorder

variable {α β : Type}

/-! ### Reading a report back into its sections -/

/-- The values `e.get(k, d)` of events are their fields, and the events are dicts. -/
theorem mapEach_get_eq {xs ks : List PyVal} {k : String} {d : PyVal}
    (h : mapEach (·.get k d) xs = .ok ks) : ks = xs.map (·.field k d) ∧ ∀ e ∈ xs, e.IsDict := by
  have hd : ∀ e ∈ xs, e.IsDict := fun e he =>
    have ⟨_, hy⟩ := forall_of_mapEach h e he
    PyVal.isDict_of_get hy
  refine ⟨Except.ok.inj (h.symm.trans (mapEach_eq_map fun e he => ?_)), hd⟩
  exact PyVal.get_of_isDict (hd e he) k d

/-- A field tested against a string it cannot default to tests the same whatever the
default. -/
theorem field_eqStr_default (e : PyVal) (k s : String) {d d' : PyVal} (hd : d.eqStr s = false)
    (hd' : d'.eqStr s = false) : (e.field k d).eqStr s = (e.field k d').eqStr s := by
  cases e with
  | dict items =>
    show ((items.lookup k).getD d).eqStr s = ((items.lookup k).getD d').eqStr s
    cases items.lookup k
    · exact hd.trans hd'.symm
    · rfl
  | _ => exact hd.trans hd'.symm

theorem length_filter_add_filter_le {p q : α → Bool} (h : ∀ x, p x = true → q x = false)
    (xs : List α) : (xs.filter p).length + (xs.filter q).length ≤ xs.length := by
  induction xs with
  | nil => rfl
  | cons x xs ih =>
    by_cases hp : p x = true
    · simp [List.filter_cons, hp, h x hp]
      omega
    · by_cases hq : q x = true <;> simp [List.filter_cons, hp, hq] <;> omega

/-! ### Sections 1, 3 and 10 of the system analyzer -/

/-- `[e for e in events if e.get('type') == t]` on dicts. -/
theorem eventsOfType_eq {events cs : List PyVal} {t : String} (h : eventsOfType events t = .ok cs) :
    cs = events.filter fun e => (e.field "type" .none).eqStr t := by
  have hd : ∀ e ∈ events, e.IsDict := fun e he =>
    have ⟨_, hb⟩ := forall_of_keepIf h e he
    have ⟨_, hy, _⟩ := Except.exists_of_map_eq_ok hb
    PyVal.isDict_of_get hy
  refine Except.ok.inj (h.symm.trans (keepIf_eq_filter _ _ fun e he => ?_))
  simp only [hasType, PyVal.get_of_isDict (hd e he)]
  rfl

/-- Section 3: the cache events, and when there are some, the counts of their
`event_type`s. -/
theorem cacheAnalysis_spec {events cs : List PyVal} {c : Option CacheStats}
    (h : cacheAnalysis events = .ok (cs, c)) :
    cs = events.filter (fun e => (e.field "type" .none).eqStr "CacheEvent") ∧
      ∀ s, c = some s → cs ≠ [] ∧ (∀ e ∈ cs, e.IsDict) ∧ ∃ types,
        CountsOf (cs.map (·.field "event_type" (.str "unknown"))) types ∧
        s = ⟨(types.map Prod.snd).sum, lookupKey types (.str "hit") 0,
          lookupKey types (.str "miss") 0⟩ := by
  obtain ⟨cs', hcs, h⟩ := Except.bind_eq_ok.1 h
  have hce := eventsOfType_eq hcs
  split_ifs at h with hne
  · cases h
    exact ⟨hce, nofun⟩
  · obtain ⟨types, htypes, h⟩ := Except.bind_eq_ok.1 h
    cases h
    obtain ⟨ts, hts, hT⟩ := countBy_spec htypes
    obtain ⟨rfl, hd⟩ := mapEach_get_eq hts
    exact ⟨hce, fun s hs => ⟨by simpa using hne, hd, types, hT, (Option.some.inj hs).symm⟩⟩

/-- What section 3 prints when there are cache events: its total is the number of cache
events, its hits are the cache events whose `event_type` is `hit`, and its hits and misses
together are at most its total. -/
theorem cacheStats_of {events cs : List PyVal} {s : CacheStats}
    (h : cacheAnalysis events = .ok (cs, some s)) :
    s.total = cs.length ∧
      s.hits = (cs.filter fun e => (e.field "event_type" (.str "unknown")).eqStr "hit").length ∧
      s.hits + s.misses ≤ s.total := by
  obtain ⟨-, -, types, hT, rfl⟩ := (cacheAnalysis_spec h).2 s rfl
  refine ⟨hT.total.trans (List.length_map _ _), ?_, ?_⟩
  · show lookupKey types (.str "hit") 0 = _
    rw [hT.lookup, List.filter_map, List.length_map]
    exact congrArg List.length (List.filter_congr fun e _ => PyVal.keyEq_str _ _)
  · show lookupKey types (.str "hit") 0 + lookupKey types (.str "miss") 0 ≤
      (types.map Prod.snd).sum
    rw [hT.lookup, hT.lookup, hT.total]
    exact length_filter_add_filter_le (fun x hx => by
      rw [PyVal.keyEq_str] at hx ⊢
      cases x <;> simp_all [PyVal.eqStr]) _

/-- What sections 1, 3 and 10 of a report say of the events: section 1 lists each type once
with the number of events of that type (`unknown` for an event without one), the counts adding
up to the number of events; section 3 counts exactly the cache events; its hits are those
section 10 counts, so the two hit rates printed agree; and its hits and misses together are
at most its total. -/
structure SystemReport.Counts (events : List PyVal) (r : SystemReport) : Prop where
  types : CountsOf (events.map (·.field "type" (.str "unknown"))) r.eventTypes
  cacheEvents : r.cacheEvents = events.filter fun e => (e.field "type" .none).eqStr "CacheEvent"
  cache : ∀ c, r.cache = some c →
    c.total = r.cacheEvents.length ∧ c.hits = r.cacheHits ∧ c.hits + c.misses ≤ c.total

theorem analyzeEvents_counts {events : List PyVal} {r : SystemReport}
    (h : analyzeEvents events = .ok r) : r.Counts events := by
  obtain ⟨-, ht, -, hc, -, -, -, -, -, -, hhits⟩ := analyzeEvents_parts h
  obtain ⟨ks, hks, hC⟩ := countBy_spec ht
  refine ⟨(mapEach_get_eq hks).1 ▸ hC, (cacheAnalysis_spec hc).1, fun c hc' => ?_⟩
  rw [hc'] at hc
  obtain ⟨htot, hhit, hle⟩ := cacheStats_of hc
  obtain ⟨hne, hd, -⟩ := (cacheAnalysis_spec hc).2 c rfl
  refine ⟨htot, ?_, hle⟩
  rw [cacheHits, if_neg (by simpa using hne), keepIf_eq_filter
    (fun e => (e.field "event_type" .none).eqStr "hit") _
    fun e he => by simp only [PyVal.get_of_isDict (hd e he)]; rfl] at hhits
  rw [hhit, ← Except.ok.inj hhits]
  exact congrArg List.length (List.filter_congr fun e _ => field_eqStr_default e _ _ rfl rfl)

/-! ### Section 2 of the system analyzer -/

/-- An event that section 2 files under the phase key `k` as one of type `ty`: its `type` is
`ty` and its `phase`, `unknown` when missing, equals `k`. -/
def filedUnder (ty : String) (k e : PyVal) : Bool :=
  (e.field "type" .none).eqStr ty && (e.field "phase" (.str "unknown")).keyEq k

/-- The durations section 2 keeps of the end events `es`: `e['duration_ms']` of those that
have one. -/
def endDurations (es : List PyVal) : List PyVal :=
  (es.filter (·.hasField "duration_ms")).map (·.field "duration_ms" .none)

/-- `phases` files the events `es` as the loop of section 2 does: under every key, the start
events, the end events and the durations of the end events of that phase. -/
structure PhasesOf (es : List PyVal) (phases : List (PyVal × PhaseGroup)) : Prop where
  starts : ∀ k, (lookupKey phases k .empty).starts = es.filter (filedUnder "PhaseStart" k)
  ends : ∀ k, (lookupKey phases k .empty).ends = es.filter (filedUnder "PhaseEnd" k)
  durations : ∀ k,
    (lookupKey phases k .empty).durations = endDurations (es.filter (filedUnder "PhaseEnd" k))

theorem eqStr_eq_false_of {v : PyVal} {s t : String} (h : v.eqStr s = true) (hst : s ≠ t) :
    v.eqStr t = false := by
  cases v <;> simp_all [PyVal.eqStr]

/-- What one event of the loop of section 2 adds to the group of its phase: itself, as a start
or as an end event, and its duration, as an end event that has one. -/
def PhaseGroup.add (e : PyVal) (g : PhaseGroup) : PhaseGroup :=
  ⟨g.starts ++ [e].filter (fun e => (e.field "type" .none).eqStr "PhaseStart"),
    g.ends ++ [e].filter (fun e => (e.field "type" .none).eqStr "PhaseEnd"),
    g.durations ++ endDurations ([e].filter fun e => (e.field "type" .none).eqStr "PhaseEnd")⟩

theorem lookupKey_congr {a b : PyVal} (h : a.keyEq b = true) (d : List (PyVal × β)) (dflt : β) :
    lookupKey d a dflt = lookupKey d b dflt := by
  unfold lookupKey
  congr 3
  funext p
  exact PyVal.keyEq_congr_right h p.1

/-- One event of the loop of section 2 changes the group of its phase only, by
`PhaseGroup.add`. -/
theorem lookupKey_addPhaseEvent {phases phases' : List (PyVal × PhaseGroup)} {e : PyVal}
    (he : addPhaseEvent phases e = .ok phases') (k : PyVal) :
    lookupKey phases' k .empty = if (e.field "phase" (.str "unknown")).keyEq k
      then (lookupKey phases k .empty).add e else lookupKey phases k .empty := by
  obtain ⟨ty, hty, he⟩ := Except.bind_eq_ok.1 he
  have hd := PyVal.isDict_of_get hty
  rw [PyVal.get_of_isDict hd] at hty
  cases hty
  rw [PyVal.get_of_isDict hd "phase"] at he
  simp only [Except.ok_bind] at he
  split_ifs at he with hs hn
  · obtain ⟨-, rfl⟩ := update_eq_ok he
    have hn := eqStr_eq_false_of hs (by decide : "PhaseStart" ≠ "PhaseEnd")
    rw [lookupKey_modifyAt]
    split_ifs with hk
    · simp [lookupKey_congr hk, PhaseGroup.add, hs, hn, endDurations]
    · rfl
  · have hs : (e.field "type" .none).eqStr "PhaseStart" = false := by simpa using hs
    obtain ⟨p₁, hu, he⟩ := Except.bind_eq_ok.1 he
    obtain ⟨hh, rfl⟩ := update_eq_ok hu
    rw [PyVal.contains_of_isDict hd, Except.ok_bind] at he
    split_ifs at he with hdur
    · rw [PyVal.get_of_isDict hd, Except.ok_bind] at he
      obtain ⟨-, rfl⟩ := update_eq_ok he
      rw [lookupKey_modifyAt, lookupKey_modifyAt, if_pos (PyVal.keyEq_self hh)]
      split_ifs with hk
      · simp [lookupKey_congr hk, PhaseGroup.add, hs, hn, hdur, endDurations]
      · rw [lookupKey_modifyAt, if_neg hk]
    · cases he
      rw [lookupKey_modifyAt]
      split_ifs with hk
      · simp [lookupKey_congr hk, PhaseGroup.add, hs, hn, hdur, endDurations]
      · rfl
  · cases he
    have hs : (e.field "type" .none).eqStr "PhaseStart" = false := by simpa using hs
    have hn : (e.field "type" .none).eqStr "PhaseEnd" = false := by simpa using hn
    split_ifs <;> simp [PhaseGroup.add, hs, hn, endDurations]

/-- One event of the loop of section 2 files it where it belongs and nowhere else. -/
theorem PhasesOf.add {es : List PyVal} {phases phases' : List (PyVal × PhaseGroup)}
    (h : PhasesOf es phases) {e : PyVal} (he : addPhaseEvent phases e = .ok phases') :
    PhasesOf (es ++ [e]) phases' := by
  have hf : ∀ ty k, filedUnder ty k e =
      ((e.field "type" .none).eqStr ty && (e.field "phase" (.str "unknown")).keyEq k) :=
    fun _ _ => rfl
  refine ⟨fun k => ?_, fun k => ?_, fun k => ?_⟩ <;> rw [lookupKey_addPhaseEvent he] <;>
    by_cases hk : (e.field "phase" (.str "unknown")).keyEq k = true <;>
    simp [hk, hf, PhaseGroup.add, endDurations, List.filter_append, List.filter_cons, h.starts,
      h.ends, h.durations]

theorem PhasesOf.empty : PhasesOf [] [] := ⟨fun _ => rfl, fun _ => rfl, fun _ => rfl⟩

/-- Over the whole loop of section 2: the phases it ends with file all the events. -/
theorem PhasesOf.foldlM {xs es : List PyVal} {phases phases' : List (PyVal × PhaseGroup)}
    (h : PhasesOf es phases) (hf : xs.foldlM addPhaseEvent phases = .ok phases') :
    PhasesOf (es ++ xs) phases' := by
  induction xs generalizing es phases with
  | nil =>
    cases hf
    simpa using h
  | cons x xs ih =>
    rw [List.foldlM_cons] at hf
    obtain ⟨p, hp, hf⟩ := Except.bind_eq_ok.1 hf
    simpa using ih (h.add hp) hf

/-- What a line of section 2 says of the events: the counts of the start and the end events
filed under its phase, and the count and the sum of the durations of those end events. -/
structure PhaseLine.Tallies (events : List PyVal) (l : PhaseLine) : Prop where
  starts : l.starts = (events.filter (filedUnder "PhaseStart" (.str l.phase))).length
  ends : l.ends = (events.filter (filedUnder "PhaseEnd" (.str l.phase))).length
  count : l.durationCount = (endDurations (events.filter (filedUnder "PhaseEnd" (.str l.phase)))).length
  sum : pySum (endDurations (events.filter (filedUnder "PhaseEnd" (.str l.phase)))) = .ok l.durationSum

theorem PhasesOf.phaseLine {es : List PyVal} {phases : List (PyVal × PhaseGroup)}
    (h : PhasesOf es phases) {p : String} {l : PhaseLine} (hl : phaseLine phases p = .ok l) :
    l.phase = p ∧ l.Tallies es := by
  obtain ⟨s, hs, hl⟩ := Except.bind_mean_eq_ok hl
  cases hl
  exact ⟨rfl, congrArg _ (h.starts _), congrArg _ (h.ends _), congrArg _ (h.durations _),
    h.durations _ ▸ hs⟩

theorem PhasesOf.graphPhase {es : List PyVal} {phases : List (PyVal × PhaseGroup)}
    (h : PhasesOf es phases) {p : String} {l : PhaseLine × List (PyVal × Nat)}
    (hl : graphPhase phases p = .ok l) :
    l.1.phase = p ∧ l.1.Tallies es ∧ ∃ ks, mapEach (modeOf "result" "metadata")
      (es.filter (filedUnder "PhaseEnd" (.str l.1.phase))) = .ok ks ∧ CountsOf ks l.2 := by
  obtain ⟨line, hline, hl⟩ := Except.bind_eq_ok.1 hl
  obtain ⟨modes, hmodes, hl⟩ := Except.bind_eq_ok.1 hl
  cases hl
  obtain ⟨rfl, ht⟩ := h.phaseLine hline
  rw [h.ends] at hmodes
  exact ⟨rfl, ht, countBy_spec hmodes⟩

theorem PhasesOf.weightPhase {es : List PyVal} {phases : List (PyVal × PhaseGroup)}
    (h : PhasesOf es phases) {p : String} {l : PhaseLine × List PyVal × Int}
    (hl : weightPhase phases p = .ok l) : l.1.phase = p ∧ l.1.Tallies es := by
  obtain ⟨line, hline, hl⟩ := Except.bind_eq_ok.1 hl
  obtain ⟨pools, -, hl⟩ := Except.bind_eq_ok.1 hl
  obtain ⟨s, -, hl⟩ := Except.bind_mean_eq_ok hl
  cases hl
  exact h.phaseLine hline

theorem mem_mapEach {f : α → Except PyExc β} {xs : List α} {ys : List β}
    (h : mapEach f xs = .ok ys) {y : β} (hy : y ∈ ys) : ∃ x ∈ xs, f x = .ok y :=
  forall₂_exists_left (mapEach_forall₂ h) hy

/-- A start or an end event, which section 2 files under the phase `p`. -/
def PhaseEventOf (p : String) (e : PyVal) : Prop :=
  ((e.field "type" .none).eqStr "PhaseStart" || (e.field "type" .none).eqStr "PhaseEnd") = true ∧
    e.field "phase" (.str "unknown") = .str p

theorem PyVal.eq_of_keyEq_str {k : PyVal} {s : String} (h : k.keyEq (.str s) = true) :
    k = .str s := by
  rw [PyVal.keyEq_str] at h
  cases k <;> simp_all [PyVal.eqStr]

/-- The phase of every start or end event is a key of the phases. -/
theorem PhasesOf.key_of_mem {es : List PyVal} {phases : List (PyVal × PhaseGroup)}
    (h : PhasesOf es phases) {e : PyVal} (he : e ∈ es) {p : String} (hp : PhaseEventOf p e) :
    PyVal.str p ∈ phases.map Prod.fst := by
  have hk : (e.field "phase" (.str "unknown")).keyEq (.str p) = true := by
    rw [hp.2, PyVal.keyEq_str]
    simp [PyVal.eqStr]
  have hne : lookupKey phases (.str p) .empty ≠ .empty := fun h₀ => by
    rcases Bool.or_eq_true_iff.1 hp.1 with hs | hs
    · have hm := h.starts (.str p) ▸ List.mem_filter.2 ⟨he, by simp [filedUnder, hs, hk]⟩
      rw [h₀] at hm
      cases hm
    · have hm := h.ends (.str p) ▸ List.mem_filter.2 ⟨he, by simp [filedUnder, hs, hk]⟩
      rw [h₀] at hm
      cases hm
  obtain ⟨q, hq, hqk⟩ := exists_of_lookupKey hne
  exact List.mem_map.2 ⟨q, hq, PyVal.eq_of_keyEq_str hqk⟩

/-- `[p for p in phases.keys() if w₁ in p.lower() or ...]` keeps every phase whose name holds
one of the words. -/
theorem mem_phasesMatching {words : List String} {d : List (PyVal × PhaseGroup)}
    {ps : List String} (h : phasesMatching words d = .ok ps) {p l : String}
    (hp : PyVal.str p ∈ d.map Prod.fst) (hl : (PyVal.str p).lower = .ok l)
    (hw : words.any (infixOf · l) = true) : p ∈ ps := by
  induction d generalizing ps with
  | nil => cases hp
  | cons q d ih =>
    obtain ⟨l', hl', h⟩ := Except.bind_eq_ok.1 h
    obtain ⟨ps', hps', h⟩ := Except.bind_eq_ok.1 h
    cases h
    rcases List.mem_cons.1 hp with hq | hp
    · rw [← hq, hl] at hl'
      cases hl'
      rw [if_pos hw, ← hq]
      exact .head _
    · have := ih hps' hp
      split_ifs
      · exact .tail _ this
      · exact this

/-- What the loop of section 2 filed under a phase of a start or an end event gets a line in
each category whose words the phase's name holds. -/
theorem PhasesOf.listed {es : List PyVal} {phases : List (PyVal × PhaseGroup)}
    (h : PhasesOf es phases) {words ps : List String} (hm : phasesMatching words phases = .ok ps)
    {f : String → Except PyExc β} {d : List β} (hd : mapEach f (sortedStrings ps) = .ok d)
    {e : PyVal} (he : e ∈ es) {p l : String} (hp : PhaseEventOf p e)
    (hl : (PyVal.str p).lower = .ok l) (hw : words.any (infixOf · l) = true) :
    ∃ x ∈ d, f p = .ok x :=
  forall₂_exists_right (mapEach_forall₂ hd)
    ((List.perm_insertionSort _ _).mem_iff.2 (mem_phasesMatching hm (h.key_of_mem he hp) hl hw))

/-- The lines of a category of section 2 list every phase of a start or an end event whose
name, lowercased, holds one of the category's words. -/
def PhasesListed (events : List PyVal) (words : List String) {γ : Type} (phaseOf : γ → String)
    (lines : List γ) : Prop :=
  ∀ p l, (∃ e ∈ events, PhaseEventOf p e) → (PyVal.str p).lower = .ok l →
    words.any (infixOf · l) = true → ∃ x ∈ lines, phaseOf x = p

/-- What section 2 of a report says of the events: every line, in each of the four
categories, counts exactly the start and the end events of its phase, and the durations of
those ends; a graph line also counts the modes of those ends; and each category lists every
phase of a start or an end event whose name holds one of its words. -/
structure PhaseReport.Tallies (events : List PyVal) (r : PhaseReport) : Prop where
  discovery : ∀ l ∈ r.discovery, l.Tallies events
  graph : ∀ l ∈ r.graph, l.1.Tallies events ∧ ∃ ks, mapEach (modeOf "result" "metadata")
    (events.filter (filedUnder "PhaseEnd" (.str l.1.phase))) = .ok ks ∧ CountsOf ks l.2
  weight : ∀ l ∈ r.weight, l.1.Tallies events
  cache : ∀ l ∈ r.cache, l.Tallies events
  discoveryListed : PhasesListed events ["discovery"] PhaseLine.phase r.discovery
  graphListed : PhasesListed events ["graph"] (·.1.phase) r.graph
  weightListed : PhasesListed events ["weight", "refresh"] (·.1.phase) r.weight
  cacheListed : PhasesListed events ["cache", "hot_pool"] PhaseLine.phase r.cache

theorem phaseAnalysis_tallies {events : List PyVal} {r : PhaseReport}
    (h : phaseAnalysis events = .ok r) : r.Tallies events := by
  obtain ⟨phases, hph, h⟩ := Except.bind_eq_ok.1 h
  have hP : PhasesOf events phases := by simpa using PhasesOf.empty.foldlM hph
  obtain ⟨ds, hds, h⟩ := Except.bind_eq_ok.1 h
  obtain ⟨gs, hgs, h⟩ := Except.bind_eq_ok.1 h
  obtain ⟨ws, hws, h⟩ := Except.bind_eq_ok.1 h
  obtain ⟨cs, hcs, h⟩ := Except.bind_eq_ok.1 h
  obtain ⟨d, hd, h⟩ := Except.bind_eq_ok.1 h
  obtain ⟨g, hg, h⟩ := Except.bind_eq_ok.1 h
  obtain ⟨w, hw, h⟩ := Except.bind_eq_ok.1 h
  obtain ⟨c, hc, h⟩ := Except.bind_eq_ok.1 h
  cases h
  refine ⟨fun l hl => ?_, fun l hl => ?_, fun l hl => ?_, fun l hl => ?_, ?_, ?_, ?_, ?_⟩
  · obtain ⟨_, -, hl⟩ := mem_mapEach hd hl
    exact (hP.phaseLine hl).2
  · obtain ⟨_, -, hl⟩ := mem_mapEach hg hl
    exact (hP.graphPhase hl).2
  · obtain ⟨_, -, hl⟩ := mem_mapEach hw hl
    exact (hP.weightPhase hl).2
  · obtain ⟨_, -, hl⟩ := mem_mapEach hc hl
    exact (hP.phaseLine hl).2
  all_goals
    rintro p l ⟨e, he, hp⟩ hl hwords
  · obtain ⟨x, hx, hfx⟩ := hP.listed hds hd he hp hl hwords
    exact ⟨x, hx, (hP.phaseLine hfx).1⟩
  · obtain ⟨x, hx, hfx⟩ := hP.listed hgs hg he hp hl hwords
    exact ⟨x, hx, (hP.graphPhase hfx).1⟩
  · obtain ⟨x, hx, hfx⟩ := hP.listed hws hw he hp hl hwords
    exact ⟨x, hx, (hP.weightPhase hfx).1⟩
  · obtain ⟨x, hx, hfx⟩ := hP.listed hcs hc he hp hl hwords
    exact ⟨x, hx, (hP.phaseLine hfx).1⟩

/-! ### Sections that print a line for each key -/

theorem GroupLines.nil {P : PyVal × List β → PyVal × γ → Prop} : GroupLines [] P [] :=
  ⟨List.Pairwise.nil, nofun, nofun⟩

theorem GroupLines.imp {kvs : List (PyVal × β)} {P Q : PyVal × List β → PyVal × γ → Prop}
    {lines : List (PyVal × γ)} (h : GroupLines kvs P lines) (hPQ : ∀ p l, P p l → Q p l) :
    GroupLines kvs Q lines :=
  ⟨h.distinct, h.cover, fun l hl => hPQ _ _ (h.line l hl)⟩

theorem mapEach_pure (xs : List α) : mapEach (fun x => (pure x : Except PyExc α)) xs = .ok xs := by
  simpa using @mapEach_eq_map _ _ (fun x => (pure x : Except PyExc α)) id xs fun _ _ => rfl

/-- A computation over each element that succeeds computes, over each element, what
succeeds with any part of it. -/
theorem mapEach_map_of {f : α → Except PyExc β} {g : α → Except PyExc γ} {π : β → γ}
    {xs : List α} {ys : List β} (h : mapEach f xs = .ok ys)
    (hfg : ∀ x y, f x = .ok y → g x = .ok (π y)) : mapEach g xs = .ok (ys.map π) := by
  induction xs generalizing ys with
  | nil => cases h; rfl
  | cons x xs ih =>
    obtain ⟨y, hy, h⟩ := Except.bind_eq_ok.1 h
    obtain ⟨ys', hys, h⟩ := Except.bind_eq_ok.1 h
    cases h
    exact mapEach_cons_ok (hfg x y hy) (ih hys)

/-- `GroupsOf.lines` with what each line says of its group read off the line function. -/
theorem GroupsOf.lines_of {kvs : List (PyVal × β)} {d d' : List (PyVal × List β)}
    (hg : GroupsOf kvs d) (hp : d'.Perm d) {line : PyVal × List β → Except PyExc (PyVal × γ)}
    {lines : List (PyVal × γ)} (hl : mapEach line d' = .ok lines)
    {Q : PyVal × List β → PyVal × γ → Prop} (hline : ∀ p l, line p = .ok l → l.1 = p.1 ∧ Q p l) :
    GroupLines kvs Q lines :=
  (hg.lines hp hl fun p l h => (hline p l h).1).imp fun p l h => (hline p l h).2

/-- A section that groups its events by `key`, reorders the groups and prints a line for each,
keeping its key, prints a line for each key made of exactly the events of that key. -/
theorem groupLines_of_perm {key : PyVal → Except PyExc PyVal} {xs : List PyVal}
    {d d' : List (PyVal × List PyVal)} {line : PyVal × List PyVal → Except PyExc (PyVal × γ)}
    {lines : List (PyVal × γ)} {Q : PyVal × List PyVal → PyVal × γ → Prop}
    (hg : groupBy key pure xs = .ok d) (hp : d'.Perm d) (hl : mapEach line d' = .ok lines)
    (hline : ∀ p l, line p = .ok l → l.1 = p.1 ∧ Q p l) :
    ∃ ks, mapEach key xs = .ok ks ∧ GroupLines (ks.zip xs) Q lines := by
  obtain ⟨ks, vs, hks, hvs, hG⟩ := groupBy_spec hg
  rw [mapEach_pure] at hvs
  cases hvs
  exact ⟨ks, hks, hG.lines_of hp hl hline⟩

/-- The same, grouped by a field of the events. -/
theorem groupLines_of_perm_field {xs : List PyVal} {k : String} {dk : PyVal}
    {d d' : List (PyVal × List PyVal)} {line : PyVal × List PyVal → Except PyExc (PyVal × γ)}
    {lines : List (PyVal × γ)} {Q : PyVal × List PyVal → PyVal × γ → Prop}
    (hg : groupBy (·.get k dk) pure xs = .ok d) (hp : d'.Perm d) (hl : mapEach line d' = .ok lines)
    (hline : ∀ p l, line p = .ok l → l.1 = p.1 ∧ Q p l) :
    GroupLines ((xs.map (·.field k dk)).zip xs) Q lines := by
  obtain ⟨ks, hks, hG⟩ := groupLines_of_perm hg hp hl hline
  rwa [(mapEach_get_eq hks).1] at hG

theorem modeLine_key {p : PyVal × List PyVal} {l : PyVal × Nat × Int × Int}
    (h : modeLine p = .ok l) : l.1 = p.1 := by
  obtain ⟨_, -, h⟩ := Except.bind_mean_eq_ok h
  obtain ⟨_, -, h⟩ := Except.bind_eq_ok.1 h
  obtain ⟨_, -, h⟩ := Except.bind_mean_eq_ok h
  cases h
  rfl

/-- Section 6: a line for each mode of the graph updates, made of exactly the updates of that
mode. -/
theorem graphAnalysis_lines {events ups : List PyVal} {lines : List (PyVal × Nat × Int × Int)}
    (h : graphAnalysis events = .ok (ups, lines)) :
    ∃ ks, mapEach (modeOf "result" "metadata") ups = .ok ks ∧
      GroupLines (ks.zip ups) (fun p l => modeLine p = .ok l) lines := by
  obtain ⟨ups', -, h⟩ := Except.bind_eq_ok.1 h
  split_ifs at h with he
  · cases h
    rw [List.isEmpty_iff.1 he]
    exact ⟨[], rfl, .nil⟩
  · obtain ⟨modes, hm, h⟩ := Except.bind_eq_ok.1 h
    obtain ⟨sorted, hs, h⟩ := Except.bind_eq_ok.1 h
    obtain ⟨ls, hl, h⟩ := Except.bind_eq_ok.1 h
    cases h
    exact groupLines_of_perm hm (sortedItems_perm hs) hl fun _ _ h => ⟨modeLine_key h, h⟩

/-- The sums a line of section 7 prints of the events of its phase. -/
def WeightLine (p : PyVal × List PyVal) (l : PyVal × Nat × Int × Int × Int × Int) : Prop :=
  l.2.1 = p.2.length ∧ durationSum p.2 = .ok l.2.2.1 ∧
    resultSum "pools_updated" p.2 = .ok l.2.2.2.1 ∧
    resultSum "candidates_loaded" p.2 = .ok l.2.2.2.2.1 ∧
    resultSum "failed_validation" p.2 = .ok l.2.2.2.2.2

/-- Section 7: a line for each phase of the weight refresh events, with the sums of exactly
the events of that phase. -/
theorem weightAnalysis_lines {events evs : List PyVal}
    {lines : List (PyVal × Nat × Int × Int × Int × Int)}
    (h : weightAnalysis events = .ok (evs, lines)) :
    GroupLines ((evs.map (·.field "phase" (.str "unknown"))).zip evs) WeightLine lines := by
  obtain ⟨evs', -, h⟩ := Except.bind_eq_ok.1 h
  split_ifs at h with he
  · cases h
    rw [List.isEmpty_iff.1 he]
    exact .nil
  · obtain ⟨byPhase, hb, h⟩ := Except.bind_eq_ok.1 h
    obtain ⟨sorted, hs, h⟩ := Except.bind_eq_ok.1 h
    obtain ⟨ls, hl, h⟩ := Except.bind_eq_ok.1 h
    cases h
    refine groupLines_of_perm_field hb (sortedItems_perm hs) hl fun ⟨k, es⟩ l hl => ?_
    obtain ⟨ds, hds, hl⟩ := Except.bind_mean_eq_ok hl
    obtain ⟨rs, hrs, hl⟩ := Except.bind_eq_ok.1 hl
    obtain ⟨pools, hpools, hl⟩ := Except.bind_mean_eq_ok hl
    obtain ⟨cands, hcands, hl⟩ := Except.bind_mean_eq_ok hl
    obtain ⟨failed, hfailed, hl⟩ := Except.bind_mean_eq_ok hl
    cases hl
    have hpart : ∀ (π : PyVal × PyVal × PyVal → PyVal) (field : String),
        (∀ (e : PyVal) (y : PyVal × PyVal × PyVal), (do
          let result ← e.get "result" (.dict [])
          pure (← result.get "pools_updated" (.num 0), ← result.get "candidates_loaded" (.num 0),
            ← result.get "failed_validation" (.num 0)) : Except PyExc _) = .ok y →
          (do (← e.get "result" (.dict [])).get field (.num 0)) = .ok (π y)) →
        ∀ n, pySum (rs.map π) = .ok n → resultSum field es = .ok n :=
      fun π _ hπ _ hn => Except.bind_eq_ok.2 ⟨_, mapEach_map_of hrs hπ, hn⟩
    refine ⟨rfl, rfl, hds, hpart _ _ (fun e y hy => ?_) _ hpools,
      hpart _ _ (fun e y hy => ?_) _ hcands, hpart _ _ (fun e y hy => ?_) _ hfailed⟩ <;>
    · obtain ⟨result, hr, hy⟩ := Except.bind_eq_ok.1 hy
      obtain ⟨a, ha, hy⟩ := Except.bind_eq_ok.1 hy
      obtain ⟨b, hb, hy⟩ := Except.bind_eq_ok.1 hy
      obtain ⟨c, hc, hy⟩ := Except.bind_eq_ok.1 hy
      cases hy
      exact Except.bind_eq_ok.2 ⟨_, hr, by assumption⟩

/-- The sums a line of section 8 prints of the events of its phase. -/
def HotPoolLine (p : PyVal × List PyVal) (l : PyVal × Nat × Int × Int) : Prop :=
  l.2.1 = p.2.length ∧ durationSum p.2 = .ok l.2.2.1 ∧ resultSum "weights_count" p.2 = .ok l.2.2.2

/-- Section 8: a line for each phase of the hot pool manager's updates, with the sums of
exactly the updates of that phase. -/
theorem hotPoolAnalysis_lines {events : List PyVal} {lines : List (PyVal × Nat × Int × Int)}
    (h : hotPoolAnalysis events = .ok lines) :
    ∃ evs, keepIf (fun e => andThen (hotPoolPhase e) (hasType e "PhaseEnd")) events = .ok evs ∧
      GroupLines ((evs.map (·.field "phase" (.str "unknown"))).zip evs) HotPoolLine lines := by
  obtain ⟨evs, hevs, h⟩ := Except.bind_eq_ok.1 h
  refine ⟨evs, hevs, ?_⟩
  split_ifs at h with he
  · cases h
    rw [List.isEmpty_iff.1 he]
    exact .nil
  · obtain ⟨byPhase, hb, h⟩ := Except.bind_eq_ok.1 h
    obtain ⟨sorted, hs, hl⟩ := Except.bind_eq_ok.1 h
    refine groupLines_of_perm_field hb (sortedItems_perm hs) hl fun ⟨k, es⟩ l hl => ?_
    obtain ⟨ds, hds, hl⟩ := Except.bind_mean_eq_ok hl
    obtain ⟨ws, hws, hl⟩ := Except.bind_mean_eq_ok hl
    cases hl
    exact ⟨rfl, rfl, hds, hws⟩

/-- What a line of section 4 prints of an endpoint: the durations of its calls and their
sum. -/
def EndpointLine (p : PyVal × List PyVal) (l : PyVal × List PyVal × Int) : Prop :=
  l.2.1 = p.2 ∧ pySum p.2 = .ok l.2.2

/-- Section 4: a line for each endpoint of the RPC calls, with the durations of exactly the
calls to it, the endpoints with the most calls first. -/
theorem rpcAnalysis_lines {events calls : List PyVal} {rep : RpcReport}
    (h : rpcAnalysis events = .ok (calls, some rep)) :
    GroupLines ((calls.map (·.field "endpoint" (.str "unknown"))).zip
        (calls.map (·.field "duration_ms" (.num 0)))) EndpointLine rep.endpoints ∧
      (rep.endpoints.map (·.2.1.length)).Sorted (· ≥ ·) := by
  obtain ⟨calls', -, h⟩ := Except.bind_eq_ok.1 h
  obtain ⟨o, -, h⟩ := Except.bind_eq_ok.1 h
  rcases o with _ | stats
  · cases h
  obtain ⟨eps, heps, h⟩ := Except.bind_eq_ok.1 h
  obtain ⟨ls, hls, h⟩ := Except.bind_eq_ok.1 h
  cases h
  obtain ⟨ks, ds, hks, hds, hG⟩ := groupBy_spec heps
  rw [(mapEach_get_eq hks).1, (mapEach_get_eq hds).1] at hG
  have hline : ∀ (p : PyVal × List PyVal) l,
      (match p with
        | (ep, ds) => do
          let s ← pySum ds
          meanOf s ds.length
          pure (ep, ds, s) : Except PyExc _) = .ok l →
        l.1 = p.1 ∧ EndpointLine p l := fun ⟨ep, ds⟩ l hl => by
    obtain ⟨n, hn, hl⟩ := Except.bind_mean_eq_ok hl
    cases hl
    exact ⟨rfl, rfl, hn⟩
  let r : PyVal × List PyVal → PyVal × List PyVal → Prop := fun a b => b.2.length ≤ a.2.length
  haveI : IsTotal _ r := ⟨fun _ _ => le_total _ _⟩
  haveI : IsTrans _ r := ⟨fun _ _ _ h₁ h₂ => le_trans h₂ h₁⟩
  refine ⟨hG.lines_of (List.perm_insertionSort _ _) hls hline, ?_⟩
  rw [forall₂_map_eq (mapEach_forall₂ hls) (f := (·.2.length)) fun p l hl => by
    rw [(hline p l hl).2.1]]
  exact (List.sorted_insertionSort r eps).map _ fun _ _ h => h

/-- What sections 4, 6, 7 and 8 of a report say of the events: a line for each distinct key
of their events (the endpoint of an RPC call, the mode of a graph update, the phase of a
weight refresh or of a hot pool update), each made of exactly the events of that key, and no
event's key without its line; section 4 prints the endpoints with the most calls first. -/
structure SystemReport.Grouped (events : List PyVal) (r : SystemReport) : Prop where
  rpc : ∀ rep, r.rpc = some rep →
    GroupLines ((r.rpcCalls.map (·.field "endpoint" (.str "unknown"))).zip
      (r.rpcCalls.map (·.field "duration_ms" (.num 0)))) EndpointLine rep.endpoints ∧
    (rep.endpoints.map (·.2.1.length)).Sorted (· ≥ ·)
  graph : ∃ ks, mapEach (modeOf "result" "metadata") r.graphUpdates = .ok ks ∧
    GroupLines (ks.zip r.graphUpdates) (fun p l => modeLine p = .ok l) r.graph
  weight : GroupLines ((r.weightRefreshEvents.map (·.field "phase" (.str "unknown"))).zip
    r.weightRefreshEvents) WeightLine r.weight
  hotPool : ∃ evs, keepIf (fun e => andThen (hotPoolPhase e) (hasType e "PhaseEnd")) events = .ok evs ∧
    GroupLines ((evs.map (·.field "phase" (.str "unknown"))).zip evs) HotPoolLine r.hotPool

theorem analyzeEvents_grouped {events : List PyVal} {r : SystemReport}
    (h : analyzeEvents events = .ok r) : r.Grouped events := by
  obtain ⟨-, -, -, -, hr, -, hg, hw, hh, -⟩ := analyzeEvents_parts h
  exact ⟨fun rep hrep => rpcAnalysis_lines (hrep ▸ hr), graphAnalysis_lines hg,
    weightAnalysis_lines hw, hotPoolAnalysis_lines hh⟩

/-! ### Section 9 of the system analyzer -/

theorem le_getLast_of_sorted {l : List (α × Int)} (hl : l.Sorted fun x y => x.2 ≤ y.2)
    (hne : l ≠ []) : ∀ x ∈ l, x.2 ≤ (l.getLast hne).2 := by
  induction l with
  | nil => exact absurd rfl hne
  | cons a rest ih =>
    intro x hx
    cases rest with
    | nil =>
      rw [List.mem_singleton.1 hx]
      exact le_refl _
    | cons b rest =>
      rw [List.getLast_cons_cons]
      rcases List.mem_cons.1 hx with rfl | hx
      · exact List.rel_of_sorted_cons hl _ (List.getLast_mem _)
      · exact ih hl.of_cons (List.cons_ne_nil _ _) x hx

/-- The `ts` keys section 9 sorts by, when they are all numbers, are those of `tsKey`. -/
theorem zip_tsKey {events keys : List PyVal} {ts : List Int}
    (hkeys : mapEach (·.get "ts" (.num 0)) events = .ok keys)
    (hts : keys.mapM PyVal.asNum = some ts) : events.zip ts = events.map fun e => (e, tsKey e) := by
  rw [mapM_asNum_eq hts, (mapEach_get_eq hkeys).1, List.map_map]
  simpa using List.zip_map' id tsKey events

/-- What section 9 of a report says of the events: its first and last timestamps are the least
and the greatest `ts` of the events, each the `ts` of one of them. -/
structure Timeline.Bounds (events : List PyVal) (t : Timeline) : Prop where
  bounds : ∀ e ∈ events, t.firstTs ≤ tsKey e ∧ tsKey e ≤ t.lastTs
  first : ∃ e ∈ events, tsKey e = t.firstTs
  last : ∃ e ∈ events, tsKey e = t.lastTs

theorem timeline_bounds {events : List PyVal} {t : Timeline}
    (h : timeline events = .ok (some t)) : t.Bounds events := by
  obtain ⟨keys, hkeys, h⟩ := Except.bind_eq_ok.1 h
  split at h
  · cases h
  next ts hts =>
  rw [zip_tsKey hkeys hts] at h
  split at h
  · cases h
  next first rest hsort =>
  obtain ⟨_, -, h⟩ := Except.bind_eq_ok.1 h
  obtain ⟨_, -, h⟩ := Except.bind_eq_ok.1 h
  obtain ⟨_, -, h⟩ := Except.bind_eq_ok.1 h
  cases h
  let r : PyVal × Int → PyVal × Int → Prop := fun a b => a.2 ≤ b.2
  haveI : IsTotal _ r := ⟨fun _ _ => le_total _ _⟩
  haveI : IsTrans _ r := ⟨fun _ _ _ => le_trans⟩
  have hs : (first :: rest).Sorted r := hsort ▸ List.sorted_insertionSort r _
  have hmem : ∀ x, x ∈ first :: rest ↔ ∃ e ∈ events, (e, tsKey e) = x := fun x => by
    rw [← hsort, (List.perm_insertionSort _ _).mem_iff, List.mem_map]
  have hin : ∀ e ∈ events, (e, tsKey e) ∈ first :: rest := fun e he => (hmem _).2 ⟨e, he, rfl⟩
  refine ⟨fun e he => ⟨?_, le_getLast_of_sorted hs _ _ (hin e he)⟩, ?_, ?_⟩
  · rcases List.mem_cons.1 (hin e he) with hx | hx
    · exact hx ▸ le_refl _
    · exact List.rel_of_sorted_cons hs _ hx
  · obtain ⟨e, he, hx⟩ := (hmem first).1 (.head _)
    exact ⟨e, he, congrArg Prod.snd hx⟩
  · obtain ⟨e, he, hx⟩ := (hmem _).1 (List.getLast_mem _)
    exact ⟨e, he, congrArg Prod.snd hx⟩

/-! ### The blocks of the flight-recorder script -/

theorem mapEach_keyed {f : α → Except PyExc β} {xs : List α} {ys : List β} (key : β → PyVal)
    (h : mapEach f xs = .ok ys) :
    mapEach (fun x => (fun y => (key y, y)) <$> f x) xs = .ok (ys.map fun y => (key y, y)) :=
  mapEach_map_of h fun _ _ hy => by rw [hy]; rfl

/-- What a line of the weight refresh block prints of a phase: the number of its events and
the sum of their durations. -/
def RefreshCounts (p : PyVal × List PyVal) (l : PyVal × RefreshLine) : Prop :=
  l.2.count = p.2.length ∧ pySum p.2 = .ok l.2.durationSum

/-- The weight refresh block prints a line for each phase of the refresh events, counting and
summing the durations of exactly the events of that phase. -/
theorem refreshLines_lines {wr : List PyVal} {ls : List RefreshLine} (h : refreshLines wr = .ok ls) :
    GroupLines ((wr.map (·.field "phase" (.str "unknown"))).zip
      (wr.map (·.field "duration_ms" (.num 0)))) RefreshCounts (ls.map fun l => (l.phase, l)) := by
  obtain ⟨phases, hp, hl⟩ := Except.bind_eq_ok.1 h
  obtain ⟨ks, ds, hks, hds, hG⟩ := groupBy_spec hp
  rw [(mapEach_get_eq hks).1, (mapEach_get_eq hds).1] at hG
  refine hG.lines_of (.refl _) (mapEach_keyed RefreshLine.phase hl) fun ⟨k, ds⟩ l hl => ?_
  obtain ⟨a, ha, rfl⟩ := Except.exists_of_map_eq_ok hl
  obtain ⟨s, hs, ha⟩ := Except.bind_mean_eq_ok ha
  obtain ⟨_, -, ha⟩ := Except.bind_eq_ok.1 ha
  obtain ⟨_, -, ha⟩ := Except.bind_eq_ok.1 ha
  cases ha
  exact ⟨rfl, rfl, hs⟩

/-- What the report of the flight-recorder script says of the events: each event type once
with the number of events of that type, the counts adding up to the number of events; a line
for each phase of the weight refresh events and for each mode of the graph updates, each made
of exactly the events of that key, and no event's key without its line; and a cache block that
counts exactly the cache events, its hits and misses together at most its total. -/
structure RecorderReport.Accounts (events : List PyVal) (r : RecorderReport) : Prop where
  types : CountsOf (events.map (·.field "type" (.str "unknown"))) r.eventTypes
  refresh : GroupLines ((r.weightRefreshEvents.map (·.field "phase" (.str "unknown"))).zip
      (r.weightRefreshEvents.map (·.field "duration_ms" (.num 0)))) RefreshCounts
    (r.refresh.map fun l => (l.phase, l))
  graph : ∃ ks, mapEach (modeOf "metadata" "result") r.graphUpdates = .ok ks ∧
    GroupLines (ks.zip r.graphUpdates) (fun p l => modeLine p = .ok l) r.graph
  cacheEvents : r.cacheEvents = events.filter fun e => (e.field "type" .none).eqStr "CacheEvent"
  cache : ∀ c, r.cache = some c → c.total = r.cacheEvents.length ∧ c.hits + c.misses ≤ c.total

theorem analyzeRecorderEvents_accounts {events : List PyVal} {r : RecorderReport}
    (h : analyzeRecorderEvents events = .ok r) : r.Accounts events := by
  obtain ⟨-, ht, -, hrf, -, ⟨modes, hm, hg⟩, hc, -⟩ := analyzeRecorderEvents_parts h
  obtain ⟨ks, hks, hC⟩ := countBy_spec ht
  refine ⟨(mapEach_get_eq hks).1 ▸ hC, refreshLines_lines hrf,
    groupLines_of_perm hm (.refl _) hg fun _ _ h => ⟨modeLine_key h, h⟩,
    (cacheAnalysis_spec hc).1, fun s hs => ?_⟩
  rw [hs] at hc
  exact ⟨(cacheStats_of hc).1, (cacheStats_of hc).2.2⟩

/-! ### The reports of the two scripts -/

/-- Events of each kind the analyzers report on, as the recorder writes them: a discovery
cycle, a graph update, a cache hit and an RPC call. -/
def sampleEvents : List PyVal :=
  [.dict [("type", .str "PhaseStart"), ("phase", .str "discovery_cycle"), ("ts", .num 1)],
    .dict [("type", .str "PhaseEnd"), ("phase", .str "discovery_cycle"), ("ts", .num 2),
      ("duration_ms", .num 40), ("result", .dict [("pools_discovered", .num 3)])],
    .dict [("type", .str "PhaseEnd"), ("phase", .str "graph_updates"), ("ts", .num 3),
      ("duration_ms", .num 10), ("result", .dict [("mode", .str "full"), ("pools_updated", .num 5)])],
    .dict [("type", .str "CacheEvent"), ("event_type", .str "hit"), ("ts", .num 4)],
    .dict [("type", .str "RpcCall"), ("endpoint", .str "eth_call"), ("duration_ms", .num 7),
      ("success", .bool true), ("ts", .num 5)]]

/-- A benchmark file of those events, a blank line among them. -/
def sampleFile : List Line := .blank :: sampleEvents.map .json

/-- Sections 1, 3 and 10 of `analyze_system_interactions` count the events of every file. -/
theorem analyzeSystemInteractions_counts {benchmarks logs : List (String × Option (List Line))}
    {r : SystemReport} (h : analyzeSystemInteractions benchmarks logs = .ok (.report r)) :
    r.Counts ((newestFirst benchmarks ++ newestFirst logs).flatMap fun f => loadEvents f.2) :=
  analyzeEvents_counts (analyzeEvents_of_report h)

theorem analyzeSystemInteractions_counts_sample :
    ∃ r, analyzeSystemInteractions [(eventsFilePath, some sampleFile)] [] = .ok (.report r) ∧
      r.Counts sampleEvents :=
  ⟨_, rfl, @analyzeSystemInteractions_counts [(eventsFilePath, some sampleFile)] [] _ rfl⟩

/-- Section 2 of `analyze_system_interactions` tallies the phases of the events of every
file. -/
theorem analyzeSystemInteractions_phase_lines {benchmarks logs : List (String × Option (List Line))}
    {r : SystemReport} (h : analyzeSystemInteractions benchmarks logs = .ok (.report r)) :
    r.phases.Tallies ((newestFirst benchmarks ++ newestFirst logs).flatMap fun f => loadEvents f.2) :=
  phaseAnalysis_tallies (analyzeEvents_parts (analyzeEvents_of_report h)).2.2.1

theorem analyzeSystemInteractions_phase_lines_sample :
    ∃ r, analyzeSystemInteractions [(eventsFilePath, some sampleFile)] [] = .ok (.report r) ∧
      r.phases.Tallies sampleEvents :=
  ⟨_, rfl, @analyzeSystemInteractions_phase_lines [(eventsFilePath, some sampleFile)] [] _ rfl⟩

/-- Sections 4, 6, 7 and 8 of `analyze_system_interactions` print a line for each key of
their events among those of every file. -/
theorem analyzeSystemInteractions_grouped_lines {benchmarks logs : List (String × Option (List Line))}
    {r : SystemReport} (h : analyzeSystemInteractions benchmarks logs = .ok (.report r)) :
    r.Grouped ((newestFirst benchmarks ++ newestFirst logs).flatMap fun f => loadEvents f.2) :=
  analyzeEvents_grouped (analyzeEvents_of_report h)

theorem analyzeSystemInteractions_grouped_lines_sample :
    ∃ r, analyzeSystemInteractions [(eventsFilePath, some sampleFile)] [] = .ok (.report r) ∧
      r.Grouped sampleEvents :=
  ⟨_, rfl, @analyzeSystemInteractions_grouped_lines [(eventsFilePath, some sampleFile)] [] _ rfl⟩

/-- Section 9 of `analyze_system_interactions` prints the least and the greatest `ts` of the
events of every file. -/
theorem analyzeSystemInteractions_timeline {benchmarks logs : List (String × Option (List Line))}
    {r : SystemReport} (h : analyzeSystemInteractions benchmarks logs = .ok (.report r)) :
    ∀ t, r.timeline = some t →
      t.Bounds ((newestFirst benchmarks ++ newestFirst logs).flatMap fun f => loadEvents f.2) :=
  fun _ ht => timeline_bounds (ht ▸ (analyzeEvents_parts (analyzeEvents_of_report h)).2.2.2.2.2.2.2.2.2.1)

theorem analyzeSystemInteractions_timeline_sample :
    ∃ r, analyzeSystemInteractions [(eventsFilePath, some sampleFile)] [] = .ok (.report r) ∧
      ∀ t, r.timeline = some t → t.Bounds sampleEvents :=
  ⟨_, rfl, @analyzeSystemInteractions_timeline [(eventsFilePath, some sampleFile)] [] _ rfl⟩

/-- The blocks of `analyze_flight_recorder` account for the events of the newest benchmark
file. -/
theorem analyzeFlightRecorder_accounts {benchmarks : List (String × List Line)}
    {r : RecorderReport} (h : analyzeFlightRecorder benchmarks = .ok (.report r)) :
    ∃ f ∈ (newestFirst benchmarks).head?, r.Accounts (f.2.filterMap Line.event) :=
  have ⟨f, hf, _, h⟩ := analyzeRecorderEvents_of_report h
  ⟨f, hf, analyzeRecorderEvents_accounts h⟩

theorem analyzeFlightRecorder_accounts_sample :
    ∃ r, analyzeFlightRecorder [(eventsFilePath, sampleFile)] = .ok (.report r) ∧
      ∃ f ∈ (newestFirst [(eventsFilePath, sampleFile)]).head?, r.Accounts (f.2.filterMap Line.event) :=
  ⟨_, rfl, analyzeFlightRecorder_accounts rfl⟩

end MigSdkExport.FlightRecorder
