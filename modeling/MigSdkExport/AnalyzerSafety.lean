import MigSdkExport.FlightRecorder

/-! When the two analyzers raise nothing. The scripts read the fields of an event with `.get`
and a default, and use what they read as a string, a number or an object, and they divide sums
of numbers by their counts. On events whose fields are absent or of those types, the numbers
ones a float can hold, every section of both scripts runs to its end: an average of such
numbers is one too. Each piece of the scripts has a lemma that it raises nothing, with what the
pieces after it need of its result, and the two scripts are assembled from those lemmas. -/
namespace MigSdkExport.FlightRecorder

/-! ### The shape of an event -/

namespace PyVal

/-- A string. -/
def isStr (v : PyVal) : Bool := v.asStr.isSome

/-- A number of magnitude below `floatLimit`, the range of a float; a `bool` is one. -/
def isNum (v : PyVal) : Bool := v.asNum.any fun n => n.natAbs < floatLimit

/-- The field `k` of a dict is absent or passes `p`. A value that is no dict has no field. -/
def fieldIs (v : PyVal) (k : String) (p : PyVal → Bool) : Bool :=
  match v with
  | .dict items => (items.lookup k).all p
  | _ => false

/-- A `metadata` object: its `mode` is a string when it is there. -/
def isMetadata (v : PyVal) : Bool := v.fieldIs "mode" isStr

end PyVal

/-- The counts of a `result` that the scripts add up or compare with `0`. -/
def resultCounts : List String :=
  ["total_pools", "pools_updated", "total_updated", "pools_discovered", "pools_validated",
    "candidates_loaded", "failed_validation", "weights_count"]

/-- A `result` object: its `mode` is a string and its counts are numbers, when they are
there. -/
def PyVal.isResult (v : PyVal) : Bool :=
  v.isMetadata && resultCounts.all fun k => v.fieldIs k PyVal.isNum

/-- An event as the recorder writes it: an object each field of which that the analyzers read
is absent or of the type they use it as. `success` is only tested for truth and may be
anything. -/
structure EventShape (e : PyVal) : Prop where
  type : e.fieldIs "type" PyVal.isStr = true
  phase : e.fieldIs "phase" PyVal.isStr = true
  eventType : e.fieldIs "event_type" PyVal.isStr = true
  endpoint : e.fieldIs "endpoint" PyVal.isStr = true
  durationMs : e.fieldIs "duration_ms" PyVal.isNum = true
  ts : e.fieldIs "ts" PyVal.isNum = true
  result : e.fieldIs "result" PyVal.isResult = true
  metadata : e.fieldIs "metadata" PyVal.isMetadata = true

instance (e : PyVal) : Decidable (EventShape e) :=
  decidable_of_iff (e.fieldIs "type" PyVal.isStr = true ∧ e.fieldIs "phase" PyVal.isStr = true ∧
      e.fieldIs "event_type" PyVal.isStr = true ∧ e.fieldIs "endpoint" PyVal.isStr = true ∧
      e.fieldIs "duration_ms" PyVal.isNum = true ∧ e.fieldIs "ts" PyVal.isNum = true ∧
      e.fieldIs "result" PyVal.isResult = true ∧ e.fieldIs "metadata" PyVal.isMetadata = true)
    ⟨fun ⟨h₁, h₂, h₃, h₄, h₅, h₆, h₇, h₈⟩ => ⟨h₁, h₂, h₃, h₄, h₅, h₆, h₇, h₈⟩,
      fun h => ⟨h.1, h.2, h.3, h.4, h.5, h.6, h.7, h.8⟩⟩

/-! ### Values -/

section Values

variable {β : Type} {v : PyVal} {k : String} {p : PyVal → Bool}

theorem PyVal.isStr_iff : v.isStr = true ↔ ∃ s, v = .str s := by
  cases v <;> simp [PyVal.isStr, PyVal.asStr]

theorem PyVal.isNum_iff : v.isNum = true ↔ ∃ n, v.asNum = some n ∧ n.natAbs < floatLimit := by
  unfold PyVal.isNum
  cases v.asNum <;> simp

theorem PyVal.hashable_of_isStr (h : v.isStr = true) : v.hashable = true := by
  obtain ⟨s, rfl⟩ := PyVal.isStr_iff.1 h
  rfl

theorem PyVal.isDict_of_fieldIs (h : v.fieldIs k p = true) : v.IsDict := by
  cases v <;> first | exact ⟨_, rfl⟩ | cases h

/-- A field read with a default passes the test, or is the default. -/
theorem PyVal.field_of_fieldIs (h : v.fieldIs k p = true) (d : PyVal) :
    p (v.field k d) = true ∨ v.field k d = d := by
  obtain ⟨items, rfl⟩ := PyVal.isDict_of_fieldIs h
  simp only [PyVal.fieldIs] at h
  simp only [PyVal.field]
  cases hl : items.lookup k with
  | none => exact .inr rfl
  | some x => exact .inl (by simpa [hl] using h)

theorem PyVal.field_of_default (h : v.fieldIs k p = true) {d : PyVal} (hd : p d = true) :
    p (v.field k d) = true :=
  (PyVal.field_of_fieldIs h d).elim id fun he => by rw [he]; exact hd

theorem PyVal.field_of_hasField (h : v.fieldIs k p = true) (hk : v.hasField k = true)
    (d : PyVal) : p (v.field k d) = true := by
  obtain ⟨items, rfl⟩ := PyVal.isDict_of_fieldIs h
  obtain ⟨x, hx⟩ := Option.isSome_iff_exists.1 hk
  simpa [PyVal.fieldIs, PyVal.field, hx] using h

theorem PyVal.isMetadata_of_isResult (h : v.isResult = true) : v.isMetadata = true :=
  (Bool.and_eq_true_iff.1 h).1

theorem PyVal.isDict_of_isResult (h : v.isResult = true) : v.IsDict :=
  PyVal.isDict_of_fieldIs (PyVal.isMetadata_of_isResult h)

theorem PyVal.count_of_isResult (h : v.isResult = true) (hk : k ∈ resultCounts) :
    v.fieldIs k PyVal.isNum = true :=
  List.all_eq_true.1 (Bool.and_eq_true_iff.1 h).2 k hk

/-- A true value read from a field that is absent or passes the test passes it. -/
theorem PyVal.of_truthy {q : PyVal → Bool} {a : PyVal} (ha : q a = true ∨ a = .none)
    (ht : a.truthy = true) : q a = true := by
  rcases ha with ha | rfl
  · exact ha
  · cases ht

theorem PyVal.or_of {q : PyVal → Bool} {a b : PyVal} (ha : q a = true ∨ a = .none)
    (hb : q b = true) : q (a.or b) = true := by
  unfold PyVal.or
  split_ifs with ht
  exacts [PyVal.of_truthy ha ht, hb]

theorem PyVal.map_get_ok (h : v.IsDict) (g : PyVal → β) (k : String) (d : PyVal) :
    ∃ b, g <$> v.get k d = .ok b := by
  obtain ⟨items, rfl⟩ := h
  exact ⟨_, rfl⟩

theorem PyVal.contains_of_isDict (h : v.IsDict) (k : String) :
    v.contains k = .ok (v.hasField k) := by
  obtain ⟨items, rfl⟩ := h
  rfl

theorem PyVal.gtZero_ok (h : v.isNum = true) : ∃ b, v.gtZero = .ok b := by
  obtain ⟨n, hn, -⟩ := PyVal.isNum_iff.1 h
  simp only [PyVal.gtZero, hn]
  exact ⟨_, rfl⟩

end Values

/-! ### Loops and dicts -/

section Loops

variable {ε α β : Type}

@[simp] theorem Except.ok_bind (a : α) (f : α → Except ε β) : (Except.ok a >>= f) = f a := rfl

theorem Except.bind_ok {x : Except ε α} {f : α → Except ε β} (hx : ∃ a, x = .ok a)
    (hf : ∀ a, ∃ b, f a = .ok b) : ∃ b, x >>= f = .ok b := by
  obtain ⟨a, ha⟩ := hx
  obtain ⟨b, hb⟩ := hf a
  exact ⟨b, Except.bind_eq_ok.2 ⟨a, ha, hb⟩⟩

/-- A bind raises nothing when its first computation returns a value with `P` and the rest
raises nothing on such a value. -/
theorem Except.bind_ok_of {x : Except ε α} {f : α → Except ε β} {P : α → Prop}
    (hx : ∃ a, x = .ok a ∧ P a) (hf : ∀ a, P a → ∃ b, f a = .ok b) : ∃ b, x >>= f = .ok b := by
  obtain ⟨a, ha, hP⟩ := hx
  obtain ⟨b, hb⟩ := hf a hP
  exact ⟨b, Except.bind_eq_ok.2 ⟨a, ha, hb⟩⟩

theorem Except.map_ok_of {x : Except ε α} {g : α → β} (hx : ∃ a, x = .ok a) :
    ∃ b, g <$> x = .ok b := by
  obtain ⟨a, rfl⟩ := hx
  exact ⟨_, rfl⟩

/-- A loop raises nothing when each step, from a state with the invariant, raises nothing and
keeps it. -/
theorem foldlM_ok {f : β → α → Except PyExc β} (I : β → Prop) {P : α → Prop}
    (hf : ∀ b x, I b → P x → ∃ b', f b x = .ok b' ∧ I b') :
    ∀ {xs : List α} {b : β}, (∀ x ∈ xs, P x) → I b → ∃ b', xs.foldlM f b = .ok b' ∧ I b'
  | [], b, _, hb => ⟨b, rfl, hb⟩
  | x :: xs, b, hxs, hb => by
    obtain ⟨b', hx, hb'⟩ := hf b x hb (hxs x (.head _))
    obtain ⟨c, hc, hI⟩ := foldlM_ok I hf (fun y hy => hxs y (.tail _ hy)) hb'
    exact ⟨c, Except.bind_eq_ok.2 ⟨b', hx, hc⟩, hI⟩

theorem keepIf_ok {p : α → Except PyExc Bool} {xs : List α} (h : ∀ x ∈ xs, ∃ b, p x = .ok b) :
    ∃ ys, keepIf p xs = .ok ys ∧ ∀ y ∈ ys, y ∈ xs := by
  induction xs with
  | nil => exact ⟨[], rfl, fun _ h => nomatch h⟩
  | cons x xs ih =>
    obtain ⟨b, hb⟩ := h x (.head _)
    obtain ⟨ys, hys, -⟩ := ih fun y hy => h y (.tail _ hy)
    have hk : keepIf p (x :: xs) = .ok (if b then x :: ys else ys) :=
      Except.bind_eq_ok.2 ⟨b, hb, Except.bind_eq_ok.2 ⟨ys, hys, rfl⟩⟩
    exact ⟨_, hk, fun y hy => (mem_of_keepIf hk hy).1⟩

theorem mapEach_ok_and {f : α → Except PyExc β} (Q : β → Prop) {xs : List α}
    (h : ∀ x ∈ xs, ∃ y, f x = .ok y ∧ Q y) : ∃ ys, mapEach f xs = .ok ys ∧ ∀ y ∈ ys, Q y := by
  induction xs with
  | nil => exact ⟨[], rfl, fun _ h => nomatch h⟩
  | cons x xs ih =>
    obtain ⟨y, hy, hQ⟩ := h x (.head _)
    obtain ⟨ys, hys, hQs⟩ := ih fun z hz => h z (.tail _ hz)
    exact ⟨y :: ys, Except.bind_eq_ok.2 ⟨y, hy, Except.bind_eq_ok.2 ⟨ys, hys, rfl⟩⟩,
      List.forall_mem_cons.2 ⟨hQ, hQs⟩⟩

theorem mapEach_ok {f : α → Except PyExc β} {xs : List α} (h : ∀ x ∈ xs, ∃ y, f x = .ok y) :
    ∃ ys, mapEach f xs = .ok ys :=
  (mapEach_ok_and (fun _ => True) fun x hx => (h x hx).imp fun _ h => ⟨h, trivial⟩).imp
    fun _ h => h.1

theorem mapEach_length {f : α → Except PyExc β} :
    ∀ {xs : List α} {ys : List β}, mapEach f xs = .ok ys → ys.length = xs.length
  | [], _, h => by cases h; rfl
  | _ :: _, _, h => by
    obtain ⟨_, -, h⟩ := Except.bind_eq_ok.1 h
    obtain ⟨_, hys, h⟩ := Except.bind_eq_ok.1 h
    cases h
    exact congrArg Nat.succ (mapEach_length hys)

/-- The sum of numbers a float can hold is at most their count times the largest. -/
theorem pySum_bound :
    ∀ {vs : List PyVal}, (∀ v ∈ vs, v.isNum = true) →
      ∃ s, pySum vs = .ok s ∧ s.natAbs ≤ vs.length * (floatLimit - 1)
  | [], _ => ⟨0, rfl, Nat.zero_le _⟩
  | v :: vs, h => by
    obtain ⟨n, hn, hb⟩ := PyVal.isNum_iff.1 (h v (.head _))
    obtain ⟨s, hs, hsb⟩ := pySum_bound fun w hw => h w (.tail _ hw)
    refine ⟨n + s, by simp only [pySum, hn, hs]; rfl, ?_⟩
    have := Int.natAbs_add_le n s
    rw [List.length_cons, Nat.succ_mul]
    omega

theorem floatLimit_pos : 0 < floatLimit := by decide

/-- `sum(vs) / len(vs) if vs else 0` raises nothing on numbers a float can hold. -/
theorem pySum_ok {vs : List PyVal} (h : ∀ v ∈ vs, v.isNum = true) :
    ∃ s, pySum vs = .ok s ∧ meanOf s vs.length = .ok () :=
  (pySum_bound h).imp fun _ hs => ⟨hs.1, meanOf_of_le (Nat.sub_one_lt floatLimit_pos.ne') hs.2⟩

/-- The same for a field of each of a list of records. -/
theorem pySum_map_ok {γ : Type} {ys : List γ} (π : γ → PyVal) (h : ∀ y ∈ ys, (π y).isNum = true) :
    ∃ s, pySum (ys.map π) = .ok s ∧ meanOf s ys.length = .ok () :=
  List.length_map ys π ▸ pySum_ok (List.forall_mem_map.2 h)

/-- A sum followed by its average raises nothing when the average does not. -/
theorem Except.bind_mean_ok {γ : Type} {x : Except PyExc Int} {n : Nat} {f : Int → Except PyExc γ}
    (hx : ∃ s, x = .ok s ∧ meanOf s n = .ok ()) (hf : ∀ s, ∃ c, f s = .ok c) :
    ∃ c, (x >>= fun s => meanOf s n >>= fun _ => f s) = .ok c :=
  Except.bind_ok_of hx fun _ hm => Except.bind_ok ⟨_, hm⟩ fun _ => hf _

theorem mapM_asNum_ok :
    ∀ {vs : List PyVal}, (∀ v ∈ vs, v.isNum = true) →
      ∃ ts, vs.mapM PyVal.asNum = some ts ∧ ∀ t ∈ ts, t.natAbs < floatLimit
  | [], _ => ⟨[], rfl, nofun⟩
  | v :: vs, h => by
    obtain ⟨n, hn, hb⟩ := PyVal.isNum_iff.1 (h v (.head _))
    obtain ⟨ts, hts, htb⟩ := mapM_asNum_ok fun w hw => h w (.tail _ hw)
    exact ⟨n :: ts, by rw [List.mapM_cons, hn, hts]; rfl, List.forall_mem_cons.2 ⟨hb, htb⟩⟩

theorem countPairs_ok {test : PyVal → PyVal → Except PyExc Bool} (P : PyVal → Prop)
    (ht : ∀ x y, P x → P y → ∃ b, test x y = .ok b) :
    ∀ {xs : List PyVal}, (∀ x ∈ xs, P x) → ∃ n, countPairs test xs = .ok n
  | [], _ => ⟨0, rfl⟩
  | [_], _ => ⟨0, rfl⟩
  | x :: y :: rest, h => by
    obtain ⟨b, hb⟩ := ht x y (h x (.head _)) (h y (.tail _ (.head _)))
    obtain ⟨n, hn⟩ := countPairs_ok P ht (fun z hz => h z (.tail _ hz) : ∀ z ∈ y :: rest, P z)
    exact ⟨_, Except.bind_eq_ok.2 ⟨b, hb, Except.bind_eq_ok.2 ⟨n, hn, rfl⟩⟩⟩

theorem andThen_ok {a c : Except PyExc Bool} (ha : ∃ b, a = .ok b) (hc : ∃ b, c = .ok b) :
    ∃ b, andThen a c = .ok b := by
  obtain ⟨x, rfl⟩ := ha
  obtain ⟨y, rfl⟩ := hc
  cases x <;> exact ⟨_, rfl⟩

theorem discoveryThenGraph_ok {e₁ e₂ : PyVal} (h₁ : e₁.IsDict) (h₂ : e₂.IsDict) :
    ∃ b, discoveryThenGraph e₁ e₂ = .ok b :=
  andThen_ok (PyVal.map_get_ok h₁ _ _ _) (andThen_ok (PyVal.map_get_ok h₁ _ _ _)
    (andThen_ok (PyVal.map_get_ok h₂ _ _ _) (PyVal.map_get_ok h₂ _ _ _)))

end Loops

section Dicts

variable {β : Type} {k : PyVal} {init : β} {f : β → β}

/-- Every key of a dict passes `P` and every value `Q`. -/
def DictAll (P : PyVal → Prop) (Q : β → Prop) (d : List (PyVal × β)) : Prop :=
  ∀ e ∈ d, P e.1 ∧ Q e.2

theorem update_ok {d : List (PyVal × β)} (hk : k.hashable = true) :
    update d k init f = .ok (modifyAt k init f d) :=
  if_pos hk

/-- `modifyAt` keeps a property of the keys that the new key has, and a property of the
values that `init` has and `f` keeps. -/
theorem DictAll.modifyAt {P : PyVal → Prop} {Q : β → Prop} (hk : P k) (hinit : Q init)
    (hf : ∀ b, Q b → Q (f b)) :
    ∀ {d : List (PyVal × β)}, DictAll P Q d → DictAll P Q (modifyAt k init f d)
  | [], _ => List.forall_mem_singleton.2 ⟨hk, hf _ hinit⟩
  | (k', b) :: rest, hd => by
    rw [DictAll, List.forall_mem_cons] at hd
    unfold FlightRecorder.modifyAt
    split_ifs
    · exact List.forall_mem_cons.2 ⟨⟨hd.1.1, hf b hd.1.2⟩, hd.2⟩
    · exact List.forall_mem_cons.2 ⟨hd.1, DictAll.modifyAt hk hinit hf hd.2⟩

theorem DictAll.lookupKey {P : PyVal → Prop} {Q : β → Prop} {d : List (PyVal × β)}
    (hd : DictAll P Q d) (k : PyVal) {default : β} (h : Q default) :
    Q (FlightRecorder.lookupKey d k default) := by
  unfold FlightRecorder.lookupKey
  cases hf : d.find? fun e => e.1.keyEq k with
  | none => exact h
  | some e => exact (hd e (List.mem_of_find?_eq_some hf)).2

theorem sortedItems_ok {Q : β → Prop} {d : List (PyVal × β)}
    (h : DictAll (fun k => k.isStr = true) Q d) :
    ∃ d', sortedItems d = .ok d' ∧ DictAll (fun k => k.isStr = true) Q d' := by
  unfold sortedItems
  split_ifs with h₁ h₂ h₃
  · exact ⟨d, rfl, h⟩
  · exact ⟨_, rfl, fun e he => h e ((List.mem_insertionSort _).1 he)⟩
  · exact ⟨_, rfl, fun e he => h e ((List.mem_insertionSort _).1 he)⟩
  · exact absurd (List.all_eq_true.2 fun e he => (h e he).1) h₃

theorem countBy_ok {key : PyVal → Except PyExc PyVal} {xs : List PyVal}
    (h : ∀ x ∈ xs, ∃ k, key x = .ok k ∧ k.hashable = true) : ∃ d, countBy key xs = .ok d := by
  obtain ⟨d, hd, -⟩ : ∃ d, countBy key xs = .ok d ∧ True :=
    foldlM_ok (fun _ => True) (fun d x _ ⟨k, hk, hh⟩ =>
      ⟨_, Except.bind_eq_ok.2 ⟨k, hk, update_ok hh⟩, trivial⟩) h trivial
  exact ⟨d, hd⟩

/-- A `defaultdict(list)` loop raises nothing when its keys and values do not, and its entries
have the properties of the keys and values it was given. -/
theorem groupBy_ok {key : PyVal → Except PyExc PyVal} {val : PyVal → Except PyExc β}
    (P : PyVal → Prop) (Q : β → Prop) {xs : List PyVal}
    (hk : ∀ x ∈ xs, ∃ k, key x = .ok k ∧ k.hashable = true ∧ P k)
    (hv : ∀ x ∈ xs, ∃ v, val x = .ok v ∧ Q v) :
    ∃ d, groupBy key val xs = .ok d ∧ DictAll P (fun vs => ∀ v ∈ vs, Q v) d :=
  foldlM_ok (DictAll P fun vs => ∀ v ∈ vs, Q v) (fun d x hd hx => by
    obtain ⟨k, hkx, hh, hP⟩ := hk x hx
    obtain ⟨v, hvx, hQ⟩ := hv x hx
    exact ⟨_, Except.bind_eq_ok.2 ⟨k, hkx, Except.bind_eq_ok.2 ⟨_, update_ok hh,
        Except.bind_eq_ok.2 ⟨v, hvx, rfl⟩⟩⟩,
      (hd.modifyAt hP (fun _ h => nomatch h) fun _ hb => hb).modifyAt hP (fun _ h => nomatch h)
        fun _ hb => List.forall_mem_append.2 ⟨hb, List.forall_mem_singleton.2 hQ⟩⟩)
    (fun _ hx => hx) fun _ h => nomatch h

theorem phasesMatching_ok (words : List String) {Q : PhaseGroup → Prop} :
    ∀ {d : List (PyVal × PhaseGroup)}, DictAll (fun k => k.isStr = true) Q d →
      ∃ ps, phasesMatching words d = .ok ps
  | [], _ => ⟨[], rfl⟩
  | (p, _) :: rest, h => by
    obtain ⟨s, rfl⟩ := PyVal.isStr_iff.1 (h _ (.head _)).1
    obtain ⟨ps, hps⟩ := phasesMatching_ok words fun e he => h e (.tail _ he)
    exact ⟨_, Except.bind_eq_ok.2 ⟨_, rfl, Except.bind_eq_ok.2 ⟨ps, hps, rfl⟩⟩⟩

end Dicts

/-! ### One event -/

namespace EventShape

variable {e : PyVal} (he : EventShape e)
include he

theorem isDict : e.IsDict := PyVal.isDict_of_fieldIs he.type

theorem get (k : String) (d : PyVal) : e.get k d = .ok (e.field k d) :=
  PyVal.get_of_isDict he.isDict k d

theorem result_isResult : (e.field "result" (.dict [])).isResult = true :=
  PyVal.field_of_default he.result (by rfl)

theorem details_isMetadata {k : String} (hk : k = "result" ∨ k = "metadata") :
    (e.field k (.dict [])).isMetadata = true := by
  rcases hk with rfl | rfl
  · exact PyVal.isMetadata_of_isResult he.result_isResult
  · exact PyVal.field_of_default he.metadata (by rfl)

/-- The mode of an update, looked for in `result` and `metadata` in either order, is a
string. -/
theorem modeOf_ok {first second : String} (h₁ : first = "result" ∨ first = "metadata")
    (h₂ : second = "result" ∨ second = "metadata") :
    ∃ m, modeOf first second e = .ok m ∧ m.isStr = true := by
  have m₁ := he.details_isMetadata h₁
  have m₂ := he.details_isMetadata h₂
  simp only [modeOf, he.get, PyVal.get_of_isDict (PyVal.isDict_of_fieldIs m₁),
    PyVal.get_of_isDict (PyVal.isDict_of_fieldIs m₂), Except.ok_bind]
  split_ifs with ht
  · exact ⟨_, rfl, PyVal.of_truthy (PyVal.field_of_fieldIs m₁ _) ht⟩
  · exact ⟨_, rfl, PyVal.or_of (PyVal.field_of_fieldIs m₂ _) rfl⟩

theorem updatedPools_ok : ∃ n, updatedPools e = .ok n ∧ n.isNum = true := by
  have hr := he.result_isResult
  simp only [updatedPools, he.get, PyVal.get_of_isDict (PyVal.isDict_of_isResult hr),
    Except.ok_bind]
  exact ⟨_, rfl, PyVal.or_of (PyVal.field_of_fieldIs (PyVal.count_of_isResult hr (by decide)) _)
    (PyVal.or_of (PyVal.field_of_fieldIs (PyVal.count_of_isResult hr (by decide)) _)
      (PyVal.or_of (PyVal.field_of_fieldIs (PyVal.count_of_isResult hr (by decide)) _) rfl))⟩

theorem poolsOf_ok : ∃ n, poolsOf e = .ok n ∧ n.isNum = true := by
  have hr := he.result_isResult
  simp only [poolsOf, he.get, PyVal.get_of_isDict (PyVal.isDict_of_isResult hr), Except.ok_bind]
  exact ⟨_, rfl, PyVal.field_of_default (PyVal.count_of_isResult hr (by decide))
    (PyVal.field_of_default (PyVal.count_of_isResult hr (by decide)) rfl)⟩

theorem hotPoolPhase_ok : ∃ b, hotPoolPhase e = .ok b := by
  obtain ⟨s, hs⟩ := PyVal.isStr_iff.1
    (PyVal.field_of_default he.phase (by rfl) : (e.field "phase" (.str "")).isStr = true)
  simp only [hotPoolPhase, he.get, hs, PyVal.lower, Except.ok_bind]
  exact ⟨_, rfl⟩

/-- The test of the flight-recorder script for a weight refresh event. -/
theorem isWeightRefreshEvent_ok : ∃ b, isWeightRefreshEvent e = .ok b := by
  refine Except.bind_ok (PyVal.map_get_ok he.isDict _ _ _) fun b => ?_
  split_ifs
  · exact ⟨_, rfl⟩
  refine andThen_ok (PyVal.map_get_ok he.isDict _ _ _) ?_
  have m₁ := he.details_isMetadata (.inr rfl)
  have m₂ := he.details_isMetadata (.inl rfl)
  simp only [he.get, PyVal.get_of_isDict (PyVal.isDict_of_fieldIs m₁),
    PyVal.get_of_isDict (PyVal.isDict_of_fieldIs m₂), Except.ok_bind]
  split_ifs
  · exact ⟨_, rfl⟩
  · exact ⟨_, rfl⟩

end EventShape

/-! ### The pieces both scripts use -/

section Pieces

variable {es : List PyVal}

theorem eventsOfType_ok (h : ∀ e ∈ es, e.IsDict) (t : String) :
    ∃ cs, eventsOfType es t = .ok cs ∧ ∀ e ∈ cs, e ∈ es :=
  keepIf_ok fun e he => PyVal.map_get_ok (h e he) _ _ _

theorem eventTypes_ok (h : ∀ e ∈ es, EventShape e) :
    ∃ d, countBy (·.get "type" (.str "unknown")) es = .ok d :=
  countBy_ok fun e he => ⟨_, (h e he).get _ _,
    PyVal.hashable_of_isStr (PyVal.field_of_default (h e he).type (by rfl))⟩

/-- A sum over the events of numbers each of them yields, and its average. -/
theorem sum_of_each_ok {g : PyVal → Except PyExc PyVal}
    (hg : ∀ e ∈ es, ∃ v, g e = .ok v ∧ v.isNum = true) :
    ∃ n, (do pySum (← mapEach g es)) = .ok n ∧ meanOf n es.length = .ok () := by
  obtain ⟨vs, hvs, hnum⟩ := mapEach_ok_and _ hg
  obtain ⟨n, hn, hm⟩ := pySum_ok hnum
  exact ⟨n, Except.bind_eq_ok.2 ⟨vs, hvs, hn⟩, mapEach_length hvs ▸ hm⟩

theorem durationSum_ok (h : ∀ e ∈ es, EventShape e) :
    ∃ n, durationSum es = .ok n ∧ meanOf n es.length = .ok () :=
  sum_of_each_ok fun e he =>
    ⟨_, (h e he).get "duration_ms" (.num 0), PyVal.field_of_default (h e he).durationMs (by rfl)⟩

theorem resultSum_ok (field : String) (hk : field ∈ resultCounts) (h : ∀ e ∈ es, EventShape e) :
    ∃ n, resultSum field es = .ok n ∧ meanOf n es.length = .ok () :=
  sum_of_each_ok fun e he =>
    have hr := (h e he).result_isResult
    ⟨_, Except.bind_eq_ok.2 ⟨_, (h e he).get "result" (.dict []),
      PyVal.get_of_isDict (PyVal.isDict_of_isResult hr) field (.num 0)⟩,
      PyVal.field_of_default (PyVal.count_of_isResult hr hk) (by rfl)⟩

theorem modeLine_ok {line : PyVal × List PyVal} (h : ∀ e ∈ line.2, EventShape e) :
    ∃ r, modeLine line = .ok r :=
  Except.bind_mean_ok (durationSum_ok h) fun _ =>
    Except.bind_ok_of (mapEach_ok_and (fun v => v.isNum = true) fun e he => (h e he).updatedPools_ok)
      fun _ hps => Except.bind_mean_ok (pySum_ok hps) fun _ => ⟨_, rfl⟩

/-- The lines of graph updates grouped by mode. -/
theorem modeLines_ok {d : List (PyVal × List PyVal)} {P : PyVal → Prop}
    (h : DictAll P (fun es => ∀ e ∈ es, EventShape e) d) : ∃ r, mapEach modeLine d = .ok r :=
  mapEach_ok fun x hx => modeLine_ok (h x hx).2

theorem rpcBlock_ok (h : ∀ e ∈ es, EventShape e) : ∃ o, rpcBlock es = .ok o := by
  unfold rpcBlock
  split_ifs
  · exact ⟨_, rfl⟩
  · refine Except.map_ok_of ?_
    refine Except.bind_ok_of (keepIf_ok fun e he => PyVal.map_get_ok (h e he).isDict _ _ _)
      fun _ _ => ?_
    refine Except.bind_ok_of (keepIf_ok fun e he => PyVal.map_get_ok (h e he).isDict _ _ _)
      fun _ _ => ?_
    exact Except.bind_mean_ok (durationSum_ok h) fun _ => ⟨_, rfl⟩

theorem cacheAnalysis_ok (h : ∀ e ∈ es, EventShape e) :
    ∃ r, cacheAnalysis es = .ok r ∧ ∀ e ∈ r.1, e ∈ es := by
  obtain ⟨cs, hcs, hsub⟩ := eventsOfType_ok (fun e he => (h e he).isDict) "CacheEvent"
  simp only [cacheAnalysis, hcs, Except.ok_bind]
  split_ifs
  · exact ⟨_, rfl, hsub⟩
  · obtain ⟨t, ht⟩ := countBy_ok fun e he =>
      ⟨_, (h e (hsub e he)).get "event_type" (.str "unknown"),
        PyVal.hashable_of_isStr (PyVal.field_of_default (h e (hsub e he)).eventType rfl)⟩
    rw [ht]
    exact ⟨_, rfl, hsub⟩

end Pieces

/-! ### `analyze_system_interactions` -/

section System

variable {events : List PyVal}

/-- Section 2 keeps of each phase its durations, numbers, and its end events, shaped. -/
def PhaseGroup.Shaped (g : PhaseGroup) : Prop :=
  (∀ d ∈ g.durations, d.isNum = true) ∧ ∀ e ∈ g.ends, EventShape e

/-- The phases of section 2: string names, shaped groups. -/
def PhasesShaped (phases : List (PyVal × PhaseGroup)) : Prop :=
  DictAll (fun k => k.isStr = true) PhaseGroup.Shaped phases

/-- One event of the loop of section 2 keeps the phases shaped. -/
theorem addPhaseEvent_ok {phases : List (PyVal × PhaseGroup)} {e : PyVal}
    (hp : PhasesShaped phases) (he : EventShape e) :
    ∃ phases', addPhaseEvent phases e = .ok phases' ∧ PhasesShaped phases' := by
  have hk : (e.field "phase" (.str "unknown")).isStr = true := PyVal.field_of_default he.phase (by rfl)
  have hempty : PhaseGroup.empty.Shaped := ⟨nofun, nofun⟩
  simp only [addPhaseEvent, he.get, update_ok (PyVal.hashable_of_isStr hk),
    PyVal.contains_of_isDict he.isDict, Except.ok_bind]
  split_ifs with _ _ hd
  · refine ⟨_, rfl, DictAll.modifyAt hk hempty (fun _ hg => ?_) hp⟩
    exact hg
  · refine ⟨_, rfl, DictAll.modifyAt hk hempty (fun _ hg => ?_)
      (DictAll.modifyAt hk hempty (fun _ hg => ?_) hp)⟩
    · exact ⟨List.forall_mem_append.2
        ⟨hg.1, List.forall_mem_singleton.2 (PyVal.field_of_hasField he.durationMs hd _)⟩, hg.2⟩
    · exact ⟨hg.1, List.forall_mem_append.2 ⟨hg.2, List.forall_mem_singleton.2 he⟩⟩
  · refine ⟨_, rfl, DictAll.modifyAt hk hempty (fun _ hg => ?_) hp⟩
    exact ⟨hg.1, List.forall_mem_append.2 ⟨hg.2, List.forall_mem_singleton.2 he⟩⟩
  · exact ⟨_, rfl, hp⟩

theorem PhasesShaped.group {phases : List (PyVal × PhaseGroup)} (hp : PhasesShaped phases)
    (phase : String) : (lookupKey phases (.str phase) .empty).Shaped :=
  DictAll.lookupKey hp _ ⟨nofun, nofun⟩

theorem phaseLine_ok {phases : List (PyVal × PhaseGroup)} (hp : PhasesShaped phases)
    (phase : String) : ∃ l, phaseLine phases phase = .ok l :=
  Except.bind_mean_ok (pySum_ok (hp.group phase).1) fun _ => ⟨_, rfl⟩

theorem graphPhase_ok {phases : List (PyVal × PhaseGroup)} (hp : PhasesShaped phases)
    (phase : String) : ∃ r, graphPhase phases phase = .ok r :=
  Except.bind_ok (phaseLine_ok hp phase) fun _ =>
    Except.bind_ok (countBy_ok fun e he =>
      ((hp.group phase).2 e he |>.modeOf_ok (.inl rfl) (.inr rfl)).imp fun _ h =>
        ⟨h.1, PyVal.hashable_of_isStr h.2⟩) fun _ => ⟨_, rfl⟩

theorem weightPhase_ok {phases : List (PyVal × PhaseGroup)} (hp : PhasesShaped phases)
    (phase : String) : ∃ r, weightPhase phases phase = .ok r := by
  refine Except.bind_ok (phaseLine_ok hp phase) fun _ => ?_
  refine Except.bind_ok_of (foldlM_ok (fun acc => ∀ v ∈ acc, v.isNum = true)
    (fun acc x hacc hx => ?_) (hp.group phase).2 fun _ h => nomatch h) fun _ hpools => ?_
  · obtain ⟨n, hn, hnum⟩ := hx.poolsOf_ok
    obtain ⟨b, hb⟩ := PyVal.gtZero_ok hnum
    simp only [hn, hb, Except.ok_bind]
    split_ifs
    · exact ⟨_, rfl, List.forall_mem_append.2 ⟨hacc, List.forall_mem_singleton.2 hnum⟩⟩
    · exact ⟨_, rfl, hacc⟩
  · exact Except.bind_mean_ok (pySum_ok hpools) fun _ => ⟨_, rfl⟩

/-- Section 2. -/
theorem phaseAnalysis_ok (h : ∀ e ∈ events, EventShape e) : ∃ r, phaseAnalysis events = .ok r := by
  obtain ⟨phases, hphases, hp⟩ :
      ∃ phases, events.foldlM addPhaseEvent [] = .ok phases ∧ PhasesShaped phases :=
    foldlM_ok PhasesShaped (fun _ e hp (he : EventShape e) => addPhaseEvent_ok hp he) h
      fun _ h => nomatch h
  simp only [phaseAnalysis, hphases, Except.ok_bind]
  refine Except.bind_ok (phasesMatching_ok _ hp) fun d => ?_
  refine Except.bind_ok (phasesMatching_ok _ hp) fun g => ?_
  refine Except.bind_ok (phasesMatching_ok _ hp) fun w => ?_
  refine Except.bind_ok (phasesMatching_ok _ hp) fun c => ?_
  exact Except.bind_ok (mapEach_ok fun x _ => phaseLine_ok hp x) fun _ =>
    Except.bind_ok (mapEach_ok fun x _ => graphPhase_ok hp x) fun _ =>
      Except.bind_ok (mapEach_ok fun x _ => weightPhase_ok hp x) fun _ =>
        Except.bind_ok (mapEach_ok fun x _ => phaseLine_ok hp x) fun _ => ⟨_, rfl⟩

/-- Sections 5 to 8 keep the events that pass a test raising nothing, and go on with those. -/
theorem keep_then_ok {p : PyVal → Except PyExc Bool} {γ : Type}
    {f : List PyVal → Except PyExc γ} (hp : ∀ e, EventShape e → ∃ b, p e = .ok b)
    (hf : ∀ es, (∀ e ∈ es, EventShape e) → ∃ r, f es = .ok r)
    (h : ∀ e ∈ events, EventShape e) : ∃ r, keepIf p events >>= f = .ok r :=
  Except.bind_ok_of (keepIf_ok fun e he => hp e (h e he)) fun es hes =>
    hf es fun e he => h e (hes e he)

theorem discoveryAnalysis_ok (h : ∀ e ∈ events, EventShape e) :
    ∃ r, discoveryAnalysis events = .ok r := by
  refine keep_then_ok (fun e he => andThen_ok (PyVal.map_get_ok he.isDict _ _ _)
    (PyVal.map_get_ok he.isDict _ _ _)) (fun cycles hc => ?_) h
  split_ifs
  · exact ⟨_, rfl⟩
  refine Except.bind_mean_ok (durationSum_ok hc) fun _ => ?_
  refine Except.bind_ok_of (mapEach_ok_and (fun q => q.1.isNum = true ∧ q.2.isNum = true)
    fun e he => ?_) fun pools hpools => ?_
  · have hr := (hc e he).result_isResult
    simp only [(hc e he).get, PyVal.get_of_isDict (PyVal.isDict_of_isResult hr), Except.ok_bind]
    exact ⟨_, rfl, PyVal.field_of_default (PyVal.count_of_isResult hr (by decide)) rfl,
      PyVal.field_of_default (PyVal.count_of_isResult hr (by decide)) rfl⟩
  · exact Except.bind_mean_ok (pySum_map_ok _ fun q hq => (hpools q hq).1) fun _ =>
      Except.bind_mean_ok (pySum_map_ok _ fun q hq => (hpools q hq).2) fun _ => ⟨_, rfl⟩

/-- The phase of an event, as the key of sections 7 and 8. -/
theorem phaseKey_ok {es : List PyVal} (h : ∀ e ∈ es, EventShape e) :
    ∃ d, groupBy (·.get "phase" (.str "unknown")) pure es = .ok d ∧
      DictAll (fun k => k.isStr = true) (fun vs => ∀ v ∈ vs, EventShape v) d :=
  groupBy_ok _ EventShape (fun e he =>
    have hk := PyVal.field_of_default (h e he).phase (by rfl)
    ⟨_, (h e he).get "phase" (.str "unknown"), PyVal.hashable_of_isStr hk, hk⟩)
    fun e he => ⟨e, rfl, h e he⟩

theorem graphAnalysis_ok (h : ∀ e ∈ events, EventShape e) :
    ∃ r, graphAnalysis events = .ok r := by
  refine keep_then_ok (fun e he => andThen_ok (PyVal.map_get_ok he.isDict _ _ _)
    (PyVal.map_get_ok he.isDict _ _ _)) (fun updates hu => ?_) h
  split_ifs
  · exact ⟨_, rfl⟩
  refine Except.bind_ok_of (groupBy_ok (fun k => k.isStr = true) EventShape (fun e he =>
    ((hu e he).modeOf_ok (.inl rfl) (.inr rfl)).imp fun _ h =>
      ⟨h.1, PyVal.hashable_of_isStr h.2, h.2⟩) fun e he => ⟨e, rfl, hu e he⟩)
    fun modes hmodes => ?_
  exact Except.bind_ok_of (sortedItems_ok hmodes) fun _ hs =>
    Except.bind_ok (modeLines_ok hs) fun _ => ⟨_, rfl⟩

theorem weightAnalysis_ok (h : ∀ e ∈ events, EventShape e) :
    ∃ r, weightAnalysis events = .ok r := by
  refine keep_then_ok (fun e he => andThen_ok (PyVal.map_get_ok he.isDict _ _ _)
    (PyVal.map_get_ok he.isDict _ _ _)) (fun evs hevs => ?_) h
  split_ifs
  · exact ⟨_, rfl⟩
  obtain ⟨d, hd, hdict⟩ := phaseKey_ok hevs
  obtain ⟨sorted, hsorted, hs⟩ := sortedItems_ok hdict
  simp only [hd, hsorted, Except.ok_bind]
  refine Except.bind_ok (mapEach_ok fun x hx => ?_) fun _ => ⟨_, rfl⟩
  obtain ⟨phase, es⟩ := x
  have hes : ∀ e ∈ es, EventShape e := (hs _ hx).2
  refine Except.bind_mean_ok (durationSum_ok hes) fun _ => ?_
  refine Except.bind_ok_of (mapEach_ok_and
    (fun t => t.1.isNum = true ∧ t.2.1.isNum = true ∧ t.2.2.isNum = true) fun e he => ?_)
    fun rs hrs => ?_
  · have hr := (hes e he).result_isResult
    simp only [(hes e he).get, PyVal.get_of_isDict (PyVal.isDict_of_isResult hr), Except.ok_bind]
    exact ⟨_, rfl, PyVal.field_of_default (PyVal.count_of_isResult hr (by decide)) rfl,
      PyVal.field_of_default (PyVal.count_of_isResult hr (by decide)) rfl,
      PyVal.field_of_default (PyVal.count_of_isResult hr (by decide)) rfl⟩
  · exact Except.bind_mean_ok (pySum_map_ok _ fun t ht => (hrs t ht).1) fun _ =>
      Except.bind_mean_ok (pySum_map_ok _ fun t ht => (hrs t ht).2.1) fun _ =>
        Except.bind_mean_ok (pySum_map_ok _ fun t ht => (hrs t ht).2.2) fun _ => ⟨_, rfl⟩

theorem hotPoolAnalysis_ok (h : ∀ e ∈ events, EventShape e) :
    ∃ r, hotPoolAnalysis events = .ok r := by
  refine keep_then_ok (fun e he => andThen_ok he.hotPoolPhase_ok
    (PyVal.map_get_ok he.isDict _ _ _)) (fun evs hevs => ?_) h
  split_ifs
  · exact ⟨_, rfl⟩
  obtain ⟨d, hd, hdict⟩ := phaseKey_ok hevs
  obtain ⟨sorted, hsorted, hs⟩ := sortedItems_ok hdict
  simp only [hd, hsorted, Except.ok_bind]
  exact mapEach_ok fun x hx => Except.bind_mean_ok (durationSum_ok (hs x hx).2) fun _ =>
    Except.bind_mean_ok (resultSum_ok "weights_count" (by decide) (hs x hx).2) fun _ => ⟨_, rfl⟩

/-- Section 9: with every `ts` a number the sort and the subtraction go through, and the two
sequence counts test events of the list. -/
theorem timeline_ok (h : ∀ e ∈ events, EventShape e) : ∃ r, timeline events = .ok r := by
  refine Except.bind_ok_of (mapEach_ok_and (fun v => v.isNum = true) fun e he =>
    ⟨_, (h e he).get _ _, PyVal.field_of_default (h e he).ts (by rfl)⟩) fun keys hkeys => ?_
  obtain ⟨ts, hts, htb⟩ := mapM_asNum_ok hkeys
  simp only [hts]
  split
  · exact ⟨_, rfl⟩
  rename_i first rest hsort
  have hzip : ∀ q ∈ first :: rest, q.1 ∈ events ∧ q.2 ∈ ts := fun q hq => by
    rw [← hsort, List.mem_insertionSort] at hq
    exact List.of_mem_zip hq
  have hmem : ∀ e ∈ (first :: rest).map Prod.fst, EventShape e := fun e he => by
    obtain ⟨q, hq, rfl⟩ := List.mem_map.1 he
    exact h _ (hzip q hq).1
  have hspan : (((first :: rest).getLast (List.cons_ne_nil _ _)).2 - first.2).natAbs ≤
      1000 * (floatLimit - 1) := by
    have h₁ := htb _ (hzip _ (List.getLast_mem (List.cons_ne_nil first rest))).2
    have h₂ := htb _ (hzip first (.head _)).2
    have := Int.natAbs_sub_le ((first :: rest).getLast (List.cons_ne_nil _ _)).2 first.2
    omega
  refine Except.bind_ok ⟨(), trueDiv_of_le (by decide) (Nat.sub_one_lt floatLimit_pos.ne') hspan⟩
    fun _ => ?_
  refine Except.bind_ok (countPairs_ok EventShape (fun _ _ h₁ h₂ =>
    discoveryThenGraph_ok h₁.isDict h₂.isDict) hmem) fun _ => ?_
  exact Except.bind_ok (countPairs_ok EventShape (fun e₁ e₂ h₁ h₂ =>
    andThen_ok (PyVal.map_get_ok h₁.isDict _ _ _) (andThen_ok (PyVal.map_get_ok h₁.isDict _ _ _)
      (andThen_ok h₂.hotPoolPhase_ok (PyVal.map_get_ok h₂.isDict _ _ _)))) hmem) fun _ => ⟨_, rfl⟩

theorem rpcAnalysis_ok (h : ∀ e ∈ events, EventShape e) : ∃ r, rpcAnalysis events = .ok r := by
  obtain ⟨calls, hc, hsub⟩ := eventsOfType_ok (fun e he => (h e he).isDict) "RpcCall"
  have hcalls : ∀ e ∈ calls, EventShape e := fun e he => h e (hsub e he)
  obtain ⟨o, ho⟩ := rpcBlock_ok hcalls
  simp only [rpcAnalysis, hc, ho, Except.ok_bind]
  rcases o with _ | stats
  · exact ⟨_, rfl⟩
  refine Except.bind_ok_of (groupBy_ok (fun _ => True) (fun v => v.isNum = true) (fun e he =>
    ⟨_, (hcalls e he).get _ _,
      PyVal.hashable_of_isStr (PyVal.field_of_default (hcalls e he).endpoint (by rfl)), trivial⟩)
    fun e he => ⟨_, (hcalls e he).get _ _, PyVal.field_of_default (hcalls e he).durationMs (by rfl)⟩)
    fun d hd => ?_
  refine Except.bind_ok (mapEach_ok fun x hx => ?_) fun _ => ⟨_, rfl⟩
  obtain ⟨ep, ds⟩ := x
  exact Except.bind_mean_ok (pySum_ok (hd _ ((List.mem_insertionSort _).1 hx)).2) fun _ => ⟨_, rfl⟩

theorem cacheHits_ok {cs : List PyVal} (h : ∀ e ∈ cs, e.IsDict) : ∃ n, cacheHits cs = .ok n := by
  unfold cacheHits
  split_ifs
  · exact ⟨_, rfl⟩
  · exact Except.map_ok_of ((keepIf_ok fun e he => PyVal.map_get_ok (h e he) _ _ _).imp
      fun _ h => h.1)

/-- The ten sections raise nothing on shaped events. -/
theorem analyzeEvents_ok (h : ∀ e ∈ events, EventShape e) : ∃ r, analyzeEvents events = .ok r := by
  obtain ⟨t, ht⟩ := eventTypes_ok h
  obtain ⟨p, hp⟩ := phaseAnalysis_ok h
  obtain ⟨⟨cs, c⟩, hc, hcs⟩ := cacheAnalysis_ok h
  obtain ⟨⟨rc, r⟩, hr⟩ := rpcAnalysis_ok h
  obtain ⟨⟨dc, d⟩, hd⟩ := discoveryAnalysis_ok h
  obtain ⟨⟨gu, g⟩, hg⟩ := graphAnalysis_ok h
  obtain ⟨⟨we, w⟩, hw⟩ := weightAnalysis_ok h
  obtain ⟨hot, hhot⟩ := hotPoolAnalysis_ok h
  obtain ⟨tl, htl⟩ := timeline_ok h
  obtain ⟨hits, hhits⟩ := cacheHits_ok fun e he => (h e (hcs e he)).isDict
  simp only [analyzeEvents, ht, hp, hc, hr, hd, hg, hw, hhot, htl, hhits, Except.ok_bind]
  exact ⟨_, rfl⟩

theorem mem_newestFirst {α : Type} {files : List (String × α)} {f : String × α} :
    f ∈ newestFirst files ↔ f ∈ files :=
  List.mem_insertionSort _

/-- A discovery cycle that ends, and a successful RPC call, as the recorder writes them. -/
def shapedFile : List Line :=
  [.json (.dict [("type", .str "PhaseEnd"), ("phase", .str "discovery_cycle"), ("ts", .num 7),
      ("duration_ms", .num 40), ("result", .dict [("pools_discovered", .num 3)])]),
    .blank, .json (rpcCall (some true))]

end System

/-! ### `analyze_flight_recorder` -/

section Recorder

variable {events : List PyVal}

theorem samplePools_ok (sample : Option PyVal) : ∃ p, samplePools sample = .ok p := by
  unfold samplePools
  split
  · split
    · exact ⟨_, rfl⟩
    · exact ⟨_, rfl⟩
  · exact ⟨_, rfl⟩

theorem refreshLines_ok {wr : List PyVal} (h : ∀ e ∈ wr, EventShape e) :
    ∃ r, refreshLines wr = .ok r := by
  refine Except.bind_ok_of (groupBy_ok (fun _ => True) (fun v => v.isNum = true) (fun e he =>
    ⟨_, (h e he).get _ _,
      PyVal.hashable_of_isStr (PyVal.field_of_default (h e he).phase (by rfl)), trivial⟩)
    fun e he => ⟨_, (h e he).get _ _, PyVal.field_of_default (h e he).durationMs (by rfl)⟩)
    fun phases hp => ?_
  refine mapEach_ok fun x hx => ?_
  obtain ⟨phase, ds⟩ := x
  exact Except.bind_mean_ok (pySum_ok (hp _ hx).2) fun _ =>
    Except.bind_ok ((keepIf_ok fun e he =>
      PyVal.map_get_ok (h e he).isDict (·.keyEq phase) "phase" .none).imp fun _ h => h.1) fun _ =>
      Except.bind_ok (samplePools_ok _) fun _ => ⟨_, rfl⟩

theorem twoSums_ok {es : List PyVal} {f g : List PyVal → Except PyExc Int}
    (hf : ∃ a, f es = .ok a ∧ meanOf a es.length = .ok ())
    (hg : ∃ b, g es = .ok b ∧ meanOf b es.length = .ok ()) : ∃ r, twoSums es f g = .ok r := by
  unfold twoSums
  split_ifs
  · exact ⟨_, rfl⟩
  · exact Except.bind_mean_ok hf fun _ => Except.bind_mean_ok hg fun _ => ⟨_, rfl⟩

/-- The blocks of the flight-recorder script raise nothing on shaped events. -/
theorem analyzeRecorderEvents_ok (h : ∀ e ∈ events, EventShape e) :
    ∃ r, analyzeRecorderEvents events = .ok r := by
  have sub : ∀ {xs : List PyVal}, (∀ e ∈ xs, e ∈ events) → ∀ e ∈ xs, EventShape e :=
    fun hs e he => h e (hs e he)
  have phase_ok : ∀ (p : String) e, e ∈ events → ∃ b, phaseIs e p = .ok b :=
    fun _ e he => PyVal.map_get_ok (h e he).isDict _ _ _
  refine Except.bind_ok (eventTypes_ok h) fun _ => ?_
  refine Except.bind_ok_of (keepIf_ok fun e he => (h e he).isWeightRefreshEvent_ok)
    fun wr hwr => ?_
  refine Except.bind_ok (refreshLines_ok (sub hwr)) fun _ => ?_
  refine Except.bind_ok_of (keepIf_ok (phase_ok "graph_updates")) fun updates hu => ?_
  refine Except.bind_ok_of (groupBy_ok (fun _ => True) EventShape (fun e he =>
    ((sub hu e he).modeOf_ok (.inr rfl) (.inl rfl)).imp fun _ h =>
      ⟨h.1, PyVal.hashable_of_isStr h.2, trivial⟩) fun e he => ⟨e, rfl, sub hu e he⟩)
    fun modes hmodes => ?_
  refine Except.bind_ok (modeLines_ok hmodes) fun _ => ?_
  obtain ⟨⟨cs, c⟩, hc, -⟩ := cacheAnalysis_ok h
  rw [hc, Except.ok_bind]
  refine Except.bind_ok_of (eventsOfType_ok (fun e he => (h e he).isDict) "RpcCall")
    fun calls hcalls => ?_
  refine Except.bind_ok (rpcBlock_ok (sub hcalls)) fun _ => ?_
  refine Except.bind_ok_of (keepIf_ok (phase_ok "discovery_cycle")) fun cycles hcycles => ?_
  refine Except.bind_ok (twoSums_ok (durationSum_ok (sub hcycles))
    (resultSum_ok "pools_discovered" (by decide) (sub hcycles))) fun _ => ?_
  refine Except.bind_ok_of (keepIf_ok (phase_ok "hot_pool_manager_update_weights"))
    fun hot hhot => ?_
  refine Except.bind_ok (twoSums_ok (durationSum_ok (sub hhot))
    (resultSum_ok "weights_count" (by decide) (sub hhot))) fun _ => ?_
  exact Except.bind_ok_of (keepIf_ok fun e he => PyVal.map_get_ok (sub hwr e he).isDict _ _ _)
    fun _ _ => ⟨_, rfl⟩

end Recorder

end MigSdkExport.FlightRecorder
