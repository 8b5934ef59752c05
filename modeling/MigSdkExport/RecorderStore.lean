import MigSdkExport.EventDetails

/-! The `defaultdict`s of the analyzers as a store. Python's key equality is an equivalence on
the values that can be keys, so an update changes exactly the entry of its key; from that the
counting loop (`defaultdict(int)`) and the grouping loop (`defaultdict(list)`) compute, over the
whole run of the loop, each key once with the count or the values of exactly the elements of
that key. -/
namespace MigSdkExport.FlightRecorder

variable {α β γ : Type}

/-! ### Dict keys -/

/-- What a dict key compares by: `None`, a number (`False` and `True` being `0` and `1`) or a
string. A list or a dict is no key and equals no key. -/
def PyVal.keyOf : PyVal → Option (Option (Int ⊕ String))
  | .none => some Option.none
  | .bool b => some (some (.inl (if b then 1 else 0)))
  | .num n => some (some (.inl n))
  | .str s => some (some (.inr s))
  | _ => Option.none

namespace PyVal

theorem keyEq_iff (a b : PyVal) : a.keyEq b = true ↔ a.keyOf.isSome ∧ a.keyOf = b.keyOf := by
  cases a <;> cases b <;> simp [keyEq, keyOf, asNum]

theorem keyEq_comm (a b : PyVal) : a.keyEq b = b.keyEq a := by
  rw [Bool.eq_iff_iff, keyEq_iff, keyEq_iff]
  exact ⟨fun ⟨h, e⟩ => ⟨e ▸ h, e.symm⟩, fun ⟨h, e⟩ => ⟨e ▸ h, e.symm⟩⟩

theorem keyEq_trans {a b c : PyVal} (h₁ : a.keyEq b = true) (h₂ : b.keyEq c = true) :
    a.keyEq c = true := by
  rw [keyEq_iff] at *
  exact ⟨h₁.1, h₁.2.trans h₂.2⟩

/-- Two keys equal to one key give the same answer against any value. -/
theorem keyEq_congr {a b : PyVal} (h : a.keyEq b = true) (c : PyVal) : a.keyEq c = b.keyEq c := by
  rw [Bool.eq_iff_iff]
  exact ⟨keyEq_trans (keyEq_comm a b ▸ h), keyEq_trans h⟩

theorem keyEq_congr_right {b c : PyVal} (h : b.keyEq c = true) (a : PyVal) :
    a.keyEq b = a.keyEq c := by
  rw [keyEq_comm a b, keyEq_comm a c]
  exact keyEq_congr h a

theorem keyEq_self {a : PyVal} (h : a.hashable = true) : a.keyEq a = true :=
  (keyEq_iff a a).2 ⟨(by cases a <;> first | rfl | cases h), rfl⟩

/-- Against a string, key equality is `==`. -/
theorem keyEq_str (v : PyVal) (s : String) : v.keyEq (.str s) = v.eqStr s := by
  cases v <;> rfl

end PyVal

/-! ### One update -/

theorem lookupKey_cons (k' : PyVal) (b : β) (d : List (PyVal × β)) (k : PyVal) (dflt : β) :
    lookupKey ((k', b) :: d) k dflt = if k'.keyEq k then b else lookupKey d k dflt := by
  unfold lookupKey
  cases h : k'.keyEq k <;> simp [List.find?_cons, h]

/-- An update changes exactly the entry of its key: a lookup of an equal key sees `f` applied
to the old entry, or to `init` where there was none; any other lookup is unchanged. -/
theorem lookupKey_modifyAt (k₀ : PyVal) (init : β) (f : β → β) (d : List (PyVal × β))
    (k : PyVal) (dflt : β) :
    lookupKey (modifyAt k₀ init f d) k dflt =
      if k₀.keyEq k then f (lookupKey d k₀ init) else lookupKey d k dflt := by
  induction d with
  | nil =>
    show lookupKey [(k₀, f init)] k dflt = _
    rw [lookupKey_cons]
    rfl
  | cons p d ih =>
    obtain ⟨k', b⟩ := p
    by_cases h' : k'.keyEq k₀ = true
    · have hc := PyVal.keyEq_congr h' k
      simp only [modifyAt, h', if_true, lookupKey_cons, hc]
      cases k₀.keyEq k <;> simp
    · have h'' : k'.keyEq k₀ = false := by simpa using h'
      simp only [modifyAt, h'', lookupKey_cons, ih, Bool.false_eq_true, if_false]
      by_cases hk : k'.keyEq k = true
      · have : k₀.keyEq k = false := by
          by_contra hn
          exact h' (PyVal.keyEq_trans hk (PyVal.keyEq_comm k₀ k ▸ by simpa using hn))
        simp [hk, this]
      · simp [hk]

/-- The keys after an update: the old ones, and the updated key where it was new. -/
theorem mem_keys_modifyAt {k₀ x : PyVal} {init : β} {f : β → β} {d : List (PyVal × β)}
    (hx : x ∈ (modifyAt k₀ init f d).map Prod.fst) : x ∈ d.map Prod.fst ∨ x = k₀ := by
  induction d with
  | nil => simpa [modifyAt] using hx
  | cons p d ih =>
    obtain ⟨k', b⟩ := p
    unfold modifyAt at hx
    split_ifs at hx
    · exact .inl (by simpa using hx)
    · simp only [List.map_cons, List.mem_cons] at hx ⊢
      rcases hx with rfl | hx
      · exact .inl (.inl rfl)
      · exact (ih hx).imp .inr id

/-- No two keys of the dict are equal. -/
def Distinct (d : List (PyVal × β)) : Prop := (d.map Prod.fst).Pairwise fun a b => a.keyEq b = false

theorem Distinct.modifyAt {d : List (PyVal × β)} (hd : Distinct d) (k₀ : PyVal) (init : β)
    (f : β → β) : Distinct (modifyAt k₀ init f d) := by
  induction d with
  | nil => exact List.pairwise_singleton _ _
  | cons p d ih =>
    obtain ⟨k', b⟩ := p
    have hd' := List.pairwise_cons.1 hd
    unfold FlightRecorder.modifyAt
    split_ifs with hk
    · exact hd
    · refine List.pairwise_cons.2 ⟨fun x hx => ?_, ih hd'.2⟩
      rcases mem_keys_modifyAt hx with hx | rfl
      · exact hd'.1 x hx
      · simpa using hk

/-- An update adds `c` to the sum of a size of the entries when `f` adds `c` to the size and
a new entry starts at size 0. -/
theorem sum_modifyAt (φ : β → Nat) (c : Nat) {f : β → β} (hf : ∀ b, φ (f b) = φ b + c)
    {init : β} (hi : φ init = 0) (k₀ : PyVal) (d : List (PyVal × β)) :
    ((modifyAt k₀ init f d).map fun p => φ p.2).sum = (d.map fun p => φ p.2).sum + c := by
  induction d with
  | nil => simp [modifyAt, hf, hi]
  | cons p d ih =>
    unfold modifyAt
    split_ifs <;> simp [hf, ih] <;> omega

/-- A lookup of a key of the dict finds its entry. -/
theorem lookupKey_of_mem {d : List (PyVal × β)} (hd : Distinct d) {p : PyVal × β} (hp : p ∈ d)
    (hk : p.1.keyEq p.1 = true) (dflt : β) : lookupKey d p.1 dflt = p.2 := by
  induction d with
  | nil => cases hp
  | cons q d ih =>
    obtain ⟨k', b⟩ := q
    have hd' := List.pairwise_cons.1 hd
    rw [lookupKey_cons]
    rcases List.mem_cons.1 hp with rfl | hp
    · rw [if_pos hk]
    · have hne : k'.keyEq p.1 = false := hd'.1 _ (List.mem_map_of_mem _ hp)
      rw [if_neg (by simp [hne]), ih hd'.2 hp]

/-- A lookup that finds something finds the entry of a key of the dict. -/
theorem exists_of_lookupKey {d : List (PyVal × β)} {k : PyVal} {dflt : β}
    (h : lookupKey d k dflt ≠ dflt) : ∃ p ∈ d, p.1.keyEq k = true := by
  induction d with
  | nil => exact absurd rfl h
  | cons q d ih =>
    rw [lookupKey_cons] at h
    split_ifs at h with hq
    · exact ⟨q, .head _, hq⟩
    · obtain ⟨p, hp, hk⟩ := ih h
      exact ⟨p, .tail _ hp, hk⟩

/-! ### The loops over the elements -/

theorem update_eq_ok {d d' : List (PyVal × β)} {k : PyVal} {init : β} {f : β → β}
    (h : update d k init f = .ok d') : k.hashable = true ∧ d' = modifyAt k init f d := by
  unfold update at h
  split_ifs at h with hk
  · exact ⟨hk, (Except.ok.inj h).symm⟩

theorem mapEach_cons_ok {f : α → Except PyExc β} {x : α} {xs : List α} {y : β} {ys : List β}
    (hx : f x = .ok y) (hxs : mapEach f xs = .ok ys) : mapEach f (x :: xs) = .ok (y :: ys) := by
  rw [mapEach, hx, hxs]
  rfl

theorem mapEach_forall₂ {f : α → Except PyExc β} {xs : List α} {ys : List β}
    (h : mapEach f xs = .ok ys) : List.Forall₂ (fun x y => f x = .ok y) xs ys := by
  induction xs generalizing ys with
  | nil => cases h; exact .nil
  | cons x xs ih =>
    obtain ⟨y, hy, h⟩ := Except.bind_eq_ok.1 h
    obtain ⟨zs, hzs, h⟩ := Except.bind_eq_ok.1 h
    cases h
    exact .cons hy (ih hzs)

/-- `d` is the `defaultdict(int)` of the keys `ks`: no key twice, every key hashable, each
lookup the number of keys equal to it, and the counts adding up to the number of keys. -/
structure CountsOf (ks : List PyVal) (d : List (PyVal × Nat)) : Prop where
  distinct : Distinct d
  keys : ∀ p ∈ d, p.1.keyEq p.1 = true
  lookup : ∀ k, lookupKey d k 0 = (ks.filter (·.keyEq k)).length
  total : (d.map Prod.snd).sum = ks.length

/-- The keys of a dict after an update are hashable when they were and the key is. -/
theorem keys_modifyAt {d : List (PyVal × β)} (hd : ∀ p ∈ d, p.1.keyEq p.1 = true) {k : PyVal}
    (hk : k.hashable = true) (init : β) (f : β → β) :
    ∀ p ∈ modifyAt k init f d, p.1.keyEq p.1 = true := by
  intro p hp
  rcases mem_keys_modifyAt (List.mem_map_of_mem Prod.fst hp) with hm | he
  · obtain ⟨q, hq, he⟩ := List.mem_map.1 hm
    exact he ▸ hd q hq
  · exact he ▸ PyVal.keyEq_self hk

theorem filter_keyEq_congr {k k' : PyVal} (h : k.keyEq k' = true) (ks : List (PyVal × α)) :
    ks.filter (·.1.keyEq k) = ks.filter (·.1.keyEq k') :=
  List.filter_congr fun x _ => PyVal.keyEq_congr_right h x.1

/-- One step of the counting loop. -/
theorem CountsOf.add {ks : List PyVal} {d : List (PyVal × Nat)} (h : CountsOf ks d) {k : PyVal}
    (hk : k.hashable = true) : CountsOf (ks ++ [k]) (modifyAt k 0 (· + 1) d) where
  distinct := h.distinct.modifyAt _ _ _
  keys := keys_modifyAt h.keys hk _ _
  lookup k' := by
    rw [lookupKey_modifyAt, List.filter_append, List.length_append]
    by_cases hkk : k.keyEq k' = true
    · have hc := List.filter_congr (l := ks) fun x _ => PyVal.keyEq_congr_right hkk x
      simp [hkk, h.lookup, hc]
    · simp [hkk, h.lookup]
  total := (sum_modifyAt (fun n => n) 1 (fun _ => rfl) rfl k d).trans
    (by rw [List.length_append, ← h.total]; rfl)

/-- Over the whole run of a `defaultdict(int)` loop: its keys were computed, and the dict it
ends with counts them. -/
theorem countBy_spec {key : PyVal → Except PyExc PyVal} {xs : List PyVal}
    {d : List (PyVal × Nat)} (h : countBy key xs = .ok d) :
    ∃ ks, mapEach key xs = .ok ks ∧ CountsOf ks d := by
  suffices run : ∀ (xs : List PyVal) (ks₀ : List PyVal) (d₀ : List (PyVal × Nat)), CountsOf ks₀ d₀ →
      xs.foldlM (fun d e => do update d (← key e) 0 (· + 1)) d₀ = .ok d →
      ∃ ks, mapEach key xs = .ok ks ∧ CountsOf (ks₀ ++ ks) d from
    run xs [] [] ⟨List.Pairwise.nil, nofun, fun _ => rfl, rfl⟩ h
  intro xs
  induction xs with
  | nil =>
    intro ks₀ d₀ h₀ h
    cases h
    exact ⟨[], rfl, by simpa using h₀⟩
  | cons x xs ih =>
    intro ks₀ d₀ h₀ h
    rw [List.foldlM_cons] at h
    obtain ⟨d₁, h₁, h⟩ := Except.bind_eq_ok.1 h
    obtain ⟨k, hk, h₁⟩ := Except.bind_eq_ok.1 h₁
    obtain ⟨hh, rfl⟩ := update_eq_ok h₁
    obtain ⟨ks, hks, hc⟩ := ih _ _ (h₀.add hh) h
    exact ⟨k :: ks, mapEach_cons_ok hk hks, by simpa using hc⟩

/-- `d` is the `defaultdict(list)` of the pairs `kvs` of a key and a value: no key twice,
every key hashable, each lookup the values of the pairs whose key equals it, in order, and
the lists holding every pair once. -/
structure GroupsOf (kvs : List (PyVal × β)) (d : List (PyVal × List β)) : Prop where
  distinct : Distinct d
  keys : ∀ p ∈ d, p.1.keyEq p.1 = true
  hashed : ∀ p ∈ kvs, p.1.keyEq p.1 = true
  lookup : ∀ k, lookupKey d k [] = (kvs.filter (·.1.keyEq k)).map Prod.snd
  total : (d.map fun p => p.2.length).sum = kvs.length

/-- One step of the grouping loop: `d[k]` created if missing, then `d[k].append(v)`. -/
theorem GroupsOf.add {kvs : List (PyVal × β)} {d : List (PyVal × List β)} (h : GroupsOf kvs d)
    {k : PyVal} (hk : k.hashable = true) (v : β) :
    GroupsOf (kvs ++ [(k, v)]) (modifyAt k [] (· ++ [v]) (modifyAt k [] id d)) where
  distinct := (h.distinct.modifyAt _ _ _).modifyAt _ _ _
  keys := keys_modifyAt (keys_modifyAt h.keys hk _ _) hk _ _
  hashed p hp := by
    rcases List.mem_append.1 hp with hp | hp
    · exact h.hashed p hp
    · rw [List.mem_singleton.1 hp]
      exact PyVal.keyEq_self hk
  lookup k' := by
    rw [lookupKey_modifyAt, lookupKey_modifyAt, lookupKey_modifyAt, List.filter_append,
      List.map_append]
    by_cases hkk : k.keyEq k' = true
    · simp [hkk, h.lookup, filter_keyEq_congr hkk]
    · simp [hkk, h.lookup]
  total := by
    rw [sum_modifyAt List.length 1 (fun _ => List.length_append _ _) List.length_nil,
      sum_modifyAt List.length 0 (f := id) (fun _ => rfl) List.length_nil, h.total,
      List.length_append]
    rfl

/-- Over the whole run of a `defaultdict(list)` loop: the keys and the values were computed,
and the dict it ends with groups the values by key. -/
theorem groupBy_spec {key : PyVal → Except PyExc PyVal} {val : PyVal → Except PyExc β}
    {xs : List PyVal} {d : List (PyVal × List β)} (h : groupBy key val xs = .ok d) :
    ∃ ks vs, mapEach key xs = .ok ks ∧ mapEach val xs = .ok vs ∧ GroupsOf (ks.zip vs) d := by
  suffices run : ∀ (xs : List PyVal) (kvs₀ : List (PyVal × β)) (d₀ : List (PyVal × List β)),
      GroupsOf kvs₀ d₀ →
      xs.foldlM (fun d e => do
        let k ← key e
        let d ← update d k [] id
        let v ← val e
        pure (modifyAt k [] (· ++ [v]) d)) d₀ = .ok d →
      ∃ ks vs, mapEach key xs = .ok ks ∧ mapEach val xs = .ok vs ∧ GroupsOf (kvs₀ ++ ks.zip vs) d
    by simpa using run xs [] [] ⟨List.Pairwise.nil, nofun, nofun, fun _ => rfl, rfl⟩ h
  intro xs
  induction xs with
  | nil =>
    intro kvs₀ d₀ h₀ h
    cases h
    exact ⟨[], [], rfl, rfl, by simpa using h₀⟩
  | cons x xs ih =>
    intro kvs₀ d₀ h₀ h
    rw [List.foldlM_cons] at h
    obtain ⟨d₂, h₁, h⟩ := Except.bind_eq_ok.1 h
    obtain ⟨k, hk, h₁⟩ := Except.bind_eq_ok.1 h₁
    obtain ⟨d₁, hu, h₁⟩ := Except.bind_eq_ok.1 h₁
    obtain ⟨v, hv, h₁⟩ := Except.bind_eq_ok.1 h₁
    cases h₁
    obtain ⟨hh, rfl⟩ := update_eq_ok hu
    obtain ⟨ks, vs, hks, hvs, hg⟩ := ih _ _ (h₀.add hh v) h
    exact ⟨k :: ks, v :: vs, mapEach_cons_ok hk hks, mapEach_cons_ok hv hvs, by simpa using hg⟩

/-- `sorted(d.items())`, when it goes through, reorders the entries. -/
theorem sortedItems_perm {d d' : List (PyVal × β)} (h : sortedItems d = .ok d') : d'.Perm d := by
  unfold sortedItems at h
  split_ifs at h <;> cases h
  · exact .refl _
  · exact List.perm_insertionSort _ _
  · exact List.perm_insertionSort _ _

/-! ### The lines printed of a grouping -/

/-- The lines a script prints of the pairs `kvs`, one per key: no key twice, a line for the
key of every pair, and each line `P` of its key and exactly the values of that key, in
order. -/
structure GroupLines (kvs : List (PyVal × β)) (P : PyVal × List β → PyVal × γ → Prop)
    (lines : List (PyVal × γ)) : Prop where
  distinct : (lines.map Prod.fst).Pairwise fun a b => a.keyEq b = false
  cover : ∀ p ∈ kvs, ∃ l ∈ lines, p.1.keyEq l.1 = true
  line : ∀ l ∈ lines, P (l.1, (kvs.filter (·.1.keyEq l.1)).map Prod.snd) l

theorem forall₂_map_eq {R : α → β → Prop} {xs : List α} {ys : List β} {f : α → γ} {g : β → γ}
    (h : List.Forall₂ R xs ys) (hR : ∀ x y, R x y → g y = f x) : ys.map g = xs.map f := by
  induction h with
  | nil => rfl
  | cons hr _ ih => rw [List.map_cons, List.map_cons, hR _ _ hr, ih]

theorem forall₂_exists_left {R : α → β → Prop} {xs : List α} {ys : List β}
    (h : List.Forall₂ R xs ys) {y : β} (hy : y ∈ ys) : ∃ x ∈ xs, R x y := by
  induction h with
  | nil => cases hy
  | cons hr _ ih =>
    rcases List.mem_cons.1 hy with rfl | hy
    · exact ⟨_, .head _, hr⟩
    · obtain ⟨x, hx, h⟩ := ih hy
      exact ⟨x, .tail _ hx, h⟩

theorem forall₂_exists_right {R : α → β → Prop} {xs : List α} {ys : List β}
    (h : List.Forall₂ R xs ys) {x : α} (hx : x ∈ xs) : ∃ y ∈ ys, R x y := by
  induction h with
  | nil => cases hx
  | cons hr _ ih =>
    rcases List.mem_cons.1 hx with rfl | hx
    · exact ⟨_, .head _, hr⟩
    · obtain ⟨y, hy, h⟩ := ih hx
      exact ⟨y, .tail _ hy, h⟩

/-- A line for each entry of a reordering of the grouping, made by a `line` that keeps the
entry's key, is a line for each key with exactly the values of that key. -/
theorem GroupsOf.lines {kvs : List (PyVal × β)} {d d' : List (PyVal × List β)}
    (hg : GroupsOf kvs d) (hp : d'.Perm d) {line : PyVal × List β → Except PyExc (PyVal × γ)}
    {lines : List (PyVal × γ)} (hl : mapEach line d' = .ok lines)
    (hkey : ∀ p l, line p = .ok l → l.1 = p.1) :
    GroupLines kvs (fun p l => line p = .ok l) lines := by
  have h₂ := mapEach_forall₂ hl
  have hkeys : lines.map Prod.fst = d'.map Prod.fst := forall₂_map_eq h₂ hkey
  refine ⟨?_, fun p hp' => ?_, fun l hl' => ?_⟩
  · rw [hkeys]
    exact ((hp.map Prod.fst).pairwise_iff fun h => (PyVal.keyEq_comm _ _).trans h).2 hg.distinct
  · have hne : lookupKey d p.1 [] ≠ [] := by
      rw [hg.lookup]
      exact List.ne_nil_of_mem (List.mem_map_of_mem Prod.snd
        (List.mem_filter.2 ⟨hp', hg.hashed p hp'⟩))
    obtain ⟨q, hq, hqk⟩ := exists_of_lookupKey hne
    obtain ⟨l, hl', hlq⟩ := forall₂_exists_right h₂ (hp.symm.subset hq)
    exact ⟨l, hl', by rw [hkey _ _ hlq, PyVal.keyEq_comm]; exact hqk⟩
  · obtain ⟨q, hq, hlq⟩ := forall₂_exists_left h₂ hl'
    have hq' := hp.subset hq
    rw [hkey _ _ hlq, ← hg.lookup, lookupKey_of_mem hg.distinct hq' (hg.keys q hq')]
    exact hlq

end MigSdkExport.FlightRecorder
