import Mathlib

/-! The values the flight-recorder analyzers handle: what `for line in f` and `json.loads` make
of a JSONL file, and the Python operations the scripts apply to a decoded event, each with the
exception it raises on a value of the wrong type. Numbers are the integers `json.loads` returns
for digits without a fraction or an exponent; files holding floats, `NaN` or `Infinity` are
outside this model. -/
namespace MigSdkExport.FlightRecorder

/-- A value `json.loads` returns. JSON numbers are integers here: no float, `NaN` or
`Infinity`. -/
inductive PyVal
  | none
  | bool (b : Bool)
  | num (n : Int)
  | str (s : String)
  | list (xs : List PyVal)
  | dict (items : List (String × PyVal))
deriving Repr

/-- The exceptions an analyzer raises on a decoded value. -/
inductive PyExc
  /-- `AttributeError: '<type>' object has no attribute '<attr>'`. -/
  | attributeError (typeName attr : String)
  /-- `TypeError`, from an operator, `sum`, `sorted` or an unhashable dict key. -/
  | typeError
  /-- `FileNotFoundError` from an `open` that nothing catches. -/
  | fileNotFoundError (path : String)
  /-- `OverflowError: integer division result too large for a float`. -/
  | overflowError
  /-- `ZeroDivisionError: division by zero`. -/
  | zeroDivisionError
  /-- `UnicodeDecodeError` from `for line in f` on bytes that are not UTF-8. -/
  | unicodeDecodeError
deriving DecidableEq, Repr

/-- A line of a JSONL file as the loaders see it. -/
inductive Line
  /-- Nothing but whitespace. -/
  | blank
  /-- `json.loads` raises on it. -/
  | undecodable
  | json (v : PyVal)
  /-- Bytes that are not UTF-8 (the files are opened in text mode in a UTF-8 locale):
  `for line in f` raises `UnicodeDecodeError` here. The file is decoded by chunks, so the
  lines of the chunk before those bytes are never yielded either; the marker stands where the
  loop raises. -/
  | notUtf8
deriving Repr

/-- What a loader keeps of a line: its value, unless it is blank or does not decode. -/
def Line.event : Line → Option PyVal
  | .json v => some v
  | _ => none

/-- A line `for line in f` yields. -/
def Line.decodes : Line → Bool
  | .notUtf8 => false
  | _ => true

/-- `for line in f` with the loaders' `json.loads` of each line: the values of the lines
yielded before the loop raises, and whether it raised `UnicodeDecodeError`. -/
def readLines : List Line → List PyVal × Bool
  | [] => ([], false)
  | .blank :: ls => readLines ls
  | .undecodable :: ls => readLines ls
  | .json v :: ls => ((readLines ls).1.cons v, (readLines ls).2)
  | .notUtf8 :: _ => ([], true)

theorem readLines_of_decodes : ∀ {s : List Line}, (∀ l ∈ s, l.decodes = true) →
    readLines s = (s.filterMap Line.event, false)
  | [], _ => rfl
  | .blank :: ls, h
  | .undecodable :: ls, h => readLines_of_decodes (s := ls) fun l hl => h l (.tail _ hl)
  | .json v :: ls, h => by
    simp only [readLines, readLines_of_decodes fun l hl => h l (.tail _ hl)]
    rfl
  | .notUtf8 :: _, h => nomatch h _ (.head _)

theorem readLines_snd_eq_false_iff : ∀ {s : List Line},
    (readLines s).2 = false ↔ ∀ l ∈ s, l.decodes = true
  | [] => by simp [readLines]
  | .blank :: ls | .undecodable :: ls | .json _ :: ls => by
    simp [readLines, readLines_snd_eq_false_iff (s := ls), Line.decodes]
  | .notUtf8 :: _ => by simp [readLines, Line.decodes]

/-- What the loop read before it raised, or all of the file. -/
theorem readLines_fst_sublist : ∀ ls : List Line,
    List.Sublist (readLines ls).1 (ls.filterMap Line.event)
  | [] => .slnil
  | .blank :: ls | .undecodable :: ls => readLines_fst_sublist ls
  | .json _ :: ls => (readLines_fst_sublist ls).cons₂ _
  | .notUtf8 :: _ => List.nil_sublist _

/-- The least magnitude that a float rounds to infinity, halfway between the largest float and
`2 ** 1024` (`floatLimit_eq`). -/
def floatLimit : Nat :=
  179769313486231580793728971405303415079934132710037826936173778980444968292764750946649017977587207096330286416692887910946555547851940402630657488671505820681908902000708383676273854845817711531764475730270069855571366959622842914819860834936475292719074168444365510704342711559699508093042880177904174497792

theorem floatLimit_eq : floatLimit = 2 ^ 1024 - 2 ^ 970 := by norm_num [floatLimit]

/-- `a / b` on two ints: Python rounds the exact quotient to a float, and raises where that is
infinite. The scripts only print the quotient; what they divide is kept instead. -/
def trueDiv (a : Int) (b : Nat) : Except PyExc Unit :=
  if b = 0 then .error .zeroDivisionError
  else if floatLimit * b ≤ a.natAbs then .error .overflowError else .ok ()

/-- `sum(xs) / len(xs) if xs else 0`, from the sum `s` and the length `n`. -/
def meanOf (s : Int) (n : Nat) : Except PyExc Unit := if n = 0 then .ok () else trueDiv s n

/-- A quotient of magnitude at most `m` below the limit raises nothing. -/
theorem trueDiv_of_le {a : Int} {b m : Nat} (hb : 0 < b) (hm : m < floatLimit)
    (ha : a.natAbs ≤ b * m) : trueDiv a b = .ok () := by
  have hlt : a.natAbs < floatLimit * b := lt_of_le_of_lt ha (by
    rw [Nat.mul_comm floatLimit]
    exact Nat.mul_lt_mul_of_pos_left hm hb)
  rw [trueDiv, if_neg hb.ne', if_neg (not_le.2 hlt)]

/-- An average of numbers each of magnitude at most `m` below the limit raises nothing. -/
theorem meanOf_of_le {s : Int} {n m : Nat} (hm : m < floatLimit) (hs : s.natAbs ≤ n * m) :
    meanOf s n = .ok () := by
  unfold meanOf
  split_ifs with h₀
  · rfl
  · exact trueDiv_of_le (Nat.pos_of_ne_zero h₀) hm hs

namespace PyVal

/-- `type(v).__name__`. -/
def typeName : PyVal → String
  | .none => "NoneType"
  | .bool _ => "bool"
  | .num _ => "int"
  | .str _ => "str"
  | .list _ => "list"
  | .dict _ => "dict"

/-- `v.get(key, default)`: only a dict has the method. -/
def get (v : PyVal) (key : String) (default : PyVal) : Except PyExc PyVal :=
  match v with
  | .dict items => .ok ((items.lookup key).getD default)
  | v => .error (.attributeError v.typeName "get")

/-- `v == s` for a string literal `s`. -/
def eqStr (v : PyVal) (s : String) : Bool :=
  match v with
  | .str t => t = s
  | _ => false

/-- `key in v`. -/
def contains (v : PyVal) (key : String) : Except PyExc Bool :=
  match v with
  | .dict items => .ok (items.lookup key).isSome
  | .str s => .ok (decide (key.data <:+: s.data))
  | .list xs => .ok (xs.any fun x => x.eqStr key)
  | _ => .error .typeError

/-- `bool(v)`. -/
def truthy : PyVal → Bool
  | .none => false
  | .bool b => b
  | .num n => n ≠ 0
  | .str s => s ≠ ""
  | .list xs => !xs.isEmpty
  | .dict items => !items.isEmpty

/-- `v.lower()`, on the ASCII letters. -/
def lower (v : PyVal) : Except PyExc String :=
  match v with
  | .str s => .ok ⟨s.data.map Char.toLower⟩
  | v => .error (.attributeError v.typeName "lower")

/-- The value of a number in arithmetic and comparisons, a `bool` counting as `0` or `1`. -/
def asNum : PyVal → Option Int
  | .num n => some n
  | .bool b => some (if b then 1 else 0)
  | _ => .none

/-- The string a value is, if it is one. -/
def asStr : PyVal → Option String
  | .str s => some s
  | _ => .none

/-- `v > 0`. -/
def gtZero (v : PyVal) : Except PyExc Bool :=
  match v.asNum with
  | some n => .ok (0 < n)
  | .none => .error .typeError

/-- A value that can be a dict key: `None`, a number or a string. -/
def hashable : PyVal → Bool
  | .list _ => false
  | .dict _ => false
  | _ => true

/-- `==` between two dict keys: `True == 1` as in Python. -/
def keyEq (a b : PyVal) : Bool :=
  match a, b with
  | .none, .none => true
  | .str s, .str t => s = t
  | a, b => match a.asNum, b.asNum with
    | some m, some n => m = n
    | _, _ => false

/-- `a or b`: the first operand if it is true, else the second. -/
def or (a b : PyVal) : PyVal := if a.truthy then a else b

end PyVal

/-- `sub in s` on two strings. -/
def infixOf (sub s : String) : Bool := decide (sub.data <:+: s.data)

/-- `sum(vs)`: numbers only. -/
def pySum : List PyVal → Except PyExc Int
  | [] => .ok 0
  | v :: vs =>
    match v.asNum with
    | some n => (n + ·) <$> pySum vs
    | none => .error .typeError

/-- `[x for x in xs if p(x)]` with a test that may raise: the first exception wins. -/
def keepIf {α : Type} (p : α → Except PyExc Bool) : List α → Except PyExc (List α)
  | [] => .ok []
  | x :: xs => do
    let b ← p x
    let ys ← keepIf p xs
    pure (if b then x :: ys else ys)

/-- `[f(x) for x in xs]` with an `f` that may raise. -/
def mapEach {α β : Type} (f : α → Except PyExc β) : List α → Except PyExc (List β)
  | [] => .ok []
  | x :: xs => do
    let y ← f x
    let ys ← mapEach f xs
    pure (y :: ys)

/-! `defaultdict`s keyed by decoded values, as lists of entries in insertion order. -/

/-- `d[k] = f(d[k])` on a dict whose missing keys start at `init`. -/
def modifyAt {β : Type} (k : PyVal) (init : β) (f : β → β) : List (PyVal × β) → List (PyVal × β)
  | [] => [(k, f init)]
  | (k', b) :: rest =>
    if k'.keyEq k then (k', f b) :: rest else (k', b) :: modifyAt k init f rest

/-- The same, raising `TypeError` on a list or a dict as key. -/
def update {β : Type} (d : List (PyVal × β)) (k : PyVal) (init : β) (f : β → β) :
    Except PyExc (List (PyVal × β)) :=
  if k.hashable then .ok (modifyAt k init f d) else .error .typeError

/-- `d.get(k, default)`. -/
def lookupKey {β : Type} (d : List (PyVal × β)) (k : PyVal) (default : β) : β :=
  ((d.find? fun e => e.1.keyEq k).map Prod.snd).getD default

/-- `sorted(d.items())` on keys that are dict keys: a comparison of `None` with anything, or
of a number with a string, raises. With two keys or more every key meets another one in a
comparison, so the sort raises unless the keys are all numbers or all strings. -/
def sortedItems {β : Type} (d : List (PyVal × β)) : Except PyExc (List (PyVal × β)) :=
  if d.length ≤ 1 then .ok d
  else if d.all fun e => e.1.asNum.isSome then
    .ok (d.insertionSort fun a b => a.1.asNum.getD 0 ≤ b.1.asNum.getD 0)
  else if d.all fun e => e.1.asStr.isSome then
    .ok (d.insertionSort fun a b => a.1.asStr.getD "" ≤ b.1.asStr.getD "")
  else .error .typeError

/-- `sorted(xs)` on strings. -/
def sortedStrings (xs : List String) : List String := xs.insertionSort fun a b => a ≤ b

/-- Python's `and` on two tests: the second is looked at only when the first holds. -/
def andThen (a b : Except PyExc Bool) : Except PyExc Bool := do if ← a then b else pure false

section Lemmas

variable {α β : Type}

theorem Except.bind_eq_ok {ε : Type} {x : Except ε α} {f : α → Except ε β} {b : β} :
    x >>= f = .ok b ↔ ∃ a, x = .ok a ∧ f a = .ok b := by
  cases x <;> simp [bind, Except.bind]

/-- A sum followed by its average that returned: the sum returned, and so did the rest. -/
theorem Except.bind_mean_eq_ok {x : Except PyExc Int} {n : Nat} {f : Int → Except PyExc β}
    {b : β} (h : (x >>= fun s => meanOf s n >>= fun _ => f s) = .ok b) :
    ∃ s, x = .ok s ∧ f s = .ok b := by
  obtain ⟨s, hs, h⟩ := Except.bind_eq_ok.1 h
  obtain ⟨_, -, h⟩ := Except.bind_eq_ok.1 h
  exact ⟨s, hs, h⟩

@[simp] theorem PyVal.get_dict (items : List (String × PyVal)) (key : String) (default : PyVal) :
    (PyVal.dict items).get key default = .ok ((items.lookup key).getD default) := rfl

/-- A dict. -/
def PyVal.IsDict (v : PyVal) : Prop := ∃ items, v = .dict items

theorem PyVal.isDict_of_get {v : PyVal} {key : String} {default r : PyVal}
    (h : v.get key default = .ok r) : v.IsDict := by
  cases v <;> first | exact ⟨_, rfl⟩ | cases h

/-- `v.get(key, default)` of a dict, which raises nothing. -/
def PyVal.field (v : PyVal) (key : String) (default : PyVal) : PyVal :=
  match v with
  | .dict items => (items.lookup key).getD default
  | _ => default

/-- `key in v` of a dict. -/
def PyVal.hasField (v : PyVal) (key : String) : Bool :=
  match v with
  | .dict items => (items.lookup key).isSome
  | _ => false

theorem PyVal.get_of_isDict {v : PyVal} (h : v.IsDict) (key : String) (default : PyVal) :
    v.get key default = .ok (v.field key default) := by
  obtain ⟨items, rfl⟩ := h
  rfl

theorem Except.exists_of_map_eq_ok {ε : Type} {f : α → β} {x : Except ε α} {b : β}
    (h : f <$> x = .ok b) : ∃ a, x = .ok a ∧ f a = b := by
  cases x with
  | error e => cases h
  | ok a => exact ⟨a, rfl, Except.ok.inj h⟩

/-- `keepIf` keeps exactly what the test keeps, when the test raises on nothing. -/
theorem keepIf_eq_filter (p : α → Bool) (q : α → Except PyExc Bool) {xs : List α}
    (hq : ∀ x ∈ xs, q x = .ok (p x)) : keepIf q xs = .ok (xs.filter p) := by
  induction xs with
  | nil => rfl
  | cons x xs ih =>
    simp only [keepIf, hq x (.head _), ih fun y hy => hq y (.tail _ hy)]
    by_cases hp : p x <;> simp [hp, bind, Except.bind, pure, Except.pure]

theorem mem_of_keepIf {q : α → Except PyExc Bool} {xs ys : List α} (h : keepIf q xs = .ok ys)
    {y : α} (hy : y ∈ ys) : y ∈ xs ∧ ∃ b, q y = .ok b := by
  induction xs generalizing ys with
  | nil => cases h; cases hy
  | cons x xs ih =>
    obtain ⟨b, hb, h⟩ := Except.bind_eq_ok.1 h
    obtain ⟨zs, hzs, h⟩ := Except.bind_eq_ok.1 h
    cases h
    split_ifs at hy with hbx
    · rcases List.mem_cons.1 hy with rfl | hy
      · exact ⟨.head _, b, hb⟩
      · exact (ih hzs hy).imp (.tail _) id
    · exact (ih hzs hy).imp (.tail _) id

end Lemmas

end MigSdkExport.FlightRecorder
