import Mathlib

/-! Column reconciliation of `migrate_db_data.py` (`COLUMN_MAPPING` and `common_columns`),
and the spec's reading of it, which applies the include list before the exclude list. -/
namespace MigSdkExport.Migrate

/-- A `COLUMN_MAPPING` entry: its `'exclude'` and `'include'` keys, each of which may be
missing. -/
structure ColumnRule where
  excludeList : Option (List String)
  includeList : Option (List String)
deriving DecidableEq, Repr

def columnMapping (table : String) : Option ColumnRule :=
  if table = "pool_statistics" then
    some ⟨some ["avg_profit_usd", "profit_sample_count", "last_profit_usd"],
      some ["pool_address", "tvl_usd", "volatility_bps", "volatility_sample_count", "updated_at"]⟩
  else none

/-- The `if table in COLUMN_MAPPING` block: the exclude filter first, then the include one. -/
def applyColumnMapping : Option ColumnRule → List String → List String
  | none, cols => cols
  | some rule, cols =>
    let cols := match rule.excludeList with
      | some ex => cols.filter fun c => decide (c ∉ ex)
      | none => cols
    match rule.includeList with
    | some inc => cols.filter fun c => decide (c ∈ inc)
    | none => cols

def commonColumns (mapping : Option ColumnRule) (sourceColumns targetColumns : List String) :
    List String :=
  (applyColumnMapping mapping sourceColumns).filter fun c => c ∈ targetColumns

/-- The exclude set of a rule, empty when the table has no rule or the rule no `'exclude'`. -/
def excludedBy (mapping : Option ColumnRule) : List String :=
  (mapping.bind ColumnRule.excludeList).getD []

def includedBy (mapping : Option ColumnRule) : Option (List String) :=
  mapping.bind ColumnRule.includeList

/-- The three tests of a source column: not excluded, included when the rule has an include
list, and present in the target. -/
def passes (mapping : Option ColumnRule) (targetColumns : List String) (c : String) : Bool :=
  decide (c ∉ excludedBy mapping) && (includedBy mapping).all (fun inc => c ∈ inc) &&
    decide (c ∈ targetColumns)

/-- The spec's order (§4.2): restrict to the include list, remove the exclude list, then
intersect with the target columns. -/
def reconcile (mapping : Option ColumnRule) (sourceColumns targetColumns : List String) :
    List String :=
  let cols := match includedBy mapping with
    | some inc => sourceColumns.filter fun c => decide (c ∈ inc)
    | none => sourceColumns
  (cols.filter fun c => decide (c ∉ excludedBy mapping)).filter fun c => c ∈ targetColumns

theorem commonColumns_eq_filter (mapping : Option ColumnRule) (s t : List String) :
    commonColumns mapping s t = s.filter (passes mapping t) := by
  rcases mapping with _ | ⟨_ | ex, _ | inc⟩ <;>
    simp only [commonColumns, applyColumnMapping, List.filter_filter] <;>
    refine List.filter_congr fun c _ => ?_ <;> simp [passes, excludedBy, includedBy, Bool.and_comm]

theorem reconcile_eq_filter (mapping : Option ColumnRule) (s t : List String) :
    reconcile mapping s t = s.filter (passes mapping t) := by
  rcases mapping with _ | ⟨_ | ex, _ | inc⟩ <;>
    simp only [reconcile, includedBy, Option.bind, List.filter_filter] <;>
    refine List.filter_congr fun c _ => ?_ <;>
    simp [passes, excludedBy, includedBy, Bool.and_comm, Bool.and_left_comm]

theorem passes_iff (mapping : Option ColumnRule) (t : List String) (c : String) :
    passes mapping t c = true ↔
      c ∉ excludedBy mapping ∧ (∀ inc, includedBy mapping = some inc → c ∈ inc) ∧
        c ∈ t := by
  rcases h : includedBy mapping with _ | inc <;> simp [passes, h, and_assoc]

theorem commonColumns_eq_nil_iff (mapping : Option ColumnRule) (s t : List String) :
    commonColumns mapping s t = [] ↔ ∀ c ∈ s, passes mapping t c = false := by
  simp [commonColumns_eq_filter]

end MigSdkExport.Migrate
