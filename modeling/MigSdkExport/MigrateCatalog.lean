import MigSdkExport.MigrateStatements

/-! The catalog views `migrate_db_data.py` queries, and the primary-key lookup of
`migrate_table`: the join of `table_constraints` with `constraint_column_usage` on
`constraint_name` and the first row `fetchone()` returns. -/
namespace MigSdkExport.Migrate

/-- A row of `information_schema.table_constraints`. -/
structure TableConstraint where
  constraintSchema : String
  constraintName : String
  tableSchema : String
  tableName : String
  constraintType : String
deriving DecidableEq, Repr

/-- A row of `information_schema.constraint_column_usage`. -/
structure ConstraintColumnUsage where
  tableSchema : String
  tableName : String
  columnName : String
  constraintSchema : String
  constraintName : String
deriving DecidableEq, Repr

/-- What one database's catalog holds: the columns of each table in `ordinal_position`
order, which tables exist, the two constraint views of `information_schema` as the script's
role sees them, and the column lists of each table's unique indexes (its primary key among
them), which the server enforces whatever the views show. -/
structure Catalog where
  columns : String → String → List String
  tables : String → String → Bool
  tableConstraints : List TableConstraint
  constraintColumnUsage : List ConstraintColumnUsage
  uniqueKeys : String → String → List (List String)

/-- The `column_name` rows of `pk_query`, in the order of a nested-loop join. -/
def pkQuery (cat : Catalog) (schema table : String) : List String :=
  cat.tableConstraints.flatMap fun tc =>
    if tc.tableSchema = schema ∧ tc.tableName = table ∧ tc.constraintType = "PRIMARY KEY" then
      (cat.constraintColumnUsage.filter fun u => u.constraintName = tc.constraintName).map
        ConstraintColumnUsage.columnName
    else []

/-- `pk_result = cur.fetchone()` and `pk_column = pk_result[0] if pk_result else None`. -/
def pkColumnOf (rows : List String) : Option String := rows.head?

/-- The columns of the table's primary key as the catalog records them: the usage rows of
its primary-key constraint, matched on the constraint's schema and name and on the table. -/
def primaryKeyColumns (cat : Catalog) (schema table : String) : List String :=
  cat.tableConstraints.flatMap fun tc =>
    if tc.tableSchema = schema ∧ tc.tableName = table ∧ tc.constraintType = "PRIMARY KEY" then
      (cat.constraintColumnUsage.filter fun u =>
          u.constraintSchema = tc.constraintSchema ∧ u.constraintName = tc.constraintName ∧
            u.tableSchema = schema ∧ u.tableName = table).map ConstraintColumnUsage.columnName
    else []

/-- The target catalog of a table whose primary key is the pair `(token_a, token_b)`. -/
def compositeKeyCatalog : Catalog where
  columns s t :=
    if s = "mig_topology" ∧ t = "token_relations" then ["token_a", "token_b", "weight"] else []
  tables s t := s = "mig_topology" ∧ t = "token_relations"
  tableConstraints :=
    [⟨"mig_topology", "token_relations_pkey", "mig_topology", "token_relations", "PRIMARY KEY"⟩]
  constraintColumnUsage :=
    [⟨"mig_topology", "token_relations", "token_a", "mig_topology", "token_relations_pkey"⟩,
      ⟨"mig_topology", "token_relations", "token_b", "mig_topology", "token_relations_pkey"⟩]
  uniqueKeys s t :=
    if s = "mig_topology" ∧ t = "token_relations" then [["token_a", "token_b"]] else []

/-- On a composite key `fetchone()` returns its first column, and the strategy becomes an
upsert on that column alone. -/
theorem pkColumn_of_composite_key :
    primaryKeyColumns compositeKeyCatalog "mig_topology" "token_relations" =
        ["token_a", "token_b"] ∧
      pkColumnOf (pkQuery compositeKeyCatalog "mig_topology" "token_relations") =
        some "token_a" ∧
      conflictAction ["token_a", "token_b", "weight"]
          (pkColumnOf (pkQuery compositeKeyCatalog "mig_topology" "token_relations")) =
        .doUpdate "token_a" [("token_b", "token_b"), ("weight", "weight")] := by
  decide

end MigSdkExport.Migrate
