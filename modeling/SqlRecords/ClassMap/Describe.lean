import SqlRecords.ClassMap.Basic
import SqlRecords.Text.Quoted

/-!
# Descriptions of tables and class maps

The one-line form in which a class map is shown: the names and flags of its columns. Getters and
setters have no text, so the line ends in two dots.
-/

namespace SqlRecords

/-- A column with its names and flags. -/
def Column.describe (c : Column) : String :=
  "ColumnInfo \x7b name: " ++ Quoted.text c.property ++ ", column_name: " ++ Quoted.text c.name ++
    ", key_kind: " ++ c.kind.name ++ ", ignored: " ++ (if c.ignored then "true" else "false") ++
    ", read_only: " ++ (if c.readOnly then "true" else "false") ++ " \x7d"

/-- A table with its columns. -/
def Table.describe (t : Table) : String :=
  "TableMap \x7b entity_name: " ++ Quoted.text t.entity ++ ", table_name: " ++ Quoted.text t.name ++
    ", schema_name: " ++ Quoted.option t.schema ++ ", columns: [" ++
    ", ".intercalate (t.columns.map Column.describe) ++ "] \x7d"

/-- A class map with its table. -/
def ClassMap.describe {α : Type} (m : ClassMap α) : String :=
  "ClassMap \x7b table: " ++ m.table.describe ++ ", .. \x7d"

end SqlRecords
