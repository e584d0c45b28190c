import ErDiagram.Script.Declarations
import Mathlib.Data.List.Basic
import Mathlib.Tactic.Conv

/-!
# How foreign keys are resolved

Where names are distinct, the first table or column of a name is the only one, and resolving a foreign
key marks exactly the column that it starts from. Resolving one key after another marks the columns
that some key starts from, and keeps every key.
-/

namespace ErDiagram.Script

set_option autoImplicit false

section UniqueName

variable {α : Type} {name : α → String} {items : List α}

theorem find_of_distinct (distinct : (items.map name).Nodup) {item : α} (member : item ∈ items) :
    items.find? (fun other => name other = name item) = some item := by
  induction items with
  | nil => contradiction
  | cons first rest ih =>
      rw [List.map_cons, List.nodup_cons] at distinct
      rcases List.mem_cons.mp member with rfl | later
      · rw [List.find?_cons_of_pos (by simp)]
      · have other : name first ≠ name item := by
          intro same
          exact distinct.1 (List.mem_map.mpr ⟨item, later, same.symm⟩)
        rw [List.find?_cons_of_neg (by simpa using other)]
        exact ih distinct.2 later

theorem update_first_eq_map (distinct : (items.map name).Nodup) (wanted : String)
    (change : α → α) :
    updateFirst (fun item => name item = wanted) change items =
      items.map fun item => if name item = wanted then change item else item := by
  induction items with
  | nil => rfl
  | cons first rest ih =>
      rw [List.map_cons, List.nodup_cons] at distinct
      rw [updateFirst, List.map_cons]
      by_cases same : name first = wanted
      · have kept : rest.map (fun item => if name item = wanted then change item else item) =
            rest := by
          conv_rhs => rw [← List.map_id rest]
          apply List.map_congr_left
          intro item member
          have other : name item ≠ wanted := by
            intro again
            exact distinct.1 (List.mem_map.mpr ⟨item, member, again.trans same.symm⟩)
          exact if_neg other
        rw [if_pos (by simpa using same), if_pos same, kept]
      · rw [if_neg (by simpa using same), if_neg same, ih distinct.2]

end UniqueName

def isLinked (keys : List ForeignKey) (table column : String) : Bool :=
  keys.any fun key => key.table = table && key.column = column

def linkTable (keys : List ForeignKey) (table : Table) : Table where
  name := table.name
  columns := table.columns.map fun column =>
    { column with foreignKey := column.foreignKey || isLinked keys table.name column.name }

/-- Tables with distinct names whose columns have distinct names. -/
structure DistinctNames (tables : List Table) : Prop where
  tableNames : (tables.map Table.name).Nodup
  columnNames : ∀ table ∈ tables, (table.columns.map Column.name).Nodup

instance (tables : List Table) : Decidable (DistinctNames tables) :=
  decidable_of_iff ((tables.map Table.name).Nodup ∧
      ∀ table ∈ tables, (table.columns.map Column.name).Nodup)
    ⟨fun ⟨tableNames, columnNames⟩ => ⟨tableNames, columnNames⟩,
      fun ⟨tableNames, columnNames⟩ => ⟨tableNames, columnNames⟩⟩

/-- Whether a foreign key starts from a column of the tables and refers to one of them. -/
structure Resolvable (tables : List Table) (key : ForeignKey) : Prop where
  source : ∃ table ∈ tables, table.name = key.table ∧
    ∃ column ∈ table.columns, column.name = key.column
  target : ∃ table ∈ tables, table.name = key.refTable

instance (tables : List Table) (key : ForeignKey) : Decidable (Resolvable tables key) :=
  decidable_of_iff ((∃ table ∈ tables, table.name = key.table ∧
        ∃ column ∈ table.columns, column.name = key.column) ∧
      ∃ table ∈ tables, table.name = key.refTable)
    ⟨fun ⟨source, target⟩ => ⟨source, target⟩, fun ⟨source, target⟩ => ⟨source, target⟩⟩

/-- Whether a change of tables leaves the names of tables and columns as they are. -/
structure KeepsNames (change : Table → Table) : Prop where
  tableName : ∀ table, (change table).name = table.name
  columnNames : ∀ table, (change table).columns.map Column.name = table.columns.map Column.name

namespace KeepsNames

variable {change : Table → Table}

theorem distinct (keeps : KeepsNames change) {tables : List Table} (distinct : DistinctNames tables) :
    DistinctNames (tables.map change) := by
  constructor
  · have names : Table.name ∘ change = Table.name := funext keeps.tableName
    rw [List.map_map, names]
    exact distinct.tableNames
  · intro table member
    obtain ⟨original, inTables, rfl⟩ := List.mem_map.mp member
    rw [keeps.columnNames]
    exact distinct.columnNames original inTables

theorem resolvable (keeps : KeepsNames change) {tables : List Table} {key : ForeignKey}
    (fits : Resolvable tables key) : Resolvable (tables.map change) key := by
  obtain ⟨⟨table, inTables, sameTable, named⟩, target, inTarget, sameTarget⟩ := fits
  constructor
  · have column : key.column ∈ (change table).columns.map Column.name := by
      rw [keeps.columnNames]
      exact List.mem_map.mpr named
    refine ⟨change table, List.mem_map_of_mem inTables, ?_, List.mem_map.mp column⟩
    rw [keeps.tableName, sameTable]
  · refine ⟨change target, List.mem_map_of_mem inTarget, ?_⟩
    rw [keeps.tableName, sameTarget]

end KeepsNames

theorem link_keeps_names (keys : List ForeignKey) : KeepsNames (linkTable keys) := by
  constructor
  · exact fun _ => rfl
  · intro table
    rw [linkTable, List.map_map]
    rfl

theorem is_resolved_of_resolvable {schema : Schema} {key : ForeignKey}
    (distinct : DistinctNames schema.tables) (fits : Resolvable schema.tables key) :
    isResolved schema key = true := by
  obtain ⟨⟨table, inTables, sameTable, column, inColumns, sameColumn⟩, target, inTarget, sameTarget⟩ :=
    fits
  have foundTarget : schema.table? key.refTable = some target := by
    rw [Schema.table?, ← sameTarget]
    exact find_of_distinct distinct.tableNames inTarget
  have foundTable : schema.table? key.table = some table := by
    rw [Schema.table?, ← sameTable]
    exact find_of_distinct distinct.tableNames inTables
  have foundColumn : table.column? key.column = some column := by
    rw [Table.column?, ← sameColumn]
    exact find_of_distinct (distinct.columnNames table inTables) inColumns
  rw [isResolved, Schema.column?, foundTarget, foundTable, Option.bind_some, foundColumn]
  rfl

theorem is_linked_append (keys : List ForeignKey) (key : ForeignKey) (table column : String) :
    isLinked (keys ++ [key]) table column =
      (isLinked keys table column || (key.table = table && key.column = column)) := by
  simp [isLinked, List.any_append]

/-- Marking the column that one more key starts from marks what all the keys start from. -/
theorem link_one_more {table : Table} (distinct : (table.columns.map Column.name).Nodup)
    (keys : List ForeignKey) (key : ForeignKey) :
    (if (linkTable keys table).name = key.table then
        (linkTable keys table).updateColumn key.column fun column => { column with foreignKey := true }
      else linkTable keys table) = linkTable (keys ++ [key]) table := by
  have names : ((linkTable keys table).columns.map Column.name).Nodup := by
    rw [(link_keeps_names keys).columnNames]
    exact distinct
  by_cases here : (linkTable keys table).name = key.table
  · have same : key.table = table.name := here.symm
    rw [if_pos here, Table.updateColumn, update_first_eq_map names]
    simp only [linkTable, List.map_map, Table.mk.injEq, true_and]
    apply List.map_congr_left
    intro column member
    by_cases named : column.name = key.column
    · simp [is_linked_append, same, named]
    · have other : ¬ key.column = column.name := fun equal => named equal.symm
      simp [is_linked_append, named, other]
  · have other : ¬ key.table = table.name := fun equal => here equal.symm
    rw [if_neg here]
    simp [linkTable, is_linked_append, other]

theorem resolve_linked {tables : List Table} (distinct : DistinctNames tables)
    (keys : List ForeignKey) {key : ForeignKey} (fits : Resolvable tables key) :
    resolve ⟨tables.map (linkTable keys), keys⟩ key =
      ⟨tables.map (linkTable (keys ++ [key])), keys ++ [key]⟩ := by
  have keeps := link_keeps_names keys
  have linked := keeps.distinct distinct
  have resolved : isResolved ⟨tables.map (linkTable keys), keys⟩ key = true :=
    is_resolved_of_resolvable linked (keeps.resolvable fits)
  have changed := update_first_eq_map linked.tableNames key.table
    fun table => table.updateColumn key.column fun column => { column with foreignKey := true }
  rw [resolve, if_pos resolved, Schema.updateColumn, Schema.updateTable, Schema.addForeignKey]
  simp only [Schema.mk.injEq, and_true]
  rw [changed, List.map_map]
  apply List.map_congr_left
  intro table member
  exact link_one_more (distinct.columnNames table member) keys key

theorem resolve_all {tables : List Table} (distinct : DistinctNames tables) (keys : List ForeignKey)
    {more : List ForeignKey} (fit : ∀ key ∈ more, Resolvable tables key) :
    more.foldl resolve ⟨tables.map (linkTable keys), keys⟩ =
      ⟨tables.map (linkTable (keys ++ more)), keys ++ more⟩ := by
  -- After each key the marked columns are those of the keys before it, and these are kept in order.
  induction more generalizing keys with
  | nil => rw [List.foldl_nil, List.append_nil]
  | cons key rest ih =>
      have later := ih (keys ++ [key]) fun other member => fit other (List.mem_cons_of_mem _ member)
      rw [List.foldl_cons, resolve_linked distinct keys (fit key List.mem_cons_self), later,
        List.append_assoc, List.singleton_append]

theorem link_nothing (table : Table) : linkTable [] table = table := by
  simp [linkTable, isLinked]

/-- Declarations with distinct names give their tables with the columns marked that their keys start
from, and all their keys. -/
theorem schema_of_declarations {declared : Declarations} (distinct : DistinctNames declared.tables)
    (fit : ∀ key ∈ declared.keys, Resolvable declared.tables key) :
    declared.schema = ⟨declared.tables.map (linkTable declared.keys), declared.keys⟩ := by
  have unlinked : declared.tables.map (linkTable []) = declared.tables :=
    List.map_id'' link_nothing declared.tables
  have all := resolve_all distinct [] fit
  rw [unlinked] at all
  exact all

end ErDiagram.Script
