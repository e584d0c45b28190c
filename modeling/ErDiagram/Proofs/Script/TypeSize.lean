import ErDiagram.Proofs.Script.KeyDeclarations

/-!
# Two numbers after a type

A type may have two numbers in parentheses after it. A number counts if it is written in digits alone
and has at most 32 bits. Two numbers that count are the precision and the scale of the column. If only
one of them counts it is read as if it stood alone, in whichever place it stands.
-/

namespace ErDiagram.Script

set_option autoImplicit false

open Text

structure Numeral where
  negative : Bool := false
  whole : List Char
  fraction : Option (List Char) := none
  nonempty : whole ≠ []
  wholeDigits : whole.all Char.isDigit = true
  fractionDigits : (fraction.getD []).all Char.isDigit = true

namespace Numeral

def text (number : Numeral) : String :=
  String.ofList (numeral number.negative number.whole number.fraction)

def value (number : Numeral) : Nat := Nat.ofDigitChars 10 number.whole 0

/-- Whether the number is written in digits alone and has at most 32 bits. -/
def Counts (number : Numeral) : Prop :=
  number.negative = false ∧ number.fraction = none ∧ number.value < sizeBound

instance (number : Numeral) : Decidable number.Counts :=
  inferInstanceAs (Decidable
    (number.negative = false ∧ number.fraction = none ∧ number.value < sizeBound))

def counted? (number : Numeral) : Option Nat := if number.Counts then some number.value else none

theorem to_list_text (number : Numeral) :
    number.text.toList = numeral number.negative number.whole number.fraction :=
  String.toList_ofList

theorem no_plus_in_text (number : Numeral) : '+' ∉ number.text.toList := by
  have notDigit {digits : List Char} (all : digits.all Char.isDigit = true) : '+' ∉ digits := by
    intro member
    exact absurd (List.all_eq_true.mp all '+' member) (by decide)
  have inWhole := notDigit number.wholeDigits
  have inFraction := notDigit number.fractionDigits
  rw [to_list_text]
  simp only [numeral, List.mem_append, not_or]
  refine ⟨⟨?_, inWhole⟩, ?_⟩
  · split <;> decide
  · cases same : number.fraction with
    | none => simp
    | some digits =>
        rw [same] at inFraction
        simpa using inFraction

theorem counted_read (number : Numeral) : natBelow? sizeBound number.text.toList = number.counted? := by
  rw [nat_below_of_no_plus number.no_plus_in_text, to_list_text, counted?]
  cases negative : number.negative with
  | true =>
      have sign : '-' ∈ numeral true number.whole number.fraction := by simp [numeral]
      have notCounted : ¬ number.Counts := by simp [Counts, negative]
      rw [digits_below_of_other sign rfl, if_neg notCounted]
  | false =>
      cases fraction : number.fraction with
      | some digits =>
          have point : '.' ∈ numeral false number.whole (some digits) := by simp [numeral]
          have notCounted : ¬ number.Counts := by simp [Counts, fraction]
          rw [digits_below_of_other point rfl, if_neg notCounted]
      | none =>
          have plain : numeral false number.whole none = number.whole := by simp [numeral]
          have counts : number.Counts ↔ number.value < sizeBound := by
            simp [Counts, negative, fraction]
          rw [plain, digits_below number.nonempty number.wholeDigits]
          simp only [counts, value]

end Numeral

/-- The size that two numbers after a type are read as. -/
def keptSize (type : String) (first second : Numeral) : Option TypeSize :=
  match first.counted?, second.counted? with
  | some digits, some scale => some (.precision digits scale)
  | some number, none | none, some number =>
    some (if Column.isDecimalType type then .precision number 0 else .length number)
  | none, none => none

/-- The size that two numbers after a type state. -/
def statedSize (first second : Numeral) : Option TypeSize :=
  if first.Counts ∧ second.Counts then some (.precision first.value second.value) else none

theorem size_of_numbers (type : String) (first second : Numeral) :
    sizeOf? type [first.text, second.text] = keptSize type first second := by
  have notMax : [first.text, second.text] ≠ ["max"] := by simp
  rw [sizeOf?, if_neg notMax, List.filterMap_cons, List.filterMap_cons, List.filterMap_nil,
    first.counted_read, second.counted_read, keptSize]
  cases first.counted? <;> cases second.counted? <;> rfl

/-- The size that is read is the one that is stated unless one number counts and the other does not. -/
theorem kept_eq_stated_iff (type : String) (first second : Numeral) :
    keptSize type first second = statedSize first second ↔ (first.Counts ↔ second.Counts) := by
  rw [keptSize, statedSize, Numeral.counted?, Numeral.counted?]
  by_cases inFirst : first.Counts <;> by_cases inSecond : second.Counts <;>
    simp [inFirst, inSecond]

theorem counted_below {number : Numeral} {value : Nat} (counted : number.counted? = some value) :
    value < sizeBound := by
  rw [Numeral.counted?] at counted
  split at counted
  · next counts =>
    cases counted
    exact counts.2.2
  · contradiction

theorem size_fits_of_one {column : Column} {number : Nat} (below : number < sizeBound)
    (sized : column.size =
      some (if Column.isDecimalType column.type then .precision number 0 else .length number)) :
    SizeFits column := by
  rw [SizeFits, sized]
  cases decimal : Column.isDecimalType column.type with
  | true => exact ⟨below, by decide⟩
  | false => exact ⟨below, rfl⟩

theorem size_fits_of_kept {column : Column} {first second : Numeral}
    (sized : column.size = keptSize column.type first second) : SizeFits column := by
  rw [keptSize] at sized
  cases one : first.counted? with
  | none =>
      cases other : second.counted? with
      | none =>
          rw [one, other] at sized
          rw [SizeFits, sized]
          trivial
      | some number =>
          rw [one, other] at sized
          exact size_fits_of_one (counted_below other) sized
  | some number =>
      cases other : second.counted? with
      | none =>
          rw [one, other] at sized
          exact size_fits_of_one (counted_below one) sized
      | some scale =>
          rw [one, other] at sized
          rw [SizeFits, sized]
          exact ⟨counted_below one, counted_below other⟩

namespace ColumnForm

def sized (form : ColumnForm) (first second : Numeral) : ColumnForm :=
  { form with column := { form.column with size := keptSize form.column.type first second } }

def numbersItem (form : ColumnForm) (first second : Numeral) : ItemForm where
  tokens := .identifier form.column.name :: .identifier form.typeName :: .leftParen ::
    .number first.text :: .comma :: .number second.text :: .rightParen ::
      form.clauses.flatMap Clause.tokens
  effect := (BodyItem.column (form.sized first second)).apply

variable {form : ColumnForm} {first second : Numeral}

theorem numbers_item_reads (type : lowercase form.typeName = form.column.type) :
    (form.numbersItem first second).Reads where
  step reading _ stop ends rest := by
    have sizeRead (later : List Token) :
        typeSize form.column.type (.leftParen :: .number first.text :: .comma ::
          .number second.text :: .rightParen :: later) =
            ⟨keptSize form.column.type first second, later⟩ := by
      rw [← size_of_numbers]
      rfl
    have clauses := clauses_read form.clauses ends reading.name
    have step : reading.item (.identifier form.column.name) (.identifier form.typeName ::
        .leftParen :: .number first.text :: .comma :: .number second.text :: .rightParen ::
          (form.clauses.flatMap Clause.tokens ++ stop :: rest)) =
        .ok ⟨(form.numbersItem first second).effect reading, stop :: rest⟩ := by
      simp only [TableReading.item, columnDefinition, type, sizeRead, clauses]
      simp [TableReading.addColumn, numbersItem, BodyItem.apply, ColumnForm.read, sized]
    exact items_step (by simp) step
  unnamed _ unnamed := unnamed

end ColumnForm

namespace Setting

variable (setting : Setting) (first second : Numeral)

def sized : Setting := { setting with column := setting.column.sized first second }

def numbersTokens : List Token :=
  setting.tokensWith ((setting.front.map BodyItem.column).map BodyItem.form ++
    setting.column.numbersItem first second :: setting.later.map BodyItem.form)

end Setting

variable {setting : Setting} {first second : Numeral}

theorem sized_readable (first second : Numeral)
    (readable : ∀ table ∈ setting.tables, ∀ column ∈ table.columns, column.Readable) :
    ∀ table ∈ (setting.sized first second).tables, ∀ column ∈ table.columns, column.Readable := by
  intro table member column inTable
  rw [Setting.tables, List.mem_append, List.mem_cons] at member
  have inHost : ∀ column ∈ setting.host.columns, column.Readable :=
    readable setting.host (List.mem_append_right _ List.mem_cons_self)
  rcases member with before | rfl | after
  · exact readable table (List.mem_append_left _ before) column inTable
  · rcases List.mem_append.mp inTable with front | inRest
    · exact inHost column (List.mem_append_left _ front)
    · rcases List.mem_cons.mp inRest with rfl | back
      · have original := inHost setting.column (List.mem_append_right _ List.mem_cons_self)
        exact ⟨original.type, original.max, size_fits_of_kept rfl⟩
      · exact inHost column (List.mem_append_right _ (List.mem_cons_of_mem _ back))
  · exact readable table (List.mem_append_right _ (List.mem_cons_of_mem _ after)) column inTable

theorem numbers_declarations (first second : Numeral)
    (readable : ∀ table ∈ setting.tables, ∀ column ∈ table.columns, column.Readable) :
    declarations (setting.numbersTokens first second) =
      .ok ⟨(setting.sized first second).unlinked.tables, []⟩ := by
  have column : setting.column.Readable :=
    readable setting.host (List.mem_append_right _ List.mem_cons_self) _
      (List.mem_append_right _ List.mem_cons_self)
  have effect (reading : TableReading) : (setting.column.numbersItem first second).effect reading =
      ((BodyItem.column (setting.column.sized first second)).apply reading).withKeys
        (reading.keys ++ []) := by
    rw [List.append_nil]
    rfl
  exact declarations_with_column (sized_readable first second readable)
    (ColumnForm.numbers_item_reads column.type) (fun _ => []) effect

theorem column_with_kept_size (setting : Setting) (first second : Numeral) :
    ∃ column,
      ((setting.sized first second).unlinked.tables[setting.before.length]?.bind
        fun table => table.columns[setting.front.length]?) = some column ∧
      column.name = setting.columnName ∧ column.type = setting.column.column.type ∧
      column.size = keptSize column.type first second := by
  have table : (setting.sized first second).unlinked.tables[setting.before.length]? =
      some (setting.sized first second).host.read.table := by
    rw [Setting.unlinked, Setting.tables, List.map_append, List.map_cons]
    simp [Setting.sized]
  have inHost : (setting.sized first second).host.columns[setting.front.length]? =
      some (setting.column.sized first second) := by
    simp [Setting.host, Setting.sized]
  have read : (setting.column.sized first second).read = _ := apply_all_eq setting.column.clauses
    { name := setting.columnName, type := setting.column.column.type,
      size := keptSize setting.column.column.type first second }
  have name : (setting.column.sized first second).read.name = setting.columnName := by rw [read]
  have type : (setting.column.sized first second).read.type = setting.column.column.type := by
    rw [read]
  have size : (setting.column.sized first second).read.size =
      keptSize (setting.column.sized first second).read.type first second := by rw [read]
  rw [table, Option.bind_some, TableReading.table, TableForm.read]
  dsimp only
  rw [List.getElem?_map, List.getElem?_map, inHost]
  exact ⟨_, rfl, name, type, size⟩

/-- Two numbers after the type of a column are read as the size that they state exactly if both of them
count or neither does. If only one counts, the column has the size that this one states alone. -/
theorem two_numbers_read (setting : Setting) (first second : Numeral)
    (readable : ∀ table ∈ setting.tables, ∀ column ∈ table.columns, column.Readable) :
    ReadAs (setting.numbersTokens first second) (setting.sized first second).unlinked ∧
      ∃ column,
        ((setting.sized first second).unlinked.tables[setting.before.length]?.bind
          fun table => table.columns[setting.front.length]?) = some column ∧
        column.name = setting.columnName ∧ column.type = setting.column.column.type ∧
        column.size = keptSize column.type first second ∧
        (column.size = statedSize first second ↔ (first.Counts ↔ second.Counts)) := by
  refine ⟨read_as_of_declarations (numbers_declarations first second readable) rfl, ?_⟩
  obtain ⟨column, found, name, type, size⟩ := column_with_kept_size setting first second
  refine ⟨column, found, name, type, size, ?_⟩
  rw [size, kept_eq_stated_iff]

def decimalTable : Setting where
  name := "t"
  column := { column := { name := "a", type := "decimal" }, typeName := "decimal" }

def decimalSchema (size : Option TypeSize) : Schema where
  tables := [⟨"t", [{ name := "a", type := "decimal", size }]⟩]

def Numeral.lexeme (number : Numeral) : Lexeme :=
  .number number.negative number.whole number.fraction

def decimalSpelled (first second : Numeral) : List Lexeme :=
  keywords [.create, .table] ++ .bareName ['t'] ::
    inParens (.bareName ['a'] :: .blank ' ' :: .bareName "decimal".toList ::
      inParens [first.lexeme, .comma, second.lexeme]) ++ [.semicolon]

theorem decimal_table_readable :
    ∀ table ∈ decimalTable.tables, ∀ column ∈ table.columns, column.Readable := by
  have type : Text.lowercase "decimal" = "decimal" := by decide
  have max : Text.lowercase "max" = "max" := by decide
  intro table member column inTable
  cases List.mem_singleton.mp member
  cases List.mem_singleton.mp inTable
  exact ⟨type, max, trivial⟩

/-- A negative scale is dropped, and the precision is read without it. -/
theorem two_numbers_read_of_decimals :
    schemaOf "CREATE TABLE t(a decimal(4294967295,007));" =
        .ok (decimalSchema (some (.precision 4294967295 7))) ∧
      schemaOf "CREATE TABLE t(a decimal(10,-2.));" = .ok (decimalSchema (some (.precision 10 0))) := by
  let widest : Numeral := ⟨false, "4294967295".toList, none, by decide, by decide, by decide⟩
  let seven : Numeral := ⟨false, "007".toList, none, by decide, by decide, by decide⟩
  let ten : Numeral := ⟨false, "10".toList, none, by decide, by decide, by decide⟩
  let minusTwo : Numeral := ⟨true, "2".toList, some [], by decide, by decide, by decide⟩
  obtain ⟨stated, -⟩ := two_numbers_read decimalTable widest seven decimal_table_readable
  obtain ⟨other, -⟩ := two_numbers_read decimalTable ten minusTwo decimal_table_readable
  constructor
  · have text : "CREATE TABLE t(a decimal(4294967295,007));" =
        String.ofList (spelled (decimalSpelled widest seven)) := by decide +kernel
    have schema : (decimalTable.sized widest seven).unlinked =
        decimalSchema (some (.precision 4294967295 7)) := by decide +kernel
    rw [text, ← schema]
    exact stated _ rfl (by decide +kernel)
  · have text : "CREATE TABLE t(a decimal(10,-2.));" =
        String.ofList (spelled (decimalSpelled ten minusTwo)) := by decide +kernel
    have schema : (decimalTable.sized ten minusTwo).unlinked =
        decimalSchema (some (.precision 10 0)) := by decide +kernel
    rw [text, ← schema]
    exact other _ rfl (by decide +kernel)

/-- A precision that is too large makes way for the scale. -/
theorem scale_read_as_precision :
    let wide : Numeral := ⟨false, "4294967296".toList, none, by decide, by decide, by decide⟩
    let two : Numeral := ⟨false, "2".toList, none, by decide, by decide, by decide⟩
    let script := "CREATE TABLE t(a decimal(4294967296,2));"
    schemaOf script = .ok (decimalSchema (some (.precision 2 0))) ∧
      schemaOf script ≠ .ok (decimalSchema (statedSize wide two)) := by
  intro wide two script
  have text : script = String.ofList (spelled (decimalSpelled wide two)) := by decide +kernel
  have schema : (decimalTable.sized wide two).unlinked = decimalSchema (some (.precision 2 0)) := by
    decide +kernel
  have read : schemaOf script = .ok (decimalSchema (some (.precision 2 0))) := by
    rw [text, ← schema]
    exact read_as_of_declarations (numbers_declarations wide two decimal_table_readable) rfl _ rfl
      (by decide +kernel)
  rw [read]
  exact ⟨rfl, by decide +kernel⟩

end ErDiagram.Script
