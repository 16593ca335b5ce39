import Stockroom.Inventory.Listing
import Stockroom.Proofs.Device.Boundary
import Stockroom.Proofs.Query.Translation

/-!
# A database of devices

A table of devices with different identifiers, an order of the values of each
column, and a judge of the tests that filters make.  A query is answered by the
rows whose condition holds, in some order that its terms permit.
-/

namespace Stockroom

/-! ## Orders -/

def Order.directed {α : Type} (order : Order) (cmp : α → α → Ordering) (a b : α) : Ordering :=
  match order with
  | .ascending => cmp a b
  | .descending => cmp b a

instance {α : Type} (order : Order) (cmp : α → α → Ordering) [Std.TransCmp cmp] :
    Std.TransCmp (order.directed cmp) := by
  cases order with
  | ascending => exact inferInstanceAs (Std.TransCmp cmp)
  | descending => exact inferInstanceAs (Std.TransCmp fun a b => cmp b a)

theorem transCmp_on {α β : Type} (f : β → α) (cmp : α → α → Ordering) [Std.TransCmp cmp] :
    Std.TransCmp fun a b => cmp (f a) (f b) where
  eq_swap := Std.OrientedCmp.eq_swap
  isLE_trans := Std.TransCmp.isLE_trans

/-! ## Tables and their queries -/

structure Database where
  rows : List Device
  /-- The order of the values of a column. -/
  compare : String → Value → Value → Ordering
  /-- The outcome of a test of a filter on a row. -/
  judge : Device → Sql.Test Value → Truth
  distinct : rows.Pairwise fun a b => a.id ≠ b.id
  readable : ∀ device ∈ rows, device.Readable
  /-- A word of 64 bits counts the rows and a page more without wrapping around. -/
  small : rows.length < 2 ^ 62
  ordered : ∀ column, Std.TransCmp (compare column)
  different : ∀ a b : Uuid, compare "id" (.uuid a) (.uuid b) = .eq → a = b

namespace Database

instance (db : Database) (column : String) : Std.TransCmp (db.compare column) := db.ordered column

def compareColumn (db : Database) (column : String) (a b : Device) : Ordering :=
  db.compare column (a.columnValue column) (b.columnValue column)

instance (db : Database) (column : String) : Std.TransCmp (db.compareColumn column) :=
  transCmp_on (fun device : Device => device.columnValue column) (db.compare column)

/-- The order of a statement: by its first term, and by the further ones among equals. -/
def compareBy (db : Database) : List Sql.OrderTerm → Device → Device → Ordering
  | [] => fun _ _ => .eq
  | term :: terms =>
      compareLex (term.order.directed (db.compareColumn term.column)) (db.compareBy terms)

instance (db : Database) (terms : List Sql.OrderTerm) : Std.TransCmp (db.compareBy terms) := by
  induction terms with
  | nil => exact { eq_swap := rfl, isLE_trans := fun _ _ => rfl }
  | cons term terms ih => exact inferInstanceAs (Std.TransCmp (compareLex _ _))

/-- The outcome of a test on a row; two columns are compared like one pair. -/
def outcome (db : Database) (device : Device) : Sql.Test Value → Truth
  | .beyond column id above value idValue =>
      .ofBool (((db.compare column (device.columnValue column) value).then
        (db.compare id (device.columnValue id) idValue)) == if above then .gt else .lt)
  | test => db.judge device test

/-- The rows whose condition holds; a condition that is unknown does not. -/
def matching (db : Database) (params : List Value) (condition : Option Sql.Expr) : List Device :=
  db.rows.filter fun device => Sql.clauseTruth (db.outcome device) params condition == .holds

/-- The rows are the window of the matching rows in some order that the terms permit. -/
def Answers (db : Database) (query : Sql.Select) (params : List Value)
    (answer : List Device) : Prop :=
  ∃ sorted : List Device, sorted.Perm (db.matching params query.condition) ∧
    sorted.Pairwise (fun a b => (db.compareBy query.terms a b).isLE) ∧
    answer = (sorted.drop (query.offset.getD 0)).take query.limit

/-- The answer that leaves rows in the order of the table where the terms permit it. -/
def answer (db : Database) (query : Sql.Select) (params : List Value) : List Device :=
  (((db.matching params query.condition).mergeSort
    fun a b => (db.compareBy query.terms a b).isLE).drop (query.offset.getD 0)).take query.limit

theorem answers_answer (db : Database) (query : Sql.Select) (params : List Value) :
    db.Answers query params (db.answer query params) := by
  refine ⟨_, List.mergeSort_perm _ _, ?_, rfl⟩
  apply List.pairwise_mergeSort
  · exact fun a b c hab hbc => Std.TransCmp.isLE_trans hab hbc
  · intro a b
    have swap : db.compareBy query.terms b a = (db.compareBy query.terms a b).swap :=
      Std.OrientedCmp.eq_swap
    rw [swap]
    cases db.compareBy query.terms a b <;> rfl

end Database

namespace Device

def columnNames : List String := ["id", "name", "brand", "state", "created_at", "updated_at"]

theorem catalog_plain : catalog.Plain := ⟨by decide, by decide, by decide⟩

end Device

/-- The queries give what their texts ask of the database. -/
structure Database.Faithful (db : Database) (queries : Queries Id) : Prop where
  count : ∀ (statement : Statement) (query : Sql.Count),
    Sql.ReadsCount (statement.countText Device.tableName) query →
      queries.count statement =
        pure ((db.matching statement.filterParams query.condition).length : Int)
  fetch : ∀ (statement : Statement) (extra : UInt32) (query : Sql.Select),
    Sql.ReadsSelect (statement.rowsText Device.tableName (", ".intercalate Device.columnNames)
        extra) query →
      ∃ rows, db.Answers query statement.params rows ∧ queries.fetch statement extra = pure rows

open Classical in
/-- Queries that read each text and answer it in the order of the table. -/
noncomputable def Database.queries (db : Database) : Queries Id where
  count statement :=
    if h : ∃ query, Sql.ReadsCount (statement.countText Device.tableName) query then
      pure ((db.matching statement.filterParams h.choose.condition).length : Int)
    else pure 0
  fetch statement extra :=
    if h : ∃ query, Sql.ReadsSelect (statement.rowsText Device.tableName
        (", ".intercalate Device.columnNames) extra) query then
      pure (db.answer h.choose statement.params)
    else pure []

theorem Database.fetch_queries (db : Database) {statement : Statement} {extra : UInt32}
    {query : Sql.Select} (h : Sql.ReadsSelect (statement.rowsText Device.tableName
      (", ".intercalate Device.columnNames) extra) query) :
    db.queries.fetch statement extra = pure (db.answer query statement.params) := by
  have read : ∃ query, Sql.ReadsSelect (statement.rowsText Device.tableName
      (", ".intercalate Device.columnNames) extra) query := ⟨query, h⟩
  have same : read.choose = query := read.choose_spec.unique h
  simp only [queries, dif_pos read, same]

theorem Database.faithful_queries (db : Database) : db.Faithful db.queries where
  count := by
    intro statement query h
    have read : ∃ query, Sql.ReadsCount (statement.countText Device.tableName) query := ⟨query, h⟩
    have same : read.choose = query := read.choose_spec.unique h
    simp only [queries, dif_pos read, same]
  fetch := by
    intro statement extra query h
    exact ⟨_, db.answers_answer query statement.params, db.fetch_queries h⟩

/-! ## A database with the usual orders -/

/-- Texts are compared by code points, identifiers as numbers, instants by time. -/
def Value.key : Value → List Int
  | .null => []
  | .bool value => [if value then 1 else 0]
  | .int value => [value.toInt]
  | .float value => [value.bits.toNat]
  | .text value => value.toList.map fun c => c.toNat
  | .uuid id => [id.value]
  | .instant value => [value.seconds, value.nanos]

/-- A table that is compared in the usual orders, with filters for equality only. -/
def Database.usual (rows : List Device) (distinct : rows.Pairwise fun a b => a.id ≠ b.id)
    (readable : ∀ device ∈ rows, device.Readable) (small : rows.length < 2 ^ 62) : Database where
  rows
  compare _ := compareOn Value.key
  judge device test :=
    match test with
    | .compare column .equal operand => .ofBool (device.columnValue column == operand)
    | _ => .unknown
  distinct
  readable
  small
  ordered _ := inferInstance
  different := by
    intro a b h
    have keys : Value.key (.uuid a) = Value.key (.uuid b) := Std.LawfulEqOrd.eq_of_compare h
    cases a
    cases b
    simpa [Value.key] using keys

/-- Devices that differ in nothing but the identifier. -/
def Device.twin (id : Uuid) : Device where
  id
  name := "drill"
  brand := "acme"
  state := .available
  createdAt := ⟨0, 0, by decide⟩
  updatedAt := ⟨0, 0, by decide⟩

theorem Device.readable_twin (id : Uuid) : (twin id).Readable := by
  have epoch : Instant.Readable ⟨0, 0, by decide⟩ := ⟨by decide, by decide⟩
  exact ⟨epoch, epoch⟩

/-- Two twins, the one with the greater identifier first. -/
def Database.twins : Database :=
  usual [.twin ⟨2, by decide⟩, .twin ⟨1, by decide⟩] (by simp [Device.twin])
    (by simp [Device.readable_twin]) (by decide)

end Stockroom
