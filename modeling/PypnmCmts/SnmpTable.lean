import PypnmCmts.PyConvert
import PypnmCmts.SnmpClient

/-! The rows of the CMTS tables as the classes of `docsis/data_type` read them: one get for each
cell, cast to its type, and no value where anything goes wrong. -/
namespace PypnmCmts

inductive SnmpValue
  | int (value : ℤ)
  | text (value : String)
deriving DecidableEq

/-- How a cell is cast: by `int(value)`, by `int(value, 0)`, as a MAC address, as a text. The
columns that nothing reads, powers and truth values, are asked for and dropped. -/
inductive SnmpCast
  | int | intBase0 | mac | text | unread
deriving DecidableEq

structure SnmpColumn where
  field : String
  cast : SnmpCast
deriving DecidableEq

/-- The entry of a table at an index. -/
structure SnmpRow where
  index : ℤ
  cells : List (String × Option SnmpValue)
deriving DecidableEq

/-- A table whose indices are those of a walk of a column. -/
structure SnmpTable where
  walked : String
  columns : List SnmpColumn

namespace SnmpRow

def cell (row : SnmpRow) (field : String) : Option SnmpValue := (row.cells.lookup field).join

def int (row : SnmpRow) (field : String) : Option ℤ :=
  match row.cell field with
  | some (.int value) => some value
  | _ => none

def text (row : SnmpRow) (field : String) : Option String :=
  match row.cell field with
  | some (.text value) => some value
  | _ => none

end SnmpRow

namespace SnmpTable
variable (env : SnmpEnvironment) (collection : Collection)

/-- `safe_cast`, or `cast_mac` for an address. -/
def safeCast (cast : SnmpCast) (value : String) : Option SnmpValue :=
  match cast with
  | .int => (PyConvert.parseInt value).map .int
  | .intBase0 => (PyConvert.parseIntBase0 value).map .int
  | .mac => (env.parseMac value).map .text
  | .text => some (.text value)
  | .unread => none

def fetch (index : ℤ) (column : SnmpColumn) : Collecting (Option SnmpValue) :=
  Attempt.rescue (do
    let raw ← env.get collection column.field [index]
    let val ← Attempt.ofExcept (.helper collection true) (env.getResultValue raw)
    -- an empty text counts as no value
    pure (val.bind fun value => if value = "" then none else safeCast env column.cast value)) none

/-- `from_snmp`. -/
def fromSnmp (columns : List SnmpColumn) (index : ℤ) : Collecting SnmpRow := do
  let cells ← Attempt.forEach (fun column : SnmpColumn => do
    let value ← fetch env collection index column
    pure (column.field, value)) columns
  pure { index, cells }

/-- `get_all`. -/
def getAll (table : SnmpTable) : Collecting (List SnmpRow) := do
  let results ← (env.walk collection table.walked).rescue []
  if results = [] then pure []
  else
    let indices ← Attempt.ofExcept (.helper collection true) (env.extractLastOidIndex results)
    Attempt.forEach (fromSnmp env collection table.columns) indices

section Rules
open Attempt SnmpEnvironment
variable {env collection}

/-- An exception of a helper is caught if it is raised within a `try` block. -/
theorem guarded_swallowed : Swallowed (.helper collection true) := by
  exact Bool.false_ne_true

theorem fetch_within (index : ℤ) (column : SnmpColumn) :
    Within Swallowed (fetch env collection index column) := by
  apply Within.rescue
  refine (send_within _).bind fun raw => ?_
  exact (Within.ofExcept guarded_swallowed _).bind fun val => .pure _

/-- No cell of a row can fail the row. -/
theorem fromSnmp_within (columns : List SnmpColumn) (index : ℤ) :
    Within Swallowed (fromSnmp env collection columns index) := by
  refine (Within.forEach (fun column => ?_) columns).bind fun cells => .pure _
  exact (fetch_within index column).bind fun value => .pure _

theorem getAll_within (table : SnmpTable) : Within Swallowed (getAll env collection table) := by
  refine ((send_within _).rescue []).bind fun results => ?_
  split
  · exact .pure _
  · refine (Within.ofExcept guarded_swallowed _).bind fun indices => ?_
    exact .forEach (fromSnmp_within table.columns) indices

end Rules
end SnmpTable
end PypnmCmts
