import TableGateway.Row
import TableGateway.Server.Reply

/-!
# Reading cells and rows

How the bytes of a single cell are read is left to the reader that a link brings along.  The
name of a column's type decides which of its readings is asked, and what kind of value comes
of it.  A row is read from left to right, and the first cell that cannot be read decides for
the whole result.
-/

namespace TableGateway

inductive ColumnRule where
  | truth
  | signed
  | unsigned
  | year
  | single
  | double
  | decimal
  | date
  | datetime
  | time
  | instant
  | json
  | binary
  | plain
  deriving DecidableEq, Repr

/-- The rule that goes with the name of a type; types without one of their own share `plain`. -/
def ColumnRule.ofType (name : String) : ColumnRule :=
  match name with
  | "BOOLEAN" => .truth
  | "TINYINT" | "SMALLINT" | "MEDIUMINT" | "INT" | "BIGINT" => .signed
  | "TINYINT UNSIGNED" | "SMALLINT UNSIGNED" | "MEDIUMINT UNSIGNED" | "INT UNSIGNED"
  | "BIGINT UNSIGNED" => .unsigned
  | "YEAR" => .year
  | "FLOAT" => .single
  | "DOUBLE" => .double
  | "DECIMAL" => .decimal
  | "DATE" => .date
  | "DATETIME" => .datetime
  | "TIME" => .time
  | "TIMESTAMP" => .instant
  | "JSON" => .json
  | "BINARY" | "VARBINARY" | "TINYBLOB" | "BLOB" | "MEDIUMBLOB" | "LONGBLOB" | "BIT"
  | "GEOMETRY" => .binary
  | _ => .plain

/-- Reads the cell at a place of a row, under the name of its type. -/
abbrev CellReading (α : Type) := Nat → String → Cell → Except LinkError α

/-- The readings of single cells.  Decimal numbers, days and times come as the texts that
write them. -/
structure CellReader where
  isNull : String → Cell → Bool
  bool : CellReading Bool
  int64 : CellReading Int64
  uint64 : CellReading UInt64
  /-- Does not ask whether the type suits the number. -/
  uint16 : CellReading UInt16
  /-- The bits of the number. -/
  binary32 : CellReading UInt32
  binary64 : CellReading Binary64
  decimal : CellReading String
  date : CellReading String
  datetime : CellReading String
  timeOfDay : CellReading String
  /-- A span of time, which may be negative or longer than a day. -/
  duration : CellReading String
  instant : CellReading String
  json : CellReading Json
  text : CellReading String
  /-- Does not ask whether the type suits bytes. -/
  bytes : CellReading (List UInt8)

/-- The cell at a place; a row that is too short goes on with NULL. -/
def cellAt (cells : List Cell) (i : Nat) : Cell :=
  cells[i]?.getD none

namespace CellReader

/-- The value of a cell that is not NULL.  A time that is no time of day is read as a duration,
and under the plain rule what is no text is left as bytes. -/
def decodeBy (r : CellReader) (i : Nat) (type : String) (cell : Cell) :
    ColumnRule → Except LinkError Value
  | .truth => (r.bool i type cell).map .bool
  | .signed => (r.int64 i type cell).map .int
  | .unsigned => (r.uint64 i type cell).map .uint
  | .year => (r.uint16 i type cell).map fun n => .uint n.toUInt64
  | .single => (r.binary32 i type cell).map fun bits => .float (.ofBinary32 bits)
  | .double => (r.binary64 i type cell).map .float
  | .decimal => (r.decimal i type cell).map .text
  | .date => (r.date i type cell).map .text
  | .datetime => (r.datetime i type cell).map .text
  | .time =>
    match r.timeOfDay i type cell with
    | .ok time => .ok (.text time)
    | .error _ => (r.duration i type cell).map .text
  | .instant => (r.instant i type cell).map .text
  | .json => (r.json i type cell).map fun j => .text j.compact
  | .binary => (r.bytes i type cell).map .bytes
  | .plain =>
    match r.text i type cell with
    | .ok s => .ok (.text s)
    | .error _ => (r.bytes i type cell).map .bytes

def decodeColumn (r : CellReader) (i : Nat) (type : String) (cell : Cell) :
    Except LinkError Value :=
  if r.isNull type cell then .ok .null else r.decodeBy i type cell (.ofType type)

def decodeEntry (r : CellReader) (cells : List Cell) (place : ResultColumn × Nat) :
    Except LinkError (String × Value) :=
  (r.decodeColumn place.2 place.1.typeName (cellAt cells place.2)).map (place.1.name, ·)

def decodeRow (r : CellReader) (columns : List ResultColumn) (cells : List Cell) :
    Except LinkError Row :=
  (columns.zipIdx.mapM (r.decodeEntry cells)).map Row.mk

def decodeRows (r : CellReader) (columns : List ResultColumn) (rows : List (List Cell)) :
    Except LinkError (List Row) :=
  rows.mapM (r.decodeRow columns)

end CellReader

end TableGateway
