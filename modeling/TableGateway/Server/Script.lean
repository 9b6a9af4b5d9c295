import TableGateway.Server.Link

/-!
# A server that follows a script

It answers with the reply that is due, keeps what it was sent, and brings a reader for the plain
types: truth values, whole numbers, JSON documents, texts and bytes.
-/

namespace TableGateway

namespace CellReader

def littleEndian : List UInt8 → Nat
  | [] => 0
  | b :: bs => b.toNat + 256 * littleEndian bs

def twosComplement (bytes : List UInt8) : Int64 :=
  let n := littleEndian bytes
  let span := Nat.pow 256 bytes.length
  if 2 * n < span then Int64.ofNat n else Int64.ofInt (n - span)

def ofBytes {α : Type} (read : List UInt8 → α) : CellReading α :=
  fun _ _ cell => .ok (read (cell.getD []))

def unknown {α : Type} : CellReading α :=
  fun _ type _ => .error (.unknownType type)

def utf8 : CellReading String :=
  fun i _ cell => (Text.ofUtf8 (cell.getD [])).mapError fun fault =>
    .columnDecoding i (String.ofList fault.chars)

def plain : CellReader where
  isNull _ cell := cell.isNone
  bool := ofBytes fun bytes => bytes.headD 0 != 0
  int64 := ofBytes twosComplement
  uint64 := ofBytes fun bytes => UInt64.ofNat (littleEndian bytes)
  uint16 := ofBytes fun bytes => UInt16.ofNat (littleEndian bytes)
  binary32 := unknown
  binary64 := unknown
  decimal := unknown
  date := unknown
  datetime := unknown
  timeOfDay := unknown
  duration := unknown
  instant := unknown
  json i type cell := do
    let s ← utf8 i type cell
    (Json.parse s).mapError (.columnDecoding i)
  text i type cell :=
    if type ∈ ["CHAR", "VARCHAR", "TINYTEXT", "TEXT", "MEDIUMTEXT", "LONGTEXT", "ENUM"] then
      utf8 i type cell
    else unknown i type cell
  bytes := ofBytes id

end CellReader

structure ServerScript where
  prepareFault : Option LinkError
  reply : Option (Except LinkError ServerReply)
  /-- The statements executed with the values bound, oldest first. -/
  received : List (String × List Value)

namespace ServerScript

def fresh : ServerScript :=
  ⟨none, none, []⟩

/-- Sets the scene for one operation, and forgets what was received. -/
def cue (prepareFault : Option LinkError) (reply : Option (Except LinkError ServerReply)) :
    ServerScript :=
  ⟨prepareFault, reply, []⟩

def prepare (s : ServerScript) : Except LinkError Unit × ServerScript :=
  match s.prepareFault with
  | some fault => (.error fault, s)
  | none => (.ok (), s)

/-- Gives the reply that is due, or else that nothing was affected. -/
def execute (s : ServerScript) (sql : String) (values : List Value) :
    Except LinkError ServerReply × ServerScript :=
  (s.reply.getD (.ok (.done 0 0)),
    { s with reply := none, received := s.received ++ [(sql, values)] })

def server : Server ServerScript where
  prepare s _ := s.prepare
  execute s sql values := s.execute sql values
  reader := .plain

end ServerScript

end TableGateway
