import TableGateway.Config
import TableGateway.Driver.Basic
import TableGateway.Sql.Statement
import TableGateway.StatementCache

/-!
# Connections

A connection is a driver's state together with the handles that were prepared, the cipher once
it has been needed, and the last failure of a statement.
-/

namespace TableGateway

structure Connection (σ η : Type) where
  driver : σ
  config : Config
  statements : StatementCache η
  cipher : Option Cipher
  lastError : Option String

namespace Connection

variable {σ η : Type}

def ofDriver (driver : σ) (config : Config) : Connection σ η :=
  ⟨driver, config, .empty, none, none⟩

def cachedStatements (c : Connection σ η) : Nat :=
  c.statements.size

def clearStatements (c : Connection σ η) : Connection σ η :=
  { c with statements := .empty }

def prepare (d : Driver σ η) (c : Connection σ η) (sql : String) :
    Except DriverError η × Connection σ η :=
  match if c.config.cacheStatements then c.statements.get? sql else none with
  | some handle => (.ok handle, c)
  | none =>
    match d.prepare c.driver sql with
    | (.error fault, driver) => (.error fault, { c with driver := driver })
    | (.ok handle, driver) =>
      (.ok handle,
        { c with
          driver := driver
          statements :=
            if c.config.cacheStatements then c.statements.insert sql handle else c.statements })

def recordFailure {α : Type} (c : Connection σ η) (fault : DriverError) :
    Except Error α × Connection σ η :=
  (.error (.execution fault), { c with lastError := some fault.message })

/-- Executes a statement; blanks around it are dropped.  The outcome has the
shape that its verb asks for. -/
def query (d : Driver σ η) (c : Connection σ η) (sql : String) (arguments : Arguments) :
    Except Error Outcome × Connection σ η :=
  let sql := String.ofList (Text.trim sql.toList)
  match prepare d { c with lastError := none } sql with
  | (.error fault, c) => c.recordFailure fault
  | (.ok handle, c) =>
    let verb := Verb.classify sql
    match d.execute c.driver handle arguments verb with
    | (.error fault, driver) => { c with driver := driver }.recordFailure fault
    | (.ok output, driver) =>
      (.ok (verb.interpret output (d.lastInsertId driver)), { c with driver := driver })

def execute (d : Driver σ η) (c : Connection σ η) (statement : Statement) :
    Except Error Outcome × Connection σ η :=
  c.query d statement.sql (.named statement.bindings)

def executeBuilt {α : Type} (d : Driver σ η) (c : Connection σ η)
    (statement : Except Error Statement) (read : Outcome → α) :
    Except Error α × Connection σ η :=
  match statement with
  | .error e => (.error e, c)
  | .ok statement =>
    let (outcome, c) := c.execute d statement
    (outcome.map read, c)

def select (d : Driver σ η) (c : Connection σ η) (table : String) (condition : Condition)
    (order : Option OrderBy) (limit offset : UInt64) :
    Except Error (List Row) × Connection σ η :=
  c.executeBuilt d (Statement.select table condition order limit offset) Outcome.toRows

def insert (d : Driver σ η) (c : Connection σ η) (table : String) (values : Bindings)
    (mode : InsertMode) : Except Error UInt64 × Connection σ η :=
  c.executeBuilt d (Statement.insert table values mode) fun o => o.insertId?.getD 0

def update (d : Driver σ η) (c : Connection σ η) (table : String) (values : Bindings)
    (condition : Condition) (limit : UInt64) : Except Error UInt64 × Connection σ η :=
  c.executeBuilt d (Statement.update table values condition limit) fun o => o.affected?.getD 0

def delete (d : Driver σ η) (c : Connection σ η) (table : String) (condition : Condition)
    (limit : UInt64) : Except Error UInt64 × Connection σ η :=
  c.executeBuilt d (Statement.delete table condition limit) fun o => o.affected?.getD 0

def useCipher (c : Connection σ η) : Except Error Cipher × Connection σ η :=
  match c.cipher, c.config.cipherKey with
  | some cipher, _ => (.ok cipher, c)
  | none, some raw =>
    let cipher := Cipher.ofRawKey raw c.config.padding
    (.ok cipher, { c with cipher := some cipher })
  | none, none => (.error .missingCipherKey, c)

def encrypt (c : Connection σ η) (plain : Option (List UInt8)) :
    Except Error (Option (List UInt8)) × Connection σ η :=
  let (cipher, c) := c.useCipher
  (cipher.map (·.encrypt plain), c)

def decrypt (c : Connection σ η) (bytes : Option (List UInt8)) :
    Except Error (Option (List UInt8)) × Connection σ η :=
  let (cipher, c) := c.useCipher
  (cipher.bind (·.decrypt bytes), c)

end Connection

inductive Operation where
  | query (sql : String) (arguments : Arguments)
  | execute (statement : Statement)
  | select (table : String) (condition : Condition) (order : Option OrderBy)
      (limit offset : UInt64)
  | insert (table : String) (values : Bindings) (mode : InsertMode)
  | update (table : String) (values : Bindings) (condition : Condition) (limit : UInt64)
  | delete (table : String) (condition : Condition) (limit : UInt64)
  | encrypt (plain : Option (List UInt8))
  | decrypt (bytes : Option (List UInt8))
  | clearStatements

inductive Answer where
  | outcome (o : Outcome)
  | rows (list : List Row)
  | count (n : UInt64)
  | bytes (b : Option (List UInt8))
  | cleared
  deriving DecidableEq, Repr

namespace Connection

variable {σ η : Type}

def perform (d : Driver σ η) (c : Connection σ η) :
    Operation → Except Error Answer × Connection σ η
  | .query sql arguments =>
    let (r, c) := c.query d sql arguments
    (r.map .outcome, c)
  | .execute statement =>
    let (r, c) := c.execute d statement
    (r.map .outcome, c)
  | .select table condition order limit offset =>
    let (r, c) := c.select d table condition order limit offset
    (r.map .rows, c)
  | .insert table values mode =>
    let (r, c) := c.insert d table values mode
    (r.map .count, c)
  | .update table values condition limit =>
    let (r, c) := c.update d table values condition limit
    (r.map .count, c)
  | .delete table condition limit =>
    let (r, c) := c.delete d table condition limit
    (r.map .count, c)
  | .encrypt plain =>
    let (r, c) := c.encrypt plain
    (r.map .bytes, c)
  | .decrypt bytes =>
    let (r, c) := c.decrypt bytes
    (r.map .bytes, c)
  | .clearStatements => (.ok .cleared, c.clearStatements)

def run (d : Driver σ η) (c : Connection σ η) :
    List Operation → List (Except Error Answer) × Connection σ η
  | [] => ([], c)
  | op :: ops =>
    let (answer, c) := c.perform d op
    let (answers, c) := run d c ops
    (answer :: answers, c)

end Connection

end TableGateway
