import TableGateway.Condition.Operator
import TableGateway.Json.Printer

/-!
# Errors and their texts

An error is kept as its cause; the text that says so is made of it on demand.
-/

namespace TableGateway

inductive LinkError where
  | rowNotFound
  | poolTimedOut
  | poolClosed
  | workerCrashed
  | unexpectedData (detail : String)
  | unknownColumn (name : String)
  | unknownType (name : String)
  | configuration (detail : String)
  | communication (detail : String)
  | decoding (detail : String)
  | columnDecoding (index : Nat) (detail : String)
  | database (code : Option String) (text : String)
  deriving DecidableEq, Repr

def LinkError.message : LinkError → String
  | .rowNotFound => "no rows returned by a query that expected to return at least one row"
  | .poolTimedOut => "pool timed out while waiting for an open connection"
  | .poolClosed => "attempted to acquire a connection on a closed pool"
  | .workerCrashed => "attempted to communicate with a crashed background worker"
  | .unexpectedData detail => "encountered unexpected or invalid data: " ++ detail
  | .unknownColumn name => "no column found for name: " ++ name
  | .unknownType name => "type named " ++ name ++ " not found"
  | .configuration detail => "error with configuration: " ++ detail
  | .communication detail => "error communicating with database: " ++ detail
  | .decoding detail => "error occurred while decoding: " ++ detail
  | .columnDecoding index detail =>
    "error occurred while decoding column " ++ String.ofList (Text.decimal index) ++ ": " ++ detail
  | .database _ text => "error returned from database: " ++ text

structure DriverError where
  code : String
  text : String
  deriving DecidableEq, Repr

namespace DriverError

/-- The code of a failure that has none of its own. -/
def generalCode : String := "HY000"

/-- The code of a parameter without a value. -/
def parameterCode : String := "HY093"

def message (e : DriverError) : String :=
  e.code ++ ": " ++ e.text

def ofLink : LinkError → DriverError
  | .database code text => ⟨code.getD generalCode, text⟩
  | other => ⟨generalCode, other.message⟩

end DriverError

inductive Malformed where
  | objectGiven
  | columnNotText (found : Json)
  | operatorNotText (column : String) (found : Json)
  | notScalar (found : Json)
  | operandCount (op : Comparison) (given : Nat)
  | emptyColumn (column : String)
  | described (detail : String)
  deriving Repr

def Malformed.message : Malformed → String
  | .objectGiven => "condition must be an array or a scalar, got an object"
  | .columnNotText found => "column name must be a string, got " ++ found.compact
  | .operatorNotText column found =>
    "operator for '" ++ column ++ "' must be a string, got " ++ found.compact
  | .notScalar found => "expected a scalar value, got " ++ found.compact
  | .operandCount op given =>
    "operator '" ++ op.sql ++ "' takes exactly one value, got " ++
      String.ofList (Text.decimal given)
  | .emptyColumn column => "column name '" ++ column ++ "' is empty after sanitization"
  | .described detail => detail

inductive Missing where
  | value (column : String)
  | operator (column : String)
  | bounds (column : String) (given : Nat)
  | described (detail : String)
  deriving DecidableEq, Repr

def Missing.message : Missing → String
  | .value column => "condition on '" ++ column ++ "' has no value"
  | .operator column => "condition on '" ++ column ++ "' needs an operator and a value"
  | .bounds column given =>
    "BETWEEN on '" ++ column ++ "' requires exactly two values, got " ++
      String.ofList (Text.decimal given)
  | .described detail => detail

inductive CipherFault where
  | length (given : Nat)
  | padding
  | described (detail : String)
  deriving DecidableEq, Repr

def CipherFault.message : CipherFault → String
  | .length given =>
    "ciphertext length " ++ String.ofList (Text.decimal given) ++
      " is not a positive multiple of 16"
  | .padding => "invalid padding"
  | .described detail => detail

inductive ConnectFault where
  | unconfigured (name : String)
  | link (cause : LinkError)
  | described (detail : String)
  deriving DecidableEq, Repr

def ConnectFault.message : ConnectFault → String
  | .unconfigured name => "No configuration for connection '" ++ name ++ "'"
  | .link cause => "Database connection failed: " ++ cause.message
  | .described detail => detail

inductive Error where
  | malformed (fault : Malformed)
  | invalidOperator (token : String)
  | missing (fault : Missing)
  | noColumns (table : String)
  | execution (cause : DriverError)
  | missingCipherKey
  | cipher (fault : CipherFault)
  | connection (fault : ConnectFault)
  | link (cause : LinkError)
  deriving Repr

def Error.message : Error → String
  | .malformed fault => "Malformed condition: " ++ fault.message
  | .invalidOperator token => "Invalid operator: " ++ token
  | .missing fault => "Missing arguments: " ++ fault.message
  | .noColumns table => "No usable columns for table " ++ table
  | .execution cause => cause.code ++ ": " ++ cause.text
  | .missingCipherKey => "Cipher key is not configured"
  | .cipher fault => "Cipher error: " ++ fault.message
  | .connection fault => "Connection error: " ++ fault.message
  | .link cause => "SQL error: " ++ cause.message

theorem Error.message_execution (cause : DriverError) :
    (Error.execution cause).message = cause.message := rfl

end TableGateway
