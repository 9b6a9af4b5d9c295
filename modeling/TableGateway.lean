import TableGateway.Proofs.Bindings.History
import TableGateway.Proofs.Cipher.Concatenation
import TableGateway.Proofs.Cipher.Folding
import TableGateway.Proofs.Condition.Identity
import TableGateway.Proofs.Condition.Recovery
import TableGateway.Proofs.Connection.Ciphers
import TableGateway.Proofs.Connection.Handles
import TableGateway.Proofs.Connection.Reading
import TableGateway.Proofs.Identifier.Quoting
import TableGateway.Proofs.Registry.Agreement
import TableGateway.Proofs.Registry.Independence
import TableGateway.Proofs.Server.Options
import TableGateway.Proofs.Sql.Rescan
import TableGateway.Proofs.Statement.Masking
import TableGateway.Proofs.Statement.Refusal
import TableGateway.Proofs.Statement.Tail
import TableGateway.Proofs.Value.Restoring
import TableGateway.Registry.Session
