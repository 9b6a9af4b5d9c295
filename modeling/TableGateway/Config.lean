import TableGateway.Cipher.Codebook
import TableGateway.Text.Quoted

/-!
# Configurations of connections

A configuration says where to connect to, whether prepared statements are kept, and how
ciphertexts are made.
-/

namespace TableGateway

structure Config where
  url : String
  cipherKey : Option (List UInt8)
  cacheStatements : Bool
  padding : Padding
  deriving DecidableEq, Repr

namespace Config

def ofUrl (url : String) : Config :=
  ⟨url, none, true, .compat⟩

def paddingName : Padding → String
  | .compat => "Compat"
  | .strict => "Strict"

def switchName : Bool → String
  | true => "true"
  | false => "false"

/-- The configuration for people to read.  Key material is never shown, only
whether there is any. -/
def describe (c : Config) : String :=
  "ConnectionConfig \x7b database_url: " ++ Text.quoted c.url ++
    ", cipher_key: " ++ (if c.cipherKey.isSome then "Some(\"<redacted>\")" else "None") ++
    ", cache_statements: " ++ switchName c.cacheStatements ++
    ", padding_mode: " ++ paddingName c.padding ++ " \x7d"

def describeDraft (c : Config) : String :=
  "ConnectionConfigBuilder \x7b config: " ++ c.describe ++ " \x7d"

end Config

end TableGateway
