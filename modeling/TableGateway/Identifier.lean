import TableGateway.Text.Blank

/-!
# Names of tables and columns

Cleaning a name deletes its backticks and then the blanks around it, so a cleaned name between
backticks is one quoted identifier whatever the name was.  A cleaned name may be empty.
-/

namespace TableGateway.Identifier

def quoteMark : Char := '\x60'

def cleanChars (cs : List Char) : List Char :=
  Text.trim (cs.filter (· != quoteMark))

def clean (name : String) : String :=
  String.ofList (cleanChars name.toList)

def quote (name : String) : String :=
  String.ofList (quoteMark :: (cleanChars name.toList ++ [quoteMark]))

def isWordStart (c : Char) : Bool :=
  c.isAlpha || c == '_'

def isWordPart (c : Char) : Bool :=
  c.isAlphanum || c == '_'

def isPlaceholderName (name : String) : Bool :=
  match name.toList with
  | [] => false
  | c :: cs => isWordStart c && cs.all isWordPart

end TableGateway.Identifier
