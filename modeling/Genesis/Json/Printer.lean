/-!
# Writing JSON

Objects are written compactly or with one member on a line, indented by two blanks for each level.
-/

namespace Genesis
namespace Json

/-- A member of an object: its name and the text of its value. -/
structure Member where
  name : String
  value : List Char

def printBool (b : Bool) : List Char := (if b then "true" else "false").toList

def printNat (n : Nat) : List Char := Nat.toDigits 10 n

def printNull : List Char := "null".toList

def printName (name : String) : List Char := '"' :: (name.toList ++ ['"'])

def separated (separator : List Char) : List (List Char) → List Char
  | [] => []
  | [x] => x
  | x :: xs => x ++ separator ++ separated separator xs

def compactObject (members : List Member) : List Char :=
  '\x7b' :: (separated [','] (members.map fun m => printName m.name ++ ':' :: m.value) ++ ['\x7d'])

def compactList (items : List (List Char)) : List Char := '[' :: (separated [','] items ++ [']'])

def newLine (depth : Nat) : List Char := '\n' :: List.replicate (2 * depth) ' '

/-- An object that stands at the given depth. -/
def prettyObject (depth : Nat) (members : List Member) : List Char :=
  '\x7b' :: (separated [',']
      (members.map fun m => newLine (depth + 1) ++ printName m.name ++ ':' :: ' ' :: m.value) ++
    newLine depth ++ ['\x7d'])

end Json
end Genesis
