import ToolGateway.Table
import ToolGateway.Number.Binary64

/-!
JSON values.

A number is an integer or a finite double, never both: `1` and `1.0` are different values. Object members are a list of
pairs; a value that was read has them ascending by name, each name once, and a document that is about to be written has
them in the order in which they are written.
-/

namespace ToolGateway

inductive Number where
  /-- an integer written without point or exponent -/
  | int (value : Int)
  /-- any other number -/
  | real (value : Binary64)
  deriving DecidableEq, Repr

inductive Json where
  | null
  | bool (value : Bool)
  | number (value : Number)
  | string (value : String)
  | array (items : List Json)
  | object (members : List (String × Json))

namespace Json

instance : Inhabited Json := ⟨null⟩

def int (i : Int) : Json :=
  number (.int i)

def nat (n : Nat) : Json :=
  number (.int n)

def isNull : Json → Bool
  | null => true
  | _ => false

/-- the member of an object, absent for any other value -/
def member? (name : String) : Json → Option Json
  | object members => Table.find? name members
  | _ => none

def text? : Json → Option String
  | string s => some s
  | _ => none

def items? : Json → Option (List Json)
  | array items => some items
  | _ => none

/-- the object of some members, ascending by name, the last of a repeated name counting -/
def ofMembers (members : List (String × Json)) : Json :=
  object (Table.ofList members)

mutual

/-- equality of values, member for member and in order -/
def beq : Json → Json → Bool
  | null, null => true
  | bool a, bool b => a == b
  | number a, number b => a == b
  | string a, string b => a == b
  | array a, array b => beqItems a b
  | object a, object b => beqMembers a b
  | _, _ => false

def beqItems : List Json → List Json → Bool
  | [], [] => true
  | a :: as, b :: bs => beq a b && beqItems as bs
  | _, _ => false

def beqMembers : List (String × Json) → List (String × Json) → Bool
  | [], [] => true
  | (k, a) :: as, (l, b) :: bs => k == l && beq a b && beqMembers as bs
  | _, _ => false

end

instance : BEq Json := ⟨beq⟩

mutual

/-- how deep containers are nested in the value -/
def depth : Json → Nat
  | array items => depthItems items + 1
  | object members => depthMembers members + 1
  | _ => 0

def depthItems : List Json → Nat
  | [] => 0
  | j :: rest => max (depth j) (depthItems rest)

def depthMembers : List (String × Json) → Nat
  | [] => 0
  | (_, j) :: rest => max (depth j) (depthMembers rest)

end

mutual

/-- how many values the value holds, itself included -/
def size : Json → Nat
  | array items => sizeItems items + 1
  | object members => sizeMembers members + 1
  | _ => 1

def sizeItems : List Json → Nat
  | [] => 0
  | j :: rest => size j + sizeItems rest

def sizeMembers : List (String × Json) → Nat
  | [] => 0
  | (_, j) :: rest => size j + sizeMembers rest

end

end Json

end ToolGateway
