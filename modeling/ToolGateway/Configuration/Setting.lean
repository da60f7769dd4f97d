import ToolGateway.Json.Fault

/-!
Values of settings, as files and variables give them, and how one source of settings overrides another.
-/

namespace ToolGateway

inductive Setting where
  | text (value : String)
  | flag (value : Bool)
  /-- a number that a variable gives without a sign -/
  | natural (value : Nat)
  | integer (value : Int)
  | real (value : Binary64)
  /-- infinity, or what is no number at all, by its written form -/
  | nonFinite (written : String)
  | list (items : List Setting)
  | group (entries : List (String × Setting))

namespace Setting

instance : Inhabited Setting := ⟨group []⟩

/-- Decimals in messages are written positionally, an integral one without a point. -/
def layout : Layout := ⟨-400, 400, false⟩

/-- what stands there, for messages -/
def describe : Setting → String
  | text s => "string " ++ Text.quoted s
  | flag b => "bool " ++ toString b
  | natural n => "unsigned int `" ++ toString n ++ "`"
  | integer i => "signed int `" ++ toString i ++ "`"
  | real x => "float `" ++ String.ofList (layout.text x) ++ "`"
  | nonFinite written => "float `" ++ written ++ "`"
  | list _ => "sequence"
  | group _ => "map"

/-- the setting at a path of names -/
def find? : List String → Setting → Option Setting
  | [], s => some s
  | name :: path, group entries => (entries.lookup name).bind (find? path)
  | _, _ => none

/-- the entries with the value of a name changed, or set -/
def alter (name : String) (f : Option Setting → Setting) : List (String × Setting) → List (String × Setting)
  | [] => [(name, f none)]
  | (k, s) :: rest => if k = name then (k, f (some s)) :: rest else (k, s) :: alter name f rest

mutual

/-- a setting laid over `under`: groups are merged entry by entry, anything else replaces what was there -/
def merge (under : Setting) : Setting → Setting
  | group entries =>
    match under with
    | group base => group (mergeEntries base entries)
    | _ => group entries
  | upper => upper

def mergeEntries (base : List (String × Setting)) : List (String × Setting) → List (String × Setting)
  | [] => base
  | (name, s) :: rest =>
    let merged := merge ((base.lookup name).getD s) s
    mergeEntries (alter name (fun _ => merged) base) rest

end

/-- the setting that has this one at a path of names -/
def nest : List String → Setting → Setting
  | [], s => s
  | name :: path, s => group [(name, nest path s)]

mutual

/-- the setting as a JSON value, members ascending by name; what is not finite counts as some double -/
def toJson : Setting → Json
  | text s => .string s
  | flag b => .bool b
  | natural n => .nat n
  | integer i => .int i
  | real x => .number (.real x)
  | nonFinite _ => .number (.real (.zero false))
  | list items => .array (itemsToJson items)
  | group entries => .ofMembers (entriesToJson entries)

def itemsToJson : List Setting → List Json
  | [] => []
  | s :: rest => toJson s :: itemsToJson rest

def entriesToJson : List (String × Setting) → List (String × Json)
  | [] => []
  | (name, s) :: rest => (name, toJson s) :: entriesToJson rest

end

end Setting

end ToolGateway
