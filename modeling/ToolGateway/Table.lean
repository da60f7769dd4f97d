/-!
Finite maps as lists of pairs in ascending key order.

`insert` keeps the order and replaces the value of a key already there, so inserting pairs one after another leaves the
last value of each key. Keys of type `String` are ordered by code point, which is the order of their UTF-8 octets.
-/

namespace ToolGateway

/-- a finite map from `κ` to `α`, its pairs ascending by key -/
abbrev Table (κ α : Type) := List (κ × α)

namespace Table

variable {κ α β : Type} [LT κ] [DecidableLT κ] [DecidableEq κ]

def insert (key : κ) (value : α) : Table κ α → Table κ α
  | [] => [(key, value)]
  | (k, v) :: rest =>
    if key < k then (key, value) :: (k, v) :: rest
    else if key = k then (key, value) :: rest
    else (k, v) :: insert key value rest

omit [LT κ] [DecidableLT κ] in
def find? (key : κ) : Table κ α → Option α
  | [] => none
  | (k, v) :: rest => if key = k then some v else find? key rest

omit [LT κ] [DecidableLT κ] in
def erase (key : κ) : Table κ α → Table κ α
  | [] => []
  | (k, v) :: rest => if key = k then rest else (k, v) :: erase key rest

omit [LT κ] [DecidableLT κ] in
def contains (key : κ) (table : Table κ α) : Bool :=
  (table.find? key).isSome

/-- the table of some pairs, the last pair of a key counting -/
def ofList (pairs : List (κ × α)) : Table κ α :=
  pairs.foldl (fun table pair => insert pair.1 pair.2 table) []

omit [LT κ] [DecidableLT κ] [DecidableEq κ] in
def keys (table : Table κ α) : List κ :=
  table.map (·.1)

omit [LT κ] [DecidableLT κ] [DecidableEq κ] in
def values (table : Table κ α) : List α :=
  table.map (·.2)

end Table

end ToolGateway
