/-!
# Small tables

Values by keys, each key once, in the order in which the keys came first.
-/

namespace Groundwork

/-- Values by keys. -/
abbrev Table (κ α : Type) := List (κ × α)

namespace Table

variable {κ α : Type} [DecidableEq κ]

/-- The value of a key. -/
def get? (t : Table κ α) (key : κ) : Option α :=
  (t.find? fun entry => entry.1 = key).map Prod.snd

/-- Whether there is a value for a key. -/
def has (t : Table κ α) (key : κ) : Bool :=
  t.any fun entry => entry.1 = key

/-- Puts a value in the place of the one with its key, or at the end. -/
def put (key : κ) (value : α) : Table κ α → Table κ α
  | [] => [(key, value)]
  | (k, v) :: rest => if k = key then (key, value) :: rest else (k, v) :: put key value rest

/-- Takes the value of a key away. -/
def erase (t : Table κ α) (key : κ) : Table κ α :=
  t.filter fun entry => entry.1 ≠ key

/-- The table of a list of pairs; the last pair of a key counts. -/
def ofList (pairs : List (κ × α)) : Table κ α :=
  pairs.foldl (fun t p => put p.1 p.2 t) []

end Table

end Groundwork
