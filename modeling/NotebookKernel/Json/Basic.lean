import NotebookKernel.Number.Shortest

/-!
JSON values. An object that was read keeps one entry for each key, in the order
of the keys; one that is built to be written keeps the order it is given.
-/

namespace NotebookKernel

inductive Json where
  | null
  | bool (b : Bool)
  | int (i : Int)
  | float (x : Binary64)
  | str (s : String)
  | arr (items : List Json)
  | obj (members : List (String × Json))
  deriving Repr, Inhabited

namespace Json

/-- A repeated key takes the new value. -/
def insert (key : String) (value : Json) : List (String × Json) → List (String × Json)
  | [] => [(key, value)]
  | (k, v) :: rest =>
    if key < k then (key, value) :: (k, v) :: rest
    else if key = k then (key, value) :: rest
    else (k, v) :: insert key value rest

/-- The entries of an object in the order of their keys; of repeated keys the
last counts. -/
def canonical (members : List (String × Json)) : List (String × Json) :=
  members.foldl (fun entries member => insert member.1 member.2 entries) []

def object (members : List (String × Json)) : Json :=
  .obj (canonical members)

def find? (key : String) (members : List (String × Json)) : Option Json :=
  (members.find? fun member => member.1 == key).map (·.2)

/-- The entry of an object; none for any other value. -/
def get? (value : Json) (key : String) : Option Json :=
  match value with
  | .obj members => find? key members
  | _ => none

end Json

end NotebookKernel
