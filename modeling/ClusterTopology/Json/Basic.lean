import ClusterTopology.Number.Binary64
import ClusterTopology.Text.Basic

/-!
Documents: the values that configuration, node lists and status files are written in. Integers are
unbounded and kept apart from floating-point numbers, and the members of an object keep their order.
-/

namespace ClusterTopology

inductive Json where
  | null
  | bool (value : Bool)
  | int (value : Int)
  | float (value : Binary64)
  | text (value : Text)
  | list (items : List Json)
  | object (members : List (Text × Json))

namespace Json

abbrev Members := List (Text × Json)

def memberOr (substitute : Json) (name : Text) (members : Members) : Json :=
  (members.lookup name).getD substitute

def member (name : Text) (members : Members) : Json := memberOr .null name members

/-- A repeated name takes the later value and keeps the earlier place. -/
def Members.put : Members → Text → Json → Members
  | [], name, value => [(name, value)]
  | (other, old) :: rest, name, value =>
    if other = name then (name, value) :: rest else (other, old) :: Members.put rest name value

def ofMembers (members : List (Text × Json)) : Json :=
  .object (members.foldl (fun sofar (name, value) => Members.put sofar name value) [])

/-- Whether a value counts as absent: null, false, zero, and what is empty. -/
def isBlank : Json → Bool
  | .null => true
  | .bool value => !value
  | .int value => value = 0
  | .float (.finite _ significand _) => significand = 0
  | .float _ => false
  | .text value => value.isEmpty
  | .list items => items.isEmpty
  | .object members => members.isEmpty

def isObject : Json → Bool
  | .object _ => true
  | _ => false

def isScalar : Json → Bool
  | .list _ => false
  | .object _ => false
  | _ => true

/-- What a value holds when it is gone through item by item: an object gives its names, a text its
code points, and other scalars cannot be gone through. -/
def elements? : Json → Option (List Json)
  | .list items => some items
  | .object members => some (members.map fun member => .text member.1)
  | .text value => some (value.map fun c => .text [c])
  | _ => none

def kind : Json → Text
  | .null => "NoneType"
  | .bool _ => "bool"
  | .int _ => "int"
  | .float _ => "float"
  | .text _ => "str"
  | .list _ => "list"
  | .object _ => "dict"

end Json
end ClusterTopology
