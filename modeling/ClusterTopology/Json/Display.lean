import ClusterTopology.Json.Basic
import ClusterTopology.Number.Shortest
import ClusterTopology.Text.Quoted

/-!
Documents shown inside messages: null, true and false have names of their own, texts are quoted
inside lists and objects, and a text alone shows as itself.
-/

namespace ClusterTopology.Json

def shownNumber : Binary64.Layout := ⟨-3, 16, "nan", "inf"⟩

mutual
def quoted : Json → Text
  | .null => "None"
  | .bool value => if value then "True" else "False"
  | .int value => Text.ofInt value
  | .float value => shownNumber.write value
  | .text value => value.quoted
  | .list items => "[" ++ Text.joined ", " (quotedItems items) ++ "]"
  | .object members => "\x7b" ++ Text.joined ", " (quotedMembers members) ++ "\x7d"

def quotedItems : List Json → List Text
  | [] => []
  | item :: items => quoted item :: quotedItems items

def quotedMembers : List (Text × Json) → List Text
  | [] => []
  | (name, value) :: members => (name.quoted ++ ": " ++ quoted value) :: quotedMembers members
end

def shown : Json → Text
  | .text value => value
  | value => quoted value

end ClusterTopology.Json
