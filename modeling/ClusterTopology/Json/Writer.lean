import ClusterTopology.Json.Basic
import ClusterTopology.Number.Shortest

/-!
Writing documents as text. Everything beyond printable ASCII is escaped, a code point above the
basic plane as two halves of a surrogate pair. A document is laid out on one line, or with one item
or member to a line; what is empty stays on its line in both.
-/

namespace ClusterTopology

def CodePoint.unitEscape (unit : Nat) : Text := "\\u" ++ Text.ofHex 4 unit

def CodePoint.written (c : CodePoint) : Text :=
  if c = '"' then "\\\""
  else if c = '\\' then "\\\\"
  else if c = '\n' then "\\n"
  else if c = '\r' then "\\r"
  else if c = '\t' then "\\t"
  else if c.val = 12 then "\\f"
  else if c.val = 8 then "\\b"
  else if 0x20 ≤ c.val && c.val ≤ 0x7e then [c]
  else if c.val < 0x10000 then unitEscape c.val
  else
    unitEscape (0xd800 + (c.val - 0x10000) / 0x400) ++ unitEscape (0xdc00 + c.val % 0x400)

namespace Json

def writtenNumber : Binary64.Layout := ⟨-3, 16, "NaN", "Infinity"⟩

def writeText (value : Text) : Text :=
  (CodePoint.ofChar '"') :: (value.flatMap CodePoint.written ++ [(CodePoint.ofChar '"')])

def writeScalar : Json → Text
  | .null => "null"
  | .bool value => if value then "true" else "false"
  | .int value => Text.ofInt value
  | .float value => writtenNumber.write value
  | .text value => writeText value
  | .list _ => "[]"
  | .object _ => "\x7b\x7d"

def memberName : Json → Text
  | .text value => value
  | value => writeScalar value

def lineBreak (depth : Nat) : Text :=
  (CodePoint.ofChar '\n') :: List.replicate (2 * depth) (CodePoint.ofChar ' ')

mutual
/-- A document with one item or member to a line, indented by two blanks for each depth. -/
def writeLines (depth : Nat) : Json → Text
  | .list (item :: items) =>
    "[" ++ lineBreak (depth + 1) ++ writeLines (depth + 1) item ++ itemLines depth items
      ++ lineBreak depth ++ "]"
  | .object ((name, value) :: members) =>
    "\x7b" ++ lineBreak (depth + 1) ++ writeText name ++ ": " ++ writeLines (depth + 1) value
      ++ memberLines depth members ++ lineBreak depth ++ "\x7d"
  | value => writeScalar value

def itemLines (depth : Nat) : List Json → Text
  | [] => []
  | item :: items =>
    "," ++ lineBreak (depth + 1) ++ writeLines (depth + 1) item ++ itemLines depth items

def memberLines (depth : Nat) : List (Text × Json) → Text
  | [] => []
  | (name, value) :: members =>
    "," ++ lineBreak (depth + 1) ++ writeText name ++ ": " ++ writeLines (depth + 1) value
      ++ memberLines depth members
end

mutual
def writeLine : Json → Text
  | .list (item :: items) => "[" ++ writeLine item ++ itemLine items ++ "]"
  | .object ((name, value) :: members) =>
    "\x7b" ++ writeText name ++ ": " ++ writeLine value ++ memberLine members ++ "\x7d"
  | value => writeScalar value

def itemLine : List Json → Text
  | [] => []
  | item :: items => ", " ++ writeLine item ++ itemLine items

def memberLine : List (Text × Json) → Text
  | [] => []
  | (name, value) :: members =>
    ", " ++ writeText name ++ ": " ++ writeLine value ++ memberLine members
end

def insertMember (member : Text × Json) : List (Text × Json) → List (Text × Json)
  | [] => [member]
  | other :: rest =>
    if member.1 < other.1 then member :: other :: rest else other :: insertMember member rest

mutual
/-- The same document with the members of every object in the order of their names. -/
def withSortedMembers : Json → Json
  | .list items => .list (sortedItems items)
  | .object members => .object (sortedMembers members)
  | value => value

def sortedItems : List Json → List Json
  | [] => []
  | item :: items => withSortedMembers item :: sortedItems items

def sortedMembers : List (Text × Json) → List (Text × Json)
  | [] => []
  | (name, value) :: members => insertMember (name, withSortedMembers value) (sortedMembers members)
end

end Json
end ClusterTopology
