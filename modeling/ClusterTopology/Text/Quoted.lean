import ClusterTopology.Text.Visible

/-!
Texts shown inside messages. A text stands between single quotes, or between double quotes when it
holds a single quote and no double one, and what shows nothing by itself is written as an escape.
-/

namespace ClusterTopology

namespace CodePoint

def numericEscape (c : CodePoint) : Text :=
  if c.val < 0x100 then ("\\x" : Text) ++ Text.ofHex 2 c.val
  else if c.val < 0x10000 then ("\\u" : Text) ++ Text.ofHex 4 c.val
  else ("\\U" : Text) ++ Text.ofHex 8 c.val

def quotedWith (mark c : CodePoint) : Text :=
  if c = mark || c = '\\' then ['\\', c]
  else if c = '\t' then "\\t"
  else if c = '\n' then "\\n"
  else if c = '\r' then "\\r"
  else if 0x20 ≤ c.val && c.val < 0x7f then [c]
  else if c.isVisible then [c]
  else numericEscape c

end CodePoint

namespace Text

def singleMark : CodePoint := CodePoint.ofChar '\''

def doubleMark : CodePoint := CodePoint.ofChar '"'

def quoteMark (t : Text) : CodePoint :=
  if t.contains singleMark && !t.contains doubleMark then doubleMark else singleMark

def quoted (t : Text) : Text :=
  quoteMark t :: (t.flatMap (CodePoint.quotedWith (quoteMark t)) ++ [quoteMark t])

end Text
end ClusterTopology
