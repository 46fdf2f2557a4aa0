import ClusterTopology.Selector.Basic

/-!
The written form of label keys and values. A key is a name of at most 63 characters, optionally
behind a prefix and a slash; the prefix is a dotted sequence of lower-case labels. A value is empty
or has the form of a name. One line feed at the very end of a name, prefix or value is passed over.
-/

namespace ClusterTopology

namespace CodePoint

def isLowerLetter (c : CodePoint) : Bool := 97 ≤ c.val && c.val ≤ 122

def isUpperLetter (c : CodePoint) : Bool := 65 ≤ c.val && c.val ≤ 90

def isAsciiDigit (c : CodePoint) : Bool := 48 ≤ c.val && c.val ≤ 57

def isAlphanumeric (c : CodePoint) : Bool := c.isLowerLetter || c.isUpperLetter || c.isAsciiDigit

def isLowerAlphanumeric (c : CodePoint) : Bool := c.isLowerLetter || c.isAsciiDigit

end CodePoint

namespace Label

/-- All code points satisfy `inner`, and the first and the last satisfy `outer`. -/
def hasShape (inner outer : CodePoint → Bool) (t : Text) : Bool :=
  t.all inner && t.head?.any outer && t.getLast?.any outer

def isWord (t : Text) : Bool :=
  hasShape (fun c => c.isAlphanumeric || c = '-' || c = '_' || c = '.') CodePoint.isAlphanumeric t

def isDomainPart (t : Text) : Bool :=
  hasShape (fun c => c.isLowerAlphanumeric || c = '-') CodePoint.isLowerAlphanumeric t

def withoutLineEnd (t : Text) : Text :=
  if t.getLast? = some (CodePoint.ofChar '\n') then t.dropLast else t

def isName (t : Text) : Bool := isWord (withoutLineEnd t)

def isValue (t : Text) : Bool := (withoutLineEnd t).isEmpty || isWord (withoutLineEnd t)

def isDomain (t : Text) : Bool := (Text.splitAt '.' (withoutLineEnd t)).all isDomainPart

end Label

inductive SelectorFault where
  | badKey (key : Text)
  | badDomain (key : Text)
  | badValue (key value : Text)
  | valuesMissing (operator : Operator) (key : Text)
  | valuesGiven (operator : Operator) (key : Text)
  | unknownOperator (given : Json) (key : Text)

namespace Selector

/-- A prefix is looked at only when the name is good; a slash always sets one off. -/
def checkKey (key : Text) : Except SelectorFault Unit :=
  let (domain, name) : Option Text × Text :=
    match Text.splitLast '/' key with
    | some (domain, name) => (some domain, name)
    | none => (none, key)
  if name.isEmpty || 63 < name.length || !Label.isName name then .error (.badKey key)
  else match domain with
    | none => .ok ()
    | some domain =>
      if domain.isEmpty || 253 < domain.length || !Label.isDomain domain then
        .error (.badDomain key)
      else .ok ()

def checkValue (key value : Text) : Except SelectorFault Unit :=
  if 63 < value.length || !Label.isValue value then .error (.badValue key value) else .ok ()

def checkLabels : List (Text × Text) → Except SelectorFault Unit
  | [] => .ok ()
  | (key, value) :: rest => do
    checkKey key
    checkValue key value
    checkLabels rest

def checkValues (key : Text) : List Text → Except SelectorFault Unit
  | [] => .ok ()
  | value :: rest => do
    checkValue key value
    checkValues key rest

def checkRequirement (requirement : Requirement) : Except SelectorFault Unit := do
  checkKey requirement.key
  match requirement.operator with
  | .unknown given => .error (.unknownOperator given requirement.key)
  | .oneOf | .noneOf =>
    if requirement.values.isEmpty then
      .error (.valuesMissing requirement.operator requirement.key)
    else checkValues requirement.key requirement.values
  | .present | .missing =>
    if requirement.values.isEmpty then .ok ()
    else .error (.valuesGiven requirement.operator requirement.key)

def checkRequirements : List Requirement → Except SelectorFault Unit
  | [] => .ok ()
  | requirement :: rest => do
    checkRequirement requirement
    checkRequirements rest

def check (selector : Selector) : Except SelectorFault Unit := do
  checkLabels selector.labels
  checkRequirements selector.requirements

end Selector

def SelectorFault.message : SelectorFault → Text
  | .badKey key => "Invalid label key " ++ key.quoted
  | .badDomain key => "Invalid label key prefix in " ++ key.quoted
  | .badValue key value => "Invalid label value " ++ value.quoted ++ " for key " ++ key.quoted
  | .valuesMissing operator key =>
    "Operator " ++ operator.toJson.shown ++ " on " ++ key.quoted ++ " needs at least one value"
  | .valuesGiven operator key =>
    "Operator " ++ operator.toJson.shown ++ " on " ++ key.quoted ++ " takes no values"
  | .unknownOperator given key =>
    "Unknown operator " ++ given.quoted ++ " on " ++ key.quoted
      ++ ". Must be one of ['DoesNotExist', 'Exists', 'In', 'NotIn']"

end ClusterTopology
