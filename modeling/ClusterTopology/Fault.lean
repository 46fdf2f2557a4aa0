import ClusterTopology.Files
import ClusterTopology.Json.Reader
import ClusterTopology.Selector.Grammar

/-!
Everything that can go wrong, by cause. The wording of each cause is in one place.
-/

namespace ClusterTopology

inductive FormFault where
  | nodesNotListed (given : Json)
  | nodeWithoutName (given : Json)
  | nodeNameRepeated (name : Text)
  | nodeLabelsNotNamed (name : Text) (given : Json)
  | selectorNotNamed (given : Json)
  | selectorLabelsNotNamed (given : Json)
  | requirementNotNamed (given : Json)

inductive KindFault where
  /-- Names of different kinds have no order. -/
  | noOrder
  /-- A list or an object names nothing. -/
  | notAName
  /-- There are no items to go through. -/
  | noItems
  /-- The value counts nothing. -/
  | notACount
  /-- Only a text can be looked for in a text, or be put together with texts. -/
  | notAText

inductive SettingKind where
  | truth
  | integer
  | document

inductive Fault where
  | tooFewNodes (expected : Int) (found : Nat)
  | selector (fault : SelectorFault)
  /-- The labels of a node were not patched. The cause is what broke the patching off, unless it
  was refused outright. -/
  | patch (node reason : Text) (cause : Option Text)
  | noRack
  | form (fault : FormFault)
  | kind (fault : KindFault)
  /-- A document has no named members where it should have them, or a status has no topology. -/
  | noMembers
  | integer (fault : Text.IntegerFault)
  | countUndefined
  | countInfinite
  | document (fault : Json.ReadFault)
  | encoding (fault : Utf8.Fault)
  | file (fault : FileFault)
  | path (fault : PathFault)
  | statusNotNamed (path : Text)
  | settingFileMissing (setting path : Text)
  | settingMissing (setting : Text) (isSecret : Bool)
  | settingMistyped (setting given : Text) (kind : SettingKind)
  | settingNotPositive (setting : Text) (given : Int)
  | serverKeyMissing
  | homeUnknown
  /-- A resource that is no patch was refused. -/
  | resource (name reason : Text)

def FormFault.message : FormFault → Text
  | .nodesNotListed given => "Config key 'nodes' must be a list. Got: " ++ given.kind
  | .nodeWithoutName given => "Every node needs a 'name'. Got: " ++ given.quoted
  | .nodeNameRepeated name => "Duplicate node name " ++ name.quoted ++ " in config key 'nodes'"
  | .nodeLabelsNotNamed name given =>
    "Labels of node " ++ name.quoted ++ " must be a mapping. Got: " ++ given.quoted
  | .selectorNotNamed given =>
    "Config key 'labelSelector' must be an object. Got: " ++ given.quoted
  | .selectorLabelsNotNamed given =>
    "labelSelector.matchLabels must be a mapping. Got: " ++ given.quoted
  | .requirementNotNamed given =>
    "labelSelector.matchExpressions entries must be objects. Got: " ++ given.quoted

def KindFault.message : KindFault → Text
  | .noOrder => "names of different kinds have no order"
  | .notAName => "a list or an object cannot name anything"
  | .noItems => "the value has no items"
  | .notACount => "the value is not a count"
  | .notAText => "the value is not a text"

def SettingKind.message : SettingKind → Text
  | .truth => "bool"
  | .integer => "int"
  | .document => "JSON object"

def limitExceeded : Text :=
  "Exceeds the limit (" ++ Text.ofNat Text.digitLimit ++ " digits) for integer string conversion"

def raiseLimit : Text := "; use sys.set_int_max_str_digits() to increase the limit"

def tooManyDigits (count : Nat) : Text :=
  limitExceeded ++ ": value has " ++ Text.ofNat count ++ " digits" ++ raiseLimit

/-- The text of an integer is cut off when it is shown. -/
def integerMessage : Text.IntegerFault → Text
  | .notAnInteger given => "invalid literal for int() with base 10: " ++ given.quoted.take 200
  | .tooManyDigits count => tooManyDigits count
  | .notWritable => limitExceeded ++ raiseLimit

def documentMessage : Json.ReadFault → Text
  | .malformed problem place => problem.message ++ ": " ++ place.message
  | .tooManyDigits count => tooManyDigits count
  | .tooDeep => "the document has too many lists and objects inside each other"

def settingName (setting : Text) : Text := "project:" ++ setting

def Fault.message : Fault → Text
  | .tooFewNodes expected found =>
    "Not enough nodes found: expected " ++ Text.ofInt expected ++ ", found " ++ Text.ofNat found
  | .selector fault => fault.message
  | .patch node reason _ => "Failed to patch labels on node " ++ node.quoted ++ ": " ++ reason
  | .noRack => "there is no rack to choose from"
  | .form fault => fault.message
  | .kind fault => fault.message
  | .noMembers => "there are no named members"
  | .integer fault => integerMessage fault
  | .countUndefined => "cannot convert float NaN to integer"
  | .countInfinite => "cannot convert float infinity to integer"
  | .document fault => documentMessage fault
  | .encoding fault => fault.message
  | .file fault => fault.message
  | .path fault => fault.message
  | .statusNotNamed place => "Status file " ++ place ++ " must hold a JSON object"
  | .settingFileMissing setting place => setting ++ " points at a missing file: " ++ place
  | .settingMissing setting isSecret =>
    let option : Text := if isSecret then "--secret " else ""
    "Missing required configuration variable '" ++ settingName setting
      ++ "'\n\tplease set a value using the command `pulumi config set " ++ option
      ++ settingName setting ++ " <value>`"
  | .settingMistyped setting given expected =>
    "Configuration '" ++ settingName setting ++ "' value '" ++ given ++ "' is not a valid '"
      ++ expected.message ++ "'"
  | .settingNotPositive setting given =>
    setting ++ " must be positive. Got: " ++ Text.ofInt given
  | .serverKeyMissing => "k3sServerIp needs sshPrivateKeyPath or sshPrivateKey"
  | .homeUnknown => "Could not determine home directory."
  | .resource _ reason => reason

end ClusterTopology
