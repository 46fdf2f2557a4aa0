import ClusterTopology.Config.Form
import ClusterTopology.Status.Storage

/-!
The settings of a stack and the configuration they make. A setting is a text; what it should be
decides how it is read. The settings are read in a fixed order, and the first fault counts.
-/

namespace ClusterTopology

/-- The engine that runs a program over a stack: what it calls the stack, what it reads from the text
of a setting, if anything, and how much room it leaves for reading the status file. -/
structure Engine where
  stack : Text
  truth? : Text → Option Bool
  integer? : Text → Option Int
  document? : Text → Option Json
  statusRoom : Status.Room

namespace Engine

def readTruth? (given : Text) : Option Bool :=
  if given = "true" || given = "True" then some true
  else if given = "false" || given = "False" then some false
  else none

/-- An engine that reads settings as its documentation says. -/
def documented (stack : Text) (room : Nat) (statusRoom : Status.Room) : Engine where
  stack := stack
  truth? := readTruth?
  integer? given := (Text.readInt given).toOption
  document? given := (Json.read room given).toOption
  statusRoom := statusRoom

/-- A thousand nested calls less those of the engine and the program. -/
def standard : Engine := documented "stack" 981 ⟨981, by decide⟩

end Engine

structure Settings where
  engine : Engine
  texts : Table Text Text

namespace Settings

def find? (settings : Settings) (setting : Text) : Option Text := settings.texts.find? setting

def readOr {β : Type} (settings : Settings) (kind : SettingKind) (read? : Text → Option β)
    (setting : Text) (substitute : β) : Except Fault β :=
  match settings.find? setting with
  | none => .ok substitute
  | some given =>
    match read? given with
    | some value => .ok value
    | none => .error (.settingMistyped setting given kind)

def truth (settings : Settings) (setting : Text) : Except Fault Bool :=
  settings.readOr .truth settings.engine.truth? setting false

/-- An integer; a substitute stands for zero and for a missing setting. -/
def integerOr (settings : Settings) (setting : Text) (substitute : Int) : Except Fault Int := do
  let value ← settings.readOr .integer settings.engine.integer? setting 0
  return if value = 0 then substitute else value

def document (settings : Settings) (setting : Text) : Except Fault Json :=
  settings.readOr .document settings.engine.document? setting .null

def requiredDocument (settings : Settings) (setting : Text) : Except Fault Json := do
  match ← settings.document setting with
  | .null => .error (.settingMissing setting false)
  | document => .ok document

def filled? (settings : Settings) (setting : Text) : Option Text :=
  (settings.find? setting).filter fun given => !given.isEmpty

end Settings

structure Secret where
  content : Text

structure Access where
  kubeconfigPath : Option Text
  serverAddress : Option Text
  user : Text
  privateKey : Option Secret

structure Config where
  stack : Text
  nodes : List Node
  cluster : ClusterSpec
  access : Access
  statusPath : Text

namespace Config

def standardStatusPath : Text := "storagecluster-status.json"

def standardUser : Text := "ubuntu"

end Config

def Files.secretAt (files : Files) (setting path : Text) : Except Fault Secret := do
  let path ← (files.expandHome path).mapError .path
  if !files.isFile path then throw (.settingFileMissing setting path)
  return ⟨← files.readText path⟩

namespace Settings

def positive (setting : Text) (value : Int) : Except Fault Unit :=
  if value < 1 then .error (.settingNotPositive setting value) else .ok ()

def clusterSpec (settings : Settings) : Except Fault ClusterSpec := do
  let flexibleScaling ← settings.truth "flexibleScaling"
  let arbiter ← settings.truth "arbiterEnabled"
  let selector ← Selector.ofDocument (← settings.document "labelSelector")
  let minimumNodes ← settings.integerOr "minimumNodes" ClusterSpec.standardMinimum
  let minimumRacks ← settings.integerOr "minimumRackCount" ClusterSpec.standardMinimum
  positive "minimumNodes" minimumNodes
  positive "minimumRackCount" minimumRacks
  return ⟨flexibleScaling, arbiter, selector, minimumNodes, minimumRacks⟩

/-- The key for the server, which is looked at only when a server is configured. -/
def privateKey (settings : Settings) (files : Files) : Except Fault (Option Secret) :=
  match settings.filled? "k3sServerIp" with
  | none => .ok none
  | some _ =>
    match settings.filled? "sshPrivateKeyPath" with
    | some path => (files.secretAt "sshPrivateKeyPath" path).map some
    | none =>
      match settings.find? "sshPrivateKey" with
      | some key => .ok (some ⟨key⟩)
      | none => .error (.settingMissing "sshPrivateKey" true)

def config (settings : Settings) (files : Files) : Except Fault Config := do
  let nodes ← Node.listOfDocument (← settings.requiredDocument "nodes")
  let cluster ← settings.clusterSpec
  let privateKey ← settings.privateKey files
  return {
    stack := settings.engine.stack
    nodes := nodes
    cluster := cluster
    access := {
      kubeconfigPath := settings.find? "kubeconfigPath"
      serverAddress := settings.find? "k3sServerIp"
      user := (settings.filled? "sshUser").getD Config.standardUser
      privateKey := privateKey }
    statusPath := (settings.filled? "statusPath").getD Config.standardStatusPath }

end Settings
end ClusterTopology
