import ClusterTopology.Config.Settings

/-!
The resources that are declared: access to the cluster, and the patches of node labels. A patch
resource carries only the labels that change, and a node whose labels are right already needs none.
-/

namespace ClusterTopology

inductive Kubeconfig where
  | content (secret : Secret)
  | outputOf (command : Text)

inductive Resource where
  | provider (name : Text) (kubeconfig : Option Kubeconfig)
  | command (name host user : Text) (privateKey : Secret) (create : Text) (triggers : List Text)
  | nodePatch (name node : Text) (labels : Table Text (Option Text))

namespace Resource

def name : Resource → Text
  | .provider name _ => name
  | .command name .. => name
  | .nodePatch name .. => name

/-- Makes resources up to the first that is refused; those made before stay. `refusal` says which
resources the engine refuses, and why. -/
def makeAll (refusal : Resource → Option Text) : List Resource → List Resource × Except Fault Unit
  | [] => ([], .ok ())
  | resource :: resources =>
    match refusal resource with
    | some reason => ([], .error (.resource resource.name reason))
    | none =>
      let (made, result) := makeAll refusal resources
      (resource :: made, result)

end Resource

namespace Access

def providerName : Text := "k8s"

def fetchName : Text := "k3s-kubeconfig"

def fetchCommand (address : Text) : Text :=
  "set -euo pipefail\nsudo sed \"s/127.0.0.1/" ++ address ++ "/\" /etc/rancher/k3s/k3s.yaml"

/-- The resources that give access. A local file goes before a server, and with neither the
surroundings decide. -/
def resources (access : Access) (files : Files) : Except Fault (List Resource) :=
  match access.kubeconfigPath.filter (!·.isEmpty), access.serverAddress.filter (!·.isEmpty) with
  | some path, _ => do
    return [.provider providerName (some (.content (← files.secretAt "kubeconfigPath" path)))]
  | none, none => .ok [.provider providerName none]
  | none, some address =>
    match access.privateKey with
    | none => .error .serverKeyMissing
    | some key => .ok [
        .command fetchName address access.user key (fetchCommand address) [address],
        .provider providerName (some (.outputOf fetchName))]

end Access

namespace LabelPatch

def resourceName (patch : LabelPatch) : Text := "label-" ++ patch.node ++ "-topology"

def resource (patch : LabelPatch) : Resource :=
  .nodePatch patch.resourceName patch.node patch.change

/-- Declares one patch, unless it changes nothing. That its resource is refused is a fault of the
patch. -/
def declare (refusal : Resource → Option Text) (patch : LabelPatch) :
    Except Fault (Option Resource) :=
  if patch.node.isEmpty then .error (.patch patch.node "node name is empty" none)
  else if patch.change.isEmpty then .ok none
  else match refusal patch.resource with
    | some reason => .error (.patch patch.node reason (some reason))
    | none => .ok (some patch.resource)

def declareAll (refusal : Resource → Option Text) :
    List LabelPatch → List Resource × Except Fault Unit
  | [] => ([], .ok ())
  | patch :: patches =>
    match patch.declare refusal with
    | .error fault => ([], .error fault)
    | .ok made =>
      let (resources, result) := declareAll refusal patches
      (made.toList ++ resources, result)

end LabelPatch
end ClusterTopology
