import ClusterTopology.Outcome

/-!
The choice of a rack for one node. Missing racks are made first, under the first free names. A node
of a zone goes to a rack that is empty or already holds a node of that zone, and to a new rack if
there is none such; a node without a zone goes to any. Of the racks that remain the least populated
is taken, and of these the first by name.
-/

namespace ClusterTopology

abbrev Racks := Table Text (KeySet Text)

namespace Racks

def rackName (number : Nat) : Text := "rack" ++ Text.ofNat number

/-- The first name `rack0`, `rack1`, … that is not in use. Among as many numbers as there are racks
and one more, one is free. -/
def freeName (racks : Racks) : Text :=
  rackName
    (((List.range (racks.size + 1)).find? fun number => !racks.contains (rackName number)).getD
      racks.size)

def withFresh : (count : Nat) → Racks → Racks
  | 0, racks => racks
  | count + 1, racks => withFresh count (racks.put racks.freeName .empty)

def withAtLeast (minimum : Int) (racks : Racks) : Racks :=
  withFresh (minimum - racks.size).toNat racks

def addNode (racks : Racks) (rack node : Text) : Racks :=
  racks.put rack (((racks.find? rack).getD .empty).insert node)

def nodes (racks : Racks) : List Text := racks.entries.flatMap fun (_, members) => members.keys

def admits (zones : Zones) (zone : Text) (members : KeySet Text) : Bool :=
  members.isEmpty || members.keys.any fun member => zones.find? member = some zone

def leastPopulated : List (Text × KeySet Text) → Option (Text × KeySet Text)
  | [] => none
  | rack :: racks =>
    match leastPopulated racks with
    | none => some rack
    | some other => if other.2.size < rack.2.size then some other else some rack

/-- The zone that decides where a node goes: the one it is listed with, else that of its labels. -/
def targetZone (zones : Zones) (node : Node) : Text :=
  match zones.find? node.name with
  | none => node.zone
  | some zone => if zone.isEmpty then node.zone else zone

def candidates (zones : Zones) (zone : Text) (racks : Racks) : List (Text × KeySet Text) :=
  if zone.isEmpty then racks.entries
  else racks.entries.filter fun (_, members) => admits zones zone members

/-- The rack for a node. New racks are added to the racks, the node is not. -/
def place (racks : Racks) (minimum : Int) (zones : Zones) (node : Node) : Outcome Racks Text :=
  let racks := racks.withAtLeast minimum
  let zone := targetZone zones node
  match leastPopulated (candidates zones zone racks) with
  | some (rack, _) => .done racks rack
  | none =>
    if zone.isEmpty then .failed racks .noRack
    else
      let rack := racks.freeName
      ⟨racks.put rack .empty, [.rackOpened zone rack node.name], .ok rack⟩

end Racks
end ClusterTopology
