import ClusterTopology.Status.Document

/-!
The status file. A missing file stands for a status in which nothing was chosen yet. Storing writes
a file beside the status file first and then moves it over that, so the status file itself is either
left as it was or replaced as a whole.
-/

namespace ClusterTopology

namespace Files

def readText (files : Files) (path : Text) : Except Fault Text := do
  let bytes ← (files.bytesAt path).mapError fun problem => .file ⟨problem, path, none⟩
  return ((← (Utf8.decode bytes).mapError .encoding)).withLineFeeds

def readDocument (files : Files) (room : Nat) (path : Text) (limited : Bool := true) :
    Except Fault Json := do
  (Json.read room (← files.readText path) limited).mapError .document

/-- Writes a text, leaving behind what was begun of it when it cannot be made. -/
def writeText (files : Files) (path : Text) (text : Except Fault Text) (begun : Text) :
    Outcome Files Unit :=
  match Path.check path with
  | .error fault => .failed files (.path fault)
  | .ok () =>
    match files.write path [] with
    | .error problem => .failed files (.file ⟨problem, path, none⟩)
    | .ok opened =>
      match text with
      | .error fault =>
        match opened.write path (Utf8.encode begun) with
        | .error problem => .failed opened (.file ⟨problem, path, none⟩)
        | .ok left => .failed left fault
      | .ok text =>
        match opened.write path (Utf8.encode text) with
        | .error problem => .failed opened (.file ⟨problem, path, none⟩)
        | .ok written => .done written ()

def moveOver (files : Files) (source target : Text) : Outcome Files Unit :=
  match files.replace source target with
  | .error problem => .failed files (.file ⟨problem, source, some target⟩)
  | .ok moved => .done moved ()

end Files

/-- How many lists and objects inside each other the reader of status files has room for. A stored
status takes four. -/
structure Status.Room where
  depth : Nat
  enough : 4 ≤ depth

def draftPath (path : Text) : Text := path ++ ".tmp"

def Status.save {α : Type} [Name α] (status : Status α) (files : Files) (path : Text)
    (limited : Bool := true) : Outcome Files Unit :=
  match files.expandHome path with
  | .error fault => .failed files (.path fault)
  | .ok path =>
    let draft := draftPath path
    (files.writeText draft (status.toText limited) status.begunText).andThen fun files _ =>
      files.moveOver draft path

def StoredStatus.load (room : Status.Room) (files : Files) (path : Text) (limited : Bool := true) :
    Except Fault StoredStatus := do
  let path ← (files.expandHome path).mapError .path
  if !files.isFile path then return .initial
  match ← files.readDocument room.depth path limited with
  | .object members => StoredStatus.ofMembers members
  | _ => .error (.statusNotNamed path)

end ClusterTopology
