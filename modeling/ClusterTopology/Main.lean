import ClusterTopology.Planner.Plan

/-!
The planner as a program. The files that the command line names are read first, the plan is made
from them, and what changed is written back.
-/

open ClusterTopology

/-- A text for output; one half of a surrogate pair has no form of its own. -/
def outputForm (text : Text) : String :=
  String.ofList (text.map fun c => if Path.isSurrogate c then '\ufffd' else Char.ofNat c.val)

def pathsOf (homes : Text → Option Text) (arguments : Planner.Arguments) : List Text :=
  let nodes : List Text :=
    match arguments.nodes.map (Path.normal homes) with
    | some (.ok path) => [path]
    | _ => []
  let status : List Text :=
    match arguments.status.map (Path.expandHome homes) with
    | some (.ok path) => [path, draftPath path]
    | _ => []
  nodes ++ status

def placesFrom : Location → List Text → List Location
  | _, [] => []
  | place, name :: names =>
    let next :=
      if name = Path.here then place
      else if name = Path.above then place.parent
      else place ++ [name]
    next :: placesFrom next names

def placesOf (path : Text) : List Location :=
  placesFrom (if Path.isAbsolute path then Location.root else []) (Path.names path)

def takeUp (files : Files) (location : Location) : IO Files := do
  let place := (← IO.currentDir) / outputForm location.path
  if ← place.isDir then
    return { files with folders := files.folders.insert location.path }
  else if ← place.pathExists then
    let bytes ← IO.FS.readBinFile place
    return { files with contents := files.contents.put location.path bytes.toList }
  else return files

def writeBack (before after : Files) : IO Unit := do
  let base ← IO.currentDir
  for (path, bytes) in after.contents.entries do
    if before.contents.find? path ≠ some bytes then
      let draft := base / outputForm (draftPath path)
      IO.FS.writeBinFile draft (ByteArray.mk bytes.toArray)
      IO.FS.rename draft (base / outputForm path)

def main (words : List String) : IO UInt32 := do
  let words := words.map Text.ofString
  let home := (← IO.getEnv "HOME").map Text.ofString
  let homes (account : Text) : Option Text := if account.isEmpty then home else none
  let mut files := { Files.empty with homes := homes }
  if let .ok (.plan arguments) := Planner.parse words then
    for path in pathsOf homes arguments do
      for place in placesOf path do
        files ← takeUp files place
  let planned := Planner.run .standard files words
  writeBack files planned.files
  for (level, line) in logOf planned.events do
    let mark := if level = .warning then "warning: " else "info: "
    IO.eprintln (mark ++ outputForm line)
  IO.print (outputForm planned.output)
  match planned.exit with
  | .code value => return UInt32.ofNat value
  | .message text =>
    IO.eprintln (outputForm text)
    return 1
  | .usage fault =>
    IO.eprintln (outputForm fault.message)
    return 2
  | .fault fault =>
    IO.eprintln (outputForm fault.message)
    return 1
  | .unprinted _ reason =>
    IO.eprintln (outputForm reason)
    return 1
