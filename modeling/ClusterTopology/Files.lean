import ClusterTopology.Name
import ClusterTopology.Text.Quoted
import ClusterTopology.Text.Utf8

/-!
A tree of files as a value. Paths are walked name by name from the working folder or from the root;
what lies above the working folder is reached with `..`. A name leads to one file or folder only:
there are no links from one path to another.
-/

namespace ClusterTopology

inductive FileProblem where
  | absent
  | busy
  | notAFolder
  | isAFolder
  | nameTooLong
  deriving DecidableEq

structure FileFault where
  problem : FileProblem
  path : Text
  target : Option Text
  deriving DecidableEq

inductive PathFault where
  | holdsNull
  /-- The half surrogates from `first` to `last` have no bytes. -/
  | notEncodable (path : Text) (first last : Nat)
  deriving DecidableEq

/-- The contents of files and the folders, each under its normal path: the names on the way to it,
with slashes between them. The home folders are looked up by account, one's own under the empty
name. -/
structure Files where
  contents : Table Text Utf8.Bytes
  folders : KeySet Text
  homes : Text → Option Text

namespace Path

def separator : CodePoint := '/'

def nameLimit : Nat := 255

def pathLimit : Nat := 4096

def isSurrogate (c : CodePoint) : Bool := 0xd800 ≤ c.val && c.val ≤ 0xdfff

/-- A half surrogate that stands for a byte that is no text. -/
def isEscapedByte (c : CodePoint) : Bool := 0xdc80 ≤ c.val && c.val ≤ 0xdcff

def byteWidth (c : CodePoint) : Nat := if isEscapedByte c then 1 else Utf8.width c

def byteLength : Text → Nat
  | [] => 0
  | c :: rest => byteWidth c + byteLength rest

/-- Skips a run of half surrogates that all stand for bytes; a run with another one is a fault from
the first such to the end of the run. -/
def checkEncodable (path : Text) : (position : Nat) → Text → Except PathFault Unit
  | _, [] => .ok ()
  | position, c :: rest =>
    if isSurrogate c && !isEscapedByte c then
      .error (.notEncodable path position (position + (rest.takeWhile isSurrogate).length))
    else checkEncodable path (position + 1) rest

def check (path : Text) : Except PathFault Unit := do
  checkEncodable path 0 path
  if path.any fun c => c.val = 0 then .error .holdsNull

def names (path : Text) : List Text := (Text.splitAt separator path).filter (!·.isEmpty)

def isAbsolute (path : Text) : Bool := path.head? = some separator

def endsInSeparator (path : Text) : Bool := path.getLast? = some separator

def here : Text := "."

def above : Text := ".."

/-- The account whose home folder begins a path: what stands between a leading `~` and the first
slash. It is empty for one's own home folder. -/
def account? (path : Text) : Option Text :=
  match path with
  | [] => none
  | c :: rest => if c = '~' then some (rest.takeWhile (· ≠ separator)) else none

def withoutFinalSeparators (path : Text) : Text :=
  (path.reverse.dropWhile (· = separator)).reverse

/-- A path with the home folder in its place. A path of an account that is not known is left as it
is, but the name of the account has to be one that can be looked up. -/
def expandHome (homes : Text → Option Text) (path : Text) : Except PathFault Text :=
  match account? path with
  | none => .ok path
  | some account => do
    if !account.isEmpty then check account
    match homes account with
    | none => return path
    | some home =>
      let expanded := withoutFinalSeparators home ++ path.drop (account.length + 1)
      return if expanded.isEmpty then "/" else expanded

end Path

/-- A place in the tree: the names from the working folder on, beginning with as many `..` as it
lies above that folder, or the names from the root on, beginning with a slash. -/
abbrev Location := List Text

namespace Location

def root : Location := ["/"]

def path (location : Location) : Text := Text.joined "/" location

def isFixed (location : Location) : Bool :=
  location = root || location.all (· = Path.above)

def parent (location : Location) : Location :=
  if location = root then root
  else if location.all (· = Path.above) then Path.above :: location
  else location.dropLast

end Location

namespace Files

def empty : Files := ⟨Table.empty, Table.empty, fun _ => none⟩

def expandHome (files : Files) (path : Text) : Except PathFault Text :=
  Path.expandHome files.homes path

def holdsFolder (files : Files) (location : Location) : Bool :=
  location.isFixed || files.folders.contains location.path

def contents? (files : Files) (location : Location) : Option Utf8.Bytes :=
  files.contents.find? location.path

def follow (files : Files) (location : Location) (name : Text) : Except FileProblem Location :=
  if !files.holdsFolder location then .error .notAFolder
  else if Path.nameLimit < Path.byteLength name then .error .nameTooLong
  else if name = Path.here then .ok location
  else if name = Path.above then .ok location.parent
  else
    let child := location ++ [name]
    if files.holdsFolder child || (files.contents? child).isSome then .ok child else .error .absent

def followAll (files : Files) : Location → List Text → Except FileProblem Location
  | location, [] => .ok location
  | location, name :: names => do
    let next ← files.follow location name
    files.followAll next names

/-- Where a path begins, and its names; the empty path leads nowhere. -/
def walkable (path : Text) : Except FileProblem (Location × List Text) :=
  if Path.pathLimit ≤ Path.byteLength path then .error .nameTooLong
  else if path.isEmpty then .error .absent
  else .ok (if Path.isAbsolute path then Location.root else [], Path.names path)

def locate (files : Files) (path : Text) : Except FileProblem Location := do
  let (start, names) ← walkable path
  let location ← files.followAll start names
  if Path.endsInSeparator path && !files.holdsFolder location then .error .notAFolder
  else .ok location

def isFile (files : Files) (path : Text) : Bool :=
  match Path.check path, files.locate path with
  | .ok (), .ok location => (files.contents? location).isSome
  | _, _ => false

def locateParent (files : Files) (path : Text) : Except FileProblem (Location × Text) := do
  let (start, names) ← walkable path
  let folder ← files.followAll start names.dropLast
  if !files.holdsFolder folder then .error .notAFolder
  else .ok (folder, names.getLast?.getD Path.here)

def bytesAt (files : Files) (path : Text) : Except FileProblem Utf8.Bytes := do
  let location ← files.locate path
  match files.contents? location with
  | some bytes => .ok bytes
  | none => .error .isAFolder

def write (files : Files) (path : Text) (bytes : Utf8.Bytes) : Except FileProblem Files := do
  let (folder, name) ← files.locateParent path
  if Path.nameLimit < Path.byteLength name then .error .nameTooLong
  else if files.holdsFolder (folder ++ [name]) then .error .isAFolder
  else .ok { files with contents := files.contents.put (Location.path (folder ++ [name])) bytes }

def replace (files : Files) (source target : Text) : Except FileProblem Files := do
  let bytes ← files.bytesAt source
  let sourceLocation ← files.locate source
  let (folder, name) ← files.locateParent target
  if name = Path.here || name = Path.above then .error .busy
  else if Path.endsInSeparator target then .error .notAFolder
  else if files.holdsFolder (folder ++ [name]) then .error .isAFolder
  else
    let left := files.contents.erase sourceLocation.path
    .ok { files with contents := left.put (Location.path (folder ++ [name])) bytes }

end Files

def FileProblem.message : FileProblem → Text
  | .absent => "[Errno 2] No such file or directory"
  | .busy => "[Errno 16] Device or resource busy"
  | .notAFolder => "[Errno 20] Not a directory"
  | .isAFolder => "[Errno 21] Is a directory"
  | .nameTooLong => "[Errno 36] File name too long"

def FileFault.message (fault : FileFault) : Text :=
  fault.problem.message ++ ": " ++ fault.path.quoted
    ++ match fault.target with
      | some target => " -> " ++ target.quoted
      | none => []

def PathFault.message : PathFault → Text
  | .holdsNull => "embedded null byte"
  | .notEncodable path first last =>
    if first = last then
      "'utf-8' codec can't encode character '"
        ++ ((path[first]?).elim [] fun c => c.numericEscape)
        ++ "' in position " ++ Text.ofNat first ++ ": surrogates not allowed"
    else
      "'utf-8' codec can't encode characters in position " ++ Text.ofNat first ++ "-"
        ++ Text.ofNat last ++ ": surrogates not allowed"

end ClusterTopology
