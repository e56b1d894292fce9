import FeedMonitor.Text.Split

/-!
A file system: directories and files under one root, and what may be done with them.

The names of a path lead down from the root. A name of one dot stays where it is and a name of two
dots goes back up, but only a directory that is there can be left by either.
-/

namespace FeedMonitor

abbrev Disk.Path := List String

/-- What may be done with a node. What may be changed may be read. -/
inductive Disk.Access
  | full
  | readOnly
  | sealed
deriving DecidableEq

inductive Disk.Node
  | directory (access : Disk.Access)
  | file (access : Disk.Access) (bytes : List UInt8)
deriving DecidableEq

structure Disk where
  /-- Each node under the names that lead straight down to it. -/
  nodes : List (Disk.Path × Disk.Node)
deriving DecidableEq

namespace Disk

def empty : Disk := ⟨[]⟩

/-- Why something could not be done at a path. -/
inductive Fault
  | missing
  | notDirectory
  | isDirectory
  | denied
  | badName
deriving DecidableEq

def Fault.message : Fault → String
  | missing => "No such file or directory"
  | notDirectory => "Not a directory"
  | isDirectory => "Is a directory"
  | denied => "Permission denied"
  | badName => "file name contained an unexpected NUL byte"

namespace Path

/-- The names between slashes. A slash at the end asks for a directory, as a dot does. -/
def ofText (text : String) : Path :=
  let names := (Text.splitOn '/' text.toList).map String.ofList
  if text = "" then [] else
    names.dropLast.filter (· != "") ++
      names.getLast?.toList.map fun name => if name = "" then "." else name

/-- Where a name leads from a directory. -/
def enter (above : Path) (name : String) : Path :=
  if name = "." then above else if name = ".." then above.dropLast else above ++ [name]

/-- The names that lead straight down to where a path leads. -/
def target (path : Path) : Path := path.foldl enter []

/-- The path of the directory that holds what a path leads to. -/
def parent (path : Path) : Path := (path.reverse.dropWhile (· == ".")).tail.reverse

def isLegal (path : Path) : Bool := path.all fun name => !name.toList.contains '\x00'

end Path

/-- The root is a directory that anything may be done with. -/
def node? (disk : Disk) (place : Path) : Option Node :=
  if place.isEmpty then some (.directory .full) else disk.nodes.lookup place

/-- What is in the way of following a path from the directory `above` up to its last name. No name
leads nowhere. -/
def obstacle? (disk : Disk) (above : Path) : Path → Option Fault
  | [] => some .missing
  | [_] => none
  | name :: next :: below =>
    match disk.node? (above.enter name) with
    | some (.directory .sealed) => some .denied
    | some (.directory _) => disk.obstacle? (above.enter name) (next :: below)
    | some (.file ..) => some .notDirectory
    | none => some .missing

/-- What a path leads to, and nothing if only the last step is in vain. -/
def find (disk : Disk) (path : Path) : Except Fault (Option Node) :=
  if path.isLegal then
    match disk.obstacle? [] path with
    | some fault => .error fault
    | none => .ok (disk.node? path.target)
  else .error .badName

def read (disk : Disk) (path : Path) : Except Fault (List UInt8) :=
  match disk.find path with
  | .error fault => .error fault
  | .ok none => .error .missing
  | .ok (some (.directory _)) => .error .isDirectory
  | .ok (some (.file .sealed _)) => .error .denied
  | .ok (some (.file _ bytes)) => .ok bytes

def put (disk : Disk) (place : Path) (node : Node) : Disk :=
  ⟨(place, node) :: disk.nodes.filter fun entry => entry.1 != place⟩

/-- Makes the directories that are missing on the way from `above` to `below`. -/
def makeDirectories (disk : Disk) (above : Path) : Path → Except Fault Disk
  | [] => .ok disk
  | name :: below =>
    match disk.node? (above.enter name) with
    | some (.directory .sealed) => .error .denied
    | some (.directory _) => disk.makeDirectories (above.enter name) below
    | some (.file ..) => .error .notDirectory
    | none =>
      if disk.node? above = some (.directory .full) then
        (disk.put (above.enter name) (.directory .full)).makeDirectories (above.enter name) below
      else .error .denied

/-- Replaces what a file holds, or makes the file. -/
def write (disk : Disk) (path : Path) (bytes : List UInt8) : Except Fault Disk :=
  match disk.find path with
  | .error fault => .error fault
  | .ok (some (.directory _)) => .error .isDirectory
  | .ok (some (.file access _)) =>
    if access = .full then .ok (disk.put path.target (.file .full bytes)) else .error .denied
  | .ok none =>
    if disk.node? path.target.dropLast = some (.directory .full) then
      .ok (disk.put path.target (.file .full bytes))
    else .error .denied

/-- Writes a file, after making the directories on the way to it. -/
def place (disk : Disk) (path : Path) (bytes : List UInt8) : Except Fault Unit × Disk :=
  match disk.makeDirectories [] path.parent with
  | .error fault => (.error fault, disk)
  | .ok disk =>
    match disk.write path bytes with
    | .error fault => (.error fault, disk)
    | .ok disk => (.ok (), disk)

end Disk

end FeedMonitor
