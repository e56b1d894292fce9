import FeedMonitor.Disk
import FeedMonitor.Failure
import FeedMonitor.Journal
import FeedMonitor.Json.Shape
import FeedMonitor.Json.Utf8
import FeedMonitor.Json.Writer
import FeedMonitor.Text.Blank

/-!
Who emits records: a session, which is new with every start, and a user.

The user is anonymous until the caller knows better. An anonymous user keeps its id in a file, if
there is a place for it, so that it survives a restart.
-/

namespace FeedMonitor

structure Identity where
  sessionId : String
  userId : String
  /-- Where the anonymous id is kept. -/
  path : Option String
deriving DecidableEq

namespace Identity

/-- An id that says nothing about the user, from a unique text. -/
def anonymous (unique : String) : String := "anon-" ++ unique

def userIdName : String := "userId"

/-- The one member of a kept identity. -/
def shape : Json.Shape Unit (Option String) where
  slots := [()]
  name := fun _ => userIdName
  optional := fun _ => false
  filled := fun draft _ => draft.isSome
  fill := fun _ _ cs => do
    let (text, rest) ← Json.expectString cs
    return (some text, rest)

/-- The user id that the bytes of a file keep, unless it is blank. -/
def kept? (bytes : List UInt8) : Option String := do
  let userId ← (shape.parse none (String.ofList (Json.Utf8.decode bytes))).toOption.join
  if (Text.trim userId).isEmpty then none else return userId

/-- The bytes that keep a user id. -/
def keep (userId : String) : List UInt8 :=
  Json.Utf8.encode (Json.writeFields [(userIdName, .string userId)])

/-- The kept user id, or `userId` once it is kept instead. -/
def loadOrKeep (disk : Disk) (path userId : String) : Except Disk.Fault String × Disk × Journal :=
  let place := Disk.Path.ofText path
  let store (journal : Journal) : Except Disk.Fault String × Disk × Journal :=
    match disk.place place (keep userId) with
    | (.error fault, disk) => (.error fault, disk, journal)
    | (.ok (), disk) => (.ok userId, disk, journal)
  match disk.read place with
  | .ok bytes =>
    match kept? bytes with
    | some userId => (.ok userId, disk, [Journal.telemetry .debug "Reusing persisted identity"])
    | none =>
      store [Journal.telemetry .warn s!"Identity file {path} is invalid, replacing it"]
  | .error .missing => store []
  | .error fault => (.error fault, disk, [])

/-- The identity of a new session. Whatever goes wrong with the file, there is one: an anonymous
user made from `unique`. -/
def resolve (disk : Disk) (path : Option String) (sessionId unique : String) :
    Identity × Disk × Journal :=
  let userId := anonymous unique
  match path with
  | none => (⟨sessionId, userId, none⟩, disk, [])
  | some text =>
    match loadOrKeep disk text userId with
    | (.ok userId, disk, journal) => (⟨sessionId, userId, path⟩, disk, journal)
    | (.error fault, disk, journal) =>
      (⟨sessionId, userId, path⟩, disk,
        journal ++ [Journal.telemetry .warn
          s!"Could not persist identity at {text}: {(Failure.identity fault.message).message}"])

/-- Names the user for the rest of the session. What is kept stays. -/
def withUserId (identity : Identity) (userId : String) : Identity := { identity with userId }

end Identity

end FeedMonitor
