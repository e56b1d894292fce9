import FeedMonitor.Agent
import FeedMonitor.Identity.Unique
import Std.Time.DateTime.Timestamp

/-!
The agent on a terminal.

Standard input stands for the feed: connecting succeeds, every line is a frame of text, and the end of
the input is the end of the agent. The log and the frames to the feed go to standard output. There is
no way to a collector from here, so the log reports each delivery to one as failed.
-/

namespace FeedMonitor.Main

/-- The variables that an agent reads. -/
def environment : IO Environment := do
  let names := Settings.Variable.all.map Settings.Variable.name
    ++ Feed.Settings.Variable.all.map Feed.Settings.Variable.name
  let found ← names.mapM fun name => do
    return (← IO.getEnv name).map fun value => (name, value)
  return found.filterMap id

def now : IO Instant := do
  let nanos := (← Std.Time.Timestamp.now).toNanosecondsSinceUnixEpoch.val
  return ⟨nanos / 1000000000, (nanos % 1000000000).toNat⟩

def unique : IO String := do
  let bytes ← IO.getRandomBytes 16
  return Unique.ofRandom (bytes.toList.foldl (fun n byte => 256 * n + byte.toNat) 0)

/-- What there is at the path of the identity. -/
def loadDisk (path : String) : IO Disk := do
  let place := Disk.Path.ofText path
  try
    let bytes ← IO.FS.readBinFile path
    return (Disk.empty.place place bytes.toList).2
  catch
    | .noFileOrDirectory _ _ _ => return Disk.empty
    | _ => return (Disk.empty.place place []).2.put place.target (.file .sealed [])

/-- Writes what has changed at the path of the identity. -/
def saveDisk (path : String) (before after : Disk) : IO Unit := do
  let place := Disk.Path.ofText path
  if after == before then return
  match after.read place with
  | .error _ => return
  | .ok bytes =>
    let directory := (path.toList.reverse.dropWhile (· != '/')).reverse
    if !directory.isEmpty then IO.FS.createDirAll (String.ofList directory)
    IO.FS.writeBinFile path ⟨bytes.toArray⟩

def display (filter : LogFilter) (output : IO.FS.Stream) (journal : Journal) : IO Unit := do
  for entry in journal do
    if filter.shows entry then output.putStrLn entry.text
  output.flush

def send (output : IO.FS.Stream) (effects : List Feed.Consumer.Effect) : IO Unit := do
  for effect in effects do
    match effect with
    | .wrote (.subscribe symbols) => symbols.subscribeFrame?.toList.forM output.putStrLn
    | _ => pure ()
  output.flush

def unreachable : Collector.Surroundings := ⟨false, .failed "there is no connection"⟩

/-- A running agent, the filter of its log, and the milliseconds of the clock when it was last seen. -/
structure State where
  agent : Agent Collector.Transport
  filter : LogFilter
  seen : Nat

/-- Lets the time pass for the agent that has passed, and then lets it act. -/
def act (output : IO.FS.Stream) (state : State)
    (action : Agent Collector.Transport → Instant →
      List Feed.Consumer.Effect × Agent Collector.Transport) : IO State := do
  let millis ← IO.monoMsNow
  let telemetry := state.agent.telemetry.advance (.ofMillis (millis - state.seen))
  let (effects, agent) := action { state.agent with telemetry } (← now)
  let (journal, telemetry) := agent.telemetry.settle.takeJournal
  display state.filter output journal
  send output effects
  return { state with agent := { agent with telemetry }, seen := millis }

partial def follow (input output : IO.FS.Stream) (state : State) : IO Unit := do
  let text ← input.getLine
  if text.isEmpty then
    let _ ← act output state fun agent time => agent.stop time
    return
  let frame := Feed.Incoming.text (String.ofList (text.toList.filter (· != '\n')))
  follow input output (← act output state fun agent time => agent.take time (.received frame))

def run (input output : IO.FS.Stream) : IO Agent.Exit := do
  let environment ← environment
  let some filter := Agent.logFilter? environment
    | IO.eprintln "The log level is no filter."
      return .broken
  let (settings, journal) := Agent.configure environment
  match settings with
  | none =>
    display filter output journal
    return .regular
  | some (settings, feed) =>
    let disk ← (settings.identityFile.map loadDisk).getD (pure Disk.empty)
    match Launch.ofSettings? .records .keys settings disk (← unique) (← unique) with
    | (none, _, _) =>
      display filter output journal
      IO.eprintln "There is no room for what the settings ask for."
      return .broken
    | (some launch, kept, more) =>
      settings.identityFile.toList.forM fun path => do
        try saveDisk path disk kept
        catch fault =>
          let text := s!"Could not persist identity at {path}: {fault}"
          display filter output [Journal.telemetry .warn text]
      let telemetry := launch.telemetry unreachable (journal ++ more)
      let state : State := ⟨Agent.start telemetry feed (← now), filter, ← IO.monoMsNow⟩
      follow input output (← act output state fun agent time => agent.take time .connected)
      return .regular

end FeedMonitor.Main

def main : IO UInt32 := do
  return (← FeedMonitor.Main.run (← IO.getStdin) (← IO.getStdout)).code.toUInt32
