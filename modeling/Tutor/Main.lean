import Std.Async.DNS
import Std.Async.Signal
import Std.Async.TCP
import Std.Async.Timer
import Std.Time
import Tutor.Command.Program
import Tutor.Server.Wire
import Tutor.World.Replay

/-!
# The program on a machine

Everything the tutor decides is decided elsewhere. Here its questions to the outside are answered:
bytes go to and come from the network, files are read before a run and written after it.
-/

namespace Tutor.Main

open Std.Async Std.Net

/-! ### The network -/

/-- Bytes as they are sent. -/
def packed (bs : List UInt8) : ByteArray := ⟨bs.toArray⟩

/-- The addresses of a host. -/
def addressesOf (host : String) (port : Nat) : Async (Array SocketAddress) := do
  let port := UInt16.ofNat port
  let found ← match IPv4Addr.ofString host with
    | some a => pure #[IPAddr.v4 a]
    | none => DNS.getAddrInfo host ""
  return found.map fun
    | .v4 a => .v4 ⟨a, port⟩
    | .v6 a => .v6 ⟨a, port⟩

/-- All bytes up to the end of a connection. -/
partial def receiveAll (c : TCP.Socket.Client) (got : ByteArray) : Async ByteArray := do
  match ← c.recv? 65536 with
  | some more => receiveAll c (got ++ more)
  | none => return got

/-- Sends a request and waits for the answer. -/
def exchangeOver (r : Http.Request) : Async Http.Exchange := do
  let some address := (← addressesOf (r.url.hostText?.getD "") (r.url.effectivePort?.getD 80))[0]?
    | return .failed "the host has no address"
  let c ← TCP.Socket.Client.mk
  c.connect address
  c.send (packed r.toBytes)
  match Http.Response.ofBytes? (← receiveAll c .empty).toList with
  | some response => return .answered response
  | none => return .failed "the connection was closed"

instance : Inhabited Http.Exchange := ⟨.failed ""⟩

/-- What becomes of a request. Only plain connections are made. -/
def exchange (r : Http.Request) : IO Http.Exchange := do
  if r.url.scheme != "http" then return .failed "no secure connection can be made"
  try
    Async.block (Async.race (exchangeOver r) do
      sleep (.ofNat r.timeout)
      return .failed "timed out")
  catch e => return .failed (toString e)

/-! ### Questions -/

/-- The time. -/
def now : IO Timestamp := do
  let t ← Std.Time.Timestamp.now
  return ⟨t.val.second.val, t.val.nano.val.toNat⟩

/-- Listens on an address: a host and a port behind the last colon. -/
def listenOn (address : String) : IO TCP.Socket.Server := do
  let port := (address.toList.reverse.takeWhile (· != ':')).reverse
  let host := String.ofList (address.toList.take (address.length - port.length - 1))
  let found ← Async.block (addressesOf host ((Text.numeral? 10 port).getD 0))
  let some a := found[0]? | throw (IO.userError "the host has no address")
  let s ← TCP.Socket.Server.mk
  s.bind a
  s.listen 128
  return s

/-- Finds something out. A server that listens is kept. -/
def findOut (listener : IO.Ref (Option TCP.Socket.Server)) : Question → IO Finding
  | .exchange r => return .exchanged (← exchange r)
  | .now => return .time (← now)
  | .draw => return .number (← IO.rand 0 (Nat.pow 36 7 - 1))
  | .listen address => do
    try
      listener.set (some (← listenOn address))
      return .listened none
    catch e => return .listened (some (toString e))

/-- Carries a run out: it is run again and again until nothing is open. -/
partial def carryOut (listener : IO.Ref (Option TCP.Socket.Server)) (act : Run Replay α)
    (w : World Unit) (known : List Finding) : IO (α × World Unit) := do
  let (a, after, question) := Replay.attempt act w known
  match question with
  | none => return (a, after)
  | some q => carryOut listener act w (known ++ [← findOut listener q])

/-! ### Files -/

/-- The names that lead to a path of the machine. -/
def placeOf (path : String) : Place := (Path.ofText path).names

/-- The disk with what stands on the machine at the places that lead to one. -/
def withPlace (d : Disk) (p : Place) : IO Disk := do
  let root := (← IO.currentDir) / "/"
  let mut d := d
  for n in List.range p.length do
    let q := p.take (n + 1)
    let path := root / "/".intercalate q
    if ← path.isDir then d := d.put q .folder
    else if ← path.pathExists then
      d := d.put q (.file (← IO.FS.readBinFile path).toList)
  return d

/-- The disk with what stands on the machine on the way to a path. -/
def withPath (d : Disk) (path : String) : IO Disk := do
  let p := Path.ofText path
  withPlace d ((if p.rooted then [] else d.here) ++ p.names)

/-- The disk with everything in a folder. -/
def withFolder (d : Disk) (path : String) : IO Disk := do
  let mut d ← withPath d path
  let top := (← IO.currentDir) / path
  if ← top.isDir then
    for file in ← top.walkDir do
      d ← withPlace d (placeOf file.toString)
  return d

/-- Writes what changed on a disk. -/
def save (before after : Disk) : IO Unit := do
  let root := (← IO.currentDir) / "/"
  let on (p : Place) := root / "/".intercalate p
  let entries := after.entries.toList.mergeSort fun a b => a.1.length ≤ b.1.length
  for (p, e) in entries do
    if before.at? p != some e then
      match e with
      | .folder => IO.FS.createDirAll (on p)
      | .file bytes => IO.FS.writeBinFile (on p) (packed bytes)
  for (p, _) in before.entries.toList do
    if (after.at? p).isNone then IO.FS.removeFile (on p)

/-! ### Serving -/

/-- The request that arrives on a connection. -/
partial def receive (c : TCP.Socket.Client) (got : ByteArray) : Async (Option Server.Request) := do
  match Server.Arrival.ofBytes got.toList with
  | .request r => return some r
  | .unfinished =>
    match ← c.recv? 65536 with
    | some more => receive c (got ++ more)
    | none => return none

/-- Serves one connection. -/
def serveOne (listener : IO.Ref (Option TCP.Socket.Server)) (site : Server.Site Replay)
    (w : World Unit) (c : TCP.Socket.Client) : IO (World Unit) := do
  let some r ← Async.block (receive c .empty) | return w
  let disk ← withFolder w.disk site.folder
  let (response, after) ← carryOut listener (site.answer r) { w with disk } []
  save disk after.disk
  Async.block (c.send (packed response.toBytes))
  Async.block c.shutdown
  return { after with trail := [] }

/-- Serves connections until a signal asks to stop. -/
partial def serveAll (listener : IO.Ref (Option TCP.Socket.Server)) (s : TCP.Socket.Server)
    (stop : AsyncTask Int) (site : Server.Site Replay) (w : World Unit) : IO Unit := do
  let next ← Async.block (Async.race (some <$> s.accept) do
    discard (await stop)
    return none)
  match next with
  | none => return
  | some c =>
    let w ← try serveOne listener site w c catch _ => pure w
    serveAll listener s stop site w

/-! ### The program -/

/-- The variables of the environment that matter. -/
def environment : IO Settings.Environment := do
  let names := Settings.knownVariables.map (·.name) ++ ["CLICOLOR", "CLICOLOR_FORCE", "NO_COLOR"]
  names.filterMapM fun n => do
    return (← IO.getEnv n).map fun v => (n, Text.bytesOf v)

/-- The files that matter at the start: the settings, and what leads to the audio files. -/
def startDisk (args : List String) (e : Settings.Environment) : IO Disk := do
  let d : Disk := { here := placeOf (← IO.currentDir).toString }
  let d ← withPlace d d.here
  match Command.Invocation.ofArguments args with
  | .error _ => return d
  | .ok i =>
    let d ← withPath d i.settingsFile
    match i.settings d e with
    | .ok s => withPath d s.audio.folder
    | .error _ => return d

/-- Runs the program. -/
def run (args : List String) : IO UInt32 := do
  let e ← environment
  let disk ← startDisk args e
  let listener ← IO.mkRef none
  let shows ← (← IO.getStdout).isTty
  let (result, w) ← carryOut listener (Command.run args e shows) { disk, outside := () } []
  save disk w.disk
  match result with
  | .finished f =>
    IO.print f.output
    IO.eprint f.complaint
    return UInt32.ofNat f.status
  | .serving site =>
    if let some s ← listener.get then
      serveAll listener s (← (← Signal.Waiter.mk .sigint false).wait) site w
    return 0

end Tutor.Main

/-- The program. -/
def main (args : List String) : IO UInt32 := Tutor.Main.run args
