import Std.Time.DateTime.Timestamp
import ShellDebugger.Console.Invocation
import ShellDebugger.Host.Time

/-!
# The program

Gathers what an invocation of the debugger is given, runs it, and prints what comes of it. The
shells run on a machine of their own, which holds copies of the files that the run can name.
-/

namespace ShellDebugger

/-- What a path of the host leads to, as far as it can be read. -/
def nodeAt? (path : String) : IO (Option Node) := do
  try
    return some (.file (← IO.FS.readBinFile path).toList)
  catch
    | .inappropriateType .. => return some .directory
    | _ => return none

/-- The octets of a file of the host, none if it cannot be read. -/
def octetsOf (path : String) : IO Bytes := do
  match ← nodeAt? path with
  | some (.regular octets _) => return octets
  | _ => return []

/-- The octets of a stream from where it is to its end. -/
partial def octetsLeft (stream : IO.FS.Stream) (before : ByteArray) : IO ByteArray := do
  let octets ← stream.read 65536
  if octets.isEmpty then return before else octetsLeft stream (before ++ octets)

/-- A machine with copies of what stands at some paths of the host. -/
def machineWith (inv : Console.Invocation) (processId : Nat) : IO Machine := do
  let root : FileTree := ⟨[], []⟩
  let directory := root.literalPlace inv.directory
  let mut files := { Machine.withPrograms (root.makeDirectories directory) with
    workingDirectory := directory }
  for path in inv.paths do
    if let some text := Utf8.decode? path.octets then
      match ← nodeAt? text with
      | some .directory => files := files.installDirectory path
      | some node => files := files.install path node
      | none => pure ()
  return .ofFiles files inv.environment processId

end ShellDebugger

open ShellDebugger in
def main (arguments : List String) : IO UInt32 := do
  let now ← Std.Time.Timestamp.now
  let environment := Environment.ofBlock (← octetsOf "/proc/self/environ")
  let status ← octetsOf "/proc/self/stat"
  let processId := (Numeral.parse? (Utf8.decodeLossy (status.takeWhile (· != 0x20)))).getD 0
  let input ← octetsLeft (← IO.getStdin) .empty
  let inv : Console.Invocation :=
    { arguments := arguments.map Utf8.encode
      environment := environment
      directory := (← IO.currentDir).toString
      account := "/root"
      input := input.toList
      time := Log.Timestamp.text (now.toNanosecondsSinceUnixEpoch.val.toNat / 1000) }
  let (code, site) := inv.run (← machineWith inv processId)
  (← IO.getStdout).write ⟨site.stdout.toArray⟩
  (← IO.getStderr).write ⟨site.stderr.toArray⟩
  return UInt32.ofNat code
