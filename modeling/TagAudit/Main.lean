import Std.Time
import TagAudit.Command.Run

/-!
# The program

Commands on the files and the clock of the machine that the program runs on. There is no network in
it: fetching fails as it does on a machine that is not connected.
-/

namespace TagAudit.Program

/-- The number of the host for what went wrong. -/
def errorNumber (e : IO.Error) : Nat :=
  let n := match e with
    | .alreadyExists _ n _ | .otherError n _ | .resourceBusy n _ | .resourceVanished n _
    | .unsupportedOperation n _ | .hardwareFault n _ | .unsatisfiedConstraints n _
    | .illegalOperation n _ | .protocolError n _ | .timeExpired n _ | .interrupted _ n _
    | .noFileOrDirectory _ n _ | .invalidArgument _ n _ | .permissionDenied _ n _
    | .resourceExhausted _ n _ | .inappropriateType _ n _ | .noSuchThing _ n _ => n.toNat
    | .unexpectedEof | .userError _ => 0
  if 0x80000000 ≤ n then 0x100000000 - n else n

/-- The fault of an error about a file. -/
def faultOf (p : Path) (e : IO.Error) : Fault :=
  let obstacles : List Fault.Obstacle := [.missing, .taken, .notDirectory, .isDirectory, .longName]
  match obstacles.find? fun o => o.number == errorNumber e with
  | some obstacle => .storage obstacle p.text
  | none => .worded .os (e.toString : Text)

/-- A path as the host has it, or the fault of a path that it cannot have. -/
def pathText (p : Path) : Except Fault String :=
  match p.text.toString? with
  | some s => if s.contains '\x00' then .error (.worded .value "embedded null byte") else .ok s
  | none =>
    .error ((Utf8.surrogates? p.text).getD (.worded .encoding "path without an encoding"))

/-- Does something with a file; what goes wrong becomes a fault. -/
def onFile {α : Type} (p : Path) (act : String → IO α) : IO (Except Fault α) := do
  match pathText p with
  | .error fault => return .error fault
  | .ok s =>
    try return .ok (← act s)
    catch e => return .error (faultOf p e)

instance : Host IO where
  holds p := do
    match pathText p with
    | .error _ => return .ok false
    | .ok s => return .ok (← ((← IO.currentDir) / s).pathExists)
  holdsDirectory p := do
    match pathText p with
    | .error _ => return false
    | .ok s => ((← IO.currentDir) / s).isDir
  read p := onFile p fun s => return (← IO.FS.readBinFile s).toList
  makeDirectory p := onFile p fun s => IO.FS.createDir s
  write p octets := onFile p fun s => IO.FS.writeBinFile s ⟨octets.toArray⟩
  now := do
    let time ← Std.Time.Timestamp.now
    return Moment.ofMicroseconds (time.toNanosecondsSinceUnixEpoch.val / 1000).toNat
  ticks := IO.monoMsNow

/-- The variables of the program that are set. -/
def readVariables : IO Variables := do
  let names := ["ENV", "TIMEOUT", "ENDPOINT", "OUTPUT_DIR", "LOG_LEVEL", "DEBUG"]
  names.filterMapM fun name => do
    let value? ← IO.getEnv ("GTM_INSPECTOR_" ++ name)
    return value?.map fun value => (variableName name, (value : Text))

/-- A transport without a network. -/
def unconnected : Transport IO := fun _ =>
  return .error (.noReply "[Errno 101] Network is unreachable")

/-- What commands are run with. -/
def surroundings : IO (Surroundings IO) := do
  return {
    env := ← readVariables
    fetcher := fun settings => fetch (byKnownProtocol unconnected) settings }

/-- A text that has an encoding, as a string. -/
def stringOf (t : Text) : String := t.toString?.getD ""

end TagAudit.Program

open TagAudit TagAudit.Program in
/-- Runs the command that the arguments spell. -/
def main (arguments : List String) : IO UInt32 := do
  let outcome ← runArguments (← surroundings) (arguments.map Text.ofString)
  (← IO.getStdout).putStr (stringOf outcome.out)
  (← IO.getStderr).putStr (stringOf outcome.err)
  match outcome.ending with
  | .exit code => return UInt32.ofNat code
  | .broken fault =>
    (← IO.getStderr).putStr (stringOf (fault.kind.name ++ (": " : Text) ++
      Outcome.line (Outcome.spelled fault.message)))
    return 1
