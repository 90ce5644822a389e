import Reckoner.Session
import Std.Time.DateTime.Timestamp

/-!
# The program

Reads the variables and the arguments, lets the library decide, and prints. The dialogue is printed
line by line as it is typed.
-/

namespace Reckoner.Main

set_option autoImplicit false

def now : IO Text := do
  let time ← Std.Time.Timestamp.now
  let nanoseconds := time.toNanosecondsSinceUnixEpoch.val
  let microseconds := nanoseconds / 1000
  return (Journal.Instant.mk (microseconds / 1000000) (microseconds % 1000000).toNat).text

def record (journal : Journal) (events : List Journal.Event) : IO Unit := do
  let console ← IO.getStderr
  for line in Journal.noted journal.level events do
    let written := String.ofList ((← now) ++ ' ' :: line ++ ['\n'])
    console.putStr written
    if let some path := journal.file then
      IO.FS.withFile (String.ofList path) .append fun file => file.putStr written

def obstacle (path : Text) : IO.Error → Journal.Obstacle
  | .noFileOrDirectory _ number wording => .reported number.toNat wording.toList path
  | .alreadyExists _ number wording | .inappropriateType _ number wording
  | .invalidArgument _ number wording | .noSuchThing _ number wording
  | .permissionDenied _ number wording | .resourceExhausted _ number wording =>
      .reported number.toNat wording.toList path
  | problem => .reported 5 problem.toString.toList path

/-- The disk as far as one path is concerned, whose file is opened if it can be. -/
def diskAt (path : Text) : IO Journal.Disk := do
  try
    IO.FS.withFile (String.ofList path) .append fun file => file.flush
    return { place := .ok }
  catch problem =>
    return { place := fun path => .error (obstacle path problem) }

/-- The disk for the options. No file is opened for a refused level. -/
def diskFor (initial : Settings) (options : CommandLine.Options) : IO Journal.Disk :=
  match Journal.levelOfName (Session.levelName initial options.journalLevel),
      Session.pathName options.journalFile with
  | .ok _, some path => if path.contains '\x00' then pure .plain else diskAt path
  | _, _ => pure .plain

def finish (journal : Journal) (run : CommandLine.Run) : IO UInt32 := do
  record journal run.events
  IO.print (String.ofList run.output)
  match run.ending with
  | .ok code => return code.toUInt32
  | .error fault =>
      IO.eprintln (String.ofList fault.message)
      return 1

/-- The dialogue from its next prompt on. -/
partial def converse (settings : Settings) (format : CommandLine.Format) (journal : Journal) :
    IO UInt32 := do
  IO.print (String.ofList CommandLine.prompt)
  (← IO.getStdout).flush
  let line ← (← IO.getStdin).getLine
  if line.isEmpty then
    finish journal { ending := .ok 0, output := CommandLine.lastWords }
  else
    match CommandLine.turn settings format line.toList with
    | .goesOn output events => do
        record journal events
        IO.print (String.ofList output)
        converse settings format journal
    | .ends run => finish journal run

def start (initial : Settings) (arguments : List Text) : IO UInt32 := do
  match CommandLine.Options.ofArguments arguments with
  | .error (.problem problem) =>
      IO.eprintln (String.ofList (Session.refusal problem))
      return Session.refusalCode.toUInt32
  | .error .help => finish {} { ending := .ok 0, output := CommandLine.help }
  | .ok options =>
      let session : Session := { settings := initial }
      let disk ← diskFor initial options
      match session.withJournal options.journalLevel options.journalFile disk with
      | (_, some fault) => finish {} { ending := .error fault }
      | (noting, none) =>
          match noting.withOptions options with
          | .error fault => finish {} { ending := .error fault }
          | .ok ⟨settings, journal⟩ =>
              if options.asksForDialogue then
                IO.print (String.ofList CommandLine.banner)
                converse settings options.format journal
              else finish journal (CommandLine.run settings options [])

end Reckoner.Main

def main (arguments : List String) : IO UInt32 := do
  let values ← Reckoner.Settings.variableNames.mapM fun name => do
    return (name, ← IO.getEnv (String.ofList name))
  match Reckoner.Settings.ofVariables fun name => ((values.lookup name).join).map String.toList with
  | .ok settings => Reckoner.Main.start settings (arguments.map String.toList)
  | .error fault => Reckoner.Main.finish {} { ending := .error fault }
