import MavBridge.Daemon.Run

/-!
The program: settings and outputs come from files on disk, messages go to the standard error stream,
and the end of standard input stands for an interruption. Sockets are those of the program's own
machine, which has no serial ports.
-/

namespace MavBridge.Daemon

/-- The files with one from the disk; what is there but cannot be read stands as a directory. -/
def loadFile (files : FileSystem) (path : String) : IO FileSystem := do
  let names := FilePath.ofText path
  try
    return files.withFile names (← IO.FS.readBinFile path).toList
  catch
    | .noFileOrDirectory .. => return files
    | _ => return (files.createDirectories [] names).2

/-- A machine with these files. No word of a command line has a zero character, so none names the
terminal. -/
def hostOf (files : FileSystem) : Host := { files, terminal := { path := "\x00" } }

def tell (filter : LogFilter) (entries : List LogEntry) : IO Unit :=
  for entry in entries.filter filter.admits do
    IO.eprintln ("[" ++ entry.level.name ++ " " ++ entry.module ++ "] " ++ entry.message)

partial def awaitEnd (input : IO.FS.Stream) : IO Unit := do
  unless (← input.getLine).isEmpty do awaitEnd input

end MavBridge.Daemon

open MavBridge in
def main (words : List String) : IO UInt32 := do
  let files ← match Options.read words with
    | .ok options => Daemon.loadFile {} (options.config.getD Daemon.defaultConfig)
    | .error _ => pure {}
  match Daemon.prepare words files with
  | .error report =>
      report.errorLine.forM fun line => IO.eprintln line
      report.outputLine.forM fun line => IO.println line
      return UInt32.ofNat report.exitCode
  | .ok (options, settings, warnings, filter) =>
      let files ← Daemon.loadFile files settings.router.outputsFile
      let (told, bridge) := Daemon.startUp options settings (Daemon.hostOf files)
      warnings.forM fun line => IO.eprintln line
      Daemon.tell filter told
      Daemon.awaitEnd (← IO.getStdin)
      Daemon.tell filter (Daemon.shutDown bridge)
      return 0
