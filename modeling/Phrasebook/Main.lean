import Phrasebook.Cli.Run

/-!
The catalog tool as a program.

Everything that comes from the system (names, words, the environment) is taken as a text with
`Text.ofChars`, and what is printed goes out through `Text.toChars`.

The current directory is read into a disk that lies where it does (files with their bytes and
modification times, folders down to a fixed depth), the settings file the environment names is looked up, and the
command line is run over that disk. What the run prints is written to the two streams, and
its status is the program's. A fault that escapes the run is written as its class and message
and ends the program with status 1.
-/

namespace Phrasebook

def snapshotDepth : Nat := 8

/-- Reads the folder at `rel` below the current directory into the disk, to `depth` levels. -/
partial def snapshot (rel : String) (depth : Nat) (d : Disk) : IO Disk := do
  let here := (← IO.currentDir) / rel
  let entries ← here.readDir
  let names := (entries.toList.map (·.fileName)).mergeSort fun a b => decide (a ≤ b)
  let names := names.map fun n => (n, Text.ofChars n.toList)
  names.foldlM (fun (d : Disk) (name, held) => do
    let child := if rel.isEmpty then held else rel ++ "/" ++ held
    let path := here / name
    if ← path.isDir then
      let d := d.makeFolder child
      if depth = 0 then pure d else snapshot child (depth - 1) d
    else
      try
        let bytes ← IO.FS.readBinFile path
        let info ← path.metadata
        pure (d.write child (bytes.toList.map (·.toNat))
          (some (info.modified.sec * Disk.second + info.modified.nsec.toNat)))
      catch _ => pure d) d

end Phrasebook

/-- Runs the catalog tool on the command line's words. -/
def main (args : List String) : IO UInt32 := do
  let held (s : String) : String := Phrasebook.Text.ofChars s.toList
  let here := Phrasebook.Path.parts (held (← IO.currentDir).toString)
  let disk ← Phrasebook.snapshot "" Phrasebook.snapshotDepth { home := here }
  let envConfig ← IO.getEnv "SUBTITLE_CATALOG_CONF"
  match Phrasebook.Cli.run disk (envConfig.map held) (args.map held) with
  | .ok o =>
    IO.print (Phrasebook.Text.toChars o.stdout)
    IO.eprint (Phrasebook.Text.toChars o.stderr)
    pure (UInt32.ofNat o.exit)
  | .error f =>
    IO.eprintln (Phrasebook.Text.toChars (f.className ++ ": " ++ f.message))
    pure 1
