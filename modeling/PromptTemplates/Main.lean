import PromptTemplates.Calendar.Epoch
import PromptTemplates.CommandLine.Run
import Std.Time.DateTime.Timestamp

/-!
# The program

The outer layer of the command line. It looks at the files that a run may read, reads the input and the
clock, lets `CommandLine.run` decide everything, and carries out what the result says.
-/

namespace PromptTemplates.Program

open CommandLine

/-- The path of a file for the system. -/
def pathText (tree : FileTree) (p : Path) : String := (tree.workingDirectory.join p).text

/-- Adds what stands at a path to a tree. -/
def addNode (tree : FileTree) (p : Path) : IO FileTree := do
  let place := (← IO.currentDir) / pathText tree p
  if ← place.isDir then return tree.put p .directory
  match ← (IO.FS.readBinFile place).toBaseIO with
  | .ok octets => return tree.put p (.file octets.toList)
  | .error _ => return tree

/-- Adds what stands at a path and on the way to it. -/
def look (tree : FileTree) (p : Path) : IO FileTree :=
  (List.range (p.names.length + 1)).foldlM
    (fun tree n => addNode tree { p with names := p.names.take n }) tree

/-- Looks at all files that a run asks for. What the first look finds can tell of further files. -/
def lookAround (s : Surround) : IO Surround := do
  let first ← s.lookups.foldlM look s.files
  let s := { s with files := first }
  return { s with files := ← s.lookups.foldlM look first }

/-- All octets of the standard input. -/
partial def readOctets (read : ByteArray) : IO ByteArray := do
  let more ← (← IO.getStdin).read 65536
  if more.isEmpty then return read else readOctets (read ++ more)

/-- The text on the standard input, if the command line asks for it. -/
def readInput (args : List String) : IO String := do
  match Request.parse args with
  | .ok (.render { template := "-", .. }) =>
    match Text.Utf8.decode? (← readOctets .empty).toList with
    | some text => return String.ofList (Text.unifyLineEnds text)
    | none => throw (IO.userError "the standard input is not valid utf-8")
  | _ => return ""

/-- The current time. -/
def now : IO Calendar.Moment := do
  let nanos := (← Std.Time.Timestamp.now).toNanosecondsSinceUnixEpoch.val
  match Calendar.Moment.ofEpoch (nanos.fdiv 1000000000) (nanos.fmod 1000000000 / 1000).toNat with
  | .ok m => return m
  | .error _ => throw (IO.userError "the clock is out of range")

/-- What a run finds. -/
def surround (args : List String) : IO Surround := do
  let home := (← IO.getEnv "HOME").getD "/"
  let directory := Path.ofString (← IO.currentDir).toString
  lookAround {
    args := args
    input := ← readInput args
    files := { workingDirectory := directory }
    home := home
    userConfig := (Path.ofString home).join (Path.ofString ".config/promptkit/config.toml")
    clock := ← now
    clipboardWorks := false }

/-- The line of an event. -/
def eventLine (asJson : Bool) (e : Event) : String :=
  let (level, source, name) := e.description
  if asJson then
    let fields := [("event", name), ("level", level.name), ("logger", source)].map fun (key, s) =>
      (Json.str key).text ++ ": " ++ (Json.str s).text
    "\x7b" ++ String.intercalate ", " fields ++ "\x7d"
  else "[" ++ level.name ++ "] " ++ name ++ " [" ++ source ++ "]"

/-- The lines of a summary. -/
def summaryLines (s : Summary) : List String :=
  let rows := ["#", "Title", "Lines", "Characters"] :: s.rows
  rows.map (String.intercalate "  ") ++
    (if s.keys.isEmpty then [] else ["Front matter keys: " ++ String.intercalate ", " s.keys])

/-- The lines of the error output. -/
def errorLines (r : Result) : List String :=
  let asJson := r.options.any (·.jsonLogs)
  let fault := r.fault.map fun f => "Error: " ++ f.text?.getD "unexpected critical error"
  let usage := r.usage.map fun u => "Error: " ++ u.message
  r.logs.map (eventLine asJson) ++ r.effects.messages ++
    (r.effects.summary.map summaryLines).getD [] ++ fault.toList ++ usage.toList

/-- Writes the output file if the run wrote it. -/
def writeOutput (before : FileTree) (r : Result) : IO Unit := do
  match r.options.bind (·.output) with
  | none => return ()
  | some name =>
    let p := Path.ofString name
    match before.node? p == r.effects.files.node? p, r.effects.files.node? p with
    | false, some (.file octets) =>
      IO.FS.writeBinFile (pathText before p) ⟨octets.toArray⟩
    | _, _ => return ()

end PromptTemplates.Program

open PromptTemplates in
/-- Runs the command line and returns its exit code. -/
def main (args : List String) : IO UInt32 := do
  let s ← Program.surround args
  let r := CommandLine.run s
  Program.writeOutput s.files r
  (← IO.getStdout).putStr r.effects.stdout
  let stderr ← IO.getStderr
  for line in Program.errorLines r do
    stderr.putStrLn line
  return UInt32.ofNat r.exitCode
