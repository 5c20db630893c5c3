import SalonBooking.CommandLine.Command

/-!
# The program

The outermost layer of the command: it takes the arguments, the environment and
the files that matter from the machine, runs the command on them, and puts back
what has changed.  The machine's texts are plain characters.  There is no
connection to an object store; its requests are answered by a fault.
-/

namespace SalonBooking.Program

/-- The names of the variables that matter. -/
def variableNames : List String :=
  ["DEPLOY_TARGET", "APP_ENV", "STATIC_FORMS_DIR", "PUBLIC_BASE_URL", "FORMS_BUCKET_NAME",
    "AWS_REGION", "S3_ENDPOINT_URL"]

/-- The variables that matter, as far as they are set. -/
def environment : IO Environment :=
  variableNames.filterMapM fun name => do
    return (← IO.getEnv name).map fun value => (name, Text.ofPlain value)

/-- The path of some steps and those above it, from the top down. -/
def withAbove (isAbsolute : Bool) : List String → List Path
  | [] => [⟨isAbsolute, []⟩]
  | step :: above => withAbove isAbsolute above ++ [⟨isAbsolute, step :: above⟩]

/-- The paths of the files that the command may read or write. -/
def paths (settings : Settings) (arguments : CommandLine.Arguments) : List Path :=
  Path.ofText arguments.config :: (arguments.output.toList.map Path.ofText ++
    (settings.pagePath? arguments.storeId.display arguments.formId.display).toOption.toList)

/-- The tree with what the machine has at the end of a path. -/
def load (files : FileTree) (p : Path) : IO FileTree := do
  let place := (← IO.currentDir) / Text.plain p.text
  if ← place.isDir then
    return (FileFaults.makeDirectories {} files p).2
  else if ← place.pathExists then
    return (files.write p (← IO.FS.readBinFile place)).toOption.getD files
  else
    return files

/-- The part of the machine's files that the command may read or write. -/
def loadFiles (settings : Settings) (words : List String) : IO FileTree := do
  let here := Path.ofText (Text.ofPlain (← IO.currentDir).toString)
  let (_, top) := FileFaults.makeDirectories {} .root here
  let start := top.enter (here.locationFrom [])
  match CommandLine.Arguments.ofTexts words with
  | .error _ => return start
  | .ok arguments =>
    ((paths settings arguments).flatMap fun p => withAbove p.isAbsolute p.steps).foldlM
      load start

/-- Writes to the machine what the command has changed. -/
def saveFiles (before after : FileTree) : IO Unit := do
  for (here, e) in after.entries do
    if before.find? here ≠ some e then
      if let some place := String.fromUTF8? ⟨here.bytes.toArray⟩ then
        match e with
        | .directory => IO.FS.createDirAll place
        | .file content => IO.FS.writeBinFile place content

/-- The answer of a store that is not connected. -/
def noConnection : StoreFault := .library "Could not connect to the endpoint URL"

/-- The faults of a machine whose store is not connected. -/
def faults : Faults where
  store := { head := some noConnection, put := some noConnection, delete := some noConnection }

/-- Tells what the command leaves behind; the result is the status of the program. -/
def tell (report : CommandLine.Report) : IO UInt32 := do
  IO.print (Text.plain report.output)
  if let some message := report.error then
    IO.eprintln (Text.plain ("Error: " ++ message.getD "unusable input"))
  match report.ending with
  | .status code => return UInt32.ofNat code
  | .brokenOff _ =>
    IO.eprintln "the page cannot be made or written"
    return 1

/-- Generates a booking form from a configuration file and publishes it. -/
def run (words : List String) : IO UInt32 := do
  let settings := Settings.ofEnvironment (← environment)
  let files ← loadFiles settings words
  let (report, after) :=
    CommandLine.runCommand .standard words settings faults ⟨files, [], [], []⟩
  saveFiles files after.files
  for line in after.log do
    IO.eprintln (Text.plain line)
  tell report

end SalonBooking.Program

/-- The program. -/
def main (words : List String) : IO UInt32 :=
  SalonBooking.Program.run (words.map SalonBooking.Text.ofPlain)
