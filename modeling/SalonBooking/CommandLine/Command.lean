import SalonBooking.CommandLine.Arguments
import SalonBooking.Json.Reader
import SalonBooking.Page.Document
import SalonBooking.Publish.Publisher

/-!
# The command

The command reads a configuration from a file, generates the page and publishes
it, or writes it to a file that the arguments name.  A configuration that cannot
be read and a page that cannot be published end it with status 1.  What nobody
promised to report, such as an output file that cannot be written, breaks it
off.

An id that was given no value is an empty list in the page and in a key; it
cannot be the name of a directory or file.
-/

namespace SalonBooking.CommandLine

/-- What breaks the command off. -/
inductive Breakage where
  | file (cause : FileError)
  | unpublished (cause : PublishError)
  /-- The page holds a surrogate. -/
  | unwritable
  /-- The configuration has parts too deep inside each other. -/
  | tooDeep
  deriving DecidableEq, Repr

/-- How the command ends. -/
inductive Ending where
  | status (code : Nat)
  | brokenOff (cause : Breakage)
  deriving DecidableEq, Repr

/-- What the command leaves behind apart from the storage. -/
structure Report where
  ending : Ending
  output : String := ""
  /-- The error that is told, if one is; its text, if it has one of its own. -/
  error : Option (Option String) := none
  deriving DecidableEq, Repr

namespace Report

/-- The report of a command that did what it should. -/
def done (line : String) : Report where
  ending := .status 0
  output := line ++ "\n"

/-- The report of a command that tells an error. -/
def failed (message : Option String) : Report where
  ending := .status 1
  error := some message

/-- The report of a command that is broken off. -/
def brokenOff (cause : Breakage) : Report where
  ending := .brokenOff cause

end Report

namespace FlagValue

/-- What a flag is set to as a JSON value. -/
def toJson : FlagValue → Json
  | .text s => .str s
  | .nothing => .arr []

/-- What a flag is set to as it stands in a key. -/
def display (value : FlagValue) : String :=
  value.toJson.display

/-- Whether what a flag is set to can be the name of a directory or file. -/
def isSegment : FlagValue → Bool
  | .text s => SalonBooking.isSegment s
  | .nothing => false

end FlagValue

namespace Arguments

/-- The configuration in the file that the arguments name. -/
def readConfig (limits : Limits) (arguments : Arguments) (faults : FileFaults) (files : FileTree) :
    Except Report Json :=
  match faults.readText files (Path.ofText arguments.config) with
  | .error _ => .error (.failed none)
  | .ok text =>
    match Json.read limits text with
    | .ok raw => .ok raw
    | .error .tooDeep => .error (.brokenOff .tooDeep)
    | .error _ => .error (.failed none)

/-- The report about a page that is not generated. -/
def badPage : GenerateError → Report
  | .config .tooDeep => .brokenOff .tooDeep
  | e => .failed e.message?

/-- The page of the configuration that the arguments name. -/
def page (limits : Limits) (arguments : Arguments) (faults : FileFaults) (files : FileTree) :
    Except Report String := do
  let raw ← arguments.readConfig limits faults files
  (generateFor limits (.value raw) arguments.formId.toJson arguments.storeId.toJson).mapError
    badPage

/-- Writing a page to a file.  The file is there before it turns out that a page cannot be
written. -/
def writeOutput (faults : FileFaults) (output html : String) (storage : Storage) :
    Report × Storage :=
  let content := if Text.isWritable html then Text.utf8 html else .empty
  match faults.write storage.files (Path.ofText output) content with
  | (.error e, files) => (.brokenOff (.file e), { storage with files })
  | (.ok (), files) =>
    (if Text.isWritable html then .done ("Wrote " ++ output ++ " (" ++ contentHash html ++ ")")
      else .brokenOff .unwritable, { storage with files })

/-- The line about a published page. -/
def publicationLine (p : Publication) : String :=
  (if p.unchanged then "unchanged" else "published") ++ ": " ++ p.url ++ " (" ++
    p.contentHash ++ ")"

/-- The report about an id that cannot be the name of a directory or file. -/
def badSegment (id : FlagValue) : Report :=
  .failed (some ("invalid path segment " ++ id.toJson.displayInside))

/-- The first of the ids that cannot be the name of a directory or file; the store's comes first. -/
def badSegment? (arguments : Arguments) (settings : Settings) : Option FlagValue :=
  if settings.target = .directory then
    [arguments.storeId, arguments.formId].find? (!·.isSegment)
  else none

/-- Publishing a page. -/
def publishPage (arguments : Arguments) (settings : Settings) (faults : Faults)
    (html : String) (storage : Storage) : Report × Storage :=
  if !Text.isWritable html then (.failed none, storage)
  else
    match arguments.badSegment? settings with
    | some id => (badSegment id, storage)
    | none =>
      match settings.publish faults arguments.storeId.display arguments.formId.display html
          storage with
      | (.ok publication, after) => (.done (publicationLine publication), after)
      | (.error e, after) =>
        (if e.isReported then .failed e.message? else .brokenOff (.unpublished e), after)

/-- What the command does. -/
def run (limits : Limits) (arguments : Arguments) (settings : Settings) (faults : Faults)
    (storage : Storage) : Report × Storage :=
  match arguments.page limits faults.files storage.files with
  | .error report => (report, storage)
  | .ok html =>
    match arguments.output with
    | some output => writeOutput faults.files output html storage
    | none => arguments.publishPage settings faults html storage

end Arguments

/-- The command, given by its words. -/
def runCommand (limits : Limits) (words : List String) (settings : Settings)
    (faults : Faults) (storage : Storage) : Report × Storage :=
  match Arguments.ofTexts words with
  | .error e => ({ ending := .status e.status }, storage)
  | .ok arguments => arguments.run limits settings faults storage

end SalonBooking.CommandLine
