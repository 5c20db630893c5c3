import SalonBooking.Data.Assoc
import SalonBooking.Text.DecimalDigit

/-!
# Arguments

The command takes the path of a configuration and flags.  A flag may be cut
short as long as one flag only begins that way, and its value is the next
argument or stands after `=`.  What begins with a hyphen and is no flag is a
plain argument if it is a number, a single hyphen or has a blank in it.  After
`--` every argument is plain; a flag with this mark for a value has none.

Reading goes from left to right and stops at the first flag that asks for help
or lacks a value; other mistakes are found out at the end.  A flag that begins
like several is a mistake before all others.
-/

namespace SalonBooking.CommandLine

/-- The flags of the command. -/
inductive Flag where
  | help
  | storeId
  | formId
  | output
  deriving DecidableEq, Repr

/-- The flags by their full names. -/
def flagNames : Assoc String Flag :=
  [("--help", .help), ("--store-id", .storeId), ("--form-id", .formId), ("--output", .output)]

/-- An argument by its form. -/
inductive Token where
  | flag (f : Flag) (value : Option String)
  /-- What begins like several flags. -/
  | ambiguous
  /-- What looks like a flag and is none. -/
  | unknown
  | plain (text : String)
  /-- The mark after which all arguments are plain. -/
  | endOfFlags
  deriving DecidableEq, Repr

namespace Token

/-- The parts of a text before and after its first equals sign. -/
def splitValue (text : List Char) : List Char × Option String :=
  match text.dropWhile (· != '=') with
  | _ :: value => (text.takeWhile (· != '='), some (String.ofList value))
  | [] => (text, none)

/-- Whether a text is a negative number: digits, perhaps with a point before the last of them, and
perhaps a line feed at the end. -/
def isNegativeNumber : List Char → Bool
  | '-' :: number =>
    let isDigit (c : Char) : Bool := (Text.digitValue? c).isSome
    let atEnd (text : List Char) : Bool := text.isEmpty || text == ['\n']
    match number.dropWhile isDigit with
    | '.' :: fraction => fraction.any isDigit && atEnd (fraction.dropWhile isDigit)
    | rest => !(number.takeWhile isDigit).isEmpty && atEnd rest
  | _ => false

/-- The token of an argument that begins with a hyphen and that no flag begins with. -/
def ofOther (text : List Char) : Token :=
  if isNegativeNumber text || text.contains ' ' then .plain (String.ofList text) else .unknown

/-- The token of an argument that begins with two hyphens. -/
def ofLong (text : List Char) : Token :=
  let (name, value) := splitValue text
  match flagNames.get? (String.ofList text) with
  | some f => .flag f none
  | none =>
    match flagNames.get? (String.ofList name) with
    | some f => .flag f value
    | none =>
      match flagNames.filter fun entry => name.isPrefixOf entry.1.toList with
      | [] => ofOther text
      | [(_, f)] => .flag f value
      | _ => .ambiguous

/-- The token of `-h`, the short name for help, with characters after it: the `h` may be repeated,
or given once more as its value. -/
def ofHelp (letters : List Char) : Token :=
  let isHelp := match letters with
    | '=' :: value => !value.isEmpty && value.all (· == 'h')
    | _ => letters.all (· == 'h')
  .flag .help (if isHelp then none else some (String.ofList letters))

/-- The token of an argument that may be a flag. -/
def ofText (s : String) : Token :=
  match s.toList with
  | ['-'] => .plain s
  | '-' :: '-' :: rest => ofLong ('-' :: '-' :: rest)
  | '-' :: 'h' :: letters => ofHelp letters
  | '-' :: rest => ofOther ('-' :: rest)
  | _ => .plain s

/-- The tokens of some arguments. -/
def ofTexts : List String → List Token
  | [] => []
  | "--" :: rest => .endOfFlags :: rest.map .plain
  | s :: rest => ofText s :: ofTexts rest

end Token

/-- What a flag is set to. -/
inductive FlagValue where
  | text (s : String)
  /-- The flag is there, but has no value. -/
  | nothing
  deriving DecidableEq, Repr

namespace FlagValue

/-- What the value of a flag sets it to. -/
def ofText (s : String) : FlagValue :=
  if s = "--" then .nothing else .text s

/-- The text of a value, if there is one and it is not empty. -/
def nonEmpty? : FlagValue → Option String
  | .text s => if s.isEmpty then none else some s
  | .nothing => none

end FlagValue

/-- What the command is asked to do. -/
structure Arguments where
  config : String
  storeId : FlagValue
  formId : FlagValue
  output : Option String
  deriving DecidableEq, Repr

/-- Why the arguments are not acted upon. -/
inductive UsageError where
  | helpAsked
  | mistaken
  deriving DecidableEq, Repr

/-- The status of a command that is not acted upon. -/
def UsageError.status : UsageError → Nat
  | .helpAsked => 0
  | .mistaken => 2

/-- The arguments as far as they are read. -/
structure Draft where
  config : Option String := none
  storeId : Option FlagValue := none
  formId : Option FlagValue := none
  output : Option FlagValue := none
  /-- Whether something was read that has no place. -/
  hasExtra : Bool := false
  deriving DecidableEq, Repr

namespace Draft

/-- The draft with the value of a flag, which replaces an earlier one. -/
def setFlag (draft : Draft) (value : String) : Flag → Draft
  | .help => draft
  | .storeId => { draft with storeId := some (.ofText value) }
  | .formId => { draft with formId := some (.ofText value) }
  | .output => { draft with output := some (.ofText value) }

/-- The draft with something that has no place. -/
def extra (draft : Draft) : Draft :=
  { draft with hasExtra := true }

/-- The draft after some tokens. -/
def read (draft : Draft) : List Token → Except UsageError Draft
  | [] => .ok draft
  | .flag .help none :: _ => .error .helpAsked
  | .flag .help (some _) :: _ => .error .mistaken
  | .flag f (some value) :: rest => (draft.setFlag value f).read rest
  | .flag f none :: .plain value :: rest => (draft.setFlag value f).read rest
  | .flag _ none :: _ => .error .mistaken
  | .ambiguous :: _ => .error .mistaken
  | .unknown :: rest => draft.extra.read rest
  | .endOfFlags :: .plain text :: rest =>
    match draft.config with
    | none => { draft with config := some text }.read rest
    | some _ => draft.extra.read rest
  | .endOfFlags :: rest => draft.extra.read rest
  | .plain text :: .endOfFlags :: rest =>
    match draft.config with
    | none => { draft with config := some text }.read rest
    | some _ => draft.extra.read rest
  | .plain text :: rest =>
    match draft.config with
    | none => { draft with config := some text }.read rest
    | some _ => draft.extra.read rest

/-- The arguments of a complete draft.  An empty output is none. -/
def finish (draft : Draft) : Except UsageError Arguments :=
  match draft.config, draft.storeId, draft.formId, draft.hasExtra with
  | some config, some storeId, some formId, false =>
    .ok ⟨config, storeId, formId, draft.output.bind FlagValue.nonEmpty?⟩
  | _, _, _, _ => .error .mistaken

end Draft

/-- The arguments that the words of a command make. -/
def Arguments.ofTexts (words : List String) : Except UsageError Arguments := do
  let tokens := Token.ofTexts words
  if tokens.contains .ambiguous then .error .mistaken
  else (← Draft.read {} tokens).finish

end SalonBooking.CommandLine
