import SchemaMerge.Options
import SchemaMerge.Text.Affix
import SchemaMerge.Text.Count

/-!
The command line. A command takes one path and options, which may stand in any order. The value of
an option follows as the next argument, which then must not look like an option, or after an equals
sign; after the one-letter form it may also follow directly. Everything after `--` is a path.
-/

namespace SchemaMerge

/-- How JSON is written. -/
inductive Format where
  | pretty
  | compact
  deriving DecidableEq, Repr

def Format.ofName? : String → Option Format
  | "pretty" => some .pretty
  | "compact" => some .compact
  | _ => none

namespace CommandLine

inductive Command where
  /-- Reports duplicate groups. -/
  | analyze
  /-- Merges duplicate definitions. -/
  | consolidate
  /-- Applies explicit renames. -/
  | rename
  deriving DecidableEq, Repr

def Command.ofName? : String → Option Command
  | "analyze" => some .analyze
  | "consolidate" => some .consolidate
  | "rename" => some .rename
  | _ => none

/-- What can be asked for besides the input. -/
inductive Choice where
  | verbose
  | top
  | config
  | output
  | format
  | report
  | tier
  | extractInline
  | conflictPolicy
  | map
  deriving DecidableEq, Repr

def Choice.all : List Choice :=
  [.verbose, .top, .config, .output, .format, .report, .tier, .extractInline, .conflictPolicy, .map]

/-- The name of an option after its two hyphens. -/
def Choice.longName : Choice → String
  | verbose => "verbose"
  | top => "top"
  | config => "config"
  | output => "output"
  | format => "format"
  | report => "report"
  | tier => "tier"
  | extractInline => "extract-inline"
  | conflictPolicy => "conflict-policy"
  | map => "map"

/-- The letter of an option after its one hyphen. -/
def Choice.letter? : Choice → Option Char
  | verbose => some 'v'
  | output => some 'o'
  | _ => none

/-- Whether an option has a value. -/
def Choice.takesValue : Choice → Bool
  | verbose => false
  | extractInline => false
  | _ => true

/-- The options of a command. -/
def Command.choices : Command → List Choice
  | analyze => [.verbose, .top, .config, .output, .format]
  | consolidate =>
      [.verbose, .output, .report, .tier, .config, .extractInline, .conflictPolicy, .format]
  | rename => [.verbose, .map, .output, .format]

/-- A command with what was given to it, each option at most once. -/
structure Request where
  command : Command
  input : String
  top : Option Nat
  config : Option String
  output : Option String
  format : Format
  report : Option String
  tier : Option MergeTier
  extractInline : Bool
  conflictPolicy : Option ConflictPolicy
  map : Option String
  deriving DecidableEq, Repr

/-- What has been read so far: the options with their values, and the paths. -/
structure Given where
  values : List (Choice × String) := []
  paths : List String := []

/-- Notes an option, which must not be given twice. -/
def Given.add? (given : Given) (choice : Choice) (value : String) : Option Given :=
  if (given.values.lookup choice).isSome then none
  else some { given with values := (choice, value) :: given.values }

/-- The option with a long name, if the command has it. -/
def longChoice? (choices : List Choice) (name : String) : Option Choice :=
  choices.find? fun choice => choice.longName = name

/-- The option with a letter, if the command has it. -/
def letterChoice? (choices : List Choice) (letter : Char) : Option Choice :=
  choices.find? fun choice => choice.letter? = some letter

/-- Whether an argument can be the value of the option before it. -/
def isValue (argument : String) : Bool :=
  argument = "-" || !Text.startsWith "-" argument

/-- An option, what is attached to it as its value, and the letters that follow it. -/
structure Found where
  choice : Choice
  attached : Option String

/-- Reads letters after one hyphen. The first option with a value takes the rest of the letters. -/
def readLetters? (choices : List Choice) : List Char → Option (List Found)
  | [] => some []
  | letter :: rest => do
      let choice ← letterChoice? choices letter
      if choice.takesValue then
        match rest with
        | [] => return [⟨choice, none⟩]
        | '=' :: value => return [⟨choice, some (String.ofList value)⟩]
        | value => return [⟨choice, some (String.ofList value)⟩]
      else
        let others ← readLetters? choices rest
        return ⟨choice, none⟩ :: others

/-- Reads the options of one argument that starts with a hyphen. -/
def readOption? (choices : List Choice) (argument : String) : Option (List Found) :=
  match argument.toList with
  | '-' :: '-' :: rest => do
      let name := rest.takeWhile (· != '=')
      let choice ← longChoice? choices (String.ofList name)
      match rest.dropWhile (· != '=') with
      | [] => return [⟨choice, none⟩]
      | _ :: value =>
          if choice.takesValue then return [⟨choice, some (String.ofList value)⟩] else none
  | '-' :: rest => readLetters? choices rest
  | _ => none

/-- Notes the options of one argument. The last one may need a value that is not attached; then it
is returned. -/
def addFound? (given : Given) : List Found → Option (Given × Option Choice)
  | [] => some (given, none)
  | found :: rest =>
      match found.attached with
      | some value => do
          let given ← given.add? found.choice value
          addFound? given rest
      | none =>
          if found.choice.takesValue then some (given, some found.choice)
          else do
            let given ← given.add? found.choice ""
            addFound? given rest

/-- Reads the arguments of a command. `waiting` is the option whose value comes next. -/
def readArguments? (choices : List Choice) (given : Given) (waiting : Option Choice) :
    List String → Option Given
  | [] => if waiting.isNone then some given else none
  | argument :: rest =>
      match waiting with
      | some choice =>
          if isValue argument then do
            let given ← given.add? choice argument
            readArguments? choices given none rest
          else none
      | none =>
          if argument = "--" then some { given with paths := given.paths ++ rest }
          else if isValue argument then
            readArguments? choices { given with paths := given.paths ++ [argument] } none rest
          else do
            let found ← readOption? choices argument
            let (given, waiting) ← addFound? given found
            readArguments? choices given waiting rest

/-- The value of an option, which is read if it is given. -/
def Given.value? {α : Type} (given : Given) (choice : Choice) (read : String → Option α) :
    Option (Option α) :=
  match given.values.lookup choice with
  | none => some none
  | some value => (read value).map some

/-- A path is not empty. -/
def readPath? (text : String) : Option String :=
  if text.isEmpty then none else some text

/-- The request that was made, if all that it needs is given once. -/
def Given.request? (given : Given) (command : Command) : Option Request := do
  let [path] := given.paths | none
  let input ← readPath? path
  let top ← given.value? .top Text.count?
  let config ← given.value? .config readPath?
  let output ← given.value? .output readPath?
  let format ← given.value? .format Format.ofName?
  let report ← given.value? .report readPath?
  let tier ← given.value? .tier MergeTier.ofName?
  let conflictPolicy ← given.value? .conflictPolicy ConflictPolicy.ofName?
  let map ← given.value? .map readPath?
  if command = .rename ∧ map.isNone then none
  return {
    command, input, top, config, output, report, tier, conflictPolicy, map
    format := format.getD .pretty
    extractInline := (given.values.lookup .extractInline).isSome }

/-- What the arguments ask for. -/
inductive Meaning where
  | version
  | request (request : Request)
  /-- The arguments cannot be understood. -/
  | misuse
  deriving DecidableEq, Repr

/-- What letters after one hyphen ask for in front of the command. -/
inductive Leading where
  | version
  /-- Only to be verbose. -/
  | verbose
  | unknown
  deriving DecidableEq, Repr

/-- Reads letters in front of the command: `v` once, and `V`, after which nothing matters. -/
def readLeading (verbose : Bool) : List Char → Leading
  | 'V' :: _ => .version
  | 'v' :: rest => if verbose then .unknown else readLeading true rest
  | [] => .verbose
  | _ => .unknown

/-- What an argument in front of the command asks for. -/
def leading (verbose : Bool) (argument : String) : Leading :=
  match argument.toList with
  | '-' :: '-' :: _ =>
      if argument = "--version" then .version
      else if argument = "--verbose" ∧ !verbose then .verbose
      else .unknown
  | '-' :: letter :: letters => readLeading verbose (letter :: letters)
  | _ => .unknown

/-- Reads the arguments from the first one on. -/
def meaning (verbose : Bool) : List String → Meaning
  | [] => .misuse
  | argument :: rest =>
      match Command.ofName? argument with
      | some command =>
          match (readArguments? command.choices {} none rest).bind (·.request? command) with
          | some request => .request request
          | none => .misuse
      | none =>
          match leading verbose argument with
          | .version => .version
          | .verbose => meaning true rest
          | .unknown => .misuse

end CommandLine

end SchemaMerge
