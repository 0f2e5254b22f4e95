/-
# ArtifactStaging.CommandLine.Arguments -- what a command line asks for

A command line is a command, its options and, for `stage`, the inputs.  An option
has its value after an equals sign or in the next argument, which may then not
look like an option itself; the value of a short option may also follow its
letter.  Two minus signs alone end the options.

An option is given once at most, except for the directories of shared libraries,
which add up and may be parted by commas.  Paths are not empty, a replication
factor fits sixteen bits, and a log format is one of those there are.

Arguments are looked at one after the other, so help is given only when nothing
before the wish for it is wrong.
-/
import ArtifactStaging.Logging.Format

set_option autoImplicit false

namespace ArtifactStaging.CommandLine

open Text

/-- A command. -/
inductive Verb where
  | stage
  | sharedLibs
  | config
deriving DecidableEq, Repr

/-- The name of a command. -/
def Verb.name : Verb → String
  | .stage => "stage"
  | .sharedLibs => "shared-libs"
  | .config => "config"

/-- Every command. -/
def Verb.all : List Verb := [.stage, .sharedLibs, .config]

/-- An option. -/
inductive Switch where
  | config
  | homeDirectory
  | sharedLibDirectory
  | localRoot
  | logLevel
  | logFormat
  | applicationId
  | replication
  | resourcesDirectory
  | distBundle
  | out
  | json
deriving DecidableEq, Repr

namespace Switch

/-- The name of an option. -/
def name : Switch → String
  | .config => "config"
  | .homeDirectory => "home-dir"
  | .sharedLibDirectory => "shared-lib-dir"
  | .localRoot => "local-root"
  | .logLevel => "log-level"
  | .logFormat => "log-format"
  | .applicationId => "app-id"
  | .replication => "replication"
  | .resourcesDirectory => "resources-dir"
  | .distBundle => "dist-bundle"
  | .out => "out"
  | .json => "json"

/-- The letter of an option. -/
def letter? : Switch → Option Char
  | .config => some 'c'
  | .out => some 'o'
  | _ => none

/-- Whether an option has a value. -/
def hasValue : Switch → Bool
  | .json => false
  | _ => true

/-- Whether an option may be given again. -/
def repeats : Switch → Bool
  | .sharedLibDirectory => true
  | _ => false

/-- The options of every command. -/
def common : List Switch :=
  [.config, .homeDirectory, .sharedLibDirectory, .localRoot, .logLevel, .logFormat]

/-- The options of a command. -/
def ofVerb : Verb → List Switch
  | .stage =>
      common ++ [.applicationId, .replication, .resourcesDirectory, .distBundle, .out]
  | .sharedLibs => common ++ [.json]
  | .config => common

end Switch

/-- Why no command is run. -/
inductive Refusal where
  /-- Help was asked for. -/
  | help
  /-- The version was asked for. -/
  | version
  /-- The command line cannot be understood. -/
  | misuse
deriving DecidableEq, Repr

/-- A part of a command line. -/
inductive Part where
  | given (option : Switch) (value : String)
  | input (text : String)
deriving DecidableEq, Repr

/-! ## Values -/

/-- The value of an option. -/
def valueOf? (parts : List Part) (switch : Switch) : Option String :=
  parts.findSome? fun
    | .given other value => if other = switch then some value else none
    | .input _ => none

/-- Every value of an option. -/
def valuesOf (parts : List Part) (switch : Switch) : List String :=
  parts.filterMap fun
    | .given other value => if other = switch then some value else none
    | .input _ => none

/-- The inputs. -/
def inputsOf (parts : List Part) : List String :=
  parts.filterMap fun
    | .given _ _ => none
    | .input text => some text

/-- A factor in decimal, with or without a sign. -/
def factor? (text : String) : Option UInt16 :=
  let (negative, digits) := match text.toList with
    | '-' :: rest => (true, rest)
    | '+' :: rest => (false, rest)
    | rest => (false, rest)
  if digits.isEmpty || !digits.all Char.isDigit then none
  else
    let n := digits.foldl (fun n c => n * 10 + (c.toNat - 48)) 0
    if n < 65536 ∧ (negative → n = 0) then some (UInt16.ofNat n) else none

/-- A log format by its name. -/
def logFormat? (text : String) : Option LogFormat := (LogFormat.parse text).toOption

/-- Whether an option takes a value. -/
def Switch.accepts (switch : Switch) (value : String) : Bool :=
  match switch with
  | .config => !value.isEmpty
  | .localRoot => !value.isEmpty
  | .out => !value.isEmpty
  | .replication => (factor? value).isSome
  | .logFormat => (logFormat? value).isSome
  | _ => true

/-- One more part, if it may stand after those before it, which stand latest first. -/
def addPart (verb : Verb) (before : List Part) (part : Part) : Except Refusal (List Part) :=
  match part with
  | .given switch value =>
      if (!switch.repeats && (valueOf? before switch).isSome) || !switch.accepts value then
        .error .misuse
      else .ok (part :: before)
  | .input _ => if verb = .stage then .ok (part :: before) else .error .misuse

/-! ## Parting the arguments -/

/-- Whether an argument looks like an option. -/
def looksLikeOption (argument : String) : Bool :=
  startsWith argument "-" && argument != "-"

/-- A name and what follows its equals sign. -/
def nameAndValue (text : List Char) : String × Option String :=
  match cutFirst? '=' text with
  | some (name, value) => (String.ofList name, some (String.ofList value))
  | none => (String.ofList text, none)

/-- What an argument starts: an option with the value it has itself, or an input. -/
inductive Opening where
  | option (switch : Switch) (value : Option String)
  | input
  | rest

/-- What an argument starts. -/
def opening (verb : Verb) (argument : String) : Except Refusal Opening :=
  match argument.toList with
  | ['-', '-'] => .ok .rest
  | '-' :: '-' :: body =>
      let (name, value) := nameAndValue body
      if name = "help" ∧ value = none then .error .help
      else match (Switch.ofVerb verb).find? (·.name == name) with
        | some switch => .ok (.option switch value)
        | none => .error .misuse
  | '-' :: letter :: body =>
      if letter = 'h' then .error .help
      else match (Switch.ofVerb verb).find? (·.letter? == some letter) with
        | none => .error .misuse
        | some switch =>
            match body with
            | [] => .ok (.option switch none)
            | '=' :: value => .ok (.option switch (some (String.ofList value)))
            | value => .ok (.option switch (some (String.ofList value)))
  | _ => .ok .input

/-- The parts of a command's arguments after those before them, latest first.  The first
argument that is wrong, or that asks for help, decides. -/
def partsAfter (verb : Verb) (before : List Part) : List String →
    Except Refusal (List Part)
  | [] => .ok before
  | argument :: rest => do
      match ← opening verb argument with
      | .rest => (rest.map Part.input).foldlM (addPart verb) before
      | .input => partsAfter verb (← addPart verb before (.input argument)) rest
      | .option switch (some value) =>
          if switch.hasValue then
            partsAfter verb (← addPart verb before (.given switch value)) rest
          else .error .misuse
      | .option switch none =>
          if switch.hasValue then
            match rest with
            | [] => .error .misuse
            | value :: rest =>
                if looksLikeOption value then .error .misuse
                else partsAfter verb (← addPart verb before (.given switch value)) rest
          else partsAfter verb (← addPart verb before (.given switch "")) rest

/-- The parts of a command's arguments. -/
def parts (verb : Verb) (arguments : List String) : Except Refusal (List Part) :=
  (partsAfter verb [] arguments).map List.reverse

/-! ## Commands -/

/-- The options of every command, as data. -/
structure CommonOptions where
  config : Option String
  homeDirectory : Option String
  sharedLibDirectories : Option (List String)
  localRoot : Option String
  logLevel : Option String
  logFormat : Option LogFormat
deriving DecidableEq, Repr

/-- What `stage` was told. -/
structure StageOptions where
  applicationId : Option String
  replication : Option UInt16
  resourcesDirectory : Option String
  distBundle : Option String
  out : Option String
  inputs : List String
deriving DecidableEq, Repr

/-- A command and its options. -/
inductive Command where
  | stage (common : CommonOptions) (options : StageOptions)
  | sharedLibs (common : CommonOptions) (asJson : Bool)
  | config (common : CommonOptions)
deriving DecidableEq, Repr

/-- The directories of shared libraries, if any were given. -/
def sharedLibDirectories (parts : List Part) : Option (List String) :=
  match valuesOf parts .sharedLibDirectory with
  | [] => none
  | values => some (values.flatMap (split ','))

/-- The options of every command. -/
def commonOptions (parts : List Part) : CommonOptions where
  config := valueOf? parts .config
  homeDirectory := valueOf? parts .homeDirectory
  sharedLibDirectories := sharedLibDirectories parts
  localRoot := valueOf? parts .localRoot
  logLevel := valueOf? parts .logLevel
  logFormat := (valueOf? parts .logFormat).bind logFormat?

/-- What `stage` was told. -/
def stageOptions (parts : List Part) : StageOptions where
  applicationId := valueOf? parts .applicationId
  replication := (valueOf? parts .replication).bind factor?
  resourcesDirectory := valueOf? parts .resourcesDirectory
  distBundle := valueOf? parts .distBundle
  out := valueOf? parts .out
  inputs := inputsOf parts

/-- The command of its parts. -/
def ofParts (verb : Verb) (parts : List Part) : Command :=
  match verb with
  | .stage => .stage (commonOptions parts) (stageOptions parts)
  | .sharedLibs => .sharedLibs (commonOptions parts) (valueOf? parts .json).isSome
  | .config => .config (commonOptions parts)

/-- What comes of asking for help on a command; `help` is one too. -/
def helpOn : List String → Refusal
  | [] => .help
  | [topic] => if topic = "help" ∨ Verb.all.any (·.name == topic) then .help else .misuse
  | _ => .misuse

/-- What comes of a first argument that names no command. -/
def withoutCommand (first : String) (rest : List String) : Refusal :=
  if first = "help" then helpOn rest
  else if first = "--help" ∨ startsWith first "-h" then .help
  else if first = "--version" ∨ startsWith first "-V" then .version
  else .misuse

/-- The command that arguments ask for. -/
def parse : List String → Except Refusal Command
  | [] => .error .misuse
  | first :: rest =>
      match Verb.all.find? (·.name == first) with
      | some verb => do .ok (ofParts verb (← parts verb rest))
      | none => .error (withoutCommand first rest)

end ArtifactStaging.CommandLine
