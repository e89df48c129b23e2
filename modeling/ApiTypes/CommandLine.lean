/-!
# Command lines

A command line gives switches, parameters with their values, and the path of the document as the
only argument without a name. A value may follow its parameter, be joined to it by `=`, or, with
a short name, directly. Short names may be written together. After `--` no argument is a name.

Each parameter is given once. That its value is missing, empty or given again is noticed when the
next parameter or switch begins, or at the end.

## Main definitions

* `CommandLine` — what a command line gives
* `CommandLine.parse` — reads arguments
* `CommandLine.Stop` — why there is nothing to do: help or the version is asked for, or an
  argument is wrong
-/

namespace ApiTypes

/-- A switch. -/
inductive CommandLine.Switch where
  | verbose
  | help
  | version
deriving DecidableEq, Repr

/-- A parameter: the unnamed argument, or a named one with a value. -/
inductive CommandLine.Parameter where
  | unnamed
  | input
  | config
  | output
  | nameFormat
deriving DecidableEq, Repr

namespace CommandLine

/-- How messages refer to a switch. -/
def Switch.text : Switch → String
  | verbose => "--verbose"
  | help => "--help"
  | version => "--version"

/-- How messages refer to a parameter. -/
def Parameter.text : Parameter → String
  | unnamed => "[INPUT]"
  | input => "--input <INPUT>"
  | config => "--config <CONFIG>"
  | output => "--output <OUTPUT>"
  | nameFormat => "--type-name-format <FORMAT>"

/-- Whether the value of a parameter may be empty. Paths may not. -/
def Parameter.admitsEmpty (parameter : Parameter) : Bool :=
  parameter == nameFormat

/-- What is wrong with a command line. -/
inductive Error where
  | unknown (argument : String)
  | repeated (name : String)
  | conflicting (first second : Parameter)
  | missingValue (parameter : Parameter)
  | surplusValue (switch : Switch) (value : String)
  | missingInput
deriving DecidableEq, Repr

/-- The error in words. -/
def Error.message : Error → String
  | unknown argument => "unexpected argument '" ++ argument ++ "' found"
  | repeated name => "the argument '" ++ name ++ "' cannot be used multiple times"
  | conflicting first second =>
    "the argument '" ++ first.text ++ "' cannot be used with '" ++ second.text ++ "'"
  | missingValue parameter =>
    "a value is required for '" ++ parameter.text ++ "' but none was supplied"
  | surplusValue switch value =>
    "unexpected value '" ++ value ++ "' for '" ++ switch.text ++
      "' found; no more were expected"
  | missingInput =>
    "an OpenAPI document is required; pass `<INPUT>` or set `input` in the config file"

/-- Why there is nothing to do. -/
inductive Stop where
  | help
  | version
  | error (error : Error)
deriving DecidableEq, Repr

/-- What a name refers to. -/
inductive Name where
  | switch (switch : Switch)
  | parameter (parameter : Parameter)
deriving DecidableEq, Repr

/-- What a long name refers to. -/
def Name.ofLong? : String → Option Name
  | "verbose" => some (.switch .verbose)
  | "help" => some (.switch .help)
  | "version" => some (.switch .version)
  | "input" => some (.parameter .input)
  | "config" => some (.parameter .config)
  | "output" => some (.parameter .output)
  | "type-name-format" => some (.parameter .nameFormat)
  | _ => none

/-- What a short name refers to. -/
def Name.ofShort? : Char → Option Name
  | 'v' => some (.switch .verbose)
  | 'h' => some (.switch .help)
  | 'V' => some (.switch .version)
  | 'c' => some (.parameter .config)
  | 'o' => some (.parameter .output)
  | _ => none

/-- The arguments read so far: parameters with their values in order, whether notices are to be
verbose, a parameter that is not entered yet, with its value if that has been read, and whether
all further arguments are unnamed. -/
structure Progress where
  given : List (Parameter × String) := []
  isVerbose : Bool := false
  pending : Option (Parameter × Option String) := none
  onlyUnnamed : Bool := false
deriving Repr

namespace Progress

/-- Whether the unnamed argument has been read. -/
def hasUnnamed (p : Progress) : Bool :=
  p.given.any (·.1 == .unnamed) || p.pending.any (·.1 == .unnamed)

/-- Enters the value of a parameter. -/
def enter (p : Progress) (parameter : Parameter) (value : String) : Except Stop Progress :=
  if p.given.any (·.1 == parameter) then .error (.error (.repeated parameter.text))
  else if value = "" ∧ ¬ parameter.admitsEmpty then .error (.error (.missingValue parameter))
  else .ok { p with given := p.given ++ [(parameter, value)] }

/-- Enters the parameter that is not entered yet. -/
def settle (p : Progress) : Except Stop Progress :=
  match p.pending with
  | none => .ok p
  | some (parameter, none) => .error (.error (.missingValue parameter))
  | some (parameter, some value) => { p with pending := none }.enter parameter value

/-- Throws a switch. -/
def throwSwitch (p : Progress) (switch : Switch) : Except Stop Progress := do
  let p ← p.settle
  match switch with
  | .help => throw .help
  | .version => throw .version
  | .verbose =>
    if p.isVerbose then throw (.error (.repeated switch.text))
    else return { p with isVerbose := true }

/-- Begins a parameter, whose value may be joined to it. -/
def begin (p : Progress) (parameter : Parameter) (joined : Option String) :
    Except Stop Progress := do
  let p ← p.settle
  match joined with
  | some value => p.enter parameter value
  | none => return { p with pending := some (parameter, none) }

/-- Reads a long name, given what follows its two dashes. -/
def long (p : Progress) (text : List Char) : Except Stop Progress :=
  let name := String.ofList (text.takeWhile (· != '='))
  let joined := match text.dropWhile (· != '=') with
    | _ :: value => some (String.ofList value)
    | [] => none
  match Name.ofLong? name, joined with
  | some (.parameter parameter), joined => p.begin parameter joined
  | some (.switch switch), none => p.throwSwitch switch
  | some (.switch switch), some value => .error (.error (.surplusValue switch value))
  | none, _ => .error (.error (.unknown ("--" ++ name)))

/-- Reads short names. The first parameter among them takes what follows as its value. -/
def short (p : Progress) : List Char → Except Stop Progress
  | [] => .ok p
  | c :: rest =>
    match Name.ofShort? c with
    | some (.switch switch) => do short (← p.throwSwitch switch) rest
    | some (.parameter parameter) =>
      match rest with
      | [] => p.begin parameter none
      | '=' :: value => p.begin parameter (some (String.ofList value))
      | value => p.begin parameter (some (String.ofList value))
    | none => .error (.error (.unknown (String.ofList ['-', c])))

/-- Reads an argument without a name. -/
def unnamed (p : Progress) (argument : String) : Except Stop Progress :=
  if p.hasUnnamed then .error (.error (.unknown argument))
  else do return { ← p.settle with pending := some (.unnamed, some argument) }

/-- Reads an argument that is no name: the value of the parameter that waits for one, or the
unnamed argument. -/
def plain (p : Progress) (argument : String) : Except Stop Progress :=
  match p.pending with
  | some (parameter, none) => .ok { p with pending := some (parameter, some argument) }
  | _ => p.unnamed argument

/-- Reads an argument. -/
def read (p : Progress) (argument : String) : Except Stop Progress :=
  if p.onlyUnnamed then p.unnamed argument
  else
    match argument.toList with
    | ['-', '-'] => .ok { p with onlyUnnamed := true }
    | '-' :: '-' :: name => p.long name
    | '-' :: c :: rest => p.short (c :: rest)
    | _ => p.plain argument

end Progress

end CommandLine

/-- What a command line gives. -/
structure CommandLine where
  isVerbose : Bool
  input : Option String
  config : Option String
  output : Option String
  nameFormat : Option String
deriving DecidableEq, Repr

namespace CommandLine

/-- The two parameters for the document exclude each other; the one that is given first is named
first. -/
def conflict? (given : List (Parameter × String)) : Option Error :=
  match (given.map (·.1)).filter fun p => p == .unnamed || p == .input with
  | first :: second :: _ => some (.conflicting first second)
  | _ => none

/-- The value that was given for a parameter. -/
def valueOf? (given : List (Parameter × String)) (parameter : Parameter) : Option String :=
  given.lookup parameter

/-- Reads arguments. -/
def parse (arguments : List String) : Except Stop CommandLine := do
  let p ← arguments.foldlM Progress.read {}
  let p ← p.settle
  match conflict? p.given with
  | some e => throw (.error e)
  | none =>
    return {
      isVerbose := p.isVerbose
      input := (valueOf? p.given .unnamed).or (valueOf? p.given .input)
      config := valueOf? p.given .config
      output := valueOf? p.given .output
      nameFormat := valueOf? p.given .nameFormat }

/-- The text that is shown for help. -/
def helpText : String :=
  "Generates TypeScript type declarations from OpenAPI schemas and operation bodies\n\n" ++
  "Usage: openapi-ts-types [OPTIONS] [INPUT]\n\n" ++
  "Arguments:\n" ++
  "  [INPUT]  The path to the OpenAPI document (`.yaml` or `.json`). " ++
    "Defaults to the config file's `input`\n\n" ++
  "Options:\n" ++
  "  -v, --verbose                    Enable verbose logging\n" ++
  "      --input <INPUT>              Same as `<INPUT>`\n" ++
  "  -c, --config <CONFIG>            A YAML or TOML config file\n" ++
  "  -o, --output <OUTPUT>            The TypeScript file to write. " ++
    "Defaults to the config file's `output`, or `openapi-typescript-types.ts`\n" ++
  "      --type-name-format <FORMAT>  A template for declaration names, like `Api\x7bname\x7d`\n" ++
  "  -h, --help                       Print help\n" ++
  "  -V, --version                    Print version\n"

/-- The text that is shown for the version. -/
def versionText : String := "openapi-ts-types 0.1.0\n"

end CommandLine

end ApiTypes
