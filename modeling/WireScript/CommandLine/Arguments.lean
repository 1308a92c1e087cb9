/-! # Arguments

What the command line asks for. Options are given once, as `--name value`,
`--name=value`, `-n value`, `-nvalue` or `-n=value`; flags of one letter may be
combined. A separate value does not start with a dash, unless it is one alone.
-/

namespace WireScript.CommandLine

/-- The options of `generate`. -/
structure GenerateOptions where
  schema : String
  output : Option String
  config : Option String
  grouping : Option String
  templates : Option String

/-- What the arguments ask for. -/
inductive Request where
  | generate (options : GenerateOptions)
  | check (schema : String)
  | help
  | version
  | invalid

/-- An option that takes a value: its letter and its name. -/
structure OptionName where
  letter : Char
  name : String

/-- The options given so far: values by letter, and the flag for more output. -/
structure Given where
  values : List (Char × String)
  verbose : Bool

namespace Given

/-- No options. -/
def none : Given := ⟨[], false⟩

/-- Set the flag for more output, once. -/
def flag? (given : Given) : Option Given :=
  if given.verbose then .none else some { given with verbose := true }

/-- Give an option its value, once. -/
def value? (given : Given) (letter : Char) (value : String) : Option Given :=
  if (given.values.lookup letter).isSome then .none
  else some { given with values := given.values ++ [(letter, value)] }

end Given

/-- What reading options comes to. -/
inductive Parsed where
  | given (options : Given)
  | help
  | invalid

/-- Whether an argument can be the value of the option before it. -/
def isValue (argument : String) : Bool :=
  match argument.toList with
  | '-' :: _ :: _ => false
  | _ => true

/-- What an argument of letters after one dash leaves open: nothing, or an option
whose value is the next argument. -/
inductive Cluster where
  | complete (given : Given)
  | pending (given : Given) (letter : Char)
  | help
  | invalid

/-- The value attached to an option of one letter. -/
def attached : List Char → String
  | '=' :: value => String.ofList value
  | value => String.ofList value

/-- Read letters after one dash. -/
def cluster (names : List OptionName) (given : Given) : List Char → Cluster
  | [] => .complete given
  | letter :: rest =>
      if letter == 'v' then
        match given.flag? with
        | some given => cluster names given rest
        | none => .invalid
      else if letter == 'h' then .help
      else if names.any (fun option => option.letter == letter) then
        if rest.isEmpty then .pending given letter
        else
          match given.value? letter (attached rest) with
          | some given => .complete given
          | none => .invalid
      else .invalid

/-- An argument after two dashes: its name, and the value attached to it. -/
def longParts (text : List Char) : String × Option String :=
  let name := String.ofList (text.takeWhile (· != '='))
  match text.dropWhile (· != '=') with
  | _ :: value => (name, some (String.ofList value))
  | [] => (name, none)

/-- Read the options of a command. Nothing may follow the end of the options. -/
def options (names : List OptionName) (given : Given) : List String → Parsed
  | [] => .given given
  | argument :: rest =>
      match argument.toList with
      | ['-', '-'] => if rest.isEmpty then .given given else .invalid
      | '-' :: '-' :: text =>
          let (name, value?) := longParts text
          if name = "verbose" then
            match value?, given.flag? with
            | none, some given => options names given rest
            | _, _ => .invalid
          else if name = "help" then
            if value?.isSome then .invalid else .help
          else
            match names.find? (fun option => option.name == name), value?, rest with
            | some option, some value, rest =>
                match given.value? option.letter value with
                | some given => options names given rest
                | none => .invalid
            | some option, none, value :: rest =>
                if isValue value then
                  match given.value? option.letter value with
                  | some given => options names given rest
                  | none => .invalid
                else .invalid
            | _, _, _ => .invalid
      | '-' :: letter :: letters =>
          match cluster names given (letter :: letters), rest with
          | .complete given, rest => options names given rest
          | .pending given letter, value :: rest =>
              if isValue value then
                match given.value? letter value with
                | some given => options names given rest
                | none => .invalid
              else .invalid
          | .pending _ _, [] => .invalid
          | .help, _ => .help
          | .invalid, _ => .invalid
      | _ => .invalid

/-- The options of `generate`. -/
def generateNames : List OptionName :=
  [⟨'s', "schema"⟩, ⟨'o', "output"⟩, ⟨'c', "config"⟩, ⟨'g', "grouping"⟩, ⟨'t', "templates"⟩]

/-- The options of `check`. -/
def checkNames : List OptionName := [⟨'s', "schema"⟩]

/-- The request for `generate`, which needs a schema. -/
def generateRequest (given : Given) : Request :=
  match given.values.lookup 's' with
  | some schema => .generate {
      schema := schema
      output := given.values.lookup 'o'
      config := given.values.lookup 'c'
      grouping := given.values.lookup 'g'
      templates := given.values.lookup 't' }
  | none => .invalid

/-- The request for `check`, which needs a schema. -/
def checkRequest (given : Given) : Request :=
  match given.values.lookup 's' with
  | some schema => .check schema
  | none => .invalid

/-- The request of a command with options. -/
def command (names : List OptionName) (request : Given → Request) (arguments : List String) :
    Request :=
  match options names .none arguments with
  | .given given => request given
  | .help => .help
  | .invalid => .invalid

/-- Letters after one dash in front of the command. -/
def leadingLetters (verbose : Bool) : List Char → Except Request Bool
  | [] => .ok verbose
  | 'v' :: rest => if verbose then .error .invalid else leadingLetters true rest
  | 'h' :: _ => .error .help
  | 'V' :: _ => .error .version
  | _ => .error .invalid

/-- The request for help, on one command or on all of them. -/
def helpRequest : List String → Request
  | [] => .help
  | [topic] => if ["generate", "check", "help"].contains topic then .help else .invalid
  | _ => .invalid

/-- Read the arguments, given whether the flag for more output came already. -/
def parseFrom (verbose : Bool) : List String → Request
  | [] => .invalid
  | "generate" :: rest => command generateNames generateRequest rest
  | "check" :: rest => command checkNames checkRequest rest
  | "help" :: topics => helpRequest topics
  | "--help" :: _ => .help
  | "--version" :: _ => .version
  | "--verbose" :: rest => if verbose then .invalid else parseFrom true rest
  | argument :: rest =>
      match argument.toList with
      | '-' :: letter :: letters =>
          match leadingLetters verbose (letter :: letters) with
          | .ok verbose => parseFrom verbose rest
          | .error request => request
      | _ => .invalid

/-- What the arguments ask for. -/
def parse (arguments : List String) : Request := parseFrom false arguments

end WireScript.CommandLine
