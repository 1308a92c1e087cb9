import WireScript.Kind.Parser
import WireScript.Storage.FileError
import WireScript.Storage.Path
import WireScript.Text.Quoted

/-! # Faults

Every cause for which the generator stops. A cause holds what it is about; its
wording is in `message` alone. Faults of the file system are apart from all
others, which blame the configuration, the templates or the schema.
-/

namespace WireScript

/-- The formats configuration and schema files are written in. -/
inductive Format where
  | json
  | toml
  deriving DecidableEq

/-- Why a configuration, a schema or a table of strategies is refused. -/
inductive ConfigIssue where
  | outputNameNotDedicated (name : String)
  | outputNameNotSegment (name : String)
  | nestingLimitZero
  | bucketSizeZero
  | invalidBucketSize (text : String)
  | unknownGrouping (text : String)
  | messageNotIdentifier (message : String)
  | messageReserved (message : String)
  | fieldNotIdentifier (message field : String)
  | fieldReserved (message field : String)
  | duplicateField (message field : String)
  | strategyMismatch (strategy : String) (kind : Kind)
  | unreadable (format : Format)
  | described (text : String)

/-- Why a type expression is refused, and where it stands. -/
inductive KindIssue where
  | inText (issue : TypeIssue) (text : String)
  | ofField (message field : String) (issue : KindIssue)
  | described (text : String)

/-- A cause for which the generator stops. -/
inductive Fault where
  | unsupportedKind (tag : Tag)
  | placeholderMismatch (template : String) (expected actual : Nat)
  | duplicateId (id : ProtocolId) (first second : String)
  | duplicateName (name : String)
  | idOutOfRange (id : ProtocolId)
  | unknownNested (message field : String) (id : ProtocolId)
  | pathCollision (path : String)
  | nestingTooDeep (field : String) (limit : Nat)
  | invalidKind (issue : KindIssue)
  | config (issue : ConfigIssue)
  | notInitialized
  | templateLoad (path : Path) (error : FileError)
  | io (path : Path) (error : FileError)

/-- The largest number of a message: numbers travel as signed shorts. -/
def maxProtocolId : ProtocolId := 32767

/-- What a configuration issue says. The report of an unreadable file goes no
further than its first words. -/
def ConfigIssue.message : ConfigIssue → String
  | .outputNameNotDedicated name =>
      "output_dir_name '" ++ name ++ "' must name a dedicated directory"
  | .outputNameNotSegment name =>
      "output_dir_name '" ++ name ++ "' must be a single path segment"
  | .nestingLimitZero => "max_nesting_depth must be greater than zero"
  | .bucketSizeZero => "grouping bucket size must be greater than zero"
  | .invalidBucketSize text => "invalid bucket size in '" ++ text ++ "'"
  | .unknownGrouping text =>
      "unknown grouping policy '" ++ text ++ "' (expected 'flat' or 'bucket:N')"
  | .messageNotIdentifier message =>
      "message name '" ++ message ++ "' is not a valid identifier"
  | .messageReserved message =>
      "message name '" ++ message ++ "' is reserved in generated code"
  | .fieldNotIdentifier message field =>
      "field name '" ++ message ++ "." ++ field ++ "' is not a valid identifier"
  | .fieldReserved message field =>
      "field name '" ++ message ++ "." ++ field ++ "' is reserved in generated code"
  | .duplicateField message field =>
      "duplicate field '" ++ field ++ "' in message " ++ message
  | .strategyMismatch strategy kind =>
      strategy ++ " strategy cannot emit value kind " ++ kind.text
  | .unreadable .json => "JSON parse error"
  | .unreadable .toml => "TOML parse error"
  | .described text => text

/-- What a kind issue says. -/
def KindIssue.message : KindIssue → String
  | .inText issue text => issue.reason ++ " in '" ++ text ++ "'"
  | .ofField message field issue =>
      message ++ "." ++ field ++ ": invalid value kind: " ++ issue.message
  | .described text => text

namespace Fault

/-- What a fault says. -/
def message : Fault → String
  | .unsupportedKind tag =>
      "no emission strategy registered for value kind: " ++ tag.name
  | .placeholderMismatch template expected actual =>
      "template " ++ template ++ " has " ++ Text.decimal expected ++
        " placeholder(s) but " ++ Text.decimal actual ++ " argument(s) were supplied"
  | .duplicateId id first second =>
      "duplicate protocol id " ++ Text.decimal id.toNat ++ ": declared by " ++ first ++
        " and " ++ second
  | .duplicateName name => "duplicate message name: " ++ name
  | .idOutOfRange id =>
      "protocol id " ++ Text.decimal id.toNat ++ " is out of range (maximum " ++
        Text.decimal maxProtocolId.toNat ++ ")"
  | .unknownNested message field id =>
      "field " ++ message ++ "." ++ field ++ " references unknown protocol id " ++
        Text.decimal id.toNat
  | .pathCollision path => "output path collision: " ++ path
  | .nestingTooDeep field limit =>
      "field " ++ field ++ " nests composite kinds deeper than " ++ Text.decimal limit ++
        " levels"
  | .invalidKind issue => "invalid value kind: " ++ issue.message
  | .config issue => "configuration error: " ++ issue.message
  | .notInitialized => "generation run is not initialized"
  | .templateLoad path error =>
      "failed to load template " ++ Text.quoted path.text ++ ": " ++ error.message
  | .io path error => "I/O error at " ++ Text.quoted path.text ++ ": " ++ error.message

/-- The file error behind a fault of the file system. -/
def fileError? : Fault → Option FileError
  | .templateLoad _ error => some error
  | .io _ error => some error
  | _ => none

/-- Whether reading a template or a file operation failed. -/
def isIo (fault : Fault) : Bool := fault.fileError?.isSome

/-- Whether the configuration, the templates or the schema are to blame. -/
def isConfiguration (fault : Fault) : Bool := !fault.isIo

end Fault

end WireScript
