import WireScript.Fault
import WireScript.Text.Blank

/-! # Grouping

Which directory below the output root a message is placed in. The directory
depends on the number of the message alone, so it is the same in every run.
-/

namespace WireScript

/-- A choice of directories. The size of a bucket is positive. -/
inductive Grouping where
  | flat
  | buckets (size : ProtocolId) (positive : size ≠ 0)
  | explicit (paths : List (ProtocolId × String)) (fallback : Grouping)

/-- A choice of directories as a configuration states it. -/
inductive GroupingPolicy where
  | flat
  | bucket (size : ProtocolId)
  deriving DecidableEq

namespace Grouping

/-- The directories of a path text with `/` or `\` between them, joined by `/`.
Empty ones and `.` are left out. -/
def normalize (text : String) : String :=
  let segments := Text.split (fun c => c == '/' || c == '\\') text.toList
  "/".intercalate
    ((segments.filter (fun segment => segment != [] && segment != ['.'])).map String.ofList)

/-- Place one message in a directory of its own choice. A later choice replaces
an earlier one. -/
def withPath (grouping : Grouping) (id : ProtocolId) (path : String) : Grouping :=
  match grouping with
  | .explicit paths fallback => .explicit ((id, normalize path) :: paths) fallback
  | fallback => .explicit [(id, normalize path)] fallback

/-- The first number of the bucket that holds a number. -/
def bucketStart (size id : ProtocolId) : ProtocolId := id / size * size

/-- The directory of a message, empty for the output root itself. -/
def directory : Grouping → ProtocolId → String
  | .flat, _ => ""
  | .buckets size _, id => "p" ++ Text.decimal (bucketStart size id).toNat
  | .explicit paths fallback, id => (paths.lookup id).getD (fallback.directory id)

/-- Buckets of one size. -/
def ofBucketSize (size : ProtocolId) : Except Fault Grouping :=
  if positive : size ≠ 0 then .ok (.buckets size positive)
  else .error (.config .bucketSizeZero)

end Grouping

namespace GroupingPolicy

/-- The grouping a policy stands for. -/
def build : GroupingPolicy → Except Fault Grouping
  | .flat => .ok .flat
  | .bucket size => Grouping.ofBucketSize size

/-- Read `flat`, in any case, or `bucket:N`. Blank characters around the text
and around the number are passed over. -/
def parse (text : String) : Except Fault GroupingPolicy :=
  let trimmed := Text.trim text
  if trimmed.toLower = "flat" then .ok .flat
  else
    let marker := "bucket:".toList
    if marker.isPrefixOf trimmed.toList then
      let size := Text.strip Text.isBlank (trimmed.toList.drop marker.length)
      match Text.readSigned 65535 size with
      | some size => .ok (.bucket (UInt16.ofNat size))
      | none => .error (.config (.invalidBucketSize trimmed))
    else .error (.config (.unknownGrouping trimmed))

end GroupingPolicy

end WireScript
