import ClusterAgent.Resource
import ClusterAgent.Schema.Record

/-!
Schemas of what storage describes: file states and resources.
-/
namespace ClusterAgent

open Schema

def FileStatus.check : Datum → Checked FileStatus := checkRecord fun entries =>
  FileStatus.mk <$> required entries "path" checkString <*> required entries "length" checkInteger
    <*> required entries "modification_time" checkInteger

instance : Record FileStatus where
  name := "RemoteFileStatus"
  frozen := false
  check := FileStatus.check
  fields s := [("path", .string s.path), ("length", .int s.length),
    ("modification_time", .int s.modified)]

def ResourceVisibility.named : List (String × ResourceVisibility) :=
  [("APPLICATION", .application)]

def ResourceVisibility.name : ResourceVisibility → String
  | application => "APPLICATION"

def ResourceType.named : List (String × ResourceType) := [("FILE", .file)]

def ResourceType.name : ResourceType → String
  | file => "FILE"

def Resource.check : Datum → Checked Resource := checkRecord fun entries =>
  Resource.mk <$> required entries "resource" checkString <*> required entries "size" checkInteger
    <*> required entries "timestamp" checkInteger
    <*> optional entries "visibility" .application (checkNamed ResourceVisibility.named)
    <*> optional entries "type" .file (checkNamed ResourceType.named)

/-- Whether the numbers of a resource are short enough to be written. -/
def Resource.isWritable (r : Resource) : Bool :=
  Text.isWritable r.size && Text.isWritable r.timestamp

instance : Record Resource where
  name := "LocalResourceDescriptor"
  frozen := true
  check := Resource.check
  fields r := [("resource", .string r.uri), ("size", .int r.size), ("timestamp", .int r.timestamp),
    ("visibility", .string r.visibility.name), ("type", .string r.type.name)]

end ClusterAgent
