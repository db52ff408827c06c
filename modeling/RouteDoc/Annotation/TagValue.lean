import RouteDoc.Annotation.Fault
import RouteDoc.Text.Split

/-!
# Values of tags

A tag is given a single text, the fields of one group, or several groups of fields.  Each keyword
asks for one of these readings of the value:

* `TagValue.single`: one text; the fields of a group are joined by blanks.
* `TagValue.lines`: the lines of a text, or the fields of one group.
* `TagValue.groups`: groups of fields; a text is a group of one field.
-/

namespace RouteDoc

inductive TagValue where
  | text (value : String)
  | fields (values : List String)
  | groups (values : List (List String))
  deriving DecidableEq, Inhabited

namespace TagValue

def single : TagValue → Except FieldFault String
  | .text s => .ok s
  | .fields fs => .ok (Text.joinWith " " fs)
  | .groups _ => .error .notOneValue

def lines : TagValue → Except FieldFault (List String)
  | .text s => .ok (Text.splitLines s)
  | .fields fs => .ok fs
  | .groups _ => .error .notOneGroup

def toGroups : TagValue → List (List String)
  | .text s => [[s]]
  | .fields fs => [fs]
  | .groups gs => gs

end TagValue

end RouteDoc
