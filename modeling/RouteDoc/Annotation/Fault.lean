import RouteDoc.Schema.Registry

/-!
# Faults of tags

* `FieldFault`: why the fields of a tag do not follow the grammar of its keyword.
* `TagFault`: why a tag cannot be applied to a route.
* `TagError`: a fault and the keyword of the tag that has it.
-/

namespace RouteDoc

/-- Why the fields of a tag do not follow the grammar of its keyword. -/
inductive FieldFault where
  | unknownMethod (value : String)
  | emptyResource
  /-- The resource does not start with a slash. -/
  | unrootedResource (value : String)
  | missingDefinition
  | missingType (text : String)
  | unbalancedBraces (text : String)
  | missingName
  | invalidName (text : String)
  | tooManyParameterFields
  | tooManyResponseFields
  | invalidResponseCode (text : String)
  | missingExample
  | invalidExampleCode (text : String)
  /-- Several field groups where one value belongs. -/
  | notOneValue
  /-- Several field groups where one belongs. -/
  | notOneGroup
  deriving DecidableEq, Inhabited

def FieldFault.message : FieldFault → String
  | .unknownMethod value => s!"unknown method `{value}`"
  | .emptyResource => "empty resource"
  | .unrootedResource value => s!"resources should be relative and start by a /: `{value}`"
  | .missingDefinition => "missing definition"
  | .missingType text => "missing \x7btype\x7d in `" ++ text ++ "`"
  | .unbalancedBraces text => s!"unbalanced braces in `{text}`"
  | .missingName => "missing parameter name"
  | .invalidName text => s!"invalid parameter name `{text}`"
  | .tooManyParameterFields => "wrong definition, expected \x7btype\x7d, name and description"
  | .tooManyResponseFields => "wrong definition for the response"
  | .invalidResponseCode text => s!"invalid http code `{text}`"
  | .missingExample => "missing definition for the example"
  | .invalidExampleCode text => s!"invalid http code {text} in response"
  | .notOneValue => "wrong kind: a single value is expected"
  | .notOneGroup => "wrong kind: a single field group is expected"

inductive TagFault where
  /-- No tag has this keyword. -/
  | unknownTag
  | fields (fault : FieldFault)
  | type (fault : TypeFault)
  /-- A number has more digits than are read.  The tag is not passed over for it: the assembly of the
  route ends. -/
  | overlongNumber
  deriving DecidableEq, Inhabited

def TagFault.message : TagFault → String
  | .unknownTag => "unknown tag"
  | .fields fault => fault.message
  | .type fault => fault.message
  | .overlongNumber => "a number has too many digits"

structure TagError where
  keyword : String
  fault : TagFault
  deriving DecidableEq, Inhabited

def TagError.message (e : TagError) : String := s!"@{e.keyword}: {e.fault.message}"

end RouteDoc
