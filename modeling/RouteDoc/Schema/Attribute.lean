import RouteDoc.Schema.Hint

/-!
# Attributes of classes and values

* `Builtin.attributes`: the names of the attributes that a class has of its own.
* `Hint.attribute?`: the attribute of a value; missing if there is none.  Only a few are worked out.
-/

namespace RouteDoc

namespace Builtin

def attributes : Builtin → String
  | .bool | .int => "as_integer_ratio bit_count bit_length conjugate denominator from_bytes imag
                     numerator real to_bytes"
  | .float => "as_integer_ratio conjugate fromhex hex imag is_integer real"
  | .complex => "conjugate imag real"
  | .str => "capitalize casefold center count encode endswith expandtabs find format format_map
             index isalnum isalpha isascii isdecimal isdigit isidentifier islower isnumeric
             isprintable isspace istitle isupper join ljust lower lstrip maketrans partition
             removeprefix removesuffix replace rfind rindex rjust rpartition rsplit rstrip split
             splitlines startswith strip swapcase title translate upper zfill"
  | .bytes => "capitalize center count decode endswith expandtabs find fromhex hex index isalnum
               isalpha isascii isdigit islower isspace istitle isupper join ljust lower lstrip
               maketrans partition removeprefix removesuffix replace rfind rindex rjust rpartition
               rsplit rstrip split splitlines startswith strip swapcase title translate upper zfill"
  | .list => "append clear copy count extend index insert pop remove reverse sort"
  | .tuple => "count index"
  | .set => "add clear copy difference difference_update discard intersection intersection_update
             isdisjoint issubset issuperset pop remove symmetric_difference
             symmetric_difference_update union update"
  | .frozenset => "copy difference intersection isdisjoint issubset issuperset symmetric_difference
                   union"
  | .dict => "clear copy fromkeys get items keys pop popitem setdefault update values"
  | .decimal => "adjusted as_integer_ratio as_tuple canonical compare conjugate copy_abs exp
                 from_float imag is_finite is_infinite is_nan is_zero ln log10 max min normalize
                 quantize real sqrt"
  | .datetime => "astimezone combine ctime date day dst fold fromisoformat fromordinal
                  fromtimestamp hour isocalendar isoformat isoweekday max microsecond min minute
                  month now replace resolution second strftime strptime time timestamp timetuple
                  timetz today toordinal tzinfo tzname utcfromtimestamp utcnow utcoffset
                  utctimetuple weekday year"
  | .date => "ctime day fromisocalendar fromisoformat fromordinal fromtimestamp isocalendar
              isoformat isoweekday max min month replace resolution strftime timetuple today
              toordinal weekday year"
  | .time => "dst fold fromisoformat hour isoformat max microsecond min minute replace resolution
              second strftime tzinfo tzname utcoffset"
  | .uuid => "bytes bytes_le clock_seq fields hex int is_safe node time urn variant version"
  | .type => "mro"
  | .nothing | .object => ""
  | .other name =>
    match name with
    | "range" => "count index start step stop"
    | "slice" => "indices start step stop"
    | "property" => "deleter fdel fget fset getter setter"
    | "bytearray" => "append clear copy count decode extend find hex index insert join pop remove
                      reverse split strip"
    | "memoryview" => "cast contiguous format hex itemsize nbytes ndim obj readonly release shape
                       strides tobytes tolist"
    | name => if failures.contains name then "add_note args with_traceback" else ""

/-- The names of attributes that all classes and values have. -/
def commonAttributes : String :=
  "__delattr__ __dir__ __doc__ __eq__ __format__ __ge__ __getattribute__ __getstate__ __gt__
   __hash__ __init__ __init_subclass__ __le__ __lt__ __ne__ __new__ __reduce__ __reduce_ex__
   __repr__ __setattr__ __sizeof__ __str__ __subclasshook__"

def classAttributes : String :=
  "__base__ __basicsize__ __call__ __dict__ __dictoffset__ __flags__ __instancecheck__ __itemsize__
   __or__ __prepare__ __ror__ __subclasscheck__ __subclasses__ __text_signature__ __weakrefoffset__
   mro"

/-- The names of attributes that many collections have. -/
def collectionAttributes : String :=
  "__add__ __class_getitem__ __contains__ __getitem__ __iter__ __len__ __mul__ __and__ __or__"

/-- The classes that make no instance without arguments. -/
def needingArguments : String :=
  "classmethod enumerate filter map memoryview range reversed slice staticmethod"

def isAmong (name names : String) : Bool := (Text.words names).contains name

/-- The module that a class belongs to. -/
def moduleName : Builtin → String
  | .decimal => "decimal"
  | .datetime | .date | .time => "datetime"
  | .uuid => "uuid"
  | _ => "builtins"

end Builtin

namespace Hint

open Builtin (isAmong)

/-- The class of a value, as far as it is one of those that are always there. -/
def builtinOf? : Hint → Option Builtin
  | .text _ => some .str
  | .nothing => some .nothing
  | .truth _ => some .bool
  | .int _ => some .int
  | .float _ => some .float
  | .bytes _ => some .bytes
  | .ellipsis => some (.other "ellipsis")
  | .items .tuple _ => some .tuple
  | .items .list _ => some .list
  | .items .set _ => some .set
  | .items .frozenset _ => some .frozenset
  | .table .. => some .dict
  | .function (some _) => some (.other "builtin_function_or_method")
  | .function none => some (.other "function")
  | .of _ => some .type
  | .generic .. => some (.other "GenericAlias")
  | .union .. => some (.other "UnionType")
  | _ => none

def classAttribute? (b : Builtin) (name : String) : Option Hint :=
  if name = "__name__" ∨ name = "__qualname__" then some (.text b.name)
  else if name = "__module__" then some (.text b.moduleName)
  else if name = "__class__" then some (.of (.builtin .type))
  else if name = "__bases__" ∨ name = "__mro__" then some (.items .tuple [.of (.builtin .object)])
  else if isAmong name b.attributes || isAmong name Builtin.commonAttributes ||
      isAmong name Builtin.classAttributes ||
      (b.takesArguments && isAmong name Builtin.collectionAttributes) then some .opaqueValue
  else none

def attribute? (h : Hint) (name : String) : Except HintFault Hint :=
  let found : Option Hint :=
    match h with
    | .of (.builtin b) => classAttribute? b name
    | .generic b args =>
      if name = "__origin__" then some (.of (.builtin b))
      else if name = "__args__" then some (.items .tuple args)
      else classAttribute? b name
    | .union _ members => if name = "__args__" then some (.items .tuple members) else common none
    | .function (some f) => if name = "__name__" then some (.text f) else common h.builtinOf?
    | .opaqueValue => some .opaqueValue
    | h => common h.builtinOf?
  match found with
  | some a => .ok a
  | none => .error .missingAttribute
where
  /-- An attribute that a value has by its class. -/
  common (class? : Option Builtin) : Option Hint :=
    match class? with
    | some b =>
      if name = "__class__" then some (.of (.builtin b))
      else if isAmong name b.attributes || isAmong name Builtin.commonAttributes then
        some .opaqueValue
      else none
    | none => some .opaqueValue

end Hint

end RouteDoc
