/-!
# Classes that are always there

* `Builtin`: such a class.  Those that stand for types of the document have constructors of their
  own.
* `Builtin.ofName?`: the class that a name stands for.
* `Builtin.typeExpression`: the type expression for a class.
-/

namespace RouteDoc

inductive Builtin where
  | bool | int | float | str | bytes | decimal | datetime | date | time | uuid | nothing | complex
  | list | tuple | set | frozenset | dict | object | type
  | other (name : String)
  deriving DecidableEq, Inhabited

namespace Builtin

def name : Builtin → String
  | .bool => "bool"
  | .int => "int"
  | .float => "float"
  | .str => "str"
  | .bytes => "bytes"
  | .decimal => "Decimal"
  | .datetime => "datetime"
  | .date => "date"
  | .time => "time"
  | .uuid => "UUID"
  | .nothing => "NoneType"
  | .complex => "complex"
  | .list => "list"
  | .tuple => "tuple"
  | .set => "set"
  | .frozenset => "frozenset"
  | .dict => "dict"
  | .object => "object"
  | .type => "type"
  | .other name => name

def typeExpression : Builtin → String
  | .str | .uuid => "string"
  | .bytes => "file"
  | .decimal => "decimal"
  | .nothing => "nil"
  | .object => "any"
  | .list | .tuple | .set | .frozenset => "[]any"
  | .dict => "map[string]any"
  | b => b.name

/-- The classes that texts can name, apart from failures. -/
def named : List (String × Builtin) :=
  [("bool", .bool), ("int", .int), ("float", .float), ("str", .str), ("bytes", .bytes),
   ("complex", .complex), ("list", .list), ("tuple", .tuple), ("set", .set),
   ("frozenset", .frozenset), ("dict", .dict), ("object", .object), ("type", .type)] ++
  ["bytearray", "classmethod", "enumerate", "filter", "map", "memoryview", "property", "range",
   "reversed", "slice", "staticmethod", "super", "zip"].map fun n => (n, .other n)

/-- The classes of failures and warnings that texts can name. -/
def failures : List String :=
  ["ArithmeticError", "AssertionError", "AttributeError", "BaseException", "BaseExceptionGroup",
   "BlockingIOError", "BrokenPipeError", "BufferError", "BytesWarning", "ChildProcessError",
   "ConnectionAbortedError", "ConnectionError", "ConnectionRefusedError", "ConnectionResetError",
   "DeprecationWarning", "EOFError", "EncodingWarning", "Exception", "ExceptionGroup",
   "FileExistsError", "FileNotFoundError", "FloatingPointError", "FutureWarning", "GeneratorExit",
   "ImportError", "ImportWarning", "IndentationError", "IndexError", "InterruptedError",
   "IsADirectoryError", "KeyError", "KeyboardInterrupt", "LookupError", "MemoryError",
   "ModuleNotFoundError", "NameError", "NotADirectoryError", "NotImplementedError", "OSError",
   "OverflowError", "PendingDeprecationWarning", "PermissionError", "ProcessLookupError",
   "RecursionError", "ReferenceError", "ResourceWarning", "RuntimeError", "RuntimeWarning",
   "StopAsyncIteration", "StopIteration", "SyntaxError", "SyntaxWarning", "SystemError",
   "SystemExit", "TabError", "TimeoutError", "TypeError", "UnboundLocalError",
   "UnicodeDecodeError", "UnicodeEncodeError", "UnicodeError", "UnicodeTranslateError",
   "UnicodeWarning", "UserWarning", "ValueError", "Warning", "ZeroDivisionError"]

def ofName? (s : String) : Option Builtin :=
  match named.lookup s with
  | some b => some b
  | none =>
    if failures.contains s then some (.other s)
    else if s = "EnvironmentError" ∨ s = "IOError" then some (.other "OSError")
    else none

def takesArguments : Builtin → Bool
  | .list | .tuple | .set | .frozenset | .dict | .type => true
  | .other n => ["enumerate", "BaseExceptionGroup", "ExceptionGroup"].contains n
  | _ => false

/-- Whether a class with arguments goes over items of one sort. -/
def isSequence : Builtin → Bool
  | .list | .tuple | .set | .frozenset => true
  | .other n => n == "enumerate"
  | _ => false

end Builtin

end RouteDoc
