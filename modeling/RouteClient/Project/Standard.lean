import RouteClient.Text.Split

namespace RouteClient.Project

/-- A class that no project declares, by its module and name. -/
structure StandardClass where
  moduleName : String
  name : String
deriving Repr, BEq, DecidableEq

inductive Metaclass where
  | plain
  | abstract
  | protocol
  | model
  | enumeration
  | any
  | typedDict
deriving Repr, BEq, DecidableEq

end RouteClient.Project

namespace RouteClient.Project.Metaclass

def isBelow : Metaclass → Metaclass → Bool
  | _, plain => true
  | protocol, abstract | model, abstract => true
  | a, b => a == b

def name : Metaclass → String
  | plain => "type"
  | abstract => "ABCMeta"
  | protocol => "_ProtocolMeta"
  | model => "ModelMetaclass"
  | enumeration => "EnumType"
  | any => "_AnyMeta"
  | typedDict => "_TypedDictMeta"

def isAbstract (m : Metaclass) : Bool := m.isBelow abstract

def least : List Metaclass → Option Metaclass
  | [] => some plain
  | m :: rest => do
    let n ← least rest
    if m.isBelow n then some m else if n.isBelow m then some n else none

end RouteClient.Project.Metaclass

namespace RouteClient.Project.StandardClass

def object : StandardClass := ⟨"builtins", "object"⟩
def noneType : StandardClass := ⟨"builtins", "NoneType"⟩
def type : StandardClass := ⟨"builtins", "type"⟩
def list : StandardClass := ⟨"builtins", "list"⟩
def tuple : StandardClass := ⟨"builtins", "tuple"⟩
def dict : StandardClass := ⟨"builtins", "dict"⟩
def any : StandardClass := ⟨"typing", "Any"⟩
def annotated : StandardClass := ⟨"typing", "Annotated"⟩
def generic : StandardClass := ⟨"typing", "Generic"⟩
def protocol : StandardClass := ⟨"typing", "Protocol"⟩
def typeVar : StandardClass := ⟨"typing", "TypeVar"⟩
def newType : StandardClass := ⟨"typing", "NewType"⟩
def unionType : StandardClass := ⟨"types", "UnionType"⟩
def initVar : StandardClass := ⟨"dataclasses", "InitVar"⟩
def abc : StandardClass := ⟨"abc", "ABC"⟩
def abcMeta : StandardClass := ⟨"abc", "ABCMeta"⟩
def enum : StandardClass := ⟨"enum", "Enum"⟩
def uuid : StandardClass := ⟨"uuid", "UUID"⟩
def baseModel : StandardClass := ⟨"pydantic.main", "BaseModel"⟩
def routeHandler : StandardClass := ⟨"routegen.framework.handler", "RouteHandler"⟩
def apiResponse : StandardClass := ⟨"routegen.framework.response", "ApiResponse"⟩

def unannotated : StandardClass := ⟨"inspect", "_empty"⟩

def id (c : StandardClass) : String := c.moduleName ++ "." ++ c.name

/-- The exceptions below each base, nearest bases first. -/
def exceptionFamilies : List (String × List String) :=
  [("BaseException", ["Exception", "SystemExit", "KeyboardInterrupt", "GeneratorExit"]),
    ("Exception", ["ArithmeticError", "AssertionError", "AttributeError", "BufferError", "EOFError",
      "ImportError", "LookupError", "MemoryError", "NameError", "OSError", "ReferenceError",
      "RuntimeError", "StopAsyncIteration", "StopIteration", "SyntaxError", "SystemError",
      "TypeError", "ValueError", "Warning"]),
    ("ArithmeticError", ["FloatingPointError", "OverflowError", "ZeroDivisionError"]),
    ("ImportError", ["ModuleNotFoundError"]),
    ("LookupError", ["IndexError", "KeyError"]),
    ("NameError", ["UnboundLocalError"]),
    ("OSError", ["BlockingIOError", "ChildProcessError", "ConnectionError", "FileExistsError",
      "FileNotFoundError", "InterruptedError", "IsADirectoryError", "NotADirectoryError",
      "PermissionError", "ProcessLookupError", "TimeoutError"]),
    ("RuntimeError", ["NotImplementedError", "RecursionError"]),
    ("SyntaxError", ["IndentationError"]),
    ("IndentationError", ["TabError"]),
    ("ValueError", ["UnicodeError"]),
    ("UnicodeError", ["UnicodeDecodeError", "UnicodeEncodeError", "UnicodeTranslateError"]),
    ("Warning", ["BytesWarning", "DeprecationWarning", "FutureWarning", "ImportWarning",
      "PendingDeprecationWarning", "ResourceWarning", "RuntimeWarning", "SyntaxWarning",
      "UnicodeWarning", "UserWarning"])]

def exceptionNames : List String := "BaseException" :: exceptionFamilies.flatMap (·.2)

def exceptionChain : Nat → String → List String
  | 0, name => [name]
  | depth + 1, name =>
    match exceptionFamilies.find? (·.2.contains name) with
    | some (base, _) => name :: exceptionChain depth base
    | none => [name]

def aboves : List (StandardClass × List StandardClass) :=
  let integral : StandardClass := ⟨"builtins", "int"⟩
  let string : StandardClass := ⟨"builtins", "str"⟩
  let plainEnum : StandardClass := ⟨"enum", "ReprEnum"⟩
  [(object, []),
    (⟨"builtins", "bool"⟩, [integral, object]),
    (⟨"datetime", "datetime"⟩, [⟨"datetime", "date"⟩, object]),
    (⟨"collections", "OrderedDict"⟩, [dict, object]),
    (⟨"collections", "defaultdict"⟩, [dict, object]),
    (⟨"collections", "Counter"⟩, [dict, object]),
    (⟨"enum", "IntEnum"⟩, [integral, plainEnum, enum, object]),
    (⟨"enum", "StrEnum"⟩, [string, plainEnum, enum, object]),
    (plainEnum, [enum, object]),
    (⟨"enum", "Flag"⟩, [enum, object]),
    (⟨"enum", "IntFlag"⟩, [integral, plainEnum, ⟨"enum", "Flag"⟩, enum, object]),
    (protocol, [generic, object]),
    (abcMeta, [type, object]),
    (apiResponse, [baseModel, object])]

def above (c : StandardClass) : List StandardClass :=
  match aboves.lookup c with
  | some classes => classes
  | none =>
    if c.moduleName == "builtins" && exceptionNames.contains c.name then
      ((exceptionChain 6 c.name).drop 1).map (StandardClass.mk "builtins") ++ [object]
    else [object]

def isEnum (c : StandardClass) : Bool := c == enum || c.above.contains enum

def metaclass (c : StandardClass) : Metaclass :=
  if c == protocol then .protocol
  else if c == baseModel || c == apiResponse then .model
  else if c == any then .any
  else if c == abc || c.moduleName == "collections.abc" then .abstract
  else if c.isEnum then .enumeration
  else .plain

def layout? (c : StandardClass) : Option StandardClass :=
  let solid := fun (d : StandardClass) ↦
    d.moduleName == "builtins" && (["int", "str", "float", "complex", "bytes", "bytearray", "list",
      "dict", "tuple", "set", "frozenset", "type", "property", "super", "BaseException",
      "ImportError", "OSError", "StopIteration", "SyntaxError", "SystemExit", "UnicodeDecodeError",
      "UnicodeEncodeError", "NameError", "AttributeError"].contains d.name) ||
    [⟨"datetime", "date"⟩, ⟨"datetime", "datetime"⟩, ⟨"collections", "deque"⟩,
      ⟨"collections", "OrderedDict"⟩, ⟨"collections", "defaultdict"⟩].contains d
  (c :: c.above).find? solid

def isFinal (c : StandardClass) : Bool :=
  [⟨"builtins", "bool"⟩, ⟨"builtins", "range"⟩, ⟨"builtins", "slice"⟩, ⟨"builtins", "memoryview"⟩,
    noneType, unionType, typeVar].contains c

end RouteClient.Project.StandardClass

namespace RouteClient.Project.Standard

def topNames : List String :=
  ["__future__", "_abc", "_aix_support", "_ast", "_asyncio", "_bisect", "_blake2",
    "_bootsubprocess", "_bz2", "_codecs", "_codecs_cn", "_codecs_hk", "_codecs_iso2022",
    "_codecs_jp", "_codecs_kr", "_codecs_tw", "_collections", "_collections_abc", "_compat_pickle",
    "_compression", "_contextvars", "_crypt", "_csv", "_ctypes", "_curses", "_curses_panel",
    "_datetime", "_dbm", "_decimal", "_elementtree", "_frozen_importlib",
    "_frozen_importlib_external", "_functools", "_gdbm", "_hashlib", "_heapq", "_imp", "_io",
    "_json", "_locale", "_lsprof", "_lzma", "_markupbase", "_md5", "_msi", "_multibytecodec",
    "_multiprocessing", "_opcode", "_operator", "_osx_support", "_overlapped", "_pickle",
    "_posixshmem", "_posixsubprocess", "_py_abc", "_pydecimal", "_pyio", "_queue", "_random",
    "_scproxy", "_sha1", "_sha256", "_sha3", "_sha512", "_signal", "_sitebuiltins", "_socket",
    "_sqlite3", "_sre", "_ssl", "_stat", "_statistics", "_string", "_strptime", "_struct",
    "_symtable", "_thread", "_threading_local", "_tkinter", "_tokenize", "_tracemalloc", "_typing",
    "_uuid", "_warnings", "_weakref", "_weakrefset", "_winapi", "_zoneinfo", "abc", "aifc",
    "antigravity", "argparse", "array", "ast", "asynchat", "asyncio", "asyncore", "atexit",
    "audioop", "base64", "bdb", "binascii", "bisect", "builtins", "bz2", "cProfile", "calendar",
    "cgi", "cgitb", "chunk", "cmath", "cmd", "code", "codecs", "codeop", "collections", "colorsys",
    "compileall", "concurrent", "configparser", "contextlib", "contextvars", "copy", "copyreg",
    "crypt", "csv", "ctypes", "curses", "dataclasses", "datetime", "dbm", "decimal", "difflib",
    "dis", "distutils", "doctest", "email", "encodings", "ensurepip", "enum", "errno",
    "faulthandler", "fcntl", "filecmp", "fileinput", "fnmatch", "fractions", "ftplib", "functools",
    "gc", "genericpath", "getopt", "getpass", "gettext", "glob", "graphlib", "grp", "gzip",
    "hashlib", "heapq", "hmac", "html", "http", "idlelib", "imaplib", "imghdr", "imp", "importlib",
    "inspect", "io", "ipaddress", "itertools", "json", "keyword", "lib2to3", "linecache", "locale",
    "logging", "lzma", "mailbox", "mailcap", "marshal", "math", "mimetypes", "mmap", "modulefinder",
    "msilib", "msvcrt", "multiprocessing", "netrc", "nis", "nntplib", "nt", "ntpath", "nturl2path",
    "numbers", "opcode", "operator", "optparse", "os", "ossaudiodev", "pathlib", "pdb", "pickle",
    "pickletools", "pipes", "pkgutil", "platform", "plistlib", "poplib", "posix", "posixpath",
    "pprint", "profile", "pstats", "pty", "pwd", "py_compile", "pyclbr", "pydoc", "pydoc_data",
    "pyexpat", "queue", "quopri", "random", "re", "readline", "reprlib", "resource", "rlcompleter",
    "runpy", "sched", "secrets", "select", "selectors", "shelve", "shlex", "shutil", "signal",
    "site", "smtpd", "smtplib", "sndhdr", "socket", "socketserver", "spwd", "sqlite3",
    "sre_compile", "sre_constants", "sre_parse", "ssl", "stat", "statistics", "string",
    "stringprep", "struct", "subprocess", "sunau", "symtable", "sys", "sysconfig", "syslog",
    "tabnanny", "tarfile", "telnetlib", "tempfile", "termios", "textwrap", "this", "threading",
    "time", "timeit", "tkinter", "token", "tokenize", "tomllib", "trace", "traceback",
    "tracemalloc", "tty", "turtle", "turtledemo", "types", "typing", "unicodedata", "unittest",
    "urllib", "uu", "uuid", "venv", "warnings", "wave", "weakref", "webbrowser", "winreg",
    "winsound", "wsgiref", "xdrlib", "xml", "xmlrpc", "zipapp", "zipfile", "zipimport", "zlib",
    "zoneinfo"]

def isStandardModule (moduleName : String) : Bool :=
  topNames.contains ((Text.Split.splitOn '.' moduleName).headD "")

def builtinClasses : List String :=
  ["int", "str", "float", "bool", "bytes", "bytearray", "complex", "list", "dict", "tuple", "set",
    "frozenset", "object", "type", "range", "slice", "memoryview", "property", "staticmethod",
    "classmethod", "super", "enumerate", "zip", "map", "filter", "reversed"]

def builtinFunctions : List String :=
  ["abs", "all", "any", "ascii", "bin", "callable", "chr", "compile", "delattr", "dir", "divmod",
    "eval", "exec", "exit", "format", "getattr", "globals", "hasattr", "hash", "help", "hex", "id",
    "input", "isinstance", "issubclass", "iter", "len", "locals", "max", "min", "next", "oct",
    "open", "ord", "pow", "print", "quit", "repr", "round", "setattr", "sorted", "sum", "vars"]

def specialForms : List String :=
  ["Optional", "Union", "Literal", "ClassVar", "Final", "NoReturn", "Never", "Self",
    "LiteralString", "TypeAlias", "Required", "NotRequired", "Concatenate", "TypeGuard", "Unpack"]

def aliases : List (String × StandardClass × Option Nat) :=
  let builtin := StandardClass.mk "builtins"
  let container := StandardClass.mk "collections"
  let interface := StandardClass.mk "collections.abc"
  [("List", builtin "list", some 1), ("Dict", builtin "dict", some 2),
    ("Set", builtin "set", some 1), ("FrozenSet", builtin "frozenset", some 1),
    ("Tuple", builtin "tuple", none), ("Type", builtin "type", some 1),
    ("Deque", container "deque", some 1), ("DefaultDict", container "defaultdict", some 2),
    ("OrderedDict", container "OrderedDict", some 2), ("Counter", container "Counter", some 1),
    ("Callable", interface "Callable", none), ("Iterable", interface "Iterable", some 1),
    ("Iterator", interface "Iterator", some 1), ("Mapping", interface "Mapping", some 2),
    ("MutableMapping", interface "MutableMapping", some 2),
    ("Sequence", interface "Sequence", some 1),
    ("MutableSequence", interface "MutableSequence", some 1),
    ("Collection", interface "Collection", some 1), ("Container", interface "Container", some 1),
    ("AbstractSet", interface "Set", some 1), ("MutableSet", interface "MutableSet", some 1),
    ("Awaitable", interface "Awaitable", some 1),
    ("AsyncIterator", interface "AsyncIterator", some 1),
    ("AsyncIterable", interface "AsyncIterable", some 1),
    ("Hashable", interface "Hashable", some 0), ("Sized", interface "Sized", some 0)]

def isSubscriptable (c : StandardClass) : Bool :=
  [StandardClass.list, .dict, .tuple, .type, ⟨"builtins", "set"⟩, ⟨"builtins", "frozenset"⟩,
    ⟨"builtins", "enumerate"⟩, ⟨"collections", "deque"⟩, ⟨"collections", "OrderedDict"⟩,
    ⟨"collections", "defaultdict"⟩, ⟨"collections", "Counter"⟩].contains c ||
    c.moduleName == "collections.abc"

end RouteClient.Project.Standard
