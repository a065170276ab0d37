import SnippetRunner.Data

/-!
# Modules and the import guard

Which modules can be found on the host: packages with their members, plain modules, and those that
are part of the host itself; how a dotted name is found among them, and which imports the guard
lets through: absolute ones whose first part is on a list.
-/

namespace SnippetRunner.Sandbox

/-- The host's packages with their members. -/
def packages : List (String × List String) :=
  [("asyncio", ["base_events", "base_futures", "base_subprocess", "base_tasks", "constants",
      "coroutines",
      "events", "exceptions", "format_helpers", "futures", "locks", "log", "mixins",
      "proactor_events", "protocols", "queues", "runners", "selector_events", "sslproto",
      "staggered", "streams", "subprocess", "taskgroups", "tasks", "threads", "timeouts",
      "transports", "trsock", "unix_events"]),
    ("collections", ["abc"]),
    ("concurrent", ["futures"]),
    ("concurrent.futures", ["_base", "process", "thread"]),
    ("ctypes", ["_aix", "_endian", "macholib", "util", "wintypes"]),
    ("ctypes.macholib", ["dyld", "dylib", "framework"]),
    ("curses", ["ascii", "has_key", "panel", "textpad"]),
    ("dbm", ["dumb", "gnu", "ndbm"]),
    ("email", ["_encoded_words", "_header_value_parser", "_parseaddr", "_policybase", "base64mime",
      "charset", "contentmanager", "encoders", "errors", "feedparser", "generator", "header",
      "headerregistry", "iterators", "message", "mime", "parser", "policy", "quoprimime", "utils"]),
    ("email.mime", ["application", "audio", "base", "image", "message", "multipart",
      "nonmultipart", "text"]),
    ("encodings", ["aliases", "ascii", "base64_codec", "big5", "big5hkscs", "bz2_codec", "charmap",
      "cp037",
      "cp1006", "cp1026", "cp1125", "cp1140", "cp1250", "cp1251", "cp1252", "cp1253", "cp1254",
      "cp1255", "cp1256", "cp1257", "cp1258", "cp273", "cp424", "cp437", "cp500", "cp720", "cp737",
      "cp775", "cp850", "cp852", "cp855", "cp856", "cp857", "cp858", "cp860", "cp861", "cp862",
      "cp863", "cp864", "cp865", "cp866", "cp869", "cp874", "cp875", "cp932", "cp949", "cp950",
      "euc_jis_2004", "euc_jisx0213", "euc_jp", "euc_kr", "gb18030", "gb2312", "gbk", "hex_codec",
      "hp_roman8", "hz", "idna", "iso2022_jp", "iso2022_jp_1", "iso2022_jp_2", "iso2022_jp_2004",
      "iso2022_jp_3", "iso2022_jp_ext", "iso2022_kr", "iso8859_1", "iso8859_10", "iso8859_11",
      "iso8859_13", "iso8859_14", "iso8859_15", "iso8859_16", "iso8859_2", "iso8859_3",
      "iso8859_4", "iso8859_5", "iso8859_6", "iso8859_7", "iso8859_8", "iso8859_9", "johab",
      "koi8_r", "koi8_t", "koi8_u", "kz1048", "latin_1", "mac_arabic", "mac_croatian",
      "mac_cyrillic", "mac_farsi", "mac_greek", "mac_iceland", "mac_latin2", "mac_roman",
      "mac_romanian", "mac_turkish", "palmos", "ptcp154", "punycode", "quopri_codec",
      "raw_unicode_escape", "rot_13", "shift_jis", "shift_jis_2004", "shift_jisx0213", "tis_620",
      "undefined", "unicode_escape", "utf_16", "utf_16_be", "utf_16_le", "utf_32", "utf_32_be",
      "utf_32_le", "utf_7", "utf_8", "utf_8_sig", "uu_codec", "zlib_codec"]),
    ("html", ["entities", "parser"]),
    ("http", ["client", "cookiejar", "cookies", "server"]),
    ("importlib", ["_abc", "_bootstrap", "_bootstrap_external", "abc", "machinery", "metadata",
      "readers",
      "resources", "simple", "util"]),
    ("importlib.metadata", ["_adapters", "_collections", "_functools", "_itertools", "_meta",
      "_text"]),
    ("importlib.resources", ["_adapters", "_common", "_itertools", "_legacy", "abc", "readers",
      "simple"]),
    ("json", ["decoder", "encoder", "scanner", "tool"]),
    ("logging", ["config", "handlers"]),
    ("multiprocessing", ["connection", "context", "dummy", "forkserver", "heap", "managers",
      "pool", "popen_fork",
      "popen_forkserver", "popen_spawn_posix", "process", "queues", "reduction", "resource_sharer",
      "resource_tracker", "shared_memory", "sharedctypes", "spawn", "synchronize", "util"]),
    ("multiprocessing.dummy", ["connection"]),
    ("pydoc_data", ["topics"]),
    ("re", ["_casefix", "_compiler", "_constants", "_parser"]),
    ("sqlite3", ["dbapi2", "dump"]),
    ("tomllib", ["_parser", "_re", "_types"]),
    ("unittest", ["_log", "async_case", "case", "loader", "main", "mock", "result", "runner",
      "signals",
      "suite", "util"]),
    ("urllib", ["error", "parse", "request", "response", "robotparser"]),
    ("venv", []),
    ("wsgiref", ["handlers", "headers", "simple_server", "types", "util", "validate"]),
    ("xml", ["dom", "etree", "parsers", "sax"]),
    ("xml.dom", ["NodeFilter", "domreg", "expatbuilder", "minicompat", "minidom", "pulldom",
      "xmlbuilder"]),
    ("xml.etree", ["ElementInclude", "ElementPath", "ElementTree", "cElementTree"]),
    ("xml.parsers", ["expat"]),
    ("xml.sax", ["_exceptions", "expatreader", "handler", "saxutils", "xmlreader"]),
    ("xmlrpc", ["client", "server"]),
    ("zoneinfo", ["_common", "_tzpath", "_zoneinfo"]),
    ("fastapi", []),
    ("pydantic", []),
    ("rich", []),
    ("starlette", []),
    ("uvicorn", []),
    ("yaml", [])]

/-- The host's modules that are no packages, as far as they have a name of one part. -/
def plainModules : List String :=
  ["__future__", "_abc", "_aix_support", "_ast", "_asyncio", "_bisect", "_blake2",
    "_bootsubprocess", "_bz2", "_codecs", "_codecs_cn", "_codecs_hk", "_codecs_iso2022",
    "_codecs_jp", "_codecs_kr", "_codecs_tw", "_collections", "_collections_abc", "_compat_pickle",
    "_compression", "_contextvars", "_crypt", "_csv", "_ctypes", "_curses", "_curses_panel",
    "_datetime", "_dbm", "_decimal", "_elementtree", "_frozen_importlib",
    "_frozen_importlib_external", "_functools", "_hashlib", "_heapq", "_imp", "_io", "_json",
    "_locale", "_lsprof", "_lzma", "_markupbase", "_md5", "_multibytecodec", "_multiprocessing",
    "_opcode", "_operator", "_osx_support", "_pickle", "_posixshmem", "_posixsubprocess",
    "_py_abc", "_pydecimal", "_pyio", "_queue", "_random", "_sha1", "_sha256", "_sha3", "_sha512",
    "_signal", "_sitebuiltins", "_socket", "_sqlite3", "_sre", "_ssl", "_stat", "_statistics",
    "_string", "_strptime", "_struct", "_symtable", "_thread", "_threading_local", "_tokenize",
    "_tracemalloc", "_typing", "_uuid", "_warnings", "_weakref", "_weakrefset", "_zoneinfo", "abc",
    "aifc", "argparse", "array", "ast", "asynchat", "asyncore", "atexit", "audioop", "base64",
    "bdb", "binascii", "bisect", "builtins", "bz2", "cProfile", "calendar", "cgi", "cgitb",
    "chunk", "cmath", "cmd", "code", "codecs", "codeop", "colorsys", "compileall", "configparser",
    "contextlib", "contextvars", "copy", "copyreg", "crypt", "csv", "dataclasses", "datetime",
    "decimal", "difflib", "dis", "doctest", "enum", "errno", "faulthandler", "fcntl", "filecmp",
    "fileinput", "fnmatch", "fractions", "ftplib", "functools", "gc", "genericpath", "getopt",
    "getpass", "gettext", "glob", "graphlib", "grp", "gzip", "hashlib", "heapq", "hmac", "imaplib",
    "imghdr", "imp", "inspect", "io", "ipaddress", "itertools", "keyword", "linecache", "locale",
    "lzma", "mailbox", "mailcap", "marshal", "math", "mimetypes", "mmap", "modulefinder", "netrc",
    "nis", "nntplib", "ntpath", "nturl2path", "numbers", "opcode", "operator", "optparse", "os",
    "ossaudiodev", "pathlib", "pdb", "pickle", "pickletools", "pipes", "pkgutil", "platform",
    "plistlib", "poplib", "posix", "posixpath", "pprint", "profile", "pstats", "pty", "pwd",
    "py_compile", "pyclbr", "pydoc", "pyexpat", "queue", "quopri", "random", "readline", "reprlib",
    "resource", "rlcompleter", "runpy", "sched", "secrets", "select", "selectors", "shelve",
    "shlex", "shutil", "signal", "site", "smtpd", "smtplib", "sndhdr", "socket", "socketserver",
    "spwd", "sre_compile", "sre_constants", "sre_parse", "ssl", "stat", "statistics", "string",
    "stringprep", "struct", "subprocess", "sunau", "symtable", "sys", "sysconfig", "syslog",
    "tabnanny", "tarfile", "telnetlib", "tempfile", "termios", "textwrap", "threading", "time",
    "timeit", "token", "tokenize", "trace", "traceback", "tracemalloc", "tty", "types", "typing",
    "unicodedata", "uu", "uuid", "warnings", "wave", "weakref", "webbrowser", "xdrlib", "zipapp",
    "zipfile", "zipimport", "zlib"]

/-- The modules that are part of the host itself; all others are found as files. -/
def builtInModules : List String :=
  ["_abc", "_ast", "_bisect", "_blake2", "_codecs", "_collections", "_csv", "_datetime",
    "_elementtree", "_frozen_importlib", "_frozen_importlib_external", "_functools", "_heapq",
    "_imp", "_io", "_locale", "_md5", "_operator", "_pickle", "_posixsubprocess", "_random",
    "_sha1", "_sha256", "_sha3", "_sha512", "_signal", "_socket", "_sre", "_stat", "_statistics",
    "_string", "_struct", "_symtable", "_thread", "_tracemalloc", "_warnings", "_weakref", "array",
    "atexit", "binascii", "builtins", "cmath", "errno", "faulthandler", "fcntl", "gc", "grp",
    "itertools", "marshal", "math", "posix", "pwd", "pyexpat", "select", "spwd", "sys", "syslog",
    "time", "unicodedata", "xxsubtype", "zlib"]

/-- The names that modules give themselves where that is not the name that they are found by. -/
def ownNames : List (String × String) :=
  [("os.path", "posixpath"), ("_io", "io"), ("_collections_abc", "collections.abc"),
    ("_frozen_importlib", "importlib._bootstrap"),
    ("_frozen_importlib_external", "importlib._bootstrap_external")]

/-- Modules for pure computation; a snippet may import these unless a configuration says
otherwise. -/
def defaultModules : List String :=
  ["bisect", "collections", "datetime", "decimal", "fractions", "functools", "heapq",
    "itertools", "json", "math", "operator", "random", "re", "statistics", "string", "textwrap"]

/-- The members of a module that is a package. The file that a package itself is made from is one
of them. -/
def membersOf? (name : String) : Option (List String) :=
  (packages.lookup name).map ("__init__" :: ·)

/-- Why a module is not found. -/
inductive ImportFault where
  /-- The import guard does not let it through. -/
  | refused (name : String)
  | emptyName
  | missing (name : String)
  /-- A name inside a module that has no members of its own. -/
  | notPackage (name parent : String)
  deriving Repr, DecidableEq

/-- What a caller is told. -/
def ImportFault.problem : ImportFault → Problem
  | .refused name => ⟨"ImportError", s!"import of '{name}' is not allowed in the sandbox"⟩
  | .emptyName => ⟨"ValueError", "Empty module name"⟩
  | .missing name => ⟨"ModuleNotFoundError", s!"No module named '{name}'"⟩
  | .notPackage name parent =>
    ⟨"ModuleNotFoundError", s!"No module named '{name}'; '{parent}' is not a package"⟩

/-- Whether the host has a module of one part. -/
def isTopModule (name : String) : Bool := plainModules.contains name || (membersOf? name).isSome

/-- Finds the further parts of a name below a module that has been found; the modules from there
on, outermost first. Every name is told with `lead` before it. -/
def locateBelow (lead parent : String) : List String → Except ImportFault (List String)
  | [] => .ok [lead ++ parent]
  | part :: rest =>
    let name := parent ++ "." ++ part
    match membersOf? parent with
    | some members =>
      if members.contains part then (locateBelow lead name rest).map ((lead ++ parent) :: ·)
      else .error (.missing (lead ++ name))
    | none =>
      if name == "os.path" then (locateBelow lead name rest).map ((lead ++ parent) :: ·)
      else .error (.notPackage (lead ++ name) (lead ++ parent))

/-- Finds a dotted name: the modules along it, outermost first. Behind a dot at its start only
modules that are files are found. -/
def locate (name : String) : Except ImportFault (List String) :=
  match Text.parts '.' name with
  | [] | [""] => .error .emptyName
  | "" :: top :: rest =>
    if isTopModule top && ! builtInModules.contains top then locateBelow "." top rest
    else .error (.missing ("." ++ top))
  | top :: rest => if isTopModule top then locateBelow "" top rest else .error (.missing top)

/-- The first part of a dotted name. -/
def rootOf (name : String) : String := String.ofList (name.toList.takeWhile (· != '.'))

/-- Passes an import through the guard: the modules along the name. -/
def guardedLocate (allowed : List String) (name : String) (level : Int) :
    Except ImportFault (List String) :=
  if level ≠ 0 || ! allowed.contains (rootOf name) then .error (.refused name) else locate name

/-- The name that a module gives itself. -/
def ownName (name : String) : String := (ownNames.lookup name).getD name

/-- The module that an import gives: the last one if members of it are asked for, else the first,
which has to have a name without a dot before it. -/
def imported (path : List String) (forMembers : Bool) : Except ImportFault String :=
  if forMembers then .ok (ownName (path.getLastD ""))
  else
    let first := path.headD ""
    if first.startsWith "." then .error .emptyName else .ok (ownName first)

/-! ## Imports with plain values -/

/-- Why a name that is asked for as a member of a package is refused, if it is: a module that it
leads through is missing. -/
def memberProblem? (package : String) : Data → Option Problem
  | .text s =>
    match locateBelow "" package (Text.parts '.' s) with
    | .error (.missing name) | .error (.notPackage name _) =>
      if name == package ++ "." ++ s then none
      else some (ImportFault.missing name).problem
    | _ => none
  | v => some ⟨"TypeError", s!"Item in ``from list'' must be str, not {v.typeName}"⟩

/-- Passes an import through the guard, whose level and members may be any values: the name of the
module that it gives. -/
def importData (allowed : List String) (name : String) (level members : Data) :
    Except Problem String := do
  if ! level.same (.int 0) then throw (ImportFault.refused name).problem
  let path ← (guardedLocate allowed name 0).mapError ImportFault.problem
  if let .float _ := level then
    throw ⟨"TypeError", "'float' object cannot be interpreted as an integer"⟩
  let package := path.getLastD ""
  if members.isTrue && (membersOf? package).isSome then
    match (← members.items).findSome? (memberProblem? package) with
    | some problem => throw problem
    | none => pure ()
  (imported path members.isTrue).mapError ImportFault.problem

end SnippetRunner.Sandbox
