import ScriptHost.Errno
import ScriptHost.Json.Fault

/-!
# Errors

A failure that reaches a caller is one of these causes.  A module or capability
that is simply not there is no error.  Each cause has one wording, its message.
-/

namespace ScriptHost

/-- A system call that failed. -/
structure SystemError where
  /-- The name of the call. -/
  syscall : String
  /-- The number the system gave. -/
  errno : Int
deriving DecidableEq, Repr

namespace SystemError

/-- The call's name, the number and its sentence. -/
def message (error : SystemError) : String :=
  error.syscall ++ " (" ++ toString error.errno ++ ") " ++ Errno.describe error.errno

/-- Whether the call only asked to be repeated later. -/
def wouldBlock (error : SystemError) : Bool :=
  error.errno = Errno.wouldBlock

end SystemError

/-- Why a file or directory could not be used. -/
inductive FileError where
  /-- The system refused. -/
  | system (errno : Int)
  /-- The content is not text. -/
  | notText
  /-- No path holds a NUL. -/
  | nulInPath
  /-- Any other cause, in its own words. -/
  | other (text : String)
deriving DecidableEq, Repr

/-- The wording of a file error. -/
def FileError.message : FileError → String
  | system errno => Errno.describe errno ++ " (os error " ++ toString errno ++ ")"
  | notText => "stream did not contain valid UTF-8"
  | nulInPath => "file name contained an unexpected NUL byte"
  | other text => text

/-- Why the settings could not be read. -/
inductive SettingsError where
  /-- The file is there and cannot be read. -/
  | unreadable (cause : FileError)
  /-- The file does not spell settings. -/
  | malformed
  /-- There is no such file. -/
  | notFound (path : String)
deriving DecidableEq, Repr

/-- A failure that must reach a caller. -/
inductive Error where
  | system (cause : SystemError)
  | missingCapability (name : String)
  | capabilityType (name expected : String)
  | config (text : String)
  | compile (name text : String)
  | script (name text : String)
  | json (path : String) (cause : Json.Fault)
  | file (cause : FileError)
  | settings (cause : SettingsError)
deriving DecidableEq, Repr

namespace SettingsError

/-- The wording of a settings error; what is wrong inside a settings file is
not told. -/
def message? : SettingsError → Option String
  | unreadable cause => some ("Failed to read config file: " ++ cause.message)
  | malformed => none
  | notFound path => some ("Config file not found: " ++ path)

end SettingsError

namespace Error

/-- A system call that failed. -/
def ofSystem (syscall : String) (errno : Int) : Error :=
  system ⟨syscall, errno⟩

/-- The wording of an error. -/
def message? : Error → Option String
  | system cause => some cause.message
  | missingCapability name => some ("required capability '" ++ name ++ "' is not available")
  | capabilityType name expected => some ("capability '" ++ name ++ "' is not a " ++ expected)
  | config text => some text
  | compile name text => some ("failed to compile " ++ name ++ ": " ++ text)
  | script name text => some (name ++ ": " ++ text)
  | json path cause => some ("invalid JSON in " ++ path ++ ": " ++ cause.text)
  | file cause => some ("I/O error: " ++ cause.message)
  | settings cause => cause.message?

end Error

end ScriptHost
