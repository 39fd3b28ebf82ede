import ScriptHost.Error
import ScriptHost.Path
import ScriptHost.Text.Quoted

/-!
# Capabilities

A capability is a named piece of native functionality.  What it provides is its
payload; a capability that came from a library also holds the library open.
-/

namespace ScriptHost

/-- What a capability provides. -/
inductive Payload where
  /-- The script engine. -/
  | vm
  /-- Readiness loops. -/
  | epoll
  /-- Files. -/
  | fileSystem
  /-- Reading and writing descriptors. -/
  | net
  /-- The process and its environment. -/
  | sys
  /-- Anything that a host or a library adds, with its level. -/
  | extension (level : Int)
deriving DecidableEq, Repr

/-- The type by which a payload is asked for. -/
inductive PayloadType where
  | vm
  | epoll
  | fileSystem
  | net
  | sys
  /-- An extension, under the name of its type. -/
  | extension (typeName : String)
deriving DecidableEq, Repr

namespace PayloadType

/-- The full name of the type. -/
def fullName : PayloadType → String
  | vm => "ember::engine::Vm"
  | epoll => "ember::runtime::host::Epoll"
  | fileSystem => "ember::runtime::host::FileSystem"
  | net => "ember::runtime::host::Net"
  | sys => "ember::runtime::host::Sys"
  | extension typeName => typeName

/-- Whether a payload is of the type. -/
def admits : PayloadType → Payload → Bool
  | vm, .vm => true
  | epoll, .epoll => true
  | fileSystem, .fileSystem => true
  | net, .net => true
  | sys, .sys => true
  | extension _, .extension _ => true
  | _, _ => false

end PayloadType

/-- The level of an extension. -/
def Payload.level? : Payload → Option Int
  | extension level => some level
  | _ => none

/-- Where a library was looked for. -/
inductive LibrarySource where
  /-- In a table that the host supplies. -/
  | table
  /-- Through the dynamic linker. -/
  | linker
deriving DecidableEq, Repr

/-- A library that is held open. -/
structure LibraryHandle where
  /-- The identity of the opening. -/
  id : Nat
  /-- Where the library came from. -/
  source : LibrarySource
  /-- The path it was opened by. -/
  path : Path
deriving DecidableEq, Repr

/-- A capability. -/
structure Capability where
  /-- Its name. -/
  name : String
  /-- Whether it came from a library. -/
  isDynamic : Bool
  /-- The identity of its payload, until it is closed. -/
  payload : Option Nat
  /-- The library it holds open, until it is closed. -/
  handle : Option LibraryHandle
deriving DecidableEq, Repr

namespace Capability

/-- The word for where it came from. -/
def kindText (capability : Capability) : String :=
  if capability.isDynamic then "module-external" else "module"

/-- Whether it holds a library open. -/
def isOpen (capability : Capability) : Bool :=
  capability.handle.isSome

/-- How a capability is shown to a developer. -/
def debugText (capability : Capability) : String :=
  "Capability \x7b name: " ++ Text.quoted capability.name
    ++ ", kind: " ++ (if capability.isDynamic then "Dynamic" else "Embedded")
    ++ ", open: " ++ toString capability.isOpen ++ " \x7d"

end Capability

/-- How a capability that is built into the host is made. -/
structure Factory where
  /-- Whether it is one of the five that every runtime needs. -/
  isFoundation : Bool
  /-- The payload it makes, or why it fails. -/
  result : Except Error Payload

/-- Why a library gave no capability. -/
inductive LibraryError where
  | load (text : String)
  | symbolNotFound (text : String)
  | invalidSymbol (text : String)
  | unsupported (path : String)
  | nullCapability (name : String)
deriving DecidableEq, Repr

/-- The wording of a library error. -/
def LibraryError.message : LibraryError → String
  | load text => "Load error: " ++ text
  | symbolNotFound text => "Symbol not found: " ++ text
  | invalidSymbol text => "Invalid symbol: " ++ text
  | unsupported path => "Dynamic loading unsupported, cannot open " ++ path
  | nullCapability name => "Registration of '" ++ name ++ "' returned no capability"

end ScriptHost
