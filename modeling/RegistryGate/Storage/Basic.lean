/-
  What the gateway sees of the machine it runs on.

  Settings, secrets and catalogs come from files and environment variables.  Loading them is a pure
  function of an `Environment`: what every read would give at one moment.  The command line takes
  that snapshot of the real machine; `Storage.Tree` makes one from a list of files.
-/

namespace RegistryGate

/-- Why a file operation failed. -/
inductive IoFault where
  /-- There is nothing at the path. -/
  | notFound
  /-- The caller may not do this. -/
  | notPermitted
  /-- A part of the path that should be a directory is none. -/
  | notDirectory
  /-- The path is a directory. -/
  | isDirectory
  /-- A part of the path, or all of it, is too long. -/
  | nameTooLong
  /-- The path holds the character NUL. -/
  | nulInPath
  /-- Another failure, by its text. -/
  | other (text : String)
deriving DecidableEq

/-- The text of a failure. -/
def IoFault.message : IoFault → String
  | notFound => "No such file or directory (os error 2)"
  | notPermitted => "Permission denied (os error 13)"
  | notDirectory => "Not a directory (os error 20)"
  | isDirectory => "Is a directory (os error 21)"
  | nameTooLong => "File name too long (os error 36)"
  | nulInPath => "file name contained an unexpected NUL byte"
  | other text => text

/-- What file operations would give. -/
structure FileSystem where
  /-- The content of a file. -/
  read : String → Except IoFault ByteArray
  /-- The names in a directory, each once, in no particular order. -/
  list : String → Except IoFault (List String)
  /-- Holds of paths of directories. -/
  isDirectory : String → Bool
  /-- Passes when a file can be opened for appending; it is created if there is none. -/
  appendable : String → Except IoFault Unit

/-- A snapshot of the machine. -/
structure Environment where
  /-- The files. -/
  files : FileSystem
  /-- The values of the environment variables that are set. -/
  valueOf? : String → Option String

/-- Why the content of a file is not usable as text. -/
inductive ContentFault where
  /-- The file cannot be read. -/
  | unreadable (fault : IoFault)
  /-- The file is longer than the limit. -/
  | tooLarge
  /-- The file is not UTF-8. -/
  | notUtf8
deriving DecidableEq

/-- The text of a file of at most `limit` bytes. -/
def FileSystem.readText (files : FileSystem) (limit : Nat) (path : String) :
    Except ContentFault String :=
  match files.read path with
  | .error fault => .error (.unreadable fault)
  | .ok bytes =>
    if limit < bytes.size then .error .tooLarge
    else
      match String.fromUTF8? bytes with
      | none => .error .notUtf8
      | some text => .ok text

end RegistryGate
