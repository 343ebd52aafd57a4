/-!
# Failures of storage

A failed access to a file has a cause with a kind, by which callers tell causes
apart, and a message.  The storage layer adds the path, and it refuses reads
that ask for too much before it touches the file.

* `IoError.kind` and `IoError.message` — a cause as callers see it;
* `StorageError.message` — the message of a failure.
-/

namespace ScanFilter

/-- The kinds of causes that callers tell apart. -/
inductive IoKind
  | unexpectedEof | notFound | isADirectory | notADirectory | invalidInput
  | invalidFilename | permissionDenied | timedOut | connectionRefused | other
  deriving DecidableEq

namespace IoKind

/-- Every kind. -/
def all : List IoKind :=
  [unexpectedEof, notFound, isADirectory, notADirectory, invalidInput,
    invalidFilename, permissionDenied, timedOut, connectionRefused, other]

/-- The name of a kind. -/
def name : IoKind → String
  | unexpectedEof => "UnexpectedEof"
  | notFound => "NotFound"
  | isADirectory => "IsADirectory"
  | notADirectory => "NotADirectory"
  | invalidInput => "InvalidInput"
  | invalidFilename => "InvalidFilename"
  | permissionDenied => "PermissionDenied"
  | timedOut => "TimedOut"
  | connectionRefused => "ConnectionRefused"
  | other => "Other"

/-- The kind of a given name. -/
def ofName? (text : String) : Option IoKind := all.find? (·.name == text)

end IoKind

/-- Why an access to a file failed. -/
inductive IoError
  /-- The file ends before the last byte that was asked for. -/
  | endOfFile
  /-- No file of this path is held in memory. -/
  | unknownFile (path : String)
  /-- There is no such file on disk. -/
  | missing
  /-- Part of the path names a file where a directory should be. -/
  | notADirectory
  /-- A directory was read. -/
  | isADirectory
  /-- The disk refuses the offset. -/
  | seekRefused
  /-- The path, or a name in it, is longer than the disk allows. -/
  | nameTooLong
  /-- The path holds a NUL character. -/
  | nulInName
  /-- The file system refuses to open the path, in its own words. -/
  | refused (kind : IoKind) (message : String)
  deriving DecidableEq

namespace IoError

/-- The kind of a cause. -/
def kind : IoError → IoKind
  | endOfFile => .unexpectedEof
  | unknownFile _ => .notFound
  | missing => .notFound
  | notADirectory => .notADirectory
  | isADirectory => .isADirectory
  | seekRefused => .invalidInput
  | nameTooLong => .invalidFilename
  | nulInName => .invalidInput
  | refused kind _ => kind

/-- The message of a cause. -/
def message : IoError → String
  | endOfFile => "failed to fill whole buffer"
  | unknownFile path => "no such file: " ++ path
  | missing => "No such file or directory (os error 2)"
  | notADirectory => "Not a directory (os error 20)"
  | isADirectory => "Is a directory (os error 21)"
  | seekRefused => "Invalid argument (os error 22)"
  | nameTooLong => "File name too long (os error 36)"
  | nulInName => "file name contained an unexpected NUL byte"
  | refused _ message => message

end IoError

/-- Why a read failed. -/
inductive StorageError
  /-- The file could not be opened or read. -/
  | ioFailure (path : String) (cause : IoError)
  /-- More bytes were asked for than a single read may fetch. -/
  | readTooLarge (path : String) (requested limit : Nat)
  deriving DecidableEq

namespace StorageError

/-- The path of the failed read. -/
def path : StorageError → String
  | ioFailure path _ => path
  | readTooLarge path _ _ => path

/-- The kind of the cause, if there is a cause. -/
def ioKind? : StorageError → Option IoKind
  | ioFailure _ cause => some cause.kind
  | readTooLarge .. => none

/-- The message of a failure. -/
def message : StorageError → String
  | ioFailure path cause => "IO failure on " ++ path ++ ": " ++ cause.message
  | readTooLarge path requested limit =>
    s!"Read of {requested} bytes from {path} exceeds limit of {limit} bytes"

end StorageError

end ScanFilter
