import ImportWeights.Text.Quoted

/-! The ways in which the operating system refuses to touch a path. -/

namespace ImportWeights.Files

inductive OsError where
  | notPermitted
  | notFound
  | permissionDenied
  | alreadyExists
  | notADirectory
  | isADirectory
  | invalidArgument
  | nameTooLong
  | tooManyLinks
  | addressInUse
  | addressNotAvailable
  | other (code : Nat)
  /-- A name that holds a zero byte never reaches the system. -/
  | zeroByte
  /-- Nor does a program's argument. -/
  | zeroByteInArgument
  /-- A text was read that is none. -/
  | invalidText
deriving DecidableEq, Repr

namespace OsError

def ofCode : Nat → OsError
  | 1 => notPermitted
  | 2 => notFound
  | 13 => permissionDenied
  | 17 => alreadyExists
  | 20 => notADirectory
  | 21 => isADirectory
  | 22 => invalidArgument
  | 36 => nameTooLong
  | 40 => tooManyLinks
  | 98 => addressInUse
  | 99 => addressNotAvailable
  | n => other n

/-- What the system says, and the number it says it by. -/
structure Coded where
  text : String
  code : Nat
deriving DecidableEq, Repr

private def coded (text : String) (code : Nat) : Except String Coded := .ok ⟨text, code⟩

/-- A refusal by the system, or one before it was asked. -/
def cause : OsError → Except String Coded
  | notPermitted => coded "Operation not permitted" 1
  | notFound => coded "No such file or directory" 2
  | permissionDenied => coded "Permission denied" 13
  | alreadyExists => coded "File exists" 17
  | notADirectory => coded "Not a directory" 20
  | isADirectory => coded "Is a directory" 21
  | invalidArgument => coded "Invalid argument" 22
  | nameTooLong => coded "File name too long" 36
  | tooManyLinks => coded "Too many levels of symbolic links" 40
  | addressInUse => coded "Address already in use" 98
  | addressNotAvailable => coded "Cannot assign requested address" 99
  | other 3 => coded "No such process" 3
  | other 4 => coded "Interrupted system call" 4
  | other 5 => coded "Input/output error" 5
  | other 7 => coded "Argument list too long" 7
  | other 8 => coded "Exec format error" 8
  | other 9 => coded "Bad file descriptor" 9
  | other 11 => coded "Resource temporarily unavailable" 11
  | other 12 => coded "Cannot allocate memory" 12
  | other 16 => coded "Device or resource busy" 16
  | other 18 => coded "Invalid cross-device link" 18
  | other 23 => coded "Too many open files in system" 23
  | other 24 => coded "Too many open files" 24
  | other 26 => coded "Text file busy" 26
  | other 27 => coded "File too large" 27
  | other 28 => coded "No space left on device" 28
  | other 30 => coded "Read-only file system" 30
  | other 32 => coded "Broken pipe" 32
  | other 38 => coded "Function not implemented" 38
  | other 39 => coded "Directory not empty" 39
  | other 95 => coded "Operation not supported" 95
  | other 104 => coded "Connection reset by peer" 104
  | other 110 => coded "Connection timed out" 110
  | other 111 => coded "Connection refused" 111
  | other n => coded ("Unknown error " ++ toString n) n
  | zeroByte => .error "file name contained an unexpected NUL byte"
  | zeroByteInArgument => .error "nul byte found in provided data"
  | invalidText => .error "stream did not contain valid UTF-8"

def message (e : OsError) : String :=
  match e.cause with
  | .ok c => c.text ++ " (os error " ++ toString c.code ++ ")"
  | .error text => text

/-- What kind of refusal it is. -/
def kind : OsError → String
  | notPermitted | permissionDenied => "PermissionDenied"
  | notFound => "NotFound"
  | alreadyExists => "AlreadyExists"
  | notADirectory => "NotADirectory"
  | isADirectory => "IsADirectory"
  | invalidArgument | zeroByte | zeroByteInArgument => "InvalidInput"
  | nameTooLong => "InvalidFilename"
  | tooManyLinks => "FilesystemLoop"
  | addressInUse => "AddrInUse"
  | addressNotAvailable => "AddrNotAvailable"
  | invalidText => "InvalidData"
  | other 4 => "Interrupted"
  | other 7 => "ArgumentListTooLong"
  | other 11 => "WouldBlock"
  | other 12 => "OutOfMemory"
  | other 16 => "ResourceBusy"
  | other 18 => "CrossesDevices"
  | other 26 => "ExecutableFileBusy"
  | other 27 => "FileTooLarge"
  | other 28 => "StorageFull"
  | other 30 => "ReadOnlyFilesystem"
  | other 32 => "BrokenPipe"
  | other 38 | other 95 => "Unsupported"
  | other 39 => "DirectoryNotEmpty"
  | other 104 => "ConnectionReset"
  | other 110 => "TimedOut"
  | other 111 => "ConnectionRefused"
  | other _ => "Uncategorized"

def details (e : OsError) : String :=
  match e.cause with
  | .ok c => Text.shownRecord "Os"
      [("code", toString c.code), ("kind", e.kind), ("message", Text.quoted c.text)]
  | .error text => Text.shownRecord "Error" [("kind", e.kind), ("message", Text.quoted text)]

end OsError

end ImportWeights.Files
