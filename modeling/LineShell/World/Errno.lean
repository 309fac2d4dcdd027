/-
  LineShell/World/Errno.lean
  ==========================
  **System error numbers.**

  The failures a system call can answer with, each with its number and its standard
  text.  The common ones have a symbolic name; any other is given by its number and the
  text that the system has for it.  A number also decides which class of system error a
  log names.
-/
namespace LineShell

/-- The numbers of the failures that have a name here. -/
def Errno.namedNumbers : List Nat :=
  [1, 2, 4, 5, 7, 8, 10, 11, 12, 13, 14, 19, 20, 21, 22, 23, 24, 26, 28, 30, 36, 40]

/-- A failure without a name here. -/
structure UnnamedErrno where
  number : Nat
  text : String
  unnamed : number ∉ Errno.namedNumbers
deriving DecidableEq, Repr

/-- The failures of a system call. -/
inductive Errno where
  | notPermitted
  | noSuchFile
  | interrupted
  | inputOutput
  | argumentsTooLong
  | execFormat
  | noChildren
  | unavailable
  | noMemory
  | permissionDenied
  | badAddress
  | noSuchDevice
  | notDirectory
  | isDirectory
  | invalidArgument
  | systemFilesExhausted
  | filesExhausted
  | textBusy
  | noSpace
  | readOnly
  | nameTooLong
  | tooManyLinks
  | other (e : UnnamedErrno)
deriving DecidableEq, Repr

namespace Errno

def named : List Errno :=
  [.notPermitted, .noSuchFile, .interrupted, .inputOutput, .argumentsTooLong, .execFormat,
   .noChildren, .unavailable, .noMemory, .permissionDenied, .badAddress, .noSuchDevice,
   .notDirectory, .isDirectory, .invalidArgument, .systemFilesExhausted, .filesExhausted,
   .textBusy, .noSpace, .readOnly, .nameTooLong, .tooManyLinks]

def symbol? : Errno → Option String
  | .notPermitted => some "EPERM"
  | .noSuchFile => some "ENOENT"
  | .interrupted => some "EINTR"
  | .inputOutput => some "EIO"
  | .argumentsTooLong => some "E2BIG"
  | .execFormat => some "ENOEXEC"
  | .noChildren => some "ECHILD"
  | .unavailable => some "EAGAIN"
  | .noMemory => some "ENOMEM"
  | .permissionDenied => some "EACCES"
  | .badAddress => some "EFAULT"
  | .noSuchDevice => some "ENODEV"
  | .notDirectory => some "ENOTDIR"
  | .isDirectory => some "EISDIR"
  | .invalidArgument => some "EINVAL"
  | .systemFilesExhausted => some "ENFILE"
  | .filesExhausted => some "EMFILE"
  | .textBusy => some "ETXTBSY"
  | .noSpace => some "ENOSPC"
  | .readOnly => some "EROFS"
  | .nameTooLong => some "ENAMETOOLONG"
  | .tooManyLinks => some "ELOOP"
  | .other _ => none

def number : Errno → Nat
  | .notPermitted => 1
  | .noSuchFile => 2
  | .interrupted => 4
  | .inputOutput => 5
  | .argumentsTooLong => 7
  | .execFormat => 8
  | .noChildren => 10
  | .unavailable => 11
  | .noMemory => 12
  | .permissionDenied => 13
  | .badAddress => 14
  | .noSuchDevice => 19
  | .notDirectory => 20
  | .isDirectory => 21
  | .invalidArgument => 22
  | .systemFilesExhausted => 23
  | .filesExhausted => 24
  | .textBusy => 26
  | .noSpace => 28
  | .readOnly => 30
  | .nameTooLong => 36
  | .tooManyLinks => 40
  | .other e => e.number

def text : Errno → String
  | .notPermitted => "Operation not permitted"
  | .noSuchFile => "No such file or directory"
  | .interrupted => "Interrupted system call"
  | .inputOutput => "Input/output error"
  | .argumentsTooLong => "Argument list too long"
  | .execFormat => "Exec format error"
  | .noChildren => "No child processes"
  | .unavailable => "Resource temporarily unavailable"
  | .noMemory => "Cannot allocate memory"
  | .permissionDenied => "Permission denied"
  | .badAddress => "Bad address"
  | .noSuchDevice => "No such device"
  | .notDirectory => "Not a directory"
  | .isDirectory => "Is a directory"
  | .invalidArgument => "Invalid argument"
  | .systemFilesExhausted => "Too many open files in system"
  | .filesExhausted => "Too many open files"
  | .textBusy => "Text file busy"
  | .noSpace => "No space left on device"
  | .readOnly => "Read-only file system"
  | .nameTooLong => "File name too long"
  | .tooManyLinks => "Too many levels of symbolic links"
  | .other e => e.text

/-- The class of system error of a number without a name here. -/
def classOfNumber : Nat → String
  | 3 => "ProcessLookupError"
  | 17 => "FileExistsError"
  | 32 | 108 => "BrokenPipeError"
  | 103 => "ConnectionAbortedError"
  | 104 => "ConnectionResetError"
  | 110 => "TimeoutError"
  | 111 => "ConnectionRefusedError"
  | 114 | 115 => "BlockingIOError"
  | _ => "OSError"

/-- The class of system error that a log names. -/
def label : Errno → String
  | .noSuchFile => "FileNotFoundError"
  | .permissionDenied | .notPermitted => "PermissionError"
  | .isDirectory => "IsADirectoryError"
  | .notDirectory => "NotADirectoryError"
  | .noChildren => "ChildProcessError"
  | .unavailable => "BlockingIOError"
  | .interrupted => "InterruptedError"
  | .other e => classOfNumber e.number
  | _ => "OSError"

/-- The failure with a symbolic name. -/
def ofSymbol? (s : String) : Option Errno := named.find? (·.symbol? == some s)

/-- Does the failure mean that this particular file was refused?  Any other one
    means that no process could be created. -/
def refusesFile : Errno → Bool
  | .execFormat | .permissionDenied | .notPermitted | .noSuchFile | .notDirectory
  | .isDirectory | .tooManyLinks | .nameTooLong | .textBusy => true
  | _ => false

end Errno

end LineShell
