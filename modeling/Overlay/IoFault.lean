namespace Overlay

/-!
# Faults of the operating system

What a read, a write, a bind or a file access reports when it fails, and the one-line text
that stands for it in every message of the node.
-/

/-- Why an operation on a stream, a socket or a file failed. -/
inductive IoFault where
  /-- The system call failed with this error number. -/
  | system (number : Nat)
  /-- A fault that carries its own description. -/
  | described (text : String)
  /-- A write accepted none of the bytes offered to it. -/
  | wroteNothing
  /-- A text file holds bytes that are not UTF-8. -/
  | notText
  /-- A name handed to the system contains a zero byte, which ends names there. -/
  | zeroInName
deriving DecidableEq, Inhabited, Repr

namespace IoFault

/-! ### Error numbers -/

def noSuchFile : IoFault := system 2
def permissionDenied : IoFault := system 13
def fileExists : IoFault := system 17
def notADirectory : IoFault := system 20
def isADirectory : IoFault := system 21
def invalidArgument : IoFault := system 22
def brokenPipe : IoFault := system 32
def nameTooLong : IoFault := system 36
def addressInUse : IoFault := system 98
def addressNotAvailable : IoFault := system 99
def networkUnreachable : IoFault := system 101
def connectionReset : IoFault := system 104
def connectionRefused : IoFault := system 111

/-- The system's description of an error number. -/
def systemText : Nat → String
  | 1 => "Operation not permitted"
  | 2 => "No such file or directory"
  | 4 => "Interrupted system call"
  | 5 => "Input/output error"
  | 9 => "Bad file descriptor"
  | 11 => "Resource temporarily unavailable"
  | 12 => "Cannot allocate memory"
  | 13 => "Permission denied"
  | 17 => "File exists"
  | 20 => "Not a directory"
  | 21 => "Is a directory"
  | 22 => "Invalid argument"
  | 23 => "Too many open files in system"
  | 24 => "Too many open files"
  | 27 => "File too large"
  | 28 => "No space left on device"
  | 30 => "Read-only file system"
  | 32 => "Broken pipe"
  | 36 => "File name too long"
  | 40 => "Too many levels of symbolic links"
  | 98 => "Address already in use"
  | 99 => "Cannot assign requested address"
  | 100 => "Network is down"
  | 101 => "Network is unreachable"
  | 103 => "Software caused connection abort"
  | 104 => "Connection reset by peer"
  | 105 => "No buffer space available"
  | 107 => "Transport endpoint is not connected"
  | 110 => "Connection timed out"
  | 111 => "Connection refused"
  | 113 => "No route to host"
  | n => s!"Unknown error {n}"

/-- The text of a fault as it appears inside other messages. -/
def message : IoFault → String
  | system n => s!"{systemText n} (os error {n})"
  | described text => text
  | wroteNothing => "write zero"
  | notText => "stream did not contain valid UTF-8"
  | zeroInName => "file name contained an unexpected NUL byte"

end IoFault

end Overlay
