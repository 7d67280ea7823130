import SnippetSandbox.Text.Digits

/-!
# Why an input or output operation fails

Most causes are the system's numbered errors, shown by their usual description
and number.  A few are noticed before the system is asked, or after it has
answered with bytes that are no text.
-/

namespace SnippetSandbox.FileSystem

/-- The reason an operation on files or programs was refused. -/
inductive Cause
  | system (number : Int)
  | notText
  | emptyPath
  | interiorNul
  | nulInCommand
  | notRegularFile
  | reported (message : String)
  deriving DecidableEq, Repr

namespace Cause

/-- No entry has this name. -/
@[match_pattern] abbrev notFound : Cause := .system 2

/-- An argument of a program is too long. -/
@[match_pattern] abbrev argumentsTooLong : Cause := .system 7

/-- The file is no program the system can run. -/
@[match_pattern] abbrev notExecutableFormat : Cause := .system 8

/-- The operation would have to wait for somebody. -/
@[match_pattern] abbrev wouldBlock : Cause := .system 11

/-- The operation is not permitted on this entry. -/
@[match_pattern] abbrev permissionDenied : Cause := .system 13

/-- An entry of this name is already there. -/
@[match_pattern] abbrev alreadyExists : Cause := .system 17

/-- A name on the way is not that of a directory. -/
@[match_pattern] abbrev notDirectory : Cause := .system 20

/-- The entry is a directory. -/
@[match_pattern] abbrev isDirectory : Cause := .system 21

/-- The device has no room left. -/
@[match_pattern] abbrev noSpace : Cause := .system 28

/-- A name, or the whole path, is too long. -/
@[match_pattern] abbrev nameTooLong : Cause := .system 36

/-- Too many links were followed. -/
@[match_pattern] abbrev linkLoop : Cause := .system 40

/-- The descriptions of the numbered errors from zero on; an empty one has none. -/
def descriptions : Array String :=
  #[ "Success", "Operation not permitted", "No such file or directory", "No such process",
     "Interrupted system call", "Input/output error", "No such device or address",
     "Argument list too long", "Exec format error", "Bad file descriptor", "No child processes",
     "Resource temporarily unavailable", "Cannot allocate memory", "Permission denied",
     "Bad address", "Block device required", "Device or resource busy", "File exists",
     "Invalid cross-device link", "No such device", "Not a directory", "Is a directory",
     "Invalid argument", "Too many open files in system", "Too many open files",
     "Inappropriate ioctl for device", "Text file busy", "File too large",
     "No space left on device", "Illegal seek", "Read-only file system", "Too many links",
     "Broken pipe", "Numerical argument out of domain", "Numerical result out of range",
     "Resource deadlock avoided", "File name too long", "No locks available",
     "Function not implemented", "Directory not empty", "Too many levels of symbolic links", "",
     "No message of desired type", "Identifier removed", "Channel number out of range",
     "Level 2 not synchronized", "Level 3 halted", "Level 3 reset", "Link number out of range",
     "Protocol driver not attached", "No CSI structure available", "Level 2 halted",
     "Invalid exchange", "Invalid request descriptor", "Exchange full", "No anode",
     "Invalid request code", "Invalid slot", "", "Bad font file format", "Device not a stream",
     "No data available", "Timer expired", "Out of streams resources",
     "Machine is not on the network", "Package not installed", "Object is remote",
     "Link has been severed", "Advertise error", "Srmount error", "Communication error on send",
     "Protocol error", "Multihop attempted", "RFS specific error", "Bad message",
     "Value too large for defined data type", "Name not unique on network",
     "File descriptor in bad state", "Remote address changed",
     "Can not access a needed shared library", "Accessing a corrupted shared library",
     ".lib section in a.out corrupted", "Attempting to link in too many shared libraries",
     "Cannot exec a shared library directly",
     "Invalid or incomplete multibyte or wide character",
     "Interrupted system call should be restarted", "Streams pipe error", "Too many users",
     "Socket operation on non-socket", "Destination address required", "Message too long",
     "Protocol wrong type for socket", "Protocol not available", "Protocol not supported",
     "Socket type not supported", "Operation not supported", "Protocol family not supported",
     "Address family not supported by protocol", "Address already in use",
     "Cannot assign requested address", "Network is down", "Network is unreachable",
     "Network dropped connection on reset", "Software caused connection abort",
     "Connection reset by peer", "No buffer space available",
     "Transport endpoint is already connected", "Transport endpoint is not connected",
     "Cannot send after transport endpoint shutdown", "Too many references: cannot splice",
     "Connection timed out", "Connection refused", "Host is down", "No route to host",
     "Operation already in progress", "Operation now in progress", "Stale file handle",
     "Structure needs cleaning", "Not a XENIX named type file", "No XENIX semaphores available",
     "Is a named type file", "Remote I/O error", "Disk quota exceeded", "No medium found",
     "Wrong medium type", "Operation canceled", "Required key not available", "Key has expired",
     "Key has been revoked", "Key was rejected by service", "Owner died",
     "State not recoverable", "Operation not possible due to RF-kill",
     "Memory page has hardware error" ]

def description (number : Int) : String :=
  let known := if number < 0 then "" else descriptions.getD number.toNat ""
  if known = "" then "Unknown error " ++ Text.signedDecimal number else known

def message : Cause → String
  | .system number =>
      description number ++ " (os error " ++ Text.signedDecimal number ++ ")"
  | .notText => "stream did not contain valid UTF-8"
  | .emptyPath => "cannot make an empty path absolute"
  | .interiorNul => "file name contained an unexpected NUL byte"
  | .nulInCommand => "nul byte found in provided data"
  | .notRegularFile =>
      "the source path is neither a regular file nor a symlink to a regular file"
  | .reported message => message

end Cause

end SnippetSandbox.FileSystem
