/-!
# What can go wrong outside the program

Most errors come from the operating system with a number, whose text is the one that Linux gives.
The others are found before the operating system is asked, or in what it gave.
-/

namespace Modlet

/-- The texts of the error numbers of Linux, from zero on; an empty text marks a number that is not
in use. -/
def errorTexts : List String := [
  "Success", "Operation not permitted", "No such file or directory", "No such process",
  "Interrupted system call", "Input/output error", "No such device or address",
  "Argument list too long", "Exec format error", "Bad file descriptor", "No child processes",
  "Resource temporarily unavailable", "Cannot allocate memory", "Permission denied", "Bad address",
  "Block device required", "Device or resource busy", "File exists", "Invalid cross-device link",
  "No such device", "Not a directory", "Is a directory", "Invalid argument",
  "Too many open files in system", "Too many open files", "Inappropriate ioctl for device",
  "Text file busy", "File too large", "No space left on device", "Illegal seek",
  "Read-only file system", "Too many links", "Broken pipe", "Numerical argument out of domain",
  "Numerical result out of range", "Resource deadlock avoided", "File name too long",
  "No locks available", "Function not implemented", "Directory not empty",
  "Too many levels of symbolic links", "", "No message of desired type", "Identifier removed",
  "Channel number out of range", "Level 2 not synchronized", "Level 3 halted", "Level 3 reset",
  "Link number out of range", "Protocol driver not attached", "No CSI structure available",
  "Level 2 halted", "Invalid exchange", "Invalid request descriptor", "Exchange full", "No anode",
  "Invalid request code", "Invalid slot", "", "Bad font file format", "Device not a stream",
  "No data available", "Timer expired", "Out of streams resources",
  "Machine is not on the network", "Package not installed", "Object is remote",
  "Link has been severed", "Advertise error", "Srmount error", "Communication error on send",
  "Protocol error", "Multihop attempted", "RFS specific error", "Bad message",
  "Value too large for defined data type", "Name not unique on network",
  "File descriptor in bad state", "Remote address changed",
  "Can not access a needed shared library", "Accessing a corrupted shared library",
  ".lib section in a.out corrupted", "Attempting to link in too many shared libraries",
  "Cannot exec a shared library directly", "Invalid or incomplete multibyte or wide character",
  "Interrupted system call should be restarted", "Streams pipe error", "Too many users",
  "Socket operation on non-socket", "Destination address required", "Message too long",
  "Protocol wrong type for socket", "Protocol not available", "Protocol not supported",
  "Socket type not supported", "Operation not supported", "Protocol family not supported",
  "Address family not supported by protocol", "Address already in use",
  "Cannot assign requested address", "Network is down", "Network is unreachable",
  "Network dropped connection on reset", "Software caused connection abort",
  "Connection reset by peer", "No buffer space available",
  "Transport endpoint is already connected", "Transport endpoint is not connected",
  "Cannot send after transport endpoint shutdown", "Too many references: cannot splice",
  "Connection timed out", "Connection refused", "Host is down", "No route to host",
  "Operation already in progress", "Operation now in progress", "Stale file handle",
  "Structure needs cleaning", "Not a XENIX named type file", "No XENIX semaphores available",
  "Is a named type file", "Remote I/O error", "Disk quota exceeded", "No medium found",
  "Wrong medium type", "Operation canceled", "Required key not available", "Key has expired",
  "Key has been revoked", "Key was rejected by service", "Owner died", "State not recoverable",
  "Operation not possible due to RF-kill", "Memory page has hardware error"]

/-- The text of an error number. -/
def errorText (code : Int) : String :=
  match code with
  | .ofNat n =>
    match errorTexts[n]? with
    | none | some "" => "Unknown error " ++ n.repr
    | some text => text
  | code => "Unknown error " ++ code.repr

/-- An error outside the program. -/
inductive IoError
  /-- The operating system refuses with the given number. -/
  | system (code : Int)
  /-- A text was wanted, but the bytes are not UTF-8. -/
  | notText
  /-- The name of a file holds the character that ends names. -/
  | nulInPath
  /-- A command or one of its arguments holds the character that ends them. -/
  | nulInCommand
deriving DecidableEq, Repr

namespace IoError

/-- There is no such file or directory. -/
def notFound : IoError := .system 2

/-- There is something, but it may not be used so. -/
def denied : IoError := .system 13

/-- A directory is wanted, but there is something else. -/
def notDirectory : IoError := .system 20

/-- A directory stands where a file is wanted. -/
def isDirectory : IoError := .system 21

/-- What is to be made is there already. -/
def alreadyThere : IoError := .system 17

/-- There is no such device. -/
def noDevice : IoError := .system 6

/-- The number stands for no open file. -/
def notOpen : IoError := .system 9

/-- A file may be run, but it is no program. -/
def noProgram : IoError := .system 8

/-- There cannot be another process. -/
def noProcess : IoError := .system 11

/-- There is no room left. -/
def noRoom : IoError := .system 28

/-- A directory that has something in it cannot be removed. -/
def notEmpty : IoError := .system 39

/-- Nobody reads what is written. -/
def noReader : IoError := .system 32

/-- A name is longer than names may be. -/
def nameTooLong : IoError := .system 36

/-- The wording of an error. -/
def message : IoError → String
  | .system code => errorText code ++ " (os error " ++ code.repr ++ ")"
  | .notText => "stream did not contain valid UTF-8"
  | .nulInPath => "file name contained an unexpected NUL byte"
  | .nulInCommand => "nul byte found in provided data"

end IoError

end Modlet
