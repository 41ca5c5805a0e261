/-!
# Faults of the file system

- `Files.Fault`: why the file system refuses a request;
- `Files.Fault.message`: what it says of that.
-/

namespace FetchClient.Files

inductive Fault where
  /-- Nothing is there. -/
  | notFound
  /-- The last component is `.` or `..`, which nothing can take the place of. -/
  | busy
  /-- Something is there already. -/
  | occupied
  /-- A component on the way is not a directory. -/
  | notDirectory
  /-- A directory is there. -/
  | isDirectory
  /-- A component has more than 255 bytes, or the whole path more than 4095. -/
  | nameTooLong
  /-- More than forty links on the way. -/
  | tooManyLinks
  /-- The path holds a NUL character. -/
  | nulInPath
  /-- The bytes of the file are no text. -/
  | notText
  deriving DecidableEq, Repr

def Fault.message : Fault → String
  | notFound => "No such file or directory (os error 2)"
  | busy => "Device or resource busy (os error 16)"
  | occupied => "File exists (os error 17)"
  | notDirectory => "Not a directory (os error 20)"
  | isDirectory => "Is a directory (os error 21)"
  | nameTooLong => "File name too long (os error 36)"
  | tooManyLinks => "Too many levels of symbolic links (os error 40)"
  | nulInPath => "file name contained an unexpected NUL byte"
  | notText => "stream did not contain valid UTF-8"

end FetchClient.Files
