/-!
# Faults of files and streams

The ways in which reading or writing can fail, with the words the system uses for each.
-/

namespace Groundwork

/-- Why a file or a stream could not be read or written. -/
inductive IoFault where
  | noEntry
  | accessDenied
  | notDirectory
  | isDirectory
  | nameTooLong
  | linkLoop
  | nulInName
  | notText
  | endOfInput
  | full
  | other (message : String)
  deriving DecidableEq

/-- The words for a fault. -/
def IoFault.message : IoFault → String
  | .noEntry => "No such file or directory (os error 2)"
  | .accessDenied => "Permission denied (os error 13)"
  | .notDirectory => "Not a directory (os error 20)"
  | .isDirectory => "Is a directory (os error 21)"
  | .nameTooLong => "File name too long (os error 36)"
  | .linkLoop => "Too many levels of symbolic links (os error 40)"
  | .nulInName => "file name contained an unexpected NUL byte"
  | .notText => "stream did not contain valid UTF-8"
  | .endOfInput => "unexpected end of input"
  | .full => "sink full"
  | .other message => message

end Groundwork
