/-!
# Why a file operation fails

The causes for which reading or writing files fails, each with the words and the number that the
operating system has for it.  Two causes are told by words alone: a path that no file can have, and a
file that is no text.
-/

namespace Gamebook.FileTree

/-- A cause for which a file operation fails. -/
inductive Failure where
  /-- There is nothing at the path. -/
  | notFound
  /-- What is to be changed is in use. -/
  | busy
  /-- There is something at the path already. -/
  | alreadyThere
  /-- The path leads through something that is no directory. -/
  | notDirectory
  /-- A directory stands where a file is wanted. -/
  | isDirectory
  /-- A name of the path, or all of it, is too long. -/
  | nameTooLong
  /-- The path holds a null character. -/
  | nullInPath
  /-- The bytes of the file are no text. -/
  | notText
  /-- The operating system refuses for a cause that the files do not show. -/
  | refused (words number : String)
  deriving DecidableEq, Repr

/-- The number of an error of the operating system after the words for it. -/
def osError (words number : String) : String := words ++ " (os error " ++ number ++ ")"

/-- What is said of a cause. -/
def Failure.message : Failure → String
  | notFound => osError "No such file or directory" "2"
  | busy => osError "Device or resource busy" "16"
  | alreadyThere => osError "File exists" "17"
  | notDirectory => osError "Not a directory" "20"
  | isDirectory => osError "Is a directory" "21"
  | nameTooLong => osError "File name too long" "36"
  | nullInPath => "file name contained an unexpected NUL byte"
  | notText => "stream did not contain valid UTF-8"
  | refused words number => osError words number

end Gamebook.FileTree
