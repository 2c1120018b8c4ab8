namespace Emplace

inductive SystemError
  | noSuchFile
  | permissionDenied
  | fileExists
  | notADirectory
  | isADirectory
  | invalidArgument
  | argumentsTooLong
  | nameTooLong
  | tooManyLinks
  | addressInUse
  | addressNotAvailable
  | networkUnreachable
  | connectionRefused
  | invalidUtf8
  | invalidSocketAddress
  | invalidPort
  | nulByte
  | nulInName
  | lookupFailed
  | unknownName
  | described (text : String)
  deriving DecidableEq, Repr, Inhabited

namespace SystemError

def lookup (text : String) : String := s!"failed to lookup address information: {text}"

def wording : SystemError → String × Option Nat
  | .noSuchFile => ("No such file or directory", some 2)
  | .argumentsTooLong => ("Argument list too long", some 7)
  | .permissionDenied => ("Permission denied", some 13)
  | .fileExists => ("File exists", some 17)
  | .notADirectory => ("Not a directory", some 20)
  | .isADirectory => ("Is a directory", some 21)
  | .invalidArgument => ("Invalid argument", some 22)
  | .nameTooLong => ("File name too long", some 36)
  | .tooManyLinks => ("Too many levels of symbolic links", some 40)
  | .addressInUse => ("Address already in use", some 98)
  | .addressNotAvailable => ("Cannot assign requested address", some 99)
  | .networkUnreachable => ("Network is unreachable", some 101)
  | .connectionRefused => ("Connection refused", some 111)
  | .invalidUtf8 => ("stream did not contain valid UTF-8", none)
  | .invalidSocketAddress => ("invalid socket address", none)
  | .invalidPort => ("invalid port value", none)
  | .nulByte => ("nul byte found in provided data", none)
  | .nulInName => ("file name contained an unexpected NUL byte", none)
  | .lookupFailed => (lookup "Temporary failure in name resolution", none)
  | .unknownName => (lookup "Name or service not known", none)
  | .described text => (text, none)

def words (e : SystemError) : String := e.wording.1

def text (e : SystemError) : String :=
  match e.wording with
  | (words, some number) => s!"{words} (os error {number})"
  | (words, none) => words

end SystemError

end Emplace
