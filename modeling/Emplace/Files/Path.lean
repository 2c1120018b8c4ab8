import Emplace.Text.Blank
import Emplace.Text.Utf8

namespace Emplace.Files

def components (path : String) : List String :=
  ((path.toList.splitOn '/').filter (· ≠ [])).map String.ofList

def isAbsolute (path : String) : Bool := path.toList.head? == some '/'

def endsInSlash (path : String) : Bool := path.toList.getLast? == some '/'

/-- The steps along a path: its names, and one on the spot if a slash ends it, for which a folder is needed as for
any step. -/
def steps (path : String) : List String :=
  components path ++ if endsInSlash path then ["."] else []

def parents (path : String) : List String := ((components path).filter (· ≠ ".")).dropLast

def join (path name : String) : String :=
  if endsInSlash path then path ++ name else path ++ "/" ++ name

/-- Whether the last name of a path ends in an extension, with something before the dot. -/
def hasExtension (extension path : String) : Bool :=
  match (components path).getLast? with
  | none => false
  | some name =>
    match Text.stripEnd? ('.' :: extension.toList) name.toList with
    | some stem => !stem.isEmpty
    | none => false

end Emplace.Files
