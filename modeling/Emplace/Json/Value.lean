import Emplace.Text.Utf8

namespace Emplace

inductive Json
  | null
  | flag (b : Bool)
  | whole (n : Int)
  | real (x : Float)
  | text (s : String)
  | list (items : List Json)
  | object (members : List (String × Json))
  deriving Inhabited

namespace Json

inductive Fault
  | early
  | malformed
  | mismatched
  deriving DecidableEq, Repr, Inhabited

/-- A number that is not finite has no JSON form and is written as null. -/
def ofReal (x : Float) : Json := if x.isFinite then .real x else .null

end Json

end Emplace
