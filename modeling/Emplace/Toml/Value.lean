namespace Emplace.Toml

/-- A TOML value. Dates and times are accepted by the reader; no record holds one, so their value is not
kept. -/
inductive Value
  | text (s : String)
  | integer (n : Int)
  | real (x : Float)
  | flag (b : Bool)
  | moment
  | list (items : List Value)
  | table (entries : List (String × Value))
  deriving Inhabited

end Emplace.Toml
