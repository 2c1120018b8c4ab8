namespace Emplace.Http

structure MediaType where
  kind : List Char
  subtype : List Char
  /-- What stands behind the last plus sign that follows something. -/
  suffix : Option (List Char)
  deriving DecidableEq, Repr, Inhabited

namespace MediaType

def isTokenChar (c : Char) : Bool :=
  c.isAlphanum ||
    ['!', '#', '$', '%', '&', '\x27', '*', '+', '-', '.', '^', '_', '\x60', '|', '~'].contains c

def isQuotable (c : Char) : Bool := 0x1F < c.toNat && c.toNat != 0x7F

def isHeaderText (c : Char) : Bool := (0x20 ≤ c.toNat && c.toNat < 0x7F) || c == '\t'

inductive Progress
  | betweenParameters
  | inName
  | beforeValue
  | inValue
  | openedQuote
  | inQuote
  | closedQuote
  deriving DecidableEq, Repr, Inhabited

def Progress.next (c : Char) : Progress → Option Progress
  | .betweenParameters =>
    if c == ' ' then some .betweenParameters
    else if isTokenChar c then some .inName
    else none
  | .inName =>
    if c == '=' then some .beforeValue
    else if isTokenChar c then some .inName
    else none
  | .beforeValue =>
    if c == '"' then some .openedQuote
    else if isTokenChar c then some .inValue
    else none
  | .inValue =>
    if c == ';' then some .betweenParameters
    else if isTokenChar c then some .inValue
    else none
  | .openedQuote => if isQuotable c then some .inQuote else none
  | .inQuote =>
    if c == '"' then some .closedQuote
    else if isQuotable c then some .inQuote
    else none
  | .closedQuote =>
    if c == ' ' then some .closedQuote
    else if c == ';' then some .betweenParameters
    else none

def Progress.mayEnd : Progress → Bool
  | .betweenParameters | .beforeValue | .inValue | .closedQuote => true
  | .inName | .openedQuote | .inQuote => false

def Progress.run : Progress → List Char → Option Progress
  | p, [] => some p
  | p, c :: rest => (p.next c).bind fun q => q.run rest

def parametersOk (cs : List Char) : Bool :=
  ((Progress.betweenParameters.run cs).map Progress.mayEnd).getD false

/-- The subtype up to its last plus sign, and the suffix behind it. A plus sign in front of everything starts no
suffix. -/
def splitSuffix (cs : List Char) : List Char × Option (List Char) :=
  match cs.reverse.span (· != '+') with
  | (suffix, '+' :: stem) => if stem.isEmpty then (cs, none) else (stem.reverse, some suffix.reverse)
  | _ => (cs, none)

def ofText? (text : String) : Option MediaType :=
  match text.toList.span (· != '/') with
  | (kind, '/' :: rest) =>
    let (subtype, parameters) := rest.span (· != ';')
    let wellFormed := match parameters with
      | [] => true
      | _ :: parameters => !subtype.isEmpty && parametersOk parameters
    if text.toList.all isHeaderText && !kind.isEmpty && kind.all isTokenChar && subtype.all isTokenChar &&
        wellFormed then
      let (stem, suffix) := splitSuffix (subtype.map Char.toLower)
      some ⟨kind.map Char.toLower, stem, suffix⟩
    else none
  | _ => none

def isJson (t : MediaType) : Bool :=
  t.kind == "application".toList && (t.subtype == "json".toList || t.suffix == some "json".toList)

end MediaType

end Emplace.Http
