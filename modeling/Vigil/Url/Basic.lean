import Vigil.Url.Host

/-!
# Addresses of services

An address names a host, perhaps with a port, and a path on it.  `parse?` reads one, and `text` is its
normal form: without credentials, with steps up and down in the path taken, and with characters in
percent form that may not stand there.
-/

namespace Vigil

/-- The address of a service that is reached over the web. -/
structure Url where
  secure : Bool
  host : String
  port : Option Nat
  path : List String
  query : Option String
  fragment : Option String
deriving DecidableEq, Repr

namespace Url

/-! ## Characters -/

/-- A byte in percent form. -/
def percent (b : UInt8) : List Char :=
  let ds := (Nat.toDigits 16 b.toNat).map Char.toUpper
  '%' :: List.replicate (2 - ds.length) '0' ++ ds

/-- A text in which controls, what is not ASCII and some other characters are in percent form. -/
def escaped (others : String) (s : List Char) : String :=
  String.ofList ((Text.toBytes (String.ofList s)).flatMap fun b =>
    let c := Char.ofNat b.toNat
    if b < 32 || 126 < b || others.toList.contains c then percent b else [c])

/-- The characters that may not stand in a fragment. -/
def outsideFragments : String := " \"<>\x60"

/-- The characters that may not stand in a path. -/
def outsidePaths : String := outsideFragments ++ "#?\x7b\x7d"

/-- The characters that may not stand in a query. -/
def outsideQueries : String := " \"#<>\x27"

/-! ## Paths -/

/-- Is the part a step that changes nothing? -/
def isHere (part : List Char) : Bool :=
  let p := part.map Char.toLower
  p = ['.'] || p = "%2e".toList

/-- Is the part a step up? -/
def isUp (part : List Char) : Bool :=
  let p := part.map Char.toLower
  ["..", ".%2e", "%2e.", "%2e%2e"].any (·.toList == p)

/-- Take the steps in the parts of a path; `before` holds the parts so far, the last one first. -/
def takeSteps (before : List String) : List (List Char) → List String
  | [] => before.reverse
  | part :: rest =>
    let last := rest.isEmpty
    if isUp part then takeSteps (if last then "" :: before.tail else before.tail) rest
    else if isHere part then takeSteps (if last then "" :: before else before) rest
    else takeSteps (escaped outsidePaths part :: before) rest

/-- The parts of a path behind its host. -/
def pathOf (s : List Char) : List String :=
  match s with
  | [] => [""]
  | _ :: rest => takeSteps [] (splitAtAny ['/', '\\'] rest)

/-! ## Addresses -/

/-- A text without what a reader of addresses passes over. -/
def cleaned (s : List Char) : List Char :=
  let outside (c : Char) : Bool := c ≤ ' '
  let s := ((s.dropWhile outside).reverse.dropWhile outside).reverse
  s.filter fun c => c != '\t' && c != '\n' && c != '\r'

/-- What stands behind a scheme, and whether that is the secure one. -/
def afterScheme? (s : List Char) : Option (Bool × List Char) :=
  let scheme := s.takeWhile (· != ':')
  let rest := s.drop (scheme.length + 1)
  match String.ofList (scheme.map Char.toLower) with
  | "http" => if scheme.length < s.length then some (false, rest) else none
  | "https" => if scheme.length < s.length then some (true, rest) else none
  | _ => none

/-- The host and the port in an authority; the port is behind the first colon that is not in
brackets. -/
def splitPort (inside : Bool) : List Char → List Char × Option (List Char)
  | [] => ([], none)
  | c :: rest =>
    if c == ':' && !inside then ([], some rest)
    else
      let (host, port) := splitPort (if c == '[' then true else if c == ']' then false else inside) rest
      (c :: host, port)

/-- The number of a port, unless it is the usual one; `none` if it is no port. -/
def port? (usual : Nat) (s : List Char) : Option (Option Nat) :=
  if !s.all Char.isDigit then none
  else
    let n := Nat.ofDigitChars 10 s 0
    if 65535 < n then none
    else if s.isEmpty || n == usual then some none
    else some (some n)

/-- Read an address. -/
def parse? (text : String) : Option Url := do
  let (secure, rest) ← afterScheme? (cleaned text.toList)
  let slash (c : Char) : Bool := c == '/' || c == '\\'
  let rest := rest.dropWhile slash
  let authority := rest.takeWhile fun c => !slash c && c != '?' && c != '#'
  let (hostText, portText) := splitPort false (authority.reverse.takeWhile (· != '@')).reverse
  let host ← if hostText.isEmpty then none else host? hostText
  let port ← port? (if secure then 443 else 80) (portText.getD [])
  let rest := rest.drop authority.length
  let path := rest.takeWhile fun c => c != '?' && c != '#'
  let rest := rest.drop path.length
  let query := rest.takeWhile (· != '#')
  let fragment := rest.drop query.length
  return {
    secure, host, port
    path := pathOf path
    query := if query.isEmpty then none else some (escaped outsideQueries query.tail)
    fragment := if fragment.isEmpty then none else some (escaped outsideFragments fragment.tail) }

/-- The normal form of an address. -/
def text (u : Url) : String :=
  (if u.secure then "https://" else "http://") ++ u.host ++
    (match u.port with
      | some n => s!":{n}"
      | none => "") ++
    "/" ++ String.intercalate "/" u.path ++
    (match u.query with
      | some q => "?" ++ q
      | none => "") ++
    (match u.fragment with
      | some f => "#" ++ f
      | none => "")

end Url

end Vigil
