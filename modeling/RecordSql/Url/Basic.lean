import RecordSql.Url.Host

/-!
# Connection URLs

A URL has a scheme, which names the dialect, and a query of parameters; its other parts are checked and left to the driver. Control
characters and spaces around a URL are dropped, and so are tabs and line breaks anywhere in it.
-/

namespace RecordSql

/-- What a session takes from a URL. -/
structure Url where
  scheme : String
  query : Option (List Char)

namespace Url

/-- The text without what is dropped from every URL. -/
def cleaned (cs : List Char) : List Char :=
  let isEdge := fun c : Char => c.toNat ≤ 32
  let inner := ((cs.dropWhile isEdge).reverse.dropWhile isEdge).reverse
  inner.filter fun c => c != '\t' && c != '\n' && c != '\r'

/-- The scheme in lower case and the text after its colon. -/
def scheme? (cs : List Char) : Option (List Char × List Char) :=
  let isSchemeChar := fun c : Char => c.isAlphanum || c == '+' || c == '-' || c == '.'
  let scheme := cs.takeWhile isSchemeChar
  match scheme, cs.dropWhile isSchemeChar with
  | first :: _, ':' :: rest => if first.isAlpha then some (scheme.map Char.toLower, rest) else none
  | _, _ => none

/-- The kinds of schemes, which differ in how a host is found. -/
inductive SchemeKind where
  | web
  | file
  | other
  deriving DecidableEq

/-- The kind of a scheme. -/
def schemeKind (scheme : String) : SchemeKind :=
  if ["http", "https", "ws", "wss", "ftp"].contains scheme then .web
  else if scheme = "file" then .file
  else .other

/-- Whether a character ends the authority of a URL. -/
def endsAuthority (kind : SchemeKind) (c : Char) : Bool :=
  c == '/' || c == '?' || c == '#' || (c == '\\' && kind != .other)

/-- The text after the last commercial at, and the text before it if there is one. -/
def cutUser (authority : List Char) : Option (List Char) × List Char :=
  let host := (authority.reverse.takeWhile (· != '@')).reverse
  if host.length = authority.length then (none, host)
  else (some (authority.take (authority.length - host.length - 1)), host)

/-- The host and the text after it. A colon ends a host outside brackets. -/
def cutHost (bracketed : Bool) : List Char → List Char × List Char
  | [] => ([], [])
  | c :: cs =>
    if c = ':' ∧ !bracketed then ([], c :: cs)
    else
      let (host, rest) := cutHost (if c = '[' then true else if c = ']' then false else bracketed) cs
      (c :: host, rest)

/-- Whether a text is what may follow the colon after a host: a number of at most 65535, or nothing. -/
def isServiceNumber (cs : List Char) : Bool :=
  match Text.digitsValue 0 (cs.takeWhile (· != '\\')) with
  | some n => n ≤ 65535
  | none => false

/-- Whether the authority of a URL is in order. `continues` tells whether text follows it. -/
def isAuthority (kind : SchemeKind) (continues : Bool) (authority : List Char) : Bool :=
  let (user, rest) := cutUser authority
  let (host, service) := cutHost false rest
  let isNamed := user.any fun u => u != [] && u != [':']
  let isValidHost := if kind = .other then isOpaqueHost host else isDomain host
  let isValidService :=
    match service with
    | ':' :: digits => !host.isEmpty && isServiceNumber digits
    | _ => true
  let emptyAllowed := kind == .other && !isNamed && !(user == some [] && continues)
  isValidHost && isValidService && (!host.isEmpty || emptyAllowed)

/-- Whether the host of a file is in order: none, a drive, or a domain. -/
def isFileHost (host : List Char) : Bool :=
  match host with
  | [] => true
  | [drive, mark] => (drive.isAlpha && (mark == ':' || mark == '|')) || isDomain host
  | _ => isDomain host

/-- Whether what follows the scheme is in order. -/
def isWellFormed (kind : SchemeKind) (rest : List Char) : Bool :=
  let isSlash := fun c => c == '/' || (c == '\\' && kind != .other)
  let authorityIn := fun cs : List Char =>
    let authority := cs.takeWhile (!endsAuthority kind ·)
    isAuthority kind (authority.length < cs.length) authority
  match kind with
  | .web => authorityIn (rest.dropWhile isSlash)
  | .file =>
    match rest with
    | a :: b :: cs => if isSlash a && isSlash b then isFileHost (cs.takeWhile (!endsAuthority kind ·)) else true
    | _ => true
  | .other =>
    match rest with
    | '/' :: '/' :: cs => authorityIn cs
    | _ => true

/-- The query: what stands between the first question mark and the fragment. -/
def query? (rest : List Char) : Option (List Char) :=
  match (rest.takeWhile (· != '#')).dropWhile (· != '?') with
  | _ :: query => some query
  | [] => none

/-- The URL that a text denotes. -/
def read? (text : String) : Option Url := do
  let (scheme, rest) ← scheme? (cleaned text.toList)
  let scheme := String.ofList scheme
  if isWellFormed (schemeKind scheme) rest then some ⟨scheme, query? rest⟩ else none

/-- The text of a parameter name or value: a plus sign is a space, and escapes are decoded. -/
def decodeParameter (cs : List Char) : String :=
  String.ofList (Text.decodeUtf8 (percentDecode (cs.map fun c => if c = '+' then ' ' else c)))

/-- The parameters of a query, in order. A parameter without an equals sign has an empty value. -/
def parameters (u : Url) : List (String × String) :=
  (Text.cutAt '&' (u.query.getD [])).filterMap fun part =>
    if part.isEmpty then none
    else some (decodeParameter (part.takeWhile (· != '=')), decodeParameter ((part.dropWhile (· != '=')).drop 1))

end Url

end RecordSql
