import LocalProxy.Json.Reader
import LocalProxy.Text.Utf8

/-! Requests to the control interface: what a valid one is, its query parameters and the type
of its body. -/
namespace LocalProxy.Api

open Text

/-- A request. Header names are in lower case; `upgradable` says that the connection can be
handed over to another protocol. -/
structure Request where
  method : String
  path : String
  query : Option String
  headers : List (String × Bytes)
  body : Bytes
  upgradable : Bool := false
deriving DecidableEq, Repr

/-- The characters of method and header names. -/
def isTokenChar (c : Char) : Bool :=
  c.isAlphanum || "!#$%&'*+-.^_|~".toList.contains c || c.toNat == 0x60

def isToken (s : String) : Bool := s ≠ "" && s.toList.all isTokenChar

/-- A header value holds no control characters apart from tabs. -/
def isFieldValue (v : Bytes) : Bool := v.all fun b => (32 ≤ b && b ≠ 127) || b == 9

/-- The characters that may stand for themselves in a path. -/
def isPathChar (c : Char) : Bool :=
  let n := c.toNat
  n == 0x21 || (0x24 ≤ n && n ≤ 0x3B) || n == 0x3D || (0x40 ≤ n && n ≤ 0x5F) ||
    (0x61 ≤ n && n ≤ 0x7A) || n == 0x7C || n ≥ 0x7E || n == 0x22 || n == 0x7B || n == 0x7D

def isQueryChar (c : Char) : Bool :=
  let n := c.toNat
  n == 0x21 || (0x24 ≤ n && n ≤ 0x3B) || n == 0x3D || n ≥ 0x3F

/-- Path and query of a request line's target, without the fragment. -/
def splitTarget? (s : String) : Option (String × Option String) :=
  let cs := s.toList.takeWhile (· ≠ '#')
  match cs.span (· ≠ '?') with
  | (path, rest) =>
    if path.head? ≠ some '/' ∨ !path.all isPathChar then none
    else match rest with
      | [] => some (.ofList path, none)
      | _ :: query =>
        if query.all isQueryChar then some (.ofList path, some (.ofList query)) else none

namespace Request

/-- The request of a request line, headers and a body, if these are valid. -/
def of? (method target : String) (headers : List (String × Bytes)) (body : Bytes) :
    Option Request := do
  let (path, query) ← splitTarget? target
  if isToken method ∧ headers.all fun (name, value) => isToken name && isFieldValue value then
    return {
      method := method
      path := path
      query := query
      headers := headers.map fun (name, value) => (lower name, value)
      body := body }
  else none

def fieldValues (r : Request) (name : String) : List Bytes :=
  r.headers.filterMap fun (n, v) => if n = name then some v else none

end Request

/-- The text of a header value that holds visible ASCII characters, blanks and tabs only. -/
def asciiText? (v : Bytes) : Option String :=
  if v.all fun b => (32 ≤ b && b < 127) || b == 9 then
    some (.ofList (v.map fun b => Char.ofNat b.toNat))
  else none

namespace Request

/-- The elements of a header, separated by commas. -/
def elements (r : Request) (name : String) : List String :=
  ((r.fieldValues name).filterMap asciiText?).flatMap fun v => (fields ',' v).map trim

/-- Asks to go on as a WebSocket. -/
def wantsWebSocket (r : Request) : Bool :=
  (r.elements "connection").any (sameLetters "upgrade") &&
    (r.elements "upgrade").any (sameLetters "websocket")

/-- Asks for a WebSocket in full, over a connection that can become one. -/
def opensWebSocket (r : Request) : Bool :=
  r.upgradable && r.method == "GET" && r.wantsWebSocket &&
    (r.fieldValues "sec-websocket-version").head? == some (utf8 "13") &&
    !(r.fieldValues "sec-websocket-key").isEmpty

end Request

/-- Replaces each `%` and two hexadecimal digits by the octet. -/
def percentDecode : Bytes → Bytes
  | 0x25 :: a :: b :: rest =>
    match digitValue 16 (Char.ofNat a.toNat), digitValue 16 (Char.ofNat b.toNat) with
    | some x, some y => (x * 16 + y).toUInt8 :: percentDecode rest
    | _, _ => 0x25 :: percentDecode (a :: b :: rest)
  | x :: rest => x :: percentDecode rest
  | [] => []

def decodeWord (s : List Char) : String :=
  ofUtf8Lossy (percentDecode (utf8 (.ofList (s.map fun c => if c = '+' then ' ' else c))))

/-- The parameters of a query, in order. -/
def queryPairs (query : Option String) : List (String × String) :=
  ((pieces '&' (query.getD "").toList).filter (· ≠ [])).map fun piece =>
    match piece.span (· ≠ '=') with
    | (name, []) => (decodeWord name, "")
    | (name, _ :: value) => (decodeWord name, decodeWord value)

/-- A query that names a parameter more than once does not tell its value. -/
inductive Parameter
  | absent
  | value (s : String)
  | repeated
deriving DecidableEq, Repr

def Request.parameter (r : Request) (name : String) : Parameter :=
  match (queryPairs r.query).filter (·.1 = name) with
  | [] => .absent
  | [(_, v)] => .value v
  | _ => .repeated

/-- The parameters of a media type after its name. -/
def areMediaParameters : Nat → List Char → Bool
  | 0, _ => false
  | _, [] => true
  | fuel + 1, ' ' :: rest => areMediaParameters fuel rest
  | fuel + 1, s =>
    match s.span isTokenChar with
    | ([], _) => false
    | (_, '=' :: '"' :: rest) =>
      match rest.span (· ≠ '"') with
      | (_, _ :: after) =>
        match after.dropWhile (· == ' ') with
        | [] => true
        | ';' :: after => areMediaParameters fuel after
        | _ => false
      | _ => false
    | (_, '=' :: rest) =>
      match rest.span isTokenChar with
      | ([], _) => false
      | (_, []) => true
      | (_, ';' :: after) => areMediaParameters fuel after
      | _ => false
    | _ => false

/-- A media type that says JSON, by its name or by a `+json` at its end. -/
def isJsonType (s : String) : Bool :=
  match (s.toList.map Char.toLower).span (· ≠ '/') with
  | (main, _ :: rest) =>
    let (sub, after) := rest.span fun c => c ≠ ';' && c ≠ ' '
    main == "application".toList && sub.all isTokenChar &&
      (sub == "json".toList || (sub.length > 5 && "+json".toList.isSuffixOf sub)) &&
      areMediaParameters (after.length + 1) (after.drop 1)
  | _ => false

/-- Why a body was not taken. -/
inductive BodyFault
  | mediaType
  | tooLarge
  | json (fault : Json.Fault)
deriving DecidableEq, Repr

/-- The most octets a body may have. -/
def maxBody : Nat := 2 * 1024 * 1024

def Request.json {α : Type} (r : Request) (reader : Json.Reader α) : Except BodyFault α :=
  if !(((r.fieldValues "content-type").head?.bind asciiText?).any isJsonType) then .error .mediaType
  else if maxBody < r.body.length then .error .tooLarge
  else match Json.readWhole reader r.body with
    | .ok a => .ok a
    | .error fault => .error (.json fault)

end LocalProxy.Api
