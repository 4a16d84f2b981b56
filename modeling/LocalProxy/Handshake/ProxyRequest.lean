import LocalProxy.Handshake.Exchange

/-! The requests an HTTP proxy takes: to connect to a host, or to forward a request that names
its host in the request line. The head of the latter is made anew for that host. -/
namespace LocalProxy

inductive ProxyRequest
  | connect (target : Target)
  | forward (target : Target) (head : Bytes)
deriving DecidableEq, Repr

namespace ProxyRequest

open Text

/-- The lines between the ends CR LF. -/
def lines : List Char → List (List Char)
  | [] => [[]]
  | '\r' :: '\n' :: rest => [] :: lines rest
  | c :: rest =>
    match lines rest with
    | [] => [[c]]
    | line :: more => (c :: line) :: more

/-- The words between blanks. -/
def words : List Char → List (List Char)
  | [] => []
  | c :: rest =>
    if isBlank c then words rest
    else match rest.head?, words rest with
      | some d, word :: more => if isBlank d then [c] :: word :: more else (c :: word) :: more
      | _, more => [c] :: more

structure Line where
  method : String
  uri : String
  version : String
deriving DecidableEq, Repr

/-- The first three words of a line; more words are passed over. -/
def Line.parse? (line : List Char) : Option Line :=
  match words line with
  | method :: uri :: version :: _ => some ⟨.ofList method, .ofList uri, .ofList version⟩
  | _ => none

/-- Splits `http://authority/path`; without a path it is `/`. -/
def absoluteForm? (uri : String) : Option (String × String) :=
  (stripStart "http://" uri).map fun rest =>
    match rest.toList.span (· ≠ '/') with
    | (authority, []) => (.ofList authority, "/")
    | (authority, path) => (.ofList authority, .ofList path)

def defaultPort : UInt16 := 80

/-- The text without the brackets around it, however many there are. -/
def withoutBrackets (s : String) : String :=
  .ofList ((s.toList.dropWhile (· == '[')).reverse.dropWhile (· == ']')).reverse

/-- The host and port of an authority. What is no target with a port is all host. -/
def authorityTarget (authority : String) : Except ProtocolFault Target :=
  if authority = "" then .error .emptyHost
  else match Target.parse authority with
    | .ok target => .ok target
    | .error _ =>
      let host := withoutBrackets authority
      match IpAddress.parse? host with
      | some ip => .ok (.address (.ofIp ip defaultPort))
      | none => .ok (.domain host defaultPort)

/-- The fields that speak to the proxy alone. -/
def proxyFields : List String := ["proxy-connection", "proxy-authorization"]

def fieldName (line : List Char) : String := trim (.ofList (line.takeWhile (· ≠ ':')))

def isForProxy (line : List Char) : Bool := proxyFields.any (sameLetters · (fieldName line))

/-- The head for the host itself: the lines that hold something, less those for the proxy. -/
def headForHost (line : Line) (path : String) (fields : List (List Char)) : String :=
  let kept := fields.filter fun f => f ≠ [] && !isForProxy f
  line.method ++ " " ++ path ++ " " ++ line.version ++ "\r\n" ++
    String.join (kept.map fun f => .ofList f ++ "\r\n") ++ "\r\n"

def ofText (text : String) : Except ProtocolFault ProxyRequest :=
  match lines text.toList with
  | [] => .error .requestLine
  | first :: fields =>
    match Line.parse? first with
    | none => .error .requestLine
    | some line =>
      if sameLetters line.method "CONNECT" then
        match Target.parse line.uri with
        | .ok target => .ok (.connect target)
        | .error fault => .error (.target fault)
      else match absoluteForm? line.uri with
        | none => .error (.notProxyRequest line.uri)
        | some (authority, path) =>
          match authorityTarget authority with
          | .error fault => .error fault
          | .ok target => .ok (.forward target (utf8 (headForHost line path fields)))

/-- The request a whole head makes. -/
def parse (head : Bytes) : Except ProtocolFault ProxyRequest :=
  match ofUtf8? head with
  | none => .error .headNotText
  | some text => ofText text

end ProxyRequest

end LocalProxy
