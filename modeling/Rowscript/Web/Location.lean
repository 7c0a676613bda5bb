import Rowscript.Number.Integer
import Rowscript.Text.Quoted

/-!
# Locations

A request names its location: an address with a scheme and a host, or a path on this server.
The path of a location is what remains when the scheme, the authority, the query and the
fragment have been cut off, parts of one or two dots have been followed, and escaped
characters have been decoded.
-/

namespace Rowscript.Web

/-- Why a request has no location. -/
inductive LocationError where
  | tooLong
  /-- There is a control character at an index. -/
  | controlCharacter (c : Char) (index : Nat)
  /-- A path on this server begins with two slashes. -/
  | doubleSlash
  /-- A path on this server begins with a colon. -/
  | colon
  /-- The port is no whole number. -/
  | invalidPort (port : Text)
  /-- The scheme is not known. -/
  | unknownScheme (scheme : Text)
  deriving DecidableEq, Repr

/-- The text of an error in a location. -/
def LocationError.message : LocationError → Text
  | .tooLong => "URL too long".toList
  | .controlCharacter c index =>
    "Invalid non-printable ASCII character in URL, ".toList ++ Text.quoted [c] ++
      " at position ".toList ++ Number.renderNat index ++ ".".toList
  | .doubleSlash => "Relative URLs cannot have a path starting with '//'".toList
  | .colon => "Relative URLs cannot have a path starting with ':'".toList
  | .invalidPort port => "Invalid port: ".toList ++ Text.quoted port
  | .unknownScheme scheme => Text.quoted scheme

/-- The most characters a location may have. -/
def locationLimit : Nat := 65536

/-- Whether a character is a control character of ASCII. -/
def isControl (c : Char) : Bool := c.toNat < 32 || c.toNat = 127

/-- The parts of a location. The scheme is in lower case. Parts that are not there are
empty. -/
structure Location where
  scheme : Text
  /-- Whether there are a user, a host or a port. -/
  hasAuthority : Bool
  host : Text
  path : Text
  deriving DecidableEq, Repr

/-- Whether a character may stand in a scheme after its first letter. -/
def isSchemeChar (c : Char) : Bool := c.isAlphanum || ['+', '.', '-'].contains c

/-- Splits off a scheme with the colon after it. The scheme may be empty. -/
def splitScheme (t : Text) : Text × Text :=
  match t.span isSchemeChar with
  | ([], ':' :: rest) => ([], rest)
  | (first :: more, ':' :: rest) => if first.isAlpha then (first :: more, rest) else ([], t)
  | _ => ([], t)

/-- Whether a character ends a path. -/
def endsPath (c : Char) : Bool := c = '?' || c = '#'

/-- Whether a character ends an authority. -/
def endsAuthority (c : Char) : Bool := c = '/' || endsPath c

/-- Splits off an authority with the two slashes before it. -/
def splitAuthority : Text → Text × Text
  | '/' :: '/' :: rest => rest.span fun c => !endsAuthority c
  | t => ([], t)

/-- What follows the last at sign of an authority: host and port. -/
def afterUser (authority : Text) : Text :=
  (authority.reverse.takeWhile (· ≠ '@')).reverse

/-- Splits host and port; the host may be in brackets, and the colon between the two may be
missing. -/
def splitPort (t : Text) : Text × Text :=
  let closing := (t.reverse.dropWhile (· ≠ ']')).reverse
  let (host, rest) := if t.head? = some '[' && closing ≠ [] then (closing, t.drop closing.length)
    else t.span (· ≠ ':')
  (host, if rest.head? = some ':' then rest.drop 1 else rest)

/-- Reads a port, if there is one, and gives whether there is. The usual port of a scheme
counts as none. -/
def readPort (scheme port : Text) : Except LocationError Bool :=
  if port = [] then .ok false
  else match Number.readInt? port with
    | none => .error (.invalidPort port)
    | some n =>
      let usual : List (Text × Int) := [("ftp".toList, 21), ("http".toList, 80),
        ("https".toList, 443), ("ws".toList, 80), ("wss".toList, 443)]
      .ok (usual.lookup scheme ≠ some n)

/-- The parts between the slashes of a path that remain, reversed, when parts of one dot have
been dropped and parts of two dots have dropped the part before them. -/
def followDots (kept : List Text) : List Text → List Text
  | [] => kept
  | part :: rest =>
    if part = ".".toList then followDots kept rest
    else if part = "..".toList then
      followDots (if kept = [] || kept = [[]] then kept else kept.drop 1) rest
    else followDots (part :: kept) rest

/-- A path without parts of one or two dots. -/
def removeDots (path : Text) : Text :=
  Text.join ['/'] (followDots [] (Text.splitOn '/' path)).reverse

namespace Location

/-- Reads a location. -/
def read (t : Text) : Except LocationError Location := do
  if locationLimit < t.length then throw .tooLong
  match t.findIdx? isControl with
  | some index => throw (.controlCharacter (t.getD index ' ') index)
  | none => pure ()
  let (scheme, rest) := splitScheme t
  let (authority, rest) := splitAuthority rest
  let path := rest.takeWhile fun c => !endsPath c
  let (host, port) := splitPort (afterUser authority)
  let hasPort ← readPort (scheme.map Char.toLower) port
  let user := authority.take (authority.length - (afterUser authority).length - 1)
  let hasAuthority := user ≠ [] || host ≠ [] || hasPort
  if scheme = [] && !hasAuthority then
    if Text.startsWith "//".toList path then throw .doubleSlash
    if Text.startsWith ":".toList path then throw .colon
    return ⟨[], false, host, path⟩
  return ⟨scheme.map Char.toLower, hasAuthority, host, removeDots path⟩

/-- Whether a location names its server itself. -/
def isAbsolute (location : Location) : Bool := location.scheme ≠ [] && location.host ≠ []

/-- The path on the server, beginning with a slash. -/
def serverPath (location : Location) : Text :=
  if location.isAbsolute then if location.path = [] then ['/'] else location.path
  else
    let path := removeDots ('/' :: location.path.dropWhile (· = '/'))
    if path = [] then ['/'] else path

end Location

/-- Replaces each percent sign with two hexadecimal digits by the character with that code.
Codes outside of ASCII stand for parts of characters, none of which occurs in a route. -/
def decodeEscapes : Text → Text
  | '%' :: a :: b :: rest =>
    match Text.hexValue? a, Text.hexValue? b with
    | some high, some low => Char.ofNat (16 * high + low) :: decodeEscapes rest
    | _, _ => '%' :: decodeEscapes (a :: b :: rest)
  | c :: rest => c :: decodeEscapes rest
  | [] => []
termination_by t => t.length

/-- Whether requests can be sent by a scheme. -/
def isWebScheme (scheme : Text) : Bool := scheme = "http".toList || scheme = "https".toList

/-- The path on the server that a request names. Escapes are decoded twice: once where the
request is sent and once where it arrives. -/
def requestPath (target : Text) : Except LocationError Text := do
  let location ← Location.read target
  if location.isAbsolute && !isWebScheme location.scheme then
    throw (.unknownScheme location.scheme)
  return decodeEscapes (decodeEscapes location.serverPath)

end Rowscript.Web
