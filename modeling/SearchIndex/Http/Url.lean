import SearchIndex.Number.Decimal

/-! URLs of requests. Text that becomes a path segment or a part of a query is percent-encoded
byte by byte. A whole URL is read leniently: blanks around it and line breaks in it do not count,
a backslash is a slash, the segments `.` and `..` are resolved, and what no URL may hold is
encoded. -/
namespace SearchIndex

/-- The URL of a request. -/
structure Url where
  /-- The scheme, the host and the port. -/
  origin : List Char
  /-- The path, which starts with a slash. -/
  path : List Char
  query : Option (List Char)

namespace Url

/-- The bytes of a character in UTF-8. -/
def utf8Bytes (c : Char) : List Nat :=
  let n := c.toNat
  if n < 0x80 then [n]
  else if n < 0x800 then [0xC0 + n / 0x40, 0x80 + n % 0x40]
  else if n < 0x10000 then [0xE0 + n / 0x1000, 0x80 + n / 0x40 % 0x40, 0x80 + n % 0x40]
  else [0xF0 + n / 0x40000, 0x80 + n / 0x1000 % 0x40, 0x80 + n / 0x40 % 0x40, 0x80 + n % 0x40]

/-- An upper-case hexadecimal digit. -/
def hexDigit (n : Nat) : Char := if n < 10 then Char.ofNat (48 + n) else Char.ofNat (55 + n)

/-- The percent-encoded form of a character. -/
def percentChar (c : Char) : List Char :=
  (utf8Bytes c).flatMap fun byte => ['%', hexDigit (byte / 16), hexDigit (byte % 16)]

/-- A text as one path segment. ASCII letters and digits stay as they are. -/
def encodeSegment (text : String) : List Char :=
  text.toList.flatMap fun c =>
    if c.isAlphanum || c = '-' || c = '_' || c = '.' || c = '~' then [c] else percentChar c

/-- A text inside a query. ASCII letters and digits stay as they are. -/
def encodeForm (text : String) : List Char :=
  text.toList.flatMap fun c =>
    if c.isAlphanum || c = '*' || c = '-' || c = '.' || c = '_' then [c]
    else if c = ' ' then ['+']
    else percentChar c

/-- A query of named values. -/
def formQuery : List (String × String) → List Char
  | [] => []
  | [(name, value)] => encodeForm name ++ '=' :: encodeForm value
  | (name, value) :: next :: rest =>
    encodeForm name ++ '=' :: (encodeForm value ++ '&' :: formQuery (next :: rest))

/-- Segments with a slash before each. -/
def joinSlashes (segments : List (List Char)) : List Char := segments.flatMap ('/' :: ·)

/-- A segment that stays where it is. -/
def isSingleDot (segment : List Char) : Bool :=
  segment == ['.'] || segment == ['%', '2', 'e'] || segment == ['%', '2', 'E']

/-- A segment that goes up. -/
def isDoubleDot (segment : List Char) : Bool :=
  let dots := [['.'], ['%', '2', 'e'], ['%', '2', 'E']]
  dots.any fun first => dots.any fun second => segment == first ++ second

/-- The segments of a path without those that stay or go up; `done` holds the ones in front, last
first. A path that ends in such a segment ends in a slash. -/
def resolveDots (done : List (List Char)) : List (List Char) → List (List Char)
  | [] => done.reverse
  | segment :: rest =>
    if isDoubleDot segment then
      if rest.isEmpty then ([] :: done.tail).reverse else resolveDots done.tail rest
    else if isSingleDot segment then
      if rest.isEmpty then ([] :: done).reverse else resolveDots done rest
    else resolveDots (segment :: done) rest

/-- A character of a written path. -/
def pathChar (c : Char) : List Char :=
  if c.toNat ≤ 32 || 126 < c.toNat || ['"', '<', '>', '\x60', '^', '\x7b', '\x7d'].contains c then
    percentChar c
  else [c]

/-- A path that starts with a slash as it is sent. -/
def resolvePath (path : List Char) : List Char :=
  let written := path.map fun c => if c = '\\' then '/' else c
  joinSlashes (resolveDots [] (((written.flatMap pathChar).splitOn '/').drop 1))

/-- A character of a written query. -/
def queryChar (c : Char) : List Char :=
  if c.toNat ≤ 32 || 126 < c.toNat || ['"', '#', '<', '>', '\''].contains c then percentChar c
  else [c]

/-- A text without the blanks and control characters at its ends, tabs and line breaks. -/
def tidy (text : List Char) : List Char :=
  let isOuter (c : Char) : Bool := c.toNat ≤ 32
  (((text.dropWhile isOuter).reverse.dropWhile isOuter).reverse).filter fun c =>
    !(['\t', '\n', '\r'].contains c)

/-- The scheme of an absolute URL, in which the case of ASCII letters is free, and what follows it
and the slashes behind it. -/
def scheme? (url : List Char) : Option (List Char × List Char) :=
  ["http:".toList, "https:".toList].findSome? fun scheme =>
    if (url.take scheme.length).map Char.toLower == scheme then
      some (scheme, (url.drop scheme.length).dropWhile fun c => c = '/' || c = '\\')
    else none

/-- Whether a text can be the name of a host: it has a character, and none that hosts exclude. -/
def isHostName (host : List Char) : Bool :=
  !host.isEmpty && host.all fun c =>
    32 < c.toNat && c.toNat != 127 &&
      !(['#', '%', '/', ':', '<', '>', '?', '@', '[', '\\', ']', '^', '|'].contains c)

/-- Whether a text can be the address of a host in square brackets. -/
def isBracketedHost (host : List Char) : Bool :=
  host.head? == some '[' && host.getLast? == some ']' &&
    ((host.drop 1).dropLast).all fun c =>
      c.isDigit || ['a', 'b', 'c', 'd', 'e', 'f', ':', '.'].contains c.toLower

/-- Whether a text can be a port: digits of a number below `2^16`, or nothing. -/
def isPort (port : List Char) : Bool :=
  port.all Char.isDigit && ofDigits port < 65536

/-- Whether a text can be a host with an optional port behind a colon. -/
def isLocation (location : List Char) : Bool :=
  let port := (location.reverse.takeWhile fun c => c != ':' && c != ']').reverse
  let host := location.take (location.length - port.length)
  if host.getLast? == some ':' then
    (isHostName host.dropLast || isBracketedHost host.dropLast) && isPort port
  else isHostName location || isBracketedHost location

/-- The URL that a text spells, if it is absolute. A name or a key in front of the host and a
fragment are no part of a request. -/
def read? (text : List Char) : Option Url := do
  let (scheme, located) ← scheme? (tidy text)
  let isAuthority (c : Char) : Bool := !(['/', '\\', '?', '#'].contains c)
  let location :=
    ((located.takeWhile isAuthority).reverse.takeWhile (· != '@')).reverse.map Char.toLower
  if isLocation location then
    let rest := (located.dropWhile isAuthority).takeWhile (· != '#')
    let path := rest.takeWhile (· != '?')
    return {
      origin := scheme ++ '/' :: '/' :: location
      path := resolvePath (if path.isEmpty then ['/'] else path)
      query := match rest.dropWhile (· != '?') with
        | [] => none
        | _ :: query => some (query.flatMap queryChar) }
  else none

/-- The URL with named values behind its query. -/
def withValues (url : Url) (values : List (String × String)) : Url :=
  if values.isEmpty then url
  else
    let query := match url.query with
      | none | some [] => formQuery values
      | some query => query ++ '&' :: formQuery values
    { url with query := some query }

/-- The path and the query, as they are sent. -/
def target (url : Url) : List Char :=
  match url.query with
  | some query => url.path ++ '?' :: query
  | none => url.path

/-- The base of URLs, without slashes at its end. -/
def trimBase (base : String) : List Char :=
  (base.toList.reverse.dropWhile (· == '/')).reverse

end Url

end SearchIndex
