import Ipam.Text.Percent
import Ipam.Text.Split

/-!
# URLs of a grid

A grid serves its objects over HTTP under a base URL; filters go into the query of an object path.

* `queryString`, `withQuery` — filters as a query, names and values percent encoded.
* `splitQuery?` — the path and the filters of a path with a query.
* `Endpoint` — where a grid is served and with which credentials.
* `joinUrl` — the URL of an object path below a base URL.
-/

namespace Ipam.Grid

open Text

/-- A filter: the name of a field and the value that it must have. -/
abbrev Filter := String × String

/-! ## Queries -/

/-- One filter as a piece of a query. -/
def filterChars (f : Filter) : List Char :=
  encodePercent f.1 ++ '=' :: encodePercent f.2

/-- The query of some filters. -/
def queryString (filters : List Filter) : String :=
  String.ofList (List.intercalate ['&'] (filters.map filterChars))

/-- An object path with the query of some filters; without filters there is no query. -/
def withQuery (path : String) (filters : List Filter) : String :=
  if filters.isEmpty then path else path ++ "?" ++ queryString filters

/-- The filter of one piece of a query. -/
def filterOfChars? (piece : List Char) : Option Filter := do
  let (name, value) ← splitOnce '=' piece
  return (← decodePercent? name, ← decodePercent? value)

/-- The object path and the filters of a path with a query. -/
def splitQuery? (text : String) : Option (String × List Filter) := do
  let (path, query) ← splitOnce '?' text.toList
  return (String.ofList path, ← (splitOn '&' query).mapM filterOfChars?)

/-! ## Bases and paths -/

/-- A text without the slashes at its end. -/
def trimSlashes (s : String) : String :=
  String.ofList (s.toList.reverse.dropWhile (· = '/')).reverse

/-- The URL of an object path below a base URL.  A path that is a URL itself is left alone. -/
def joinUrl (base path : String) : String :=
  if (stripLead? "http".toList path.toList).isSome then path
  else base ++ "/" ++ String.ofList (path.toList.dropWhile (· = '/'))

/-- Where a grid is served, and the credentials to use there. -/
structure Endpoint where
  /-- The host, possibly written as a URL. -/
  host : String
  /-- The version of the interface. -/
  version : String
  port : String
  username : String
  password : String
  /-- Whether the certificate of the host has to be valid. -/
  verifyTls : Bool
deriving DecidableEq

namespace Endpoint

/-- The host without scheme and slashes at the end. -/
def bareHost (e : Endpoint) : String :=
  let host := (trimSlashes e.host).toList
  String.ofList <|
    (stripLead? "https://".toList host <|> stripLead? "http://".toList host).getD host

/-- The base URL of the interface. -/
def baseUrl (e : Endpoint) : String :=
  s!"https://{e.bareHost}:{e.port}/wapi/v{e.version}"

/-- The endpoint as it is shown in logs, with the password hidden. -/
def describe (e : Endpoint) : List (String × String) :=
  [("host", e.host), ("version", e.version), ("port", e.port), ("username", e.username),
    ("password", "<redacted>"), ("ssl_verify", if e.verifyTls then "true" else "false")]

end Endpoint

end Ipam.Grid
