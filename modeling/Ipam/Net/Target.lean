/-!
# Request targets

What a request asks for is written in one text: a path, possibly after a scheme and a host, and then
a query and a fragment.

* `Target.path?` — the path of a target, none if a character may not stand where it does.
* `Target.afterHost` — the part of a target after its scheme and host.
-/

namespace Ipam.Target

/-- Whether a character ends a path. -/
def endsPath (c : Char) : Bool :=
  c = '?' || c = '#'

/-- Whether a character may stand in a path.  Controls, blanks and a few marks have to be escaped.
-/
def isPathChar (c : Char) : Bool :=
  0x20 < c.toNat && c ∉ ['<', '>', '\x60', '?', '#']

/-- Whether a character may stand in a query. -/
def isQueryChar (c : Char) : Bool :=
  0x20 < c.toNat && c ∉ ['<', '>', '"', '#']

/-- Whether the text after a path is a query, a fragment, or both. -/
def isTail : List Char → Bool
  | '?' :: rest => (rest.takeWhile (· ≠ '#')).all isQueryChar
  | _ => true

/-- Whether a character may stand in a scheme. -/
def isSchemeChar (c : Char) : Bool :=
  c.isAlphanum || c = '+' || c = '-' || c = '.'

/-- The part of a target after its scheme and host.  A target that names no scheme and does not
start with a slash is only a host. -/
def afterHost (target : List Char) : List Char :=
  match target with
  | '/' :: _ => target
  | _ =>
    match target.dropWhile isSchemeChar with
    | ':' :: '/' :: '/' :: rest => rest.dropWhile fun c => c ≠ '/' && !endsPath c
    | _ => []

/-- The path of a target. -/
def path? (target : String) : Option String :=
  let cs := afterHost target.toList
  let path := cs.takeWhile fun c => !endsPath c
  let tail := cs.dropWhile fun c => !endsPath c
  if path.all isPathChar && isTail tail then some (String.ofList path) else none

end Ipam.Target
