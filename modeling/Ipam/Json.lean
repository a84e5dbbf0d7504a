/-!
# JSON values

* `Json` — a value of a JSON text.
* `Json.Text` — a string of a JSON text.  Its escapes may name half of a surrogate pair; then it is
  well formed as syntax and yet denotes no sequence of characters.
* `Json.lookup`, `Json.insert` — one member of an object.
* `Json.render` — the compact text of a value.

Numbers keep their spelling: which numbers a member accepts is the business of its reader.
-/

namespace Ipam

/-- A string of a JSON text; `none` when its escapes leave half of a surrogate pair alone. -/
abbrev Json.Text := Option String

/-- A JSON value. -/
inductive Json where
  | null
  | bool (value : Bool)
  /-- A number by its spelling. -/
  | number (spelling : String)
  | string (text : Json.Text)
  | array (items : List Json)
  /-- The members in the order of the text, repeated names included. -/
  | object (members : List (Json.Text × Json))
deriving Inhabited

namespace Json

/-! ## Building values -/

/-- The string value of a text. -/
def str (s : String) : Json :=
  .string (some s)

/-- The value of a whole number. -/
def int (n : Int) : Json :=
  .number (toString n)

/-- The value of a natural number. -/
def nat (n : Nat) : Json :=
  .number (toString n)

/-- An object from named members. -/
def obj (members : List (String × Json)) : Json :=
  .object (members.map fun member => (some member.1, member.2))

/-- The value of an optional text. -/
def optStr : Option String → Json
  | none => .null
  | some s => str s

/-- A member that is left out when it has no value. -/
def member? (name : String) (value : Option Json) : List (String × Json) :=
  (value.map fun v => (name, v)).toList

/-! ## Members -/

/-- The value of a member of an object, `null` when there is none. -/
def lookup (j : Json) (name : String) : Json :=
  match j with
  | .object members => (members.lookup (some name)).getD .null
  | _ => .null

/-- An object with the value of a member set.  In place of `null` there comes a new object, and any
other value has no members to set. -/
def insert (j : Json) (name : String) (value : Json) : Json :=
  match j with
  | .null => obj [(name, value)]
  | .object members =>
    .object ((members.filter fun member => member.1 != some name) ++ [(some name, value)])
  | j => j

/-! ## Writing -/

/-- A hexadecimal digit in lower case. -/
def hexDigit (n : Nat) : Char :=
  Nat.digitChar n

/-- A character inside a JSON string: quotes, backslashes and controls are escaped. -/
def escape (c : Char) : List Char :=
  match c with
  | '"' => ['\\', '"']
  | '\\' => ['\\', '\\']
  | '\n' => ['\\', 'n']
  | '\r' => ['\\', 'r']
  | '\t' => ['\\', 't']
  | '\x08' => ['\\', 'b']
  | '\x0c' => ['\\', 'f']
  | _ =>
    if c.toNat < 0x20 then
      ['\\', 'u', '0', '0', hexDigit (c.toNat / 16), hexDigit (c.toNat % 16)]
    else
      [c]

/-- A string as JSON text. -/
def renderString (s : String) : List Char :=
  '"' :: s.toList.flatMap escape ++ ['"']

/-- A string of a JSON text as JSON text again.  Half a pair is written as the replacement
character. -/
def renderText (t : Json.Text) : List Char :=
  renderString (t.getD "\ufffd")

mutual

/-- The compact text of a value, as characters. -/
def chars : Json → List Char
  | .null => "null".toList
  | .bool true => "true".toList
  | .bool false => "false".toList
  | .number spelling => spelling.toList
  | .string text => renderText text
  | .array items => '[' :: charsItems items ++ [']']
  | .object members => '\x7b' :: charsMembers members ++ ['\x7d']

/-- The items of an array with commas between them. -/
def charsItems : List Json → List Char
  | [] => []
  | [item] => chars item
  | item :: rest => chars item ++ ',' :: charsItems rest

/-- The members of an object with commas between them. -/
def charsMembers : List (Json.Text × Json) → List Char
  | [] => []
  | [(name, value)] => renderText name ++ ':' :: chars value
  | (name, value) :: rest => renderText name ++ ':' :: chars value ++ ',' :: charsMembers rest

end

/-- The compact text of a value. -/
def render (j : Json) : String :=
  String.ofList j.chars

end Json

end Ipam
