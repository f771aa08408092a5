import PanelBridge.Json.Canonical
import PanelBridge.Json.Reader.Number
import PanelBridge.Json.Reader.Text

/-!
# Reading JSON text

`Json.read` reads a text as one value, members in the order of the text; `Json.parse` also brings the value into
canonical form. At most 127 containers may be open at once.
-/

namespace PanelBridge.Json

/-- The characters that may stand between tokens. -/
def isSpace (c : Char) : Bool := c = ' ' || c = '\t' || c = '\n' || c = '\r'

def skipSpace (cs : List Char) : List Char := cs.dropWhile isSpace

/-- A reader gives a value and the rest of the text. -/
abbrev Reads (α : Type) : Type := List Char → Except Stop (α × List Char)

/-- Reads the remaining letters of a word. -/
def word : (letters cs : List Char) → Except Stop (List Char)
  | [], cs => .ok cs
  | _ :: _, [] => .error (stopOn .endInValue [])
  | letter :: letters, c :: cs =>
    if c = letter then word letters cs else .error (stopOn .wordExpected (c :: cs))

/-- Reads the items of a list from the start of an item to the closing bracket. `acc` holds the items so far, last
first, and `fuel` bounds their number. -/
def items (item : Reads Json) : (fuel : Nat) → (acc : List Json) → Reads (List Json)
  | 0, _, cs => .error (stopOn .endInList cs)
  | fuel + 1, acc, cs =>
    match item cs with
    | .error stop => .error stop
    | .ok (v, rest) =>
      match skipSpace rest with
      | [] => .error (stopOn .endInList [])
      | c :: rest =>
        if c = ']' then .ok ((v :: acc).reverse, rest)
        else if c = ',' then
          match skipSpace rest with
          | [] => .error (stopOn .endInValue [])
          | c :: rest =>
            if c = ']' then .error (stopOn .trailingComma (c :: rest))
            else items item fuel (v :: acc) (c :: rest)
        else .error (stopOn .listEndExpected (c :: rest))

/-- Reads a list after its opening bracket. -/
def list (item : Reads Json) (fuel : Nat) : Reads (List Json) := fun cs =>
  match skipSpace cs with
  | [] => .error (stopOn .endInList [])
  | c :: rest => if c = ']' then .ok ([], rest) else items item fuel [] (c :: rest)

/-- Reads the colon between a key and its value. -/
def colon (cs : List Char) : Except Stop (List Char) :=
  match skipSpace cs with
  | [] => .error (stopOn .endInObject [])
  | c :: rest => if c = ':' then .ok rest else .error (stopOn .colonExpected (c :: rest))

/-- Reads a member after the opening quote of its key. -/
def keyed (item : Reads Json) : Reads (String × Json) := fun cs =>
  match string cs with
  | .error stop => .error stop
  | .ok (key, rest) =>
    match colon rest with
    | .error stop => .error stop
    | .ok rest =>
      match item rest with
      | .error stop => .error stop
      | .ok (v, rest) => .ok ((key, v), rest)

/-- Reads the members of an object from the opening quote of a key to the closing brace. `acc` holds the members so
far, last first, and `fuel` bounds their number. -/
def memberList (item : Reads Json) :
    (fuel : Nat) → (acc : List (String × Json)) → Reads (List (String × Json))
  | 0, _, cs => .error (stopOn .endInObject cs)
  | fuel + 1, acc, cs =>
    match keyed item cs with
    | .error stop => .error stop
    | .ok (m, rest) =>
      match skipSpace rest with
      | [] => .error (stopOn .endInObject [])
      | c :: rest =>
        if c = '\x7d' then .ok ((m :: acc).reverse, rest)
        else if c = ',' then
          match skipSpace rest with
          | [] => .error (stopOn .endInValue [])
          | c :: rest =>
            if c = '"' then memberList item fuel (m :: acc) rest
            else if c = '\x7d' then .error (stopOn .trailingComma (c :: rest))
            else .error (stopOn .keyNotString (c :: rest))
        else .error (stopOn .objectEndExpected (c :: rest))

/-- Reads an object after its opening brace. -/
def object (item : Reads Json) (fuel : Nat) : Reads (List (String × Json)) := fun cs =>
  match skipSpace cs with
  | [] => .error (stopOn .endInObject [])
  | c :: rest =>
    if c = '\x7d' then .ok ([], rest)
    else if c = '"' then memberList item fuel [] rest
    else .error (stopOn .keyNotString (c :: rest))

/-- Wraps the value of a reader's result. -/
def wrap {α : Type} (f : α → Json) : Except Stop (α × List Char) → Except Stop (Json × List Char)
  | .ok (a, rest) => .ok (f a, rest)
  | .error stop => .error stop

/-- Reads a value whose containers, if they may be opened at all, hold what `inner` reads. -/
def valueWith (fuel : Nat) (inner : Option (Reads Json)) : Reads Json := fun cs =>
  match skipSpace cs with
  | [] => .error (stopOn .endInValue [])
  | c :: rest =>
    if c = 'n' then (word ['u', 'l', 'l'] rest).map (.null, ·)
    else if c = 't' then (word ['r', 'u', 'e'] rest).map (.bool true, ·)
    else if c = 'f' then (word ['a', 'l', 's', 'e'] rest).map (.bool false, ·)
    else if c = '-' then wrap .num (number true rest)
    else if c.isDigit then wrap .num (number false (c :: rest))
    else if c = '"' then wrap .str (string rest)
    else if c = '[' then
      match inner with
      | some item => wrap .arr (list item fuel rest)
      | none => .error (stopOn .tooDeep (c :: rest))
    else if c = '\x7b' then
      match inner with
      | some item => wrap .obj (object item fuel rest)
      | none => .error (stopOn .tooDeep (c :: rest))
    else .error (stopOn .valueExpected (c :: rest))

/-- Reads a value with at most `depth` containers open at once. `fuel` bounds the number of items or members of a
container. -/
def value (fuel : Nat) : (depth : Nat) → Reads Json
  | 0 => valueWith fuel none
  | depth + 1 => valueWith fuel (some (value fuel depth))

/-- The number of containers that may be open at once. -/
def maxDepth : Nat := 127

def readChars (cs : List Char) : Except Stop Json :=
  match value cs.length maxDepth cs with
  | .error stop => .error stop
  | .ok (v, rest) =>
    match skipSpace rest with
    | [] => .ok v
    | c :: rest => .error (stopOn .trailingCharacters (c :: rest))

/-- Reads a text as one value; the members of an object keep the order of the text, repeated keys included. -/
def read (text : String) : Except SyntaxError Json :=
  let cs := text.toList
  match readChars cs with
  | .ok v => .ok v
  | .error stop => .error (stop.locate cs)

/-- Reads a text as one value in canonical form. -/
def parse (text : String) : Except SyntaxError Json := (read text).map canonical

end PanelBridge.Json
