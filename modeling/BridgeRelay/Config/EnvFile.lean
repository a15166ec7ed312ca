import BridgeRelay.Config.Variables
import BridgeRelay.Text.Letter

/-!
# Variable files

Files of lines `NAME=value`. A line may begin with `export` and end with a comment. Values may be quoted, escaped
with a backslash, and refer to other variables with `$NAME` or `${NAME}`; quotes may go over several lines.
-/

namespace BridgeRelay.EnvFile

open Config (Variables)

/-- A line that cannot be read, and how far it was read. -/
structure Fault where
  line : String
  position : Nat
  deriving DecidableEq, Repr

/-- The text of the fault. -/
def Fault.message (f : Fault) : String := s!"Error parsing line: '{f.line}', error at line index: {f.position}"

/-- The number of bytes of a text. -/
def byteLength (cs : List Char) : Nat := (String.ofList cs).utf8ByteSize

/-- A fault in a line. -/
def faultAt {α : Type} (line : List Char) (position : Nat) : Except Fault α :=
  .error ⟨String.ofList line, position⟩

/-! ## Lines -/

/-- Cuts a text behind each line end. -/
def physicalLines : List Char → List (List Char)
  | [] => []
  | c :: cs =>
      if c = '\n' then [c] :: physicalLines cs
      else match physicalLines cs with
        | [] => [[c]]
        | l :: ls => (c :: l) :: ls

/-- Where in a line a character stands. -/
inductive Place where
  /-- outside of quotes -/
  | plain
  /-- behind white space -/
  | blank
  | escaped
  | single
  | singleEscaped
  | double
  | doubleEscaped
  /-- at the sign that begins a comment -/
  | comment
  deriving DecidableEq

/-- The place behind a character. White space makes a comment possible, but only directly before it. -/
def Place.next (p : Place) (c : Char) : Place :=
  match p with
  | .plain | .blank =>
      if c = '\\' then .escaped
      else if c = '"' then .double
      else if c = '\'' then .single
      else if p = .blank then (if c = '#' then .comment else .plain)
      else if Text.isBlank c && c ≠ '\n' && c ≠ '\r' then .blank
      else .plain
  | .escaped => .plain
  | .single => if c = '\\' then .singleEscaped else if c = '\'' then .plain else .single
  | .singleEscaped => .single
  | .double => if c = '\\' then .doubleEscaped else if c = '"' then .plain else .double
  | .doubleEscaped => .double
  | .comment => .comment

/-- The place at the end of a line, and the line up to a comment. -/
def scan (p : Place) : List Char → Place × List Char
  | [] => (p, [])
  | c :: cs =>
      match p.next c with
      | .comment => (.comment, [])
      | next =>
          let (final, kept) := scan next cs
          (final, c :: kept)

/-- A line without its end. -/
def dropLineEnd (cs : List Char) : List Char :=
  match cs.reverse with
  | '\n' :: '\r' :: rest => rest.reverse
  | '\n' :: rest => rest.reverse
  | _ => cs

/-- Joins lines while quotes are open. `before` holds the lines that were not complete. -/
def logicalLines (p : Place) (before : List Char) : List (List Char) → List (Except Fault (List Char))
  | [] => if p = .plain then [] else [faultAt before (byteLength before)]
  | l :: ls =>
      let whole := before ++ l
      if (Text.trimStart whole).head? = some '#' then .ok [] :: logicalLines .plain [] ls
      else match scan p l with
        | (.plain, _) => .ok (dropLineEnd whole) :: logicalLines .plain [] ls
        | (.comment, kept) => .ok (before ++ kept) :: logicalLines .plain [] ls
        | (p, _) => logicalLines p whole ls

/-! ## Values -/

/-- How the characters of a value are read. `quoted` says that double quotes are open. -/
inductive Mode where
  | text (quoted : Bool)
  | single
  | escaped (quoted : Bool)
  /-- in a name after a dollar sign, latest letter first -/
  | name (quoted : Bool) (letters : List Char)
  /-- in a name in braces -/
  | braced (quoted : Bool) (letters : List Char)
  /-- behind the value, where only a comment may follow -/
  | ended

/-- The value of a variable whose name is spelled backwards; nothing if it is not set. -/
def valueOf (vars : Variables) (letters : List Char) : List Char :=
  ((vars.get? (String.ofList letters.reverse)).getD "").toList

/-- The characters that may follow a backslash, and what they stand for. -/
def unescape? (c : Char) : Option Char :=
  if c = 'n' then some '\n'
  else if c = '\\' ∨ c = '\'' ∨ c = '"' ∨ c = '$' ∨ c = ' ' then some c
  else none

/-- Whether a blank ends an unquoted value. -/
def endsValue (c : Char) : Bool := c = ' ' || c = '\t'

/-- Reads the rest of a value, of which `index` characters were read. -/
def readValue (vars : Variables) (whole : List Char) (m : Mode) (index : Nat) :
    List Char → Except Fault (List Char)
  | [] =>
      match m with
      | .name false letters => .ok (valueOf vars letters)
      | .single | .braced .. | .text true | .escaped true | .name true _ =>
          faultAt whole (byteLength whole - 1)
      | .text false | .escaped false | .ended => .ok []
  | c :: cs =>
      let go (m : Mode) := readValue vars whole m (index + 1) cs
      let emit (text : List Char) (m : Mode) := (go m).map (text ++ ·)
      match m with
      | .ended => if endsValue c then go .ended else if c = '#' then .ok [] else faultAt whole index
      | .escaped quoted =>
          match unescape? c with
          | some meant => emit [meant] (.text quoted)
          | none => faultAt whole index
      | .single => if c = '\'' then go (.text false) else emit [c] .single
      | .name quoted letters =>
          if Text.isLetterOrDigit c then go (.name quoted (c :: letters))
          else if c = '\x7b' ∧ letters = [] then go (.braced quoted [])
          else if c = '$' then emit (valueOf vars letters) (.name quoted [])
          else emit (valueOf vars letters ++ [c]) (.text quoted)
      | .braced quoted letters =>
          if c = '\x7d' then emit (valueOf vars letters) (.text quoted)
          else go (.braced quoted (c :: letters))
      | .text true =>
          if c = '$' then go (.name true [])
          else if c = '"' then go (.text false)
          else if c = '\\' then go (.escaped true)
          else emit [c] (.text true)
      | .text false =>
          if c = '$' then go (.name false [])
          else if c = '\'' then go .single
          else if c = '"' then go (.text true)
          else if c = '\\' then go (.escaped false)
          else if endsValue c then go .ended
          else emit [c] (.text false)

/-! ## Assignments -/

/-- A position in a line. -/
structure Cursor where
  /-- the number of bytes that were read -/
  position : Nat
  rest : List Char

namespace Cursor

/-- Skips white space. -/
def skipBlanks (c : Cursor) : Cursor :=
  let blanks := c.rest.takeWhile Text.isBlank
  ⟨c.position + byteLength blanks, c.rest.drop blanks.length⟩

/-- Whether a character may stand in a name. -/
def isNameChar (c : Char) : Bool := c.isAlphanum || c = '_' || c = '.'

/-- Reads a name, which begins with a letter or an underscore. -/
def name? (c : Cursor) : Option (String × Cursor) :=
  if c.rest.head?.any fun first => first.isAlpha || first = '_' then
    let name := c.rest.takeWhile isNameChar
    some (String.ofList name, ⟨c.position + name.length, c.rest.drop name.length⟩)
  else none

/-- Reads the sign of an assignment. -/
def equals? (c : Cursor) : Option Cursor :=
  match c.rest with
  | '=' :: rest => some ⟨c.position + 1, rest⟩
  | _ => none

end Cursor

/-- Reads a name and the sign behind it. -/
def readName (line : List Char) (c : Cursor) : Except Fault (String × Cursor) :=
  match c.name? with
  | none => faultAt line c.position
  | some (name, c) =>
      let c := c.skipBlanks
      match c.equals? with
      | some c => .ok (name, c)
      | none =>
          if name ≠ "export" then faultAt line c.position
          else match c.name? with
            | none => faultAt line c.position
            | some (name, c) =>
                let c := c.skipBlanks
                match c.equals? with
                | some c => .ok (name, c)
                | none => faultAt line c.position

/-- Whether nothing but a comment is left. -/
def isVoid (cs : List Char) : Bool := cs.isEmpty || cs.head? = some '#'

/-- Reads a line: a name and its value, or nothing. -/
def readLine (vars : Variables) (line : List Char) : Except Fault (Option (String × String)) := do
  let c := (Cursor.mk 0 (Text.trimEnd line)).skipBlanks
  if isVoid c.rest then return none
  let (name, c) ← readName line c
  let value := c.skipBlanks.rest
  if isVoid value then return some (name, "")
  return some (name, String.ofList (← readValue vars value (.text false) 0 value))

/-- Adds the variable of a line, unless its name is taken. -/
def addLine (vars : Variables) (line : Except Fault (List Char)) : Except Fault Variables := do
  match ← readLine vars (← line) with
  | some (name, value) => return if (vars.get? name).isSome then vars else vars ++ [(name, value)]
  | none => return vars

/-- The variables after a file was read. Those that were set before keep their values. -/
def load (vars : Variables) (text : String) : Except Fault Variables :=
  let cs := match text.toList with
    | '\ufeff' :: cs => cs
    | cs => cs
  (logicalLines .plain [] (physicalLines cs)).foldlM addLine vars

end BridgeRelay.EnvFile

namespace BridgeRelay.Config

/-- Why a relay has no settings. -/
inductive LoadFault where
  | file (path : String) (fault : EnvFile.Fault)
  | settings (fault : Fault)
  deriving DecidableEq

/-- The text of the fault, and of what caused it. -/
def LoadFault.messages : LoadFault → String × List String
  | .file path f => (s!"Failed to load .env file from {path}", [f.message])
  | .settings f => (f.message, [])

/-- Reads settings from variables, and from a file if there is one. -/
def loadWithFile (vars : Variables) (path : String) (file : Option String) : Except LoadFault Config :=
  match file.mapM fun text => EnvFile.load vars text with
  | .error f => .error (.file path f)
  | .ok more => (load (more.getD vars).get?).mapError .settings

end BridgeRelay.Config
