/-!
# Characters

Runs of characters, the characters with the Unicode property `White_Space` with trimming, lower case, and bytes in quotes.
-/

namespace BridgeRelay.Text

/-! ## Runs -/

/-- Whether a character lies in one of some runs, each given by its first and its last character. -/
def inRuns (runs : List (Nat × Nat)) (c : Char) : Bool :=
  runs.any fun (first, last) => first ≤ c.toNat && c.toNat ≤ last

/-! ## White space -/

/-- Whether a character is white space. -/
def isBlank (c : Char) : Bool :=
  let n := c.toNat
  (9 ≤ n && n ≤ 13) || n = 0x20 || n = 0x85 || n = 0xA0 || n = 0x1680 || (0x2000 ≤ n && n ≤ 0x200A)
    || n = 0x2028 || n = 0x2029 || n = 0x202F || n = 0x205F || n = 0x3000

/-- Drops white space at the start. -/
def trimStart (cs : List Char) : List Char := cs.dropWhile isBlank

/-- Drops white space at the end. -/
def trimEnd (cs : List Char) : List Char := (cs.reverse.dropWhile isBlank).reverse

/-- Drops white space at both ends. -/
def trim (cs : List Char) : List Char := trimEnd (trimStart cs)

/-! ## Lower case -/

/-- The lower case of a character as far as a search for ASCII text can tell: letters whose lower case has no ASCII letter
are left as they are. Beyond ASCII only the Kelvin sign and the capital I with a dot have one. -/
def lower (c : Char) : List Char :=
  if c.isUpper then [c.toLower]
  else if c = '\u212a' then ['k']
  else if c = '\u0130' then ['i', '\u0307']
  else [c]

/-- The lower case of a text. -/
def fold (cs : List Char) : List Char := cs.flatMap lower

/-- Whether `part` occurs in a text. -/
def occurs (part : List Char) : List Char → Bool
  | [] => part.isEmpty
  | c :: cs => part.isPrefixOf (c :: cs) || occurs part cs

/-- Whether a text has `part`, which is lower-case ASCII, in any case. -/
def mentions (part text : String) : Bool := occurs part.toList (fold text.toList)

/-! ## Quotes -/

/-- A byte as the character with its number, in single quotes. What cannot be seen is escaped. -/
def quoteByte (b : UInt8) : String :=
  let body : List Char :=
    if b = 0 then ['\\', '0']
    else if b = 9 then ['\\', 't']
    else if b = 10 then ['\\', 'n']
    else if b = 13 then ['\\', 'r']
    else if b = 39 then ['\\', Char.ofNat 39]
    else if b = 92 then ['\\', '\\']
    else if b < 32 ∨ (127 ≤ b ∧ b ≤ 160) ∨ b = 173 then
      ['\\', 'u', '\x7b'] ++ Nat.toDigits 16 b.toNat ++ ['\x7d']
    else [Char.ofNat b.toNat]
  "'" ++ String.ofList body ++ "'"

end BridgeRelay.Text
