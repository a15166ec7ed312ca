import BridgeRelay.Text.Character
import BridgeRelay.Url.HostName.Alias
import BridgeRelay.Url.HostName.Bootstring
import BridgeRelay.Url.HostName.Composition
import BridgeRelay.Url.HostName.Direction
import BridgeRelay.Url.HostName.Joining
import BridgeRelay.Url.HostName.Known

/-!
# Host names

Which names a host may have. A name is first read: characters that stand for others are replaced, and the whole is
brought into its normal form. Then each of its labels is checked.
-/

namespace BridgeRelay.Url.HostName

/-- What a character in a name stands for; nothing if no name has it. -/
def reading? (c : Char) : Option (List Char) :=
  if !Text.inRuns knownRuns c then none
  else if Text.inRuns silentRuns c then some []
  else some ((alias? c).getD [c])

/-- The name that a text stands for. -/
def read? (cs : List Char) : Option (List Char) := (cs.mapM reading?).map fun readings => normal readings.flatten

/-- Whether a character of ASCII may not stand in a label. -/
def isForbidden (c : Char) : Bool := c.toNat ≤ 32 || c.toNat = 127 || "#/:<>?@[\\]^|%".toList.contains c

/-- The label that the ASCII text behind `xn--` stands for. It has to be one that stands for itself, and to have
characters beyond ASCII. -/
def decoded? (coded : List Char) : Option (List Char) :=
  if coded.length ≤ 2000 && coded.all (fun c => c.toNat < 128) && coded.getLast?.any (· ≠ '-') then
    (Bootstring.decode? coded).filter fun label => label.all (fun c => reading? c = some [c]) && normal label = label
  else none

/-- The characters of a label of a name. -/
def label? : (written : List Char) → Option (List Char)
  | 'x' :: 'n' :: '-' :: '-' :: coded => decoded? coded
  | label => some label

/-- Whether a label can stand in a name, whatever its other labels are. It does not begin with a mark; beyond ASCII it
has at most 1000 characters. -/
def isLabel (label : List Char) : Bool :=
  !label.any isForbidden && !label.head?.any isMark && joinersFit [] label &&
    (label.all (fun c => c.toNat < 128) || label.length ≤ 1000)

/-- Whether labels make a name. If there is a character from right to left in one of them, all have to keep one
direction. -/
def areLabels (labels : List (List Char)) : Bool :=
  labels.all isLabel && (!labels.any (fun label => label.any turns) || labels.all keepsDirection)

/-- Whether a text that was read is a name. -/
def isName (cs : List Char) : Bool := ((cs.splitOn '.').mapM label?).any areLabels

end BridgeRelay.Url.HostName
