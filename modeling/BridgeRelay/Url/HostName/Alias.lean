import BridgeRelay.Url.HostName.Alias.Form
import BridgeRelay.Url.HostName.Alias.Ideograph
import BridgeRelay.Url.HostName.Alias.Letter
import BridgeRelay.Url.HostName.Alias.Ligature
import BridgeRelay.Url.HostName.Alias.Sequence

/-!
# Characters that stand for others

In a host name capitals stand for small letters, wide digits for digits, and so on.
-/

namespace BridgeRelay.Url.HostName

/-- Characters with a common distance to those that they stand for: the first of so many, the step from one to the next,
and what the first one stands for. -/
structure Shift where
  first : Nat
  count : Nat
  step : Nat
  image : Nat
  deriving DecidableEq, Repr

/-- The alphabets that stand for others. -/
def shifts : List Shift :=
  [⟨0x41, 26, 1, 0x61⟩, ⟨0xc0, 23, 1, 0xe0⟩, ⟨0xd8, 7, 1, 0xf8⟩, ⟨0x100, 24, 2, 0x101⟩, ⟨0x139, 3, 2, 0x13a⟩,
   ⟨0x141, 4, 2, 0x142⟩, ⟨0x14a, 23, 2, 0x14b⟩, ⟨0x179, 3, 2, 0x17a⟩, ⟨0x1a0, 3, 2, 0x1a1⟩, ⟨0x1cd, 8, 2, 0x1ce⟩,
   ⟨0x1de, 9, 2, 0x1df⟩, ⟨0x1f8, 20, 2, 0x1f9⟩, ⟨0x222, 9, 2, 0x223⟩, ⟨0x246, 5, 2, 0x247⟩, ⟨0x388, 3, 1, 0x3ad⟩,
   ⟨0x391, 17, 1, 0x3b1⟩, ⟨0x3a3, 9, 1, 0x3c3⟩, ⟨0x3d8, 12, 2, 0x3d9⟩, ⟨0x3fd, 3, 1, 0x37b⟩, ⟨0x400, 16, 1, 0x450⟩,
   ⟨0x410, 32, 1, 0x430⟩, ⟨0x460, 17, 2, 0x461⟩, ⟨0x48a, 27, 2, 0x48b⟩, ⟨0x4c1, 7, 2, 0x4c2⟩, ⟨0x4d0, 48, 2, 0x4d1⟩,
   ⟨0x531, 38, 1, 0x561⟩, ⟨0x10a0, 38, 1, 0x2d00⟩, ⟨0x13f8, 6, 1, 0x13f0⟩, ⟨0x1c90, 43, 1, 0x10d0⟩,
   ⟨0x1cbd, 3, 1, 0x10fd⟩, ⟨0x1d33, 8, 1, 0x67⟩, ⟨0x1d5d, 3, 1, 0x3b2⟩, ⟨0x1da4, 3, 1, 0x268⟩, ⟨0x1dae, 4, 1, 0x272⟩,
   ⟨0x1dbc, 3, 1, 0x290⟩, ⟨0x1e00, 75, 2, 0x1e01⟩, ⟨0x1ea0, 48, 2, 0x1ea1⟩, ⟨0x1f08, 8, 1, 0x1f00⟩,
   ⟨0x1f18, 6, 1, 0x1f10⟩, ⟨0x1f28, 8, 1, 0x1f20⟩, ⟨0x1f38, 8, 1, 0x1f30⟩, ⟨0x1f48, 6, 1, 0x1f40⟩,
   ⟨0x1f59, 4, 2, 0x1f51⟩, ⟨0x1f68, 8, 1, 0x1f60⟩, ⟨0x2074, 6, 1, 0x34⟩, ⟨0x2080, 10, 1, 0x30⟩, ⟨0x2096, 4, 1, 0x6b⟩,
   ⟨0x2119, 3, 1, 0x70⟩, ⟨0x2135, 4, 1, 0x5d0⟩, ⟨0x2460, 9, 1, 0x31⟩, ⟨0x24b6, 26, 1, 0x61⟩, ⟨0x24d0, 26, 1, 0x61⟩,
   ⟨0x2c00, 48, 1, 0x2c30⟩, ⟨0x2c67, 3, 2, 0x2c68⟩, ⟨0x2c80, 50, 2, 0x2c81⟩, ⟨0x3137, 3, 1, 0x1103⟩,
   ⟨0x313a, 6, 1, 0x11b0⟩, ⟨0x3141, 3, 1, 0x1106⟩, ⟨0x3145, 10, 1, 0x1109⟩, ⟨0x314f, 21, 1, 0x1161⟩,
   ⟨0x3178, 5, 1, 0x112b⟩, ⟨0x3184, 3, 1, 0x1157⟩, ⟨0x3263, 3, 1, 0x1105⟩, ⟨0x3269, 5, 1, 0x110e⟩,
   ⟨0x32e4, 6, 1, 0x30ca⟩, ⟨0x32ee, 5, 1, 0x30de⟩, ⟨0x32f5, 6, 1, 0x30e8⟩, ⟨0x32fb, 4, 1, 0x30ef⟩,
   ⟨0xa640, 23, 2, 0xa641⟩, ⟨0xa680, 14, 2, 0xa681⟩, ⟨0xa722, 7, 2, 0xa723⟩, ⟨0xa732, 31, 2, 0xa733⟩,
   ⟨0xa77e, 5, 2, 0xa77f⟩, ⟨0xa796, 10, 2, 0xa797⟩, ⟨0xa7b4, 8, 2, 0xa7b5⟩, ⟨0xa7cc, 8, 2, 0xa7cd⟩,
   ⟨0xab70, 80, 1, 0x13a0⟩, ⟨0xfb24, 3, 1, 0x5db⟩, ⟨0xfe41, 4, 1, 0x300c⟩, ⟨0xff01, 32, 1, 0x21⟩,
   ⟨0xff21, 26, 1, 0x61⟩, ⟨0xff3b, 36, 1, 0x5b⟩, ⟨0xff85, 6, 1, 0x30ca⟩, ⟨0xff8f, 5, 1, 0x30de⟩,
   ⟨0xff96, 6, 1, 0x30e8⟩, ⟨0xffa7, 3, 1, 0x1103⟩, ⟨0xffaa, 6, 1, 0x11b0⟩, ⟨0xffb1, 3, 1, 0x1106⟩,
   ⟨0xffb5, 10, 1, 0x1109⟩, ⟨0xffc2, 6, 1, 0x1161⟩, ⟨0xffca, 6, 1, 0x1167⟩, ⟨0xffd2, 6, 1, 0x116d⟩,
   ⟨0xffda, 3, 1, 0x1173⟩, ⟨0xffe9, 4, 1, 0x2190⟩, ⟨0x10400, 40, 1, 0x10428⟩, ⟨0x104b0, 36, 1, 0x104d8⟩,
   ⟨0x10570, 11, 1, 0x10597⟩, ⟨0x1057c, 15, 1, 0x105a3⟩, ⟨0x1058c, 7, 1, 0x105b3⟩, ⟨0x107b6, 3, 1, 0x1c0⟩,
   ⟨0x10c80, 51, 1, 0x10cc0⟩, ⟨0x10d50, 22, 1, 0x10d70⟩, ⟨0x118a0, 32, 1, 0x118c0⟩, ⟨0x16e40, 32, 1, 0x16e60⟩,
   ⟨0x16ea0, 25, 1, 0x16ebb⟩, ⟨0x1ccd6, 26, 1, 0x61⟩, ⟨0x1ccf0, 10, 1, 0x30⟩, ⟨0x1d400, 26, 1, 0x61⟩,
   ⟨0x1d41a, 26, 1, 0x61⟩, ⟨0x1d434, 26, 1, 0x61⟩, ⟨0x1d44e, 7, 1, 0x61⟩, ⟨0x1d456, 18, 1, 0x69⟩,
   ⟨0x1d468, 26, 1, 0x61⟩, ⟨0x1d482, 26, 1, 0x61⟩, ⟨0x1d4a9, 4, 1, 0x6e⟩, ⟨0x1d4ae, 8, 1, 0x73⟩,
   ⟨0x1d4b6, 4, 1, 0x61⟩, ⟨0x1d4bd, 7, 1, 0x68⟩, ⟨0x1d4c5, 11, 1, 0x70⟩, ⟨0x1d4d0, 26, 1, 0x61⟩,
   ⟨0x1d4ea, 26, 1, 0x61⟩, ⟨0x1d507, 4, 1, 0x64⟩, ⟨0x1d50d, 8, 1, 0x6a⟩, ⟨0x1d516, 7, 1, 0x73⟩,
   ⟨0x1d51e, 26, 1, 0x61⟩, ⟨0x1d53b, 4, 1, 0x64⟩, ⟨0x1d540, 5, 1, 0x69⟩, ⟨0x1d54a, 7, 1, 0x73⟩,
   ⟨0x1d552, 26, 1, 0x61⟩, ⟨0x1d56c, 26, 1, 0x61⟩, ⟨0x1d586, 26, 1, 0x61⟩, ⟨0x1d5a0, 26, 1, 0x61⟩,
   ⟨0x1d5ba, 26, 1, 0x61⟩, ⟨0x1d5d4, 26, 1, 0x61⟩, ⟨0x1d5ee, 26, 1, 0x61⟩, ⟨0x1d608, 26, 1, 0x61⟩,
   ⟨0x1d622, 26, 1, 0x61⟩, ⟨0x1d63c, 26, 1, 0x61⟩, ⟨0x1d656, 26, 1, 0x61⟩, ⟨0x1d670, 26, 1, 0x61⟩,
   ⟨0x1d68a, 26, 1, 0x61⟩, ⟨0x1d6a8, 17, 1, 0x3b1⟩, ⟨0x1d6ba, 7, 1, 0x3c3⟩, ⟨0x1d6c2, 17, 1, 0x3b1⟩,
   ⟨0x1d6d4, 7, 1, 0x3c3⟩, ⟨0x1d6e2, 17, 1, 0x3b1⟩, ⟨0x1d6f4, 7, 1, 0x3c3⟩, ⟨0x1d6fc, 17, 1, 0x3b1⟩,
   ⟨0x1d70e, 7, 1, 0x3c3⟩, ⟨0x1d71c, 17, 1, 0x3b1⟩, ⟨0x1d72e, 7, 1, 0x3c3⟩, ⟨0x1d736, 17, 1, 0x3b1⟩,
   ⟨0x1d748, 7, 1, 0x3c3⟩, ⟨0x1d756, 17, 1, 0x3b1⟩, ⟨0x1d768, 7, 1, 0x3c3⟩, ⟨0x1d770, 17, 1, 0x3b1⟩,
   ⟨0x1d782, 7, 1, 0x3c3⟩, ⟨0x1d790, 17, 1, 0x3b1⟩, ⟨0x1d7a2, 7, 1, 0x3c3⟩, ⟨0x1d7aa, 17, 1, 0x3b1⟩,
   ⟨0x1d7bc, 7, 1, 0x3c3⟩, ⟨0x1d7ce, 10, 1, 0x30⟩, ⟨0x1d7d8, 10, 1, 0x30⟩, ⟨0x1d7e2, 10, 1, 0x30⟩,
   ⟨0x1d7ec, 10, 1, 0x30⟩, ⟨0x1d7f6, 10, 1, 0x30⟩, ⟨0x1e030, 9, 1, 0x430⟩, ⟨0x1e039, 3, 1, 0x43a⟩,
   ⟨0x1e03c, 11, 1, 0x43e⟩, ⟨0x1e051, 9, 1, 0x430⟩, ⟨0x1e05f, 6, 1, 0x443⟩, ⟨0x1e900, 34, 1, 0x1e922⟩,
   ⟨0x1ee0a, 4, 1, 0x643⟩, ⟨0x1ee2a, 4, 1, 0x643⟩, ⟨0x1ee8b, 3, 1, 0x644⟩, ⟨0x1eeab, 3, 1, 0x644⟩,
   ⟨0x1f130, 26, 1, 0x61⟩, ⟨0x1fbf0, 10, 1, 0x30⟩]

/-- What a character stands for by a shift. -/
def Shift.image? (s : Shift) (n : Nat) : Option Nat :=
  if s.first ≤ n ∧ (n - s.first) % s.step = 0 ∧ (n - s.first) / s.step < s.count then some (s.image + (n - s.first))
  else none

/-- What a character stands for in a row of neighbours. -/
def image? {α : Type} (n : Nat) (row : Nat × List α) : Option α := if row.1 ≤ n then row.2[n - row.1]? else none

/-- The characters that stand for one other. -/
def aliases : List (Nat × List Nat) :=
  letterAliases ++ formAliases ++ radicalAliases ++ ideographAliases ++ [moreIdeographs]

/-- The characters that stand for several. -/
def sequences : List (Nat × List (List Nat)) :=
  letterSequences ++ signSequences ++ squareSequences ++ ligatureSequences

/-- What a character stands for, if it does not stand for itself. -/
def alias? (c : Char) : Option (List Char) :=
  match (shifts.findSome? (·.image? c.toNat)).or (aliases.findSome? (image? c.toNat)) with
  | some n => some [Char.ofNat n]
  | none => (sequences.findSome? (image? c.toNat)).map fun ns => ns.map Char.ofNat

end BridgeRelay.Url.HostName
