import BridgeRelay.Hex

/-!
# Numeric addresses

Hosts that are written as numbers.
-/

namespace BridgeRelay.Url

/-- The value of a part of a number that names an IPv4 address: decimal, octal after `0`, hexadecimal after `0x`. -/
def ipv4Part? (cs : List Char) : Option Nat :=
  let (base, digits) := match cs with
    | '0' :: x :: rest => if x = 'x' ∨ x = 'X' then (16, rest) else (8, x :: rest)
    | _ => (10, cs)
  digits.foldlM (fun n c => do
    let v ← if c.toNat < 128 then Hex.value? (UInt8.ofNat c.toNat) else none
    if v < base then some (n * base + v) else none) 0

/-- The labels of a domain, without an empty one at the end. -/
def labels (cs : List Char) : List (List Char) :=
  let ls := cs.splitOn '.'
  if 1 < ls.length ∧ ls.getLast? = some [] then ls.dropLast else ls

/-- Whether the last label of a domain makes it an IPv4 address. -/
def endsInNumber (cs : List Char) : Bool :=
  match (labels cs).getLast? with
  | some last => last ≠ [] && (last.all Char.isDigit ||
      (last.take 2 = ['0', 'x'] || last.take 2 = ['0', 'X']) && (ipv4Part? last).isSome)
  | none => false

/-- Whether a domain is an IPv4 address: up to four numbers, of which the last one fills what is left. -/
def isIpv4 (cs : List Char) : Bool :=
  let parts := labels cs
  match parts.mapM fun p => if p = [] then none else ipv4Part? p with
  | some ns => ns.length ≤ 4 && ns.dropLast.all (fun n => n ≤ 255) &&
      ns.getLast?.any fun n => n < Nat.pow 256 (5 - ns.length)
  | none => false

/-- Whether a text is one group of an IPv6 address. -/
def isGroup (cs : List Char) : Bool :=
  cs.length ≤ 4 && cs ≠ [] && cs.all fun c => c.toNat < 128 && (Hex.value? (UInt8.ofNat c.toNat)).isSome

/-- The number of groups that a colon-separated list stands for; an IPv4 address at the end stands for two. -/
def groupCount? (cs : List Char) : Option Nat :=
  if cs = [] then some 0
  else
    let groups := cs.splitOn ':'
    let last := groups.getLast?.getD []
    let isDotted := (last.splitOn '.').length = 4 && (last.splitOn '.').all fun p =>
      p ≠ [] && p.all Char.isDigit && (ipv4Part? p).any (fun n => n ≤ 255) && (p.length = 1 || p.head? ≠ some '0')
    if groups.dropLast.all isGroup then
      if isGroup last then some groups.length
      else if isDotted then some (groups.length + 1)
      else none
    else none

/-- Cuts a list at the first place where two colons stand. -/
def splitCompressed : List Char → Option (List Char × List Char)
  | ':' :: ':' :: rest => some ([], rest)
  | c :: cs => (splitCompressed cs).map fun (before, after) => (c :: before, after)
  | [] => none

/-- Whether a text is an IPv6 address: eight groups, or fewer around two colons. -/
def isIpv6 (cs : List Char) : Bool :=
  match splitCompressed cs with
  | none => groupCount? cs = some 8
  | some (before, after) =>
      match groupCount? before, groupCount? after with
      | some m, some n => m + n ≤ 7
      | _, _ => false

end BridgeRelay.Url
