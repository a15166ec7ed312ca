import BridgeRelay.Url.HostName
import BridgeRelay.Url.Numeric

/-!
# Addresses of services

Whether a text is an absolute URL. Only the scheme, the host and the port can be at fault; what follows the host is
never refused.
-/

namespace BridgeRelay.Url

/-- Why a text is no absolute URL. -/
inductive Fault where
  | noScheme
  | emptyHost
  | badPort
  | badDomain
  | badCharacter
  | badIpv4
  | badIpv6
  deriving DecidableEq, Repr

/-- The text of the fault. -/
def Fault.message : Fault → String
  | .noScheme => "relative URL without a base"
  | .emptyHost => "empty host"
  | .badPort => "invalid port number"
  | .badDomain => "invalid international domain name"
  | .badCharacter => "invalid domain character"
  | .badIpv4 => "invalid IPv4 address"
  | .badIpv6 => "invalid IPv6 address"

/-! ## Scheme -/

/-- Control characters and blanks are dropped at both ends, tabs and line ends everywhere. -/
def clean (s : String) : List Char :=
  let isEdge (c : Char) : Bool := c.toNat ≤ 32
  let cs := ((s.toList.dropWhile isEdge).reverse.dropWhile isEdge).reverse
  cs.filter fun c => c ≠ '\t' ∧ c ≠ '\n' ∧ c ≠ '\r'

/-- The scheme, in lower case, and what follows its colon. -/
def scheme? (cs : List Char) : Option (String × List Char) :=
  let isPart (c : Char) : Bool := c.isAlphanum || c = '+' || c = '-' || c = '.'
  let name := cs.takeWhile isPart
  match name, cs.drop name.length with
  | first :: _, ':' :: rest =>
      if first.isAlpha then some (String.ofList (name.map Char.toLower), rest) else none
  | _, _ => none

/-- Whether URLs of a scheme always have a host. -/
def isSpecial (scheme : String) : Bool := scheme ∈ ["http", "https", "ws", "wss", "ftp"]

/-! ## Host -/

/-- The bytes with each escaped byte in place of its escape. -/
def percentDecode : Bytes → Bytes
  | 37 :: high :: low :: rest =>
      match Hex.value? high, Hex.value? low with
      | some h, some l => UInt8.ofNat (16 * h + l) :: percentDecode rest
      | _, _ => 37 :: percentDecode (high :: low :: rest)
  | b :: bs => b :: percentDecode bs
  | [] => []
termination_by bs => bs.length

/-- The characters of a host, in which bytes may be escaped. -/
def unescaped? (host : List Char) : Option (List Char) :=
  (String.fromUTF8? ⟨(percentDecode (String.ofList host).toUTF8.toList).toArray⟩).map String.toList

/-- The fault in the name of a host. -/
def nameFault? (host : List Char) : Option Fault :=
  match (unescaped? host).bind HostName.read? with
  | none => some .badDomain
  | some name =>
      if !HostName.isName name then some .badDomain
      else if name = [] then some .emptyHost
      else if endsInNumber name && !isIpv4 name then some .badIpv4
      else none

/-- Whether a character may not stand in a host that is no name. -/
def isForbidden (c : Char) : Bool := "\x00\t\n\r #/:<>?@[\\]^|".toList.contains c

/-- The fault in a host that is not empty. URLs of some schemes have names for hosts, others have any text. -/
def hostFault? (named : Bool) (host : List Char) : Option Fault :=
  match host with
  | '[' :: rest => if rest.getLast? = some ']' ∧ isIpv6 rest.dropLast then none else some .badIpv6
  | _ => if named then nameFault? host else if host.any isForbidden then some .badCharacter else none

/-! ## Authority -/

/-- Whether a character ends host and port. -/
def endsAuthority (special : Bool) (c : Char) : Bool := c = '/' || c = '?' || c = '#' || special && c = '\\'

/-- Cuts the credentials, which end before the last at sign, if there is one. -/
def splitCredentials (authority : List Char) : Option (List Char) × List Char :=
  let located := (authority.reverse.takeWhile (· ≠ '@')).reverse
  let before := authority.take (authority.length - located.length - 1)
  (if located = authority then none else some before, located)

/-- Cuts the host, which ends at a colon outside of brackets. -/
def splitHost (inBrackets : Bool) : List Char → List Char × List Char
  | [] => ([], [])
  | c :: cs =>
      if c = ':' ∧ !inBrackets then ([], c :: cs)
      else
        let (host, rest) := splitHost (if c = '[' then true else if c = ']' then false else inBrackets) cs
        (c :: host, rest)

/-- The fault in a port, which is at most 65535. A backslash ends it. -/
def portFault? (text : List Char) : Option Fault :=
  let digits := text.takeWhile (· ≠ '\\')
  if digits.all Char.isDigit && digits.foldl (fun n c => n * 10 + (c.toNat - '0'.toNat)) 0 ≤ 65535 then none
  else some .badPort

/-- The fault in credentials, host and port. Without a host there are no credentials and no port, and an at sign in
front stands at the end of the text. -/
def authorityFault? (special : Bool) (rest : List Char) : Option Fault :=
  let authority := rest.takeWhile fun c => !endsAuthority special c
  let (credentials, located) := splitCredentials authority
  let (host, port) := splitHost false located
  if host = [] then
    let isCut := credentials = some [] && located = [] && authority ≠ rest
    let isMeant := credentials.any fun cs => cs ≠ [] && cs ≠ [':']
    if special || port ≠ [] || isCut || isMeant then some .emptyHost else none
  else (hostFault? special host).or (portFault? (port.drop 1))

/-- Whether a host of a file is the letter of a drive. -/
def isDrive : List Char → Bool
  | [letter, mark] => letter.isAlpha && (mark = ':' || mark = '|')
  | _ => false

/-- The fault in the host of a file, which may be left out. -/
def fileFault? (rest : List Char) : Option Fault :=
  let host := rest.takeWhile fun c => !endsAuthority true c
  if host = [] || isDrive host then none else hostFault? true host

/-- Whether a character is a slash in URLs of some schemes. -/
def isSlash (c : Char) : Bool := c = '/' || c = '\\'

/-- The fault in a URL, if there is one. -/
def fault? (s : String) : Option Fault :=
  match scheme? (clean s) with
  | none => some .noScheme
  | some (scheme, rest) =>
      if isSpecial scheme then authorityFault? true (rest.dropWhile isSlash)
      else if scheme = "file" then
        if 2 ≤ rest.length && (rest.take 2).all isSlash then fileFault? (rest.drop 2) else none
      else match rest with
        | '/' :: '/' :: rest => authorityFault? false rest
        | _ => none

end BridgeRelay.Url
