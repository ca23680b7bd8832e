import RollupFees.Failure
import RollupFees.Hex

/-!
# Addresses of nodes

A node is reached under a URL. Only what every URL must have is checked: a scheme, and for the
schemes of the web a host and perhaps a port.

## Main definitions

* `Endpoint.Fault` : what is wrong with a URL
* `Endpoint.check` : the check
* `Endpoint.connect` : a node that is asked at an interval
-/

namespace RollupFees.Endpoint

/-- What is wrong with a URL. -/
inductive Fault
  | noScheme
  | noHost
  | badPort
  | badName
  | badCharacter
  | badIPv4
  | badIPv6
deriving DecidableEq, Repr

/-- What is wrong, in words. -/
def Fault.message : Fault → String
  | .noScheme => "relative URL without a base"
  | .noHost => "empty host"
  | .badPort => "invalid port number"
  | .badName => "invalid international domain name"
  | .badCharacter => "invalid domain character"
  | .badIPv4 => "invalid IPv4 address"
  | .badIPv6 => "invalid IPv6 address"

/-- Control characters and spaces, which do not count at the ends of a URL. -/
def isPadding (c : Char) : Bool := c.toNat ≤ 0x20

/-- The characters that count: padding at the ends and line breaks inside do not. -/
def cleaned (url : String) : List Char :=
  let front := url.toList.dropWhile isPadding
  let both := (front.reverse.dropWhile isPadding).reverse
  both.filter fun c => c ≠ '\t' ∧ c ≠ '\n' ∧ c ≠ '\r'

/-- The scheme in lower case and what follows its colon. -/
def scheme? (chars : List Char) : Option (String × List Char) :=
  let isLetter := fun c : Char => c.isAlphanum || c = '+' || c = '-' || c = '.'
  match chars.dropWhile isLetter with
  | ':' :: rest =>
    if (chars.head?.map Char.isAlpha).getD false then
      some (String.ofList ((chars.takeWhile isLetter).map Char.toLower), rest)
    else none
  | _ => none

/-- The schemes of the web, whose URLs have to have a host. -/
def isWeb (scheme : String) : Bool := scheme ∈ ["http", "https", "ws", "wss", "ftp"]

/-- What ends the part of a URL that names the host. -/
def endsAuthority (web : Bool) (c : Char) : Bool :=
  c = '/' || c = '?' || c = '#' || (web && c = '\\')

/-- What follows the last `@`, and whether anything but the `@` was in front of it; all of it if
there is none. -/
def afterUser (chars : List Char) : List Char × Bool :=
  if chars.contains '@' then
    let host := (chars.reverse.takeWhile (· ≠ '@')).reverse
    (host, host.length + 1 < chars.length)
  else (chars, false)

/-- Splits a host from what follows it, which begins with a colon. A colon in brackets belongs to
the host. -/
def splitHost (bracketed : Bool) : List Char → List Char × List Char
  | [] => ([], [])
  | c :: rest =>
    if c = ':' ∧ ¬ bracketed then ([], c :: rest)
    else
      let inside := if c = '[' then true else if c = ']' then false else bracketed
      let (host, tail) := splitHost inside rest
      (c :: host, tail)

/-- The fields of a text between separators. -/
def fields (separator : Char) (chars : List Char) : List (List Char) :=
  (String.ofList chars).splitOn (separator.toString) |>.map String.toList

/-- Digits in one of the notations of an address part: decimal, octal or hexadecimal. -/
def partValue? (chars : List Char) : Option Nat :=
  let value (base : Nat) (digits : List Char) : Option Nat :=
    digits.foldl (fun acc c => acc.bind fun n => (Hex.value? c).bind fun d =>
      if d < base then some (base * n + d) else none) (some 0)
  match chars with
  | [] => none
  | '0' :: 'x' :: rest | '0' :: 'X' :: rest => value 16 rest
  | '0' :: d :: rest => value 8 (d :: rest)
  | digits => value 10 digits

/-- The parts of a numeric address; an empty last one does not count. -/
def numericParts (host : List Char) : List (List Char) :=
  let parts := fields '.' host
  if parts.getLast? = some [] then parts.dropLast else parts

/-- Whether the last part of a host is a number. -/
def endsInNumber (host : List Char) : Bool :=
  match (numericParts host).getLast? with
  | none => false
  | some [] => false
  | some last => last.all Char.isDigit || (partValue? last).isSome

/-- Whether a host that ends in a number is an address of four bytes: the last part fills the bytes
that the others leave. -/
def isIPv4 (host : List Char) : Bool :=
  let parts := numericParts host
  match (parts.map partValue?).reverse with
  | some last :: before =>
    parts.length ≤ 4 && decide (last < 256 ^ (4 - before.length)) &&
      before.all fun p => match p with
        | some n => decide (n < 256)
        | none => false
  | _ => false

/-- Whether a part is a byte in decimal. -/
def isByte (chars : List Char) : Bool :=
  !chars.isEmpty && chars.length ≤ 3 && chars.all Char.isDigit &&
    (chars.length = 1 || chars.head? ≠ some '0') && decide ((partValue? chars).getD 256 < 256)

/-- How many groups of sixteen bits a part between colons stands for. Four bytes in decimal may
stand last. -/
def groups? (last : Bool) (chars : List Char) : Option Nat :=
  if !chars.isEmpty ∧ chars.length ≤ 4 ∧ chars.all fun c => (Hex.value? c).isSome then some 1
  else if last ∧ (fields '.' chars).length = 4 ∧ (fields '.' chars).all isByte then some 2
  else none

/-- The groups of parts between colons. -/
def groupCount? : List (List Char) → Option Nat
  | [] => some 0
  | [p] => groups? true p
  | p :: rest => (groups? false p).bind fun n => (groupCount? rest).map (n + ·)

/-- The groups of one side of a gap, which may be empty. -/
def sideCount? (chars : List Char) : Option Nat :=
  if chars.isEmpty then some 0 else groupCount? (fields ':' chars)

/-- Whether the text between brackets is an address of eight groups, of which a gap may stand for
one or more. -/
def isIPv6 (chars : List Char) : Bool :=
  match (String.ofList chars).splitOn "::" with
  | [all] => groupCount? (fields ':' all.toList) = some 8
  | [front, back] =>
    match sideCount? front.toList, sideCount? back.toList with
    | some a, some b => a + b ≤ 7 && !front.toList.contains '.'
    | _, _ => false
  | _ => false

/-- Characters that no host has. -/
def isDelimiter (c : Char) : Bool :=
  c = '\x00' || c = ' ' || c ∈ "#/:<>?@[\\]^|".toList

/-- Characters that no name of a host on the web has. -/
def isForbidden (c : Char) : Bool :=
  isDelimiter c || c = '%' || c.toNat < 0x20 || c.toNat = 0x7f

/-- The bytes of a text, those behind percent signs put in place. -/
def decodedBytes : List Char → List UInt8
  | '%' :: a :: b :: rest =>
    match Hex.value? a, Hex.value? b with
    | some x, some y => UInt8.ofNat (16 * x + y) :: decodedBytes rest
    | _, _ => 0x25 :: decodedBytes (a :: b :: rest)
  | c :: rest => (String.singleton c).toUTF8.toList ++ decodedBytes rest
  | [] => []

/-- A text with the bytes behind percent signs put in place. -/
def decoded? (chars : List Char) : Option (List Char) :=
  (String.fromUTF8? ⟨(decodedBytes chars).toArray⟩).map String.toList

/-- Checks a host. A text in brackets is an address; a name on the web that ends in a number is
one too. -/
def checkHost (web : Bool) (host : List Char) : Except Fault Unit :=
  match host with
  | '[' :: rest =>
    if rest.getLast? = some ']' ∧ isIPv6 rest.dropLast then .ok () else .error .badIPv6
  | _ =>
    if web then
      match decoded? host with
      | none => .error .badName
      | some name =>
        if name.any isForbidden then .error .badName
        else if endsInNumber name ∧ ¬ isIPv4 name then .error .badIPv4
        else .ok ()
    else if host.any isDelimiter then .error .badCharacter
    else .ok ()

/-- Checks a port: digits below `2 ^ 16`, or nothing. -/
def checkPort (chars : List Char) : Except Fault Unit :=
  let value := chars.foldl (fun n c => 10 * n + (c.toNat - '0'.toNat)) 0
  if chars.all Char.isDigit ∧ value < 2 ^ 16 then .ok () else .error .badPort

/-- Checks the part that names the host and the port. -/
def checkAuthority (web : Bool) (chars : List Char) : Except Fault Unit :=
  let (rest, hasUser) := afterUser (chars.takeWhile fun c => ! endsAuthority web c)
  let (host, tail) := splitHost false rest
  if host.isEmpty ∧ (web ∨ hasUser ∨ ¬ tail.isEmpty) then .error .noHost
  else
    (checkHost web host).bind fun _ =>
      match tail with
      | _ :: port => checkPort port
      | [] => .ok ()

/-- Checks a URL. -/
def check (url : String) : Except Fault Unit :=
  match scheme? (cleaned url) with
  | none => .error .noScheme
  | some (scheme, rest) =>
    if isWeb scheme then checkAuthority true (rest.dropWhile fun c => c = '/' || c = '\\')
    else if scheme = "file" then .ok ()
    else
      match rest with
      | '/' :: '/' :: authority => checkAuthority false authority
      | _ => .ok ()

/-- A node under a URL, asked at an interval while a transaction is pending. -/
structure Connection where
  url : String
  interval : Duration
deriving DecidableEq, Repr

/-- A node that is asked at an interval. -/
def connect (url : String) (interval : Duration) : Except Failure Connection :=
  match check url with
  | .ok () => .ok ⟨url, interval⟩
  | .error f => .error (.rpc "connect" (url ++ ": " ++ f.message))

end RollupFees.Endpoint
