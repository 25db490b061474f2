import VianiumVoip.Ice.Agent
import Mathlib.Data.List.DropRight

/-!
# Candidate lines

`IceCandidateParser::Parse` of `domain/ice_candidate`, which reads an SDP `candidate:` line.  Numbers are read by
`strtol` and `strtoul`, which stop at a NUL, take a sign and saturate at the 32 bits that a `long` has on Windows.
-/

namespace VianiumVoip.Ice.IceCandidateParser

def typeFromString (s : List Char) : IceCandidateType :=
  if s = "host".toList then .host
  else if s = "srflx".toList then .srflx
  else if s = "prflx".toList then .prflx
  else if s = "relay".toList then .relay
  else .unknown

/-! ### Tokens -/

def isBlank (c : Char) : Bool := c = ' ' ∨ c = '\t' ∨ c = '\r' ∨ c = '\n'

/-- `Trim` -/
def trim (s : List Char) : List Char := (s.dropWhile isBlank).rdropWhile isBlank

/-- The loop of `SplitSpaces`, with the token that is being read. -/
def splitLoop : List Char → List Char → List (List Char)
  | cur, [] => if cur = [] then [] else [cur]
  | cur, c :: s =>
    if c = ' ' ∨ c = '\t' then
      if cur = [] then splitLoop [] s else cur :: splitLoop [] s
    else splitLoop (cur ++ [c]) s

/-- `SplitSpaces` -/
def splitSpaces (s : List Char) : List (List Char) := splitLoop [] s

/-! ### Numbers -/

/-- `isspace` -/
def isSpace (c : Char) : Bool := c = ' ' ∨ 9 ≤ c.toNat ∧ c.toNat ≤ 13

/-- What `strtol` and `strtoul` read at base 10: a sign, a magnitude, and where they stop.  Without digits they stop
where they began. -/
def scanNumber (s : List Char) : Bool × ℕ × List Char :=
  let body := s.dropWhile isSpace
  let (negative, body) := match body with
    | '-' :: rest => (true, rest)
    | '+' :: rest => (false, rest)
    | rest => (false, rest)
  let digits := body.takeWhile Char.isDigit
  if digits = [] then (false, 0, s)
  else (negative, digits.foldl (fun n c => 10 * n + (c.toNat - '0'.toNat)) 0, body.dropWhile Char.isDigit)

/-- `ParseInt`; `none` where it returns false. -/
def parseInt (s : List Char) : Option ℤ :=
  if s = [] then none
  else
    let (negative, magnitude, rest) := scanNumber (s.takeWhile (· ≠ '\x00'))
    if rest ≠ [] then none
    else some (if negative then max (-(magnitude : ℤ)) (-2 ^ 31) else min (magnitude : ℤ) (2 ^ 31 - 1))

/-- `ParseU32`; `none` where it returns false. -/
def parseU32 (s : List Char) : Option UInt32 :=
  if s = [] then none
  else
    let (negative, magnitude, rest) := scanNumber (s.takeWhile (· ≠ '\x00'))
    if rest ≠ [] then none
    else if 2 ^ 32 ≤ magnitude then some 0xFFFFFFFF
    else some (if negative then 0 - UInt32.ofNat magnitude else UInt32.ofNat magnitude)

/-! ### Lines -/

/-- The pairs of a key and a value behind the type.  A value that is no number leaves the field as it is. -/
def readExtensions : List (List Char) → ParsedIceCandidate → ParsedIceCandidate
  | k :: v :: rest, out =>
    readExtensions rest <|
      if k = "raddr".toList then { out with relatedAddress := String.ofList v }
      else if k = "rport".toList then { out with relatedPort := (parseInt v).getD out.relatedPort }
      else if k = "generation".toList then { out with generation := (parseInt v).getD out.generation }
      else if k = "ufrag".toList then { out with ufrag := String.ofList v }
      else if k = "network-id".toList then { out with networkId := (parseInt v).getD out.networkId }
      else if k = "network-cost".toList then { out with networkCost := (parseInt v).getD out.networkCost }
      else out
  | _, out => out

/-- A line without the prefixes `a=` and `candidate:`. -/
def stripPrefixes (line : List Char) : List Char :=
  let line := if line.take 2 = "a=".toList then line.drop 2 else line
  if line.take 10 = "candidate:".toList then line.drop 10 else line

/-- `Parse`; `none` where it returns false. -/
def parse (sdpLine : String) : Option ParsedIceCandidate :=
  let line := trim sdpLine.toList
  if line = [] then none
  else
    match splitSpaces (stripPrefixes line) with
    | foundation :: component :: transport :: priority :: ip :: port :: typ :: type :: extensions => do
      let componentId ← parseInt component
      let priority ← parseU32 priority
      let port ← parseInt port
      if typ ≠ "typ".toList then none
      else if typeFromString type = .unknown then none
      else
        some <| readExtensions extensions
          { foundation := String.ofList foundation
            componentId := componentId
            transport := String.ofList transport
            priority := priority
            ip := String.ofList ip
            port := port
            type := typeFromString type }
    | _ => none

example : (parse "candidate:2188581420 1 udp 2122194688 192.168.3.44 58771 typ host generation 0 ufrag +5to").map
    (fun c => (c.ip, c.port, c.type, c.ufrag)) = some ("192.168.3.44", 58771, .host, "+5to") := by decide +kernel

end VianiumVoip.Ice.IceCandidateParser
