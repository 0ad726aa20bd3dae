/-
ContentDelivery.Url.Ipv6 — hosts between brackets.

An address is eight groups of 16 bits. It is read from groups of one to
four hexadecimal digits with colons between them; the last two groups
may be four decimal numbers with dots, and two colons in a row, once,
stand for one group of zeros or more. It is written without leading
zeros, the first longest run of two zero groups or more as two colons.
-/
import ContentDelivery.Text.Hex

namespace ContentDelivery.Url.Ipv6

/-! ## Reading -/

/-- A group of one to four hexadecimal digits. -/
def group? (cs : List Char) : Option Nat :=
  if 1 ≤ cs.length ∧ cs.length ≤ 4 then
    (cs.mapM Text.Hex.digit?).map fun ds => ds.foldl (fun n d => n * 16 + d) 0
  else none

/-- A decimal number below 256 that has no needless zero in front. -/
def octet? (cs : List Char) : Option Nat :=
  if cs.isEmpty || !cs.all Char.isDigit || (cs.head? == some '0' && 1 < cs.length) then none
  else
    let n := cs.foldl (fun n c => n * 10 + (c.toNat - '0'.toNat)) 0
    if n < 256 then some n else none

/-- Two groups written as four decimal numbers. -/
def dottedGroups? (cs : List Char) : Option (List Nat) :=
  match (cs.splitOn '.').mapM octet? with
  | some [a, b, c, d] => some [a * 256 + b, c * 256 + d]
  | _ => none

/-- The groups of a text without two colons in a row; only the last may have dots. -/
def groups? (dotsAllowed : Bool) : List (List Char) → Option (List Nat)
  | [] => some []
  | [last] =>
    if last.contains '.' then (if dotsAllowed then dottedGroups? last else none)
    else (group? last).map ([·])
  | first :: rest => do
    let group ← group? first
    return group :: (← groups? dotsAllowed rest)

/-- The groups between colons; an empty text has none. -/
def colonGroups? (dotsAllowed : Bool) (cs : List Char) : Option (List Nat) :=
  if cs.isEmpty then some [] else groups? dotsAllowed (cs.splitOn ':')

/-- What stands before and after the first two colons in a row. -/
def splitCompressed : List Char → Option (List Char × List Char)
  | [] => none
  | ':' :: ':' :: rest => some ([], rest)
  | c :: rest => (splitCompressed rest).map fun (before, behind) => (c :: before, behind)

/-- The eight groups of an address. -/
def ofText? (cs : List Char) : Option (List Nat) :=
  match splitCompressed cs with
  | none => do
    let groups ← groups? true (cs.splitOn ':')
    guard (groups.length = 8)
    return groups
  | some (before, behind) => do
    let front ← colonGroups? false before
    let back ← colonGroups? true behind
    guard (front.length + back.length < 8)
    return front ++ List.replicate (8 - (front.length + back.length)) 0 ++ back

/-! ## Writing -/

/-- How many zeros begin a list. -/
def leadingZeros (groups : List Nat) : Nat := (groups.takeWhile (· == 0)).length

/-- The longest run of zeros in a list. -/
def longestRun : List Nat → Nat
  | [] => 0
  | g :: groups => max (leadingZeros (g :: groups)) (longestRun groups)

def joinGroups (groups : List Nat) : List Char := [':'].intercalate (groups.map (Nat.toDigits 16))

/-- Writes groups with their first run of `run` zeros as two colons. -/
def compress (run : Nat) (before : List Nat) : List Nat → List Char
  | [] => joinGroups before
  | g :: groups =>
    if leadingZeros (g :: groups) = run then
      joinGroups before ++ [':', ':'] ++ joinGroups ((g :: groups).drop run)
    else compress run (before ++ [g]) groups

def toText (groups : List Nat) : List Char :=
  if 2 ≤ longestRun groups then compress (longestRun groups) [] groups else joinGroups groups

end ContentDelivery.Url.Ipv6
