import Libhat.Strconv

/-!
# The mapped regions of a Linux process

`iter_mapped_regions` reads `/proc/self/maps` line by line and calls back with the
bounds and the protection of every region, until the callback says to stop.  Here
the file is a text, and the callback carries the variables that it captures.
-/

namespace Libhat.Linux

def protRead : BitVec 32 := 1#32
def protWrite : BitVec 32 := 2#32
def protExec : BitVec 32 := 4#32

/-- The lines that `std::getline` takes from a file. -/
def getlines (content : Text) : List Text :=
  let lines := content.splitOn '\n'
  if lines.getLast? = some [] then lines.dropLast else lines

/-- The errors of `std::from_chars`. -/
inductive FromCharsError where
  | invalidArgument
  | resultOutOfRange
  deriving DecidableEq, Repr

/-- `std::from_chars` for a `std::uintptr_t` in base 16: the value, and what is left. -/
def fromChars (s : Text) : Except FromCharsError Nat × Text :=
  let digits := s.takeWhile (fun c => (digitOf 16 c).isSome)
  if digits = [] then
    (.error .invalidArgument, s)
  else
    let value := digits.foldl (fun v c => v * 16 + (digitOf 16 c).getD 0) 0
    let rest := s.drop digits.length
    if value < 2 ^ 64 then (.ok value, rest) else (.error .resultOutOfRange, rest)

/-- The region that a line describes: `begin-end rwx`. -/
def parseRegion (line : Text) : Option (Nat × Nat × BitVec 32) :=
  match fromChars line with
  | (.ok pageBegin, _ :: rest) =>
    match fromChars rest with
    | (.ok pageEnd, _ :: r :: w :: x :: _) =>
      some (pageBegin, pageEnd, (if r = 'r' then protRead else 0) |||
        (if w = 'w' then protWrite else 0) ||| (if x = 'x' then protExec else 0))
    | _ => none
  | _ => none

/-- `iter_mapped_regions` over the lines that are left; the callback also returns
whether to go on. -/
def iterMappedRegions {σ : Type} (callback : Nat → Nat → BitVec 32 → σ → σ × Bool) :
    List Text → σ → σ
  | [], s => s
  | line :: lines, s =>
    match parseRegion line with
    | none => iterMappedRegions callback lines s
    | some (pageBegin, pageEnd, prot) =>
      match callback pageBegin pageEnd prot s with
      | (s', true) => iterMappedRegions callback lines s'
      | (s', false) => s'

/-- `get_page_prot`. -/
def getPageProt (maps : Text) (address : BitVec 64) : Option (BitVec 32) :=
  iterMappedRegions (fun pageBegin pageEnd prot result =>
    if address.toNat ≥ pageBegin ∧ address.toNat < pageEnd then (some prot, false)
    else (result, true)) (getlines maps) none

end Libhat.Linux
