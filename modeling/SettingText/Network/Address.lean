import SettingText.Number.Literal

/-!
Which texts are literal network addresses: four decimal octets with points, or eight groups of
hexadecimal digits with colons, where one run of zero groups may be left out and the last two groups
may be written as four octets.
-/

namespace SettingText.Network

/-- Cut a text at every occurrence of a character. -/
def pieces (mark : Char) (cs : List Char) : List (List Char) :=
  cs.splitOn mark

/-- A decimal octet without needless zeros. -/
def isOctet (cs : List Char) : Bool :=
  !cs.isEmpty && cs.all Char.isDigit && cs.length ≤ 3 &&
    !(cs.head? == some '0' && cs.length != 1) && Number.decimalValue cs ≤ 255

/-- Four octets with points between them. -/
def isQuad (cs : List Char) : Bool :=
  let parts := pieces '.' cs
  parts.length == 4 && parts.all isOctet

/-- One to four hexadecimal digits. -/
def isGroup (cs : List Char) : Bool :=
  !cs.isEmpty && cs.length ≤ 4 && cs.all fun c => (Number.digitIn? 16 c).isSome

/-- The groups of an address, with a quad at its end made two groups; none if the quad is wrong. -/
def withoutQuad (groups : List (List Char)) : Option (List (List Char)) :=
  match groups.getLast? with
  | some last =>
    if last.contains '.' then
      if isQuad last then some (groups.dropLast ++ [['0'], ['0']]) else none
    else some groups
  | none => none

/-- The indices of the empty groups, those at the ends apart. -/
def innerGaps (groups : List (List Char)) : List Nat :=
  (List.range groups.length).filter fun i =>
    0 < i && i + 1 < groups.length && (groups.getD i []).isEmpty

/-- Eight groups, or fewer around one gap. A gap at an end of the address takes the empty group
    at that end with it. -/
def groupsFit (groups : List (List Char)) : Bool :=
  match innerGaps groups with
  | [] => groups.length == 8 && groups.all isGroup
  | [gap] =>
    let front := groups.take gap
    let back := groups.drop (gap + 1)
    let front := if front.head? == some [] then front.drop 1 else front
    let openFront := (groups.take gap).head? == some [] && !front.isEmpty
    let shorter := if back.getLast? == some [] then back.dropLast else back
    let openBack := back.getLast? == some [] && !shorter.isEmpty
    !openFront && !openBack && front.length + shorter.length < 8 &&
      front.all isGroup && shorter.all isGroup
  | _ => false

/-- Groups with colons. A zone may follow a percent sign. -/
def isGrouped (cs : List Char) : Bool :=
  let address := cs.takeWhile (· != '%')
  let zoneFits := match cs.dropWhile (· != '%') with
    | [] => true
    | _ :: zone => !zone.isEmpty && !zone.contains '%'
  let groups := pieces ':' address
  !cs.contains '/' && zoneFits && 3 ≤ groups.length &&
    match withoutQuad groups with
    | some groups => groups.length ≤ 9 && groupsFit groups
    | none => false

end SettingText.Network
