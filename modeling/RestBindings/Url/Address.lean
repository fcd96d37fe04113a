import RestBindings.Text.Split

/-!
# Numeric addresses

Recognising the two notations of network addresses that a bracketed host may use.
-/

namespace RestBindings.Url.Address

/-- An ASCII hexadecimal digit. -/
def isHexDigit (c : Char) : Bool :=
  c.isDigit || ('a' ≤ c && c ≤ 'f') || ('A' ≤ c && c ≤ 'F')

/-- The value of a run of decimal digits. -/
def decimalValue (digits : List Char) : Nat :=
  digits.foldl (fun value c => value * 10 + (c.toNat - '0'.toNat)) 0

/-- One of the four numbers of a version 4 address: up to three digits, no leading zero, at most
255. -/
def isOctet (part : List Char) : Bool :=
  !part.isEmpty && part.all Char.isDigit && part.length ≤ 3 &&
    (part.length == 1 || part.head? != some '0') && decimalValue part ≤ 255

/-- A version 4 address: four octets between dots. -/
def isVersion4 (s : List Char) : Bool :=
  let parts := Text.splitOn '.' s
  parts.length == 4 && parts.all isOctet

/-- A group of a version 6 address: one to four hexadecimal digits. -/
def isGroup (part : List Char) : Bool :=
  !part.isEmpty && part.length ≤ 4 && part.all isHexDigit

/-- The groups of an address whose last part may be a version 4 address, which stands for two
groups. -/
def expandTail (parts : List (List Char)) : Option (List (List Char)) :=
  match parts.reverse with
  | [] => none
  | tail :: front =>
    if tail.contains '.' then
      if isVersion4 tail then some (front.reverse ++ [['0'], ['0']]) else none
    else some parts

/-- The numbers of parts before and after the single empty part strictly inside the list, `none`
if there is more than one; an absent empty part is reported as `some none`. -/
def innerGap (parts : List (List Char)) : Option (Option Nat) :=
  let inner := (parts.drop 1).dropLast
  match inner.findIdx? List.isEmpty with
  | none => some none
  | some i => if (inner.drop (i + 1)).any List.isEmpty then none else some (some (i + 1))

/-- The groups on one side of the gap: an empty outermost part is allowed only when it stands
alone. -/
def sideGroups (outermost : Option (List Char)) (side : List (List Char)) :
    Option (List (List Char)) :=
  if outermost == some [] then (if side.length == 1 then some [] else none) else some side

/-- The parts between colons form an address of eight groups, a gap standing for at least one. -/
def isGroupList (parts : List (List Char)) : Bool :=
  match innerGap parts with
  | none => false
  | some none => parts.length == 8 && parts.all isGroup
  | some (some gap) =>
    match sideGroups parts.head? (parts.take gap),
        sideGroups parts.getLast? (parts.drop (gap + 1)) with
    | some high, some low =>
      high.length + low.length < 8 && high.all isGroup && low.all isGroup
    | _, _ => false

/-- A version 6 address, with an optional nonempty zone behind a percent sign. -/
def isVersion6 (s : List Char) : Bool :=
  let zone := Text.after '%' s
  let zoned := s.contains '%'
  let parts := Text.splitOn ':' (Text.before '%' s)
  if zoned && (zone.isEmpty || zone.contains '%') then false
  else if parts.length < 3 then false
  else match expandTail parts with
    | none => false
    | some groups => groups.length ≤ 9 && isGroupList groups

end RestBindings.Url.Address
