import RpcRegistry.Inet.V4

/-!
IPv6 addresses and their text. Written: the longest run of two or more zero groups, the first on
a tie, is squeezed to a double colon, and an address that embeds an IPv4 one after `::ffff:` shows
it as a dotted quad. Read: groups of one to four hexadecimal digits, at most one double colon, and
a dotted quad in place of the last two groups.
-/

namespace RpcRegistry.Inet

open RpcRegistry.Text

structure V6 where
  groups : List UInt16
  length_eq : groups.length = 8
  deriving DecidableEq, Repr

def V4.groups (address : V4) : List UInt16 :=
  [UInt16.ofNat (256 * address.first.toNat + address.second.toNat),
   UInt16.ofNat (256 * address.third.toNat + address.fourth.toNat)]

def V4.ofGroups (high low : UInt16) : V4 :=
  ⟨UInt8.ofNat (high.toNat / 256), UInt8.ofNat (high.toNat % 256),
   UInt8.ofNat (low.toNat / 256), UInt8.ofNat (low.toNat % 256)⟩

namespace V6

def unspecified : V6 := ⟨List.replicate 8 0, rfl⟩

/-- The address whose front and back groups are given, zeros between them. -/
def ofEnds (front back : List UInt16) : Option V6 :=
  let groups := front ++ List.replicate (8 - front.length - back.length) 0 ++ back
  if proof : groups.length = 8 then some ⟨groups, proof⟩ else none

/-- The IPv4 address an IPv4-mapped address carries. -/
def mapped (address : V6) : Option V4 :=
  match address.groups with
  | [0, 0, 0, 0, 0, 0xffff, high, low] => some (V4.ofGroups high low)
  | _ => none

def groupText (group : UInt16) : List Char := Numeral.digits 16 group.toNat

def groupsText (groups : List UInt16) : List Char :=
  (groups.map groupText).intersperse [':'] |>.flatten

/-- Where the longest run of zero groups starts and how long it is; the first one on a tie. -/
def longestZeroRun : List UInt16 → Nat × Nat
  | [] => (0, 0)
  | group :: rest =>
      let here := ((group :: rest).takeWhile (· = 0)).length
      let (start, length) := longestZeroRun rest
      if length ≤ here then (0, here) else (start + 1, length)

def text (address : V6) : List Char :=
  match address.mapped with
  | some embedded => "::ffff:".toList ++ embedded.text
  | none =>
      let (start, length) := longestZeroRun address.groups
      if 2 ≤ length then
        groupsText (address.groups.take start) ++ "::".toList ++
          groupsText (address.groups.drop (start + length))
      else groupsText address.groups

def readGroup (text : List Char) : Option (UInt16 × List Char) := do
  let (run, rest) ← readDigits 16 4 text
  some (UInt16.ofNat (Numeral.value 16 run), rest)

/-- What a row of groups yields: the groups, whether a dotted quad ended it, and the rest. -/
structure Row where
  groups : List UInt16
  quad : Bool
  rest : List Char

/-- As many colon-separated groups as there are, at most `room`. A dotted quad takes the place of
two groups and ends the row. -/
def readRow : (room : Nat) → (first : Bool) → List Char → Row
  | 0, _, text => ⟨[], false, text⟩
  | room + 1, first, text =>
      let quad := if room = 0 then none else (afterMark ':' first text).bind V4.read
      match quad with
      | some (address, rest) => ⟨address.groups, true, rest⟩
      | none =>
          match (afterMark ':' first text).bind readGroup with
          | some (group, rest) =>
              let row := readRow room false rest
              ⟨group :: row.groups, row.quad, row.rest⟩
          | none => ⟨[], false, text⟩

/-- An IPv6 address at the front of a text. The double colon stands for one group at least, and
no dotted quad comes before it. -/
def read (text : List Char) : Option (V6 × List Char) := do
  let front := readRow 8 true text
  if front.groups.length = 8 then
    let address ← ofEnds front.groups []
    some (address, front.rest)
  else if front.quad then none
  else
    match front.rest with
    | ':' :: ':' :: rest =>
        let back := readRow (7 - front.groups.length) true rest
        let address ← ofEnds front.groups back.groups
        some (address, back.rest)
    | _ => none

end V6

end RpcRegistry.Inet
