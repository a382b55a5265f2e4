/-!
# Base 64

Bytes in base 64: four characters of the alphabet for three bytes, filled up with equals signs at
the end. Characters that are not in the alphabet are read over, and so are equals signs before the
third place of a group of four.
-/

namespace ChatRelay.Text.Base64

/-- The characters for the numbers from 0 to 63. -/
def alphabet : List Char :=
  "ABCDEFGHIJKLMNOPQRSTUVWXYZabcdefghijklmnopqrstuvwxyz0123456789+/".toList

/-- The number that a character stands for. -/
def valueOf? (c : Char) : Option Nat :=
  let i := alphabet.idxOf c
  if i < alphabet.length then some i else none

/-- The bytes of the rest of a text, where `group` holds what has been read of a group of four and
`pads` equals signs have followed it. -/
def readGroups : List Char → (group : List Nat) → (pads : Nat) → Option (List UInt8)
  | [], group, _ => if group.isEmpty then some [] else none
  | c :: rest, group, pads =>
    if c = '=' then
      if 2 ≤ group.length ∧ 4 ≤ group.length + pads + 1 then some (bytesOf group)
      else readGroups rest group (if 2 ≤ group.length then pads + 1 else pads)
    else
      match valueOf? c with
      | none => readGroups rest group pads
      | some v =>
        if group.length = 3 then
          (readGroups rest [] 0).map (bytesOf (group ++ [v]) ++ ·)
        else readGroups rest (group ++ [v]) 0
where
  /-- The bytes of a group of two, three or four numbers. -/
  bytesOf : List Nat → List UInt8
    | a :: b :: rest =>
      UInt8.ofNat (a * 4 + b / 16) ::
        match rest with
        | [] => []
        | c :: rest =>
          UInt8.ofNat (b % 16 * 16 + c / 4) ::
            match rest with
            | [] => []
            | d :: _ => [UInt8.ofNat (c % 4 * 64 + d)]
    | _ => []

/-- The bytes that a text stands for. -/
def decode? (s : String) : Option (List UInt8) := readGroups s.toList [] 0

end ChatRelay.Text.Base64
