/-! Bytes written in base 64. Characters outside of the alphabet are passed over, and
what follows a complete padding is ignored. -/
namespace DesignTokens.Text.Base64

def digit? (c : Char) : Option Nat :=
  if 'A' ≤ c ∧ c ≤ 'Z' then some (c.toNat - 'A'.toNat)
  else if 'a' ≤ c ∧ c ≤ 'z' then some (c.toNat - 'a'.toNat + 26)
  else if '0' ≤ c ∧ c ≤ '9' then some (c.toNat - '0'.toNat + 52)
  else if c = '+' then some 62
  else if c = '/' then some 63
  else none

/-- A group of four digits that is being read: how many there are, the bits of the
last of them that belong to no byte yet, and the padding after them. -/
structure Group where
  digits : Nat := 0
  bits : Nat := 0
  padding : Nat := 0

/-- The byte that a further digit completes, if there is one. -/
def Group.byte? (group : Group) (digit : Nat) : Option UInt8 :=
  match group.digits with
  | 1 => some (UInt8.ofNat (group.bits * 4 + digit / 16))
  | 2 => some (UInt8.ofNat (group.bits * 16 + digit / 4))
  | 3 => some (UInt8.ofNat (group.bits * 64 + digit))
  | _ => none

def Group.next (group : Group) (digit : Nat) : Group :=
  match group.digits with
  | 0 => { digits := 1, bits := digit }
  | 1 => { digits := 2, bits := digit % 16 }
  | 2 => { digits := 3, bits := digit % 4 }
  | _ => {}

/-- Nothing if the text ends inside of a group. -/
def decodeFrom? (group : Group) : List Char → Option (List UInt8)
  | [] => if group.digits = 0 then some [] else none
  | c :: rest =>
    if c = '=' then
      if 2 ≤ group.digits ∧ 4 ≤ group.digits + group.padding + 1 then some []
      else if 2 ≤ group.digits then decodeFrom? { group with padding := group.padding + 1 } rest
      else decodeFrom? group rest
    else
      match digit? c with
      | some digit => do
        return (group.byte? digit).toList ++ (← decodeFrom? (group.next digit) rest)
      | none => decodeFrom? group rest

def decode? (text : List Char) : Option (List UInt8) := decodeFrom? {} text

end DesignTokens.Text.Base64
