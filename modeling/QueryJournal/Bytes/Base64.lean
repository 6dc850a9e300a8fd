import QueryJournal.Text.Utf8

namespace QueryJournal.Base64

open QueryJournal.Utf8 (Bytes)

/-!
The base 64 form of bytes with padding. Each byte sequence has one form, and `decode?` accepts
no other: the padding has to be there and the bits that hold no data have to be zero.
-/

def digit (value : Nat) : Char :=
  Char.ofNat
    (if value < 26 then 65 + value
    else if value < 52 then 71 + value
    else if value < 62 then value - 4
    else if value = 62 then 43
    else 47)

def value? (c : Char) : Option Nat :=
  if 'A' ≤ c ∧ c ≤ 'Z' then some (c.toNat - 65)
  else if 'a' ≤ c ∧ c ≤ 'z' then some (c.toNat - 71)
  else if '0' ≤ c ∧ c ≤ '9' then some (c.toNat + 4)
  else if c = '+' then some 62
  else if c = '/' then some 63
  else none

/-- Three bytes become four characters, and padding fills up the end; `done` holds the characters
of the bytes before, last first. -/
def encodeOnto (done : List Char) : Bytes → List Char
  | [] => done.reverse
  | [a] =>
    let bits := a.toNat * 0x10000
    done.reverse ++ [digit (bits / 0x40000), digit (bits / 0x1000 % 64), '=', '=']
  | [a, b] =>
    let bits := a.toNat * 0x10000 + b.toNat * 0x100
    done.reverse ++
      [digit (bits / 0x40000), digit (bits / 0x1000 % 64), digit (bits / 0x40 % 64), '=']
  | a :: b :: c :: rest =>
    let bits := a.toNat * 0x10000 + b.toNat * 0x100 + c.toNat
    encodeOnto
      (digit (bits % 64) :: digit (bits / 0x40 % 64) :: digit (bits / 0x1000 % 64) ::
        digit (bits / 0x40000) :: done) rest

def encode (bytes : Bytes) : String :=
  String.ofList (encodeOnto [] bytes)

/-- Reads four characters at a time; `done` holds the bytes before them, last first. -/
def decodeOnto (done : Bytes) : List Char → Option Bytes
  | [] => some done.reverse
  | [a, b, '=', '='] => do
    let bits := (← value? a) * 64 + (← value? b)
    if bits % 16 = 0 then some (UInt8.ofNat (bits / 16) :: done).reverse else none
  | [a, b, c, '='] => do
    let bits := ((← value? a) * 64 + (← value? b)) * 64 + (← value? c)
    if bits % 4 = 0 then
      some (UInt8.ofNat (bits / 4 % 256) :: UInt8.ofNat (bits / 1024) :: done).reverse
    else none
  | a :: b :: c :: d :: rest => do
    let bits := (((← value? a) * 64 + (← value? b)) * 64 + (← value? c)) * 64 + (← value? d)
    decodeOnto
      (UInt8.ofNat (bits % 256) :: UInt8.ofNat (bits / 256 % 256) :: UInt8.ofNat (bits / 65536) ::
        done) rest
  | _ => none

def decode? (text : String) : Option Bytes :=
  decodeOnto [] text.toList

end QueryJournal.Base64
