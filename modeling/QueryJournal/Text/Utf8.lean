namespace QueryJournal.Utf8

/-!
The UTF-8 form of text. `encode` writes characters, `decode?` accepts exactly the byte
sequences that `encode` can produce: no overlong form, no surrogate, nothing above U+10FFFF.
-/

abbrev Bytes := List UInt8

def encodeChar (c : Char) : Bytes :=
  let code := c.toNat
  if code < 0x80 then [UInt8.ofNat code]
  else if code < 0x800 then
    [UInt8.ofNat (0xC0 + code / 0x40), UInt8.ofNat (0x80 + code % 0x40)]
  else if code < 0x10000 then
    [UInt8.ofNat (0xE0 + code / 0x1000), UInt8.ofNat (0x80 + code / 0x40 % 0x40),
      UInt8.ofNat (0x80 + code % 0x40)]
  else
    [UInt8.ofNat (0xF0 + code / 0x40000), UInt8.ofNat (0x80 + code / 0x1000 % 0x40),
      UInt8.ofNat (0x80 + code / 0x40 % 0x40), UInt8.ofNat (0x80 + code % 0x40)]

def encode (text : List Char) : Bytes :=
  text.flatMap encodeChar

def ofString (text : String) : Bytes :=
  encode text.toList

/-- The character of a code point, if it is a scalar value at least `least`. -/
def scalar? (least code : Nat) : Option Char :=
  if valid : code.isValidChar then
    if least ≤ code then some (Char.ofNatAux code valid) else none
  else none

def continuation? (byte : UInt8) : Option Nat :=
  if 0x80 ≤ byte ∧ byte ≤ 0xBF then some (byte.toNat - 0x80) else none

/-- Reads characters one by one; `done` holds those already read, last first. -/
def decodeOnto (done : List Char) : Bytes → Option (List Char)
  | [] => some done.reverse
  | a :: rest =>
    if a < 0x80 then decodeOnto (Char.ofNat a.toNat :: done) rest
    else
      match rest with
      | [] => none
      | b :: rest =>
        match continuation? b with
        | none => none
        | some b =>
          if a < 0xC0 then none
          else if a < 0xE0 then
            match scalar? 0x80 ((a.toNat - 0xC0) * 0x40 + b) with
            | none => none
            | some c => decodeOnto (c :: done) rest
          else
            match rest with
            | [] => none
            | d :: rest =>
              match continuation? d with
              | none => none
              | some d =>
                if a < 0xF0 then
                  match scalar? 0x800 (((a.toNat - 0xE0) * 0x40 + b) * 0x40 + d) with
                  | none => none
                  | some c => decodeOnto (c :: done) rest
                else
                  match rest with
                  | [] => none
                  | e :: rest =>
                    match continuation? e with
                    | none => none
                    | some e =>
                      match scalar? 0x10000
                        ((((a.toNat - 0xF0) * 0x40 + b) * 0x40 + d) * 0x40 + e) with
                      | none => none
                      | some c => decodeOnto (c :: done) rest

def decode? (bytes : Bytes) : Option (List Char) :=
  decodeOnto [] bytes

def toString? (bytes : Bytes) : Option String :=
  (decode? bytes).map String.ofList

end QueryJournal.Utf8
