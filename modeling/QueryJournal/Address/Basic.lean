namespace QueryJournal

/-!
Client addresses. Masking keeps the part of an address that names a network and clears the part
that names a machine in it.
-/

/-- An address of either version of the Internet Protocol. -/
inductive Address where
  | v4 (a b c d : UInt8)
  | v6 (groups : Vector UInt16 8)
  deriving DecidableEq, Repr

namespace Address

def unspecified : Address :=
  .v4 0 0 0 0

instance : Inhabited Address := ⟨unspecified⟩

/-- Keeps the first 24 bits of a version 4 address and the first 48 bits of a version 6
address. -/
def masked : Address → Address
  | .v4 a b c _ => .v4 a b c 0
  | .v6 groups => .v6 #v[groups[0], groups[1], groups[2], 0, 0, 0, 0, 0]

@[simp] theorem masked_masked (address : Address) : address.masked.masked = address.masked := by
  cases address <;> rfl

end Address

end QueryJournal
