import QueryJournal.Address.Basic

namespace QueryJournal.Address

/-!
What masking leaves of an address: the network that it is in, and nothing else.
-/

/-- The bits of an address, read as one number. -/
def number : Address → Nat
  | .v4 a b c d => [a, b, c, d].foldl (fun value octet => value * 0x100 + octet.toNat) 0
  | .v6 groups => groups.toList.foldl (fun value group => value * 0x10000 + group.toNat) 0

/-- Two addresses of one version that have the same first bits, 24 of 32 in version 4 and 48 of 128
in version 6. An address of version 6 that stands for one of version 4 is one of version 6. -/
def SameNetwork (left right : Address) : Prop :=
  match left, right with
  | .v4 .., .v4 .. => left.number >>> 8 = right.number >>> 8
  | .v6 _, .v6 _ => left.number >>> 80 = right.number >>> 80
  | _, _ => False

instance : (left right : Address) → Decidable (left.SameNetwork right)
  | .v4 .., .v4 .. => inferInstanceAs (Decidable (_ = _))
  | .v6 _, .v6 _ => inferInstanceAs (Decidable (_ = _))
  | .v4 .., .v6 _ | .v6 _, .v4 .. => inferInstanceAs (Decidable False)

/-- The first bits of an address of version 4, from its first octets. -/
theorem network_v4 (a b c d : UInt8) :
    (Address.v4 a b c d).number >>> 8 = (a.toNat * 0x100 + b.toNat) * 0x100 + c.toNat := by
  have last := d.toNat_lt
  simp only [number, List.foldl_cons, List.foldl_nil]
  omega

/-- The first bits of an address of version 6, from its first groups. -/
theorem network_v6 (a b c d e f g h : UInt16) :
    (Address.v6 #v[a, b, c, d, e, f, g, h]).number >>> 80 =
      (a.toNat * 0x10000 + b.toNat) * 0x10000 + c.toNat := by
  have bounds := And.intro d.toNat_lt (And.intro e.toNat_lt (And.intro f.toNat_lt
    (And.intro g.toNat_lt h.toNat_lt)))
  simp only [number, Vector.toList, List.foldl_cons, List.foldl_nil]
  omega

theorem exists_groups (groups : Vector UInt16 8) :
    ∃ a b c d e f g h, groups = #v[a, b, c, d, e, f, g, h] := by
  obtain ⟨⟨groups⟩, size⟩ := groups
  match groups, size with
  | [a, b, c, d, e, f, g, h], _ => exact ⟨a, b, c, d, e, f, g, h, rfl⟩

/-- Masking tells two addresses apart exactly if they are in different networks. -/
theorem masked_eq_masked_iff (left right : Address) :
    left.masked = right.masked ↔ left.SameNetwork right := by
  cases left with
  | v4 a b c d =>
      cases right with
      | v4 p q r s =>
          have bounds := And.intro b.toNat_lt (And.intro c.toNat_lt (And.intro q.toNat_lt
            r.toNat_lt))
          rw [SameNetwork, network_v4, network_v4]
          simp only [masked, v4.injEq, and_true, ← UInt8.toNat_inj]
          omega
      | v6 groups => exact ⟨nofun, False.elim⟩
  | v6 groups =>
      cases right with
      | v4 a b c d => exact ⟨nofun, False.elim⟩
      | v6 others =>
          obtain ⟨a, b, c, d, e, f, g, h, rfl⟩ := exists_groups groups
          obtain ⟨p, q, r, s, t, u, v, w, rfl⟩ := exists_groups others
          have bounds := And.intro b.toNat_lt (And.intro c.toNat_lt (And.intro q.toNat_lt
            r.toNat_lt))
          rw [SameNetwork, network_v6, network_v6]
          simp only [masked, Vector.getElem_mk, List.getElem_toArray, List.getElem_cons_zero,
            List.getElem_cons_succ, v6.injEq, Vector.mk.injEq, Array.mk.injEq, List.cons.injEq,
            and_true, ← UInt16.toNat_inj]
          omega

-- All addresses of version 6 that stand for ones of version 4 are in one network.
example : (Address.v6 #v[0, 0, 0, 0, 0, 0xFFFF, 0x0A00, 0x0001]).SameNetwork
    (.v6 #v[0, 0, 0, 0, 0, 0xFFFF, 0xC0A8, 0x0102]) := by decide

end QueryJournal.Address
