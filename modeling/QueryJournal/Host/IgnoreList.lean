import QueryJournal.Host.Basic

namespace QueryJournal

/-!
The hosts that are never recorded. A list is made from entries as they were written; the first
entry that is empty, no host name or the repetition of an earlier one refuses the whole list.
-/

/-- Why the entries make up no list: the place of the first bad entry and what is wrong with it. -/
inductive IgnoreFault where
  | empty (index : Nat)
  | malformed (index : Nat) (entry : String) (fault : Host.Fault)
  | duplicate (index : Nat) (entry : String)
  deriving DecidableEq, Repr

/-- The hosts that are never recorded, in normal form and in ascending order. -/
structure IgnoreList where
  hosts : List String
  deriving DecidableEq, Inhabited

namespace IgnoreList

def none : IgnoreList :=
  { hosts := [] }

/-- The hosts of entries from a place on; `seen` holds those of the entries before, last first. -/
def collect (index : Nat) (seen : List String) : List String → Except IgnoreFault (List String)
  | [] => .ok seen
  | entry :: rest =>
    let host := Host.normal entry.toList
    if host.isEmpty then .error (.empty index)
    else
      match Host.check host with
      | .error fault => .error (.malformed index entry fault)
      | .ok () =>
        let host := String.ofList host
        if seen.contains host then .error (.duplicate index entry)
        else collect (index + 1) (host :: seen) rest

def sorted (hosts : List String) : List String :=
  hosts.mergeSort fun left right => decide (left ≤ right)

def ofEntries (entries : List String) : Except IgnoreFault IgnoreList :=
  (collect 0 [] entries).map fun hosts => { hosts := sorted hosts }

def admits (list : IgnoreList) (host : String) : Bool :=
  list.hosts.isEmpty || !list.hosts.contains (String.ofList (Host.normal host.toList))

end IgnoreList

end QueryJournal
