namespace QueryJournal.Text

/-!
Sets of code points as lists of closed ranges.
-/

def inRanges (ranges : List (Nat × Nat)) (code : Nat) : Bool :=
  ranges.any fun range => range.1 ≤ code && code ≤ range.2

end QueryJournal.Text
