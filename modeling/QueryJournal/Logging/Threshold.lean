import QueryJournal.Logging.Level
import QueryJournal.Text.Blank
import QueryJournal.Text.Numeral

namespace QueryJournal.Logging

open QueryJournal.Text (eqIgnoringCase)

/-!
Bounds on the severity of the events that are written.
-/

/-- The severity up to which events are written, if any are. -/
abbrev Threshold := Option Level

namespace Threshold

/-- The place of a threshold, counted from the one that lets nothing through, which is 0. -/
def rank (threshold : Threshold) : Nat :=
  (threshold.map Level.rank).getD 0

def admits (threshold : Threshold) (level : Level) : Bool :=
  level.rank ≤ threshold.rank

def max (left right : Threshold) : Threshold :=
  if left.rank < right.rank then right else left

def greatest (thresholds : List Threshold) : Threshold :=
  thresholds.foldl max none

/-- The thresholds in the order of their numbers, from nothing to everything. -/
def all : List Threshold :=
  [none, some .error, some .warn, some .info, some .debug, some .trace]

def name : Threshold → String
  | none => "off"
  | some .error => "error"
  | some .warn => "warn"
  | some .info => "info"
  | some .debug => "debug"
  | some .trace => "trace"

/-- Reads a threshold: its name in any case, or its number. -/
def named? (text : List Char) : Option Threshold :=
  match (Numeral.word? text).bind fun number => all[number]? with
  | some threshold => some threshold
  | none => all.find? fun threshold => eqIgnoringCase threshold.name.toList text

end Threshold

end QueryJournal.Logging
