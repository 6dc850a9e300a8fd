import QueryJournal.Text.Range

namespace QueryJournal

open QueryJournal.Text (inRanges)

/-!
Patterns of texts. A pattern finds the part of a text that starts first; among parts that start at
the same place it finds the one that it prefers: a choice prefers its first branch, and an eager
repetition prefers to go on.
-/

/-- A set of characters. -/
inductive CharSet where
  | within (ranges : List (Nat × Nat))
  | complement (set : CharSet)
  | union (left right : CharSet)
  | common (left right : CharSet)
  deriving DecidableEq, Repr

namespace CharSet

def contains (c : Char) : CharSet → Bool
  | .within ranges => inRanges ranges c.toNat
  | .complement set => !set.contains c
  | .union left right => left.contains c || right.contains c
  | .common left right => left.contains c && right.contains c

def empty : CharSet :=
  .within []

def single (c : Char) : CharSet :=
  .within [(c.toNat, c.toNat)]

def without (left right : CharSet) : CharSet :=
  .common left (.complement right)

def either (left right : CharSet) : CharSet :=
  .union (left.without right) (right.without left)

end CharSet

/-- A pattern. The start and the end of a line are also those of the text. -/
inductive Pattern where
  | nothing
  | one (set : CharSet)
  | textStart
  | textEnd
  | lineStart
  | lineEnd
  | sequence (first second : Pattern)
  | choice (first second : Pattern)
  | optional (eager : Bool) (inner : Pattern)
  | many (eager : Bool) (inner : Pattern)
  deriving DecidableEq, Repr

namespace Pattern

/-- A place in a text: the character before it, if there is one, and the rest. -/
structure Place where
  before : Option Char
  rest : List Char
  deriving DecidableEq

/-- Adds the places that one step after another leads to, the preferred ones first, to those that
are reached already. Steps that take nothing are not repeated. -/
def repeated (step : Place → List Place) (eager : Bool) :
    Nat → List Place → Place → List Place
  | 0, reached, place => if reached.contains place then reached else reached ++ [place]
  | fuel + 1, reached, place =>
    let next := (step place).filter fun after => after.rest.length < place.rest.length
    if reached.contains place then reached
    else if eager then next.foldl (repeated step eager fuel) reached ++ [place]
    else next.foldl (repeated step eager fuel) (reached ++ [place])

/-- The places where a part of the text that starts at a place can end, the preferred ones first. -/
def ends : Pattern → Place → List Place
  | .nothing, place => [place]
  | .one set, place =>
    match place.rest with
    | [] => []
    | c :: rest => if set.contains c then [{ before := some c, rest }] else []
  | .textStart, place => if place.before.isNone then [place] else []
  | .textEnd, place => if place.rest.isEmpty then [place] else []
  | .lineStart, place => if place.before.all (· == '\n') then [place] else []
  | .lineEnd, place => if place.rest.head?.all (· == '\n') then [place] else []
  | .sequence first second, place => ((first.ends place).flatMap second.ends).eraseDups
  | .choice first second, place => (first.ends place ++ second.ends place).eraseDups
  | .optional eager inner, place =>
    if eager then inner.ends place ++ [place] else place :: inner.ends place
  | .many eager inner, place => repeated inner.ends eager place.rest.length [] place

def foundEnd? (pattern : Pattern) (before : Option Char) (rest : List Char) : Option Place :=
  match (pattern.ends { before, rest }).head? with
  | some place => some place
  | none =>
    match rest with
    | [] => none
    | c :: rest => pattern.foundEnd? (some c) rest

/-- Whether the part that a pattern finds in a text reaches to the end of the text. -/
def reachesEnd (pattern : Pattern) (text : List Char) : Bool :=
  (pattern.foundEnd? none text).any fun place => place.rest.isEmpty

end Pattern

end QueryJournal
