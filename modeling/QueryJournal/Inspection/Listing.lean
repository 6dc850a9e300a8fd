import QueryJournal.Inspection.Arguments
import QueryJournal.Record.Line
import QueryJournal.Segment.Catalog

namespace QueryJournal.Inspection

/-!
What the program prints: found entries, a line of totals, and segments with their sizes.
-/

def padEnd (width : Nat) (text : List Char) : List Char :=
  text ++ List.replicate (width - text.length) ' '

def padStart (width : Nat) (text : List Char) : List Char :=
  List.replicate (width - text.length) ' ' ++ text

/-- An entry for people, without the line end. The names of the transport and of the reason are not
filled up with blanks. -/
def entryText (entry : Entry) : List Char :=
  (Time.displayText entry.time).toList ++ [' ', ' '] ++ padEnd 15 entry.client.chars ++ [' '] ++
    entry.transport.name.toList ++ [' '] ++ padEnd 6 entry.queryType.toList ++ [' '] ++
    entry.host.toList ++ [' '] ++ entry.verdict.reason.name.toList ++
    if entry.cached then " (cached)".toList else []

def entryLine (form : Form) (entry : Entry) : List Char :=
  (match form with
    | .lines => Json.render entry.toValue
    | .text => entryText entry) ++ ['\n']

def entryLines (form : Form) (entries : List Entry) : String :=
  String.ofList (entries.flatMap (entryLine form))

def total (name : String) (number : Nat) : List Char :=
  name.toList ++ ['='] ++ Numeral.decimal number

def summaryLine (page : Search.Page) : String :=
  String.ofList
    (total "returned" page.entries.length ++ [' '] ++ total "matched" page.matched ++ [' '] ++
      total "skipped" page.skipped ++
      (match page.oldest with
        | none => []
        | some time => " oldest=".toList ++ (Time.rfc3339Offset time).toList) ++
      (if page.truncated then " truncated".toList else []) ++ ['\n'])

def segmentLine (segment : Segment) (active : Bool) (size : Option Nat) : String :=
  String.ofList
    (padStart 8 (Numeral.decimal segment.number) ++ [' ', ' '] ++
      (Time.secondText segment.created).toList ++ [' ', ' '] ++
      padStart 10 (match size with
        | none => ['-']
        | some size => Numeral.decimal size) ++ [' ', ' '] ++
      (if active then "active" else "closed").toList ++ [' ', ' '] ++ segment.path.toList ++
      ['\n'])

end QueryJournal.Inspection
