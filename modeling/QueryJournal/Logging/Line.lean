import QueryJournal.Json.Printer
import QueryJournal.Logging.Config
import QueryJournal.Logging.Event
import QueryJournal.Storage.Path
import QueryJournal.Time.Text

namespace QueryJournal.Logging

open QueryJournal.Document
open QueryJournal.Time (Instant)

/-!
Events as lines, and the files that hold them.
-/

namespace Event

/-- An event as a value. The message is a field of its own, or stands among the others. -/
def toValue (form : LineForm) (time : Instant) (event : Event) : Value :=
  let message := ("message", Value.text event.message)
  .table
    [("timestamp", .text (Time.rfc3339 time)), ("level", .text event.level.name),
      if form.flattensFields then message else ("fields", .table [message]),
      ("target", .text event.target)]

/-- An event as a JSON line, without the line end. -/
def jsonLine (form : LineForm) (time : Instant) (event : Event) : String :=
  Json.print (event.toValue form time)

/-- An event as a line for people, without the line end. -/
def prettyLine (time : Instant) (event : Event) : String :=
  Time.rfc3339 time ++ " " ++ event.level.name ++ " " ++ event.target ++ ": " ++ event.message

end Event

def ConsoleOutput.line (form : LineForm) (time : Instant) (console : ConsoleOutput)
    (event : Event) : String :=
  if console.pretty then event.prettyLine time else event.jsonLine form time

/-- The part of the time that names a file: the time at which it was begun. -/
def Rotation.stamp (time : Instant) : Rotation → List Char
  | .never => []
  | .daily => Time.dateText time.date
  | .hourly => Time.dateText time.date ++ ['-'] ++ Time.twoDigits time.hour

def FileOutput.fileName (time : Instant) (file : FileOutput) : String :=
  let parts := [file.nameStart.toList, file.rotation.stamp time, ['l', 'o', 'g']]
  String.ofList (['.'].intercalate (parts.filter fun part => !part.isEmpty))

/-- The path of the file that takes events at a time. The start of its name may itself be a path,
and one from the root leaves the directory. -/
def FileOutput.path (time : Instant) (file : FileOutput) : String :=
  let name := file.fileName time
  if Path.isAbsolute name.toList then name else Path.join file.directory name

end QueryJournal.Logging
