import QueryJournal.Segment.Basic
import QueryJournal.Storage.Disk

namespace QueryJournal

open QueryJournal.Storage
open QueryJournal.Utf8 (Bytes)

/-!
The one who writes to a segment. Batches land whole: one that cannot be written to its end is cut
off again, and the next one continues where the last whole one ended.
-/

/-- An open segment, the identity of its file and the length of what was written to it. -/
structure SegmentWriter where
  segment : Segment
  identity : Nat
  length : Nat
  syncs : Bool
  deriving DecidableEq

namespace SegmentWriter

def create (obstacles : Obstacles) (disk : Disk) (segment : Segment) (syncs : Bool) :
    Except Failure SegmentWriter × Disk :=
  let (made, disk) := disk.create obstacles segment.name []
  (made.map fun identity => { segment, identity, length := 0, syncs }, disk)

def reach (obstacles : Obstacles) (writer : SegmentWriter) (batch : Bytes) : Nat :=
  match obstacles.growthLimit with
  | none => batch.length
  | some limit => min batch.length (limit - writer.length)

/-- Whether a batch is written to its end, taken over by the system and made durable where that is
asked for. -/
def succeeds (obstacles : Obstacles) (writer : SegmentWriter) (batch : Bytes) : Bool :=
  writer.reach obstacles batch == batch.length &&
    !(obstacles.refusesFlush || writer.syncs && obstacles.refusesSync)

def writePart (obstacles : Obstacles) (disk : Disk) (writer : SegmentWriter) (batch : Bytes) :
    Disk :=
  disk.modify writer.identity
    (Disk.overwritten writer.length (batch.take (writer.reach obstacles batch)))

/-- Cuts the file back to what counts. A file that others have made shorter is filled up, unless the
system refuses to let it grow. -/
def rollBack (obstacles : Obstacles) (disk : Disk) (writer : SegmentWriter) : Disk :=
  disk.modify writer.identity fun content =>
    if obstacles.refusesResize content.length writer.length then content
    else Disk.resized writer.length content

def append (obstacles : Obstacles) (disk : Disk) (writer : SegmentWriter) (batch : Bytes) :
    Except Failure Nat × SegmentWriter × Disk :=
  let written := writer.writePart obstacles disk batch
  if writer.succeeds obstacles batch then
    let length := writer.length + batch.length
    (.ok length, { writer with length }, written)
  else (.error (.system "cannot write file"), writer, writer.rollBack obstacles written)

def close (obstacles : Obstacles) (writer : SegmentWriter) : Except Failure Segment :=
  if obstacles.refusesLastSync then .error (.system "cannot sync file") else .ok writer.segment

end SegmentWriter

end QueryJournal
