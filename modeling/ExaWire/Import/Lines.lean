/-
ExaWire/Import/Lines.lean

Lines of a file that is read block by block.  A line ends where the delimiter
stands for the first time since the line began, and belongs to its line; what is
left at the end of the file is a line too, unless it is empty.

A block may end in the middle of a delimiter.  So the last bytes of the line that is
begun, one fewer than the delimiter has, are searched again together with the next
block; the bytes before them are known to begin no delimiter and are passed over.
-/
import ExaWire.Text.Utf8

namespace ExaWire.Import

/-- A file read so far: the lines that are complete and the one begun.  Both have the
newest first. -/
structure Lines where
  complete : List Bytes := []
  begun : Bytes := []

namespace Lines

/-- Searches bytes for the delimiter `d :: ds`, which begins at no byte of the line that is
begun; `skip` bytes still belong to the delimiter found last. -/
def scan (d : UInt8) (ds : Bytes) : Nat → Lines → Bytes → Lines
  | _, l, [] => l
  | skip + 1, l, _ :: bs => scan d ds skip l bs
  | 0, l, b :: bs =>
    if (d :: ds).isPrefixOf (b :: bs) then
      scan d ds ds.length ⟨(l.begun.reverse ++ d :: ds) :: l.complete, []⟩ bs
    else scan d ds 0 { l with begun := b :: l.begun } bs

/-- One more block.  An empty delimiter ends no line. -/
def read (delimiter : Bytes) (l : Lines) (block : Bytes) : Lines :=
  match delimiter with
  | [] => { l with begun := block.reverse ++ l.begun }
  | d :: ds =>
    scan d ds 0 { l with begun := l.begun.drop ds.length }
      ((l.begun.take ds.length).reverse ++ block)

/-- The complete lines in order, and the reader without them. -/
def take (l : Lines) : List Bytes × Lines := (l.complete.reverse, { l with complete := [] })

/-- The lines of a file that ends here. -/
def finish (l : Lines) : List Bytes :=
  l.complete.reverse ++ if l.begun.isEmpty then [] else [l.begun.reverse]

/-- The lines of a file that is read in blocks. -/
def ofBlocks (delimiter : Bytes) (blocks : List Bytes) : List Bytes :=
  (blocks.foldl (read delimiter) {}).finish

end Lines

/-- Bytes in blocks of a size, the last one shorter if need be; no blocks if the size is
zero. -/
def inBlocks : Nat → Bytes → List Bytes
  | 0, _ => []
  | _ + 1, [] => []
  | more + 1, b :: bs => (b :: bs.take more) :: inBlocks (more + 1) (bs.drop more)
termination_by _ bs => bs.length
decreasing_by
  simp only [List.length_drop, List.length_cons]
  omega

/-- The size of the blocks in which local files are read. -/
def blockSize : Nat := 64 * 1024

end ExaWire.Import
