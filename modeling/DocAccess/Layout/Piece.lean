/-!
# Text that is laid out on lines

A piece is text with places where a line may end.  A group that fits on the rest of its line is
written flat.  In a group that does not fit, every place ends its line if the group is consistent;
otherwise a place ends its line only if what stands up to the next place does not fit.

What stands directly behind a group, up to the next place, counts as part of the group.
-/

namespace DocAccess.Layout

/-- A place where a line may end. -/
structure Place where
  /-- The blanks that are written if the line does not end here. -/
  blanks : Nat
  /-- The indentation of the next line, relative to that of the group. -/
  offset : Int
  /-- What is written before the line ends. -/
  before : String
  /-- Whether the line never ends here. -/
  flat : Bool
  /-- Whether the place disappears at the end of its group. -/
  separating : Bool
  deriving DecidableEq, Repr

/-- Text with places where a line may end. -/
inductive Piece where
  | text (s : String)
  | place (b : Place)
  /-- Parts whose lines are indented by `indent` more than those around them. -/
  | group (consistent : Bool) (indent : Int) (parts : List Piece)
  /-- Nothing, but too wide for any line. -/
  | wide
  deriving Inhabited

/-- The width that no line has. -/
def infinity : Nat := 65535

/-- The columns of a line. -/
def margin : Int := 89

/-- The columns that every line has, however deep it is indented. -/
def leastSpace : Int := 60

namespace Piece

/-! ### Widths -/

mutual

/-- The width of a piece on one line, in bytes. -/
def width : Piece → Nat
  | .text s => s.utf8ByteSize
  | .place b => b.blanks
  | .group _ _ parts => widthOfAll parts
  | .wide => infinity

/-- The width of parts on one line. -/
def widthOfAll : List Piece → Nat
  | [] => 0
  | d :: ds => d.width + widthOfAll ds

end

/-- The width up to the next place; `beyond` is the width of what is behind the parts. -/
def widthToPlace (beyond : Nat) : List Piece → Nat
  | [] => beyond
  | .place _ :: _ => 0
  | d :: ds => d.width + widthToPlace beyond ds

/-! ### Places without meaning -/

/-- The parts of a group without a place at their end that only separates. -/
def dropLast : List Piece → List Piece
  | [] => []
  | [.place b] => if b.separating then [] else [.place b]
  | d :: ds => d :: dropLast ds

/-- A group; a group of nothing but a place is empty. -/
def tidyGroup (consistent : Bool) (indent : Int) : List Piece → List Piece
  | [.place _] => []
  | parts => [.group consistent indent (dropLast parts)]

mutual

/-- A piece without places that are left out. -/
def tidy : Piece → List Piece
  | .group consistent indent parts => tidyGroup consistent indent (tidyAll parts)
  | d => [d]

/-- Parts without places that are left out. -/
def tidyAll : List Piece → List Piece
  | [] => []
  | d :: ds => d.tidy ++ tidyAll ds

end

end Piece

/-! ### Writing -/

/-- What is written, and the state of the last line. -/
structure Page where
  /-- What is written, last piece first. -/
  pieces : List String
  /-- The columns left on the line. -/
  space : Int
  /-- The blanks to write before the next text. -/
  pending : Nat

namespace Page

/-- A page without any text. -/
def empty : Page := ⟨[], margin, 0⟩

/-- The blanks of an indentation. -/
def blanks (n : Nat) : String := String.ofList (List.replicate n ' ')

/-- Writes text on the line. -/
def write (p : Page) (s : String) : Page :=
  ⟨s :: blanks p.pending :: p.pieces, p.space - s.utf8ByteSize, 0⟩

/-- Goes on to the next line with an indentation. -/
def newLine (p : Page) (before : String) (indent : Int) : Page :=
  let p := if before.isEmpty then p else p.write before
  ⟨"\n" :: p.pieces, max (margin - indent) leastSpace, indent.toNat⟩

/-- Leaves a gap on the line. -/
def gap (p : Page) (n : Nat) : Page := { p with space := p.space - n, pending := p.pending + n }

/-- All that is written. -/
def contents (p : Page) : String := String.join p.pieces.reverse

end Page

/-- How the parts of a group are written. -/
inductive Mode where
  | flat
  | broken (consistent : Bool) (indent : Int)

namespace Piece

/-- Whether the line ends at a place; `following` is the width up to the next place. -/
def endsLine (mode : Mode) (p : Page) (b : Place) (following : Nat) : Option Int :=
  match mode with
  | .flat => none
  | .broken consistent indent =>
      if b.flat then none
      else if consistent || p.space < (b.blanks + following : Nat) then some (indent + b.offset)
      else none

mutual

/-- Writes a piece; `indent` is the indentation around it and `beyond` the width from its end
to the next place. -/
def writeOn (mode : Mode) (indent : Int) (beyond : Nat) (p : Page) : Piece → Page
  | .text s => p.write s
  | .wide => p
  | .place b =>
      match endsLine mode p b beyond with
      | some indent => p.newLine b.before indent
      | none => p.gap b.blanks
  | .group consistent extra parts =>
      if p.space < (widthOfAll parts + beyond : Nat) then
        writeAllOn (.broken consistent (indent + extra)) (indent + extra) beyond p parts
      else writeAllOn .flat indent beyond p parts

/-- Writes parts in order. -/
def writeAllOn (mode : Mode) (indent : Int) (beyond : Nat) (p : Page) : List Piece → Page
  | [] => p
  | d :: ds =>
      writeAllOn mode indent beyond (d.writeOn mode indent (widthToPlace beyond ds) p) ds

end

/-- The text of parts laid out as lines, none of them flat. -/
def layOut (parts : List Piece) : String :=
  (writeAllOn (.broken true 0) 0 0 .empty (tidyAll parts)).contents

/-! ### Ways to write parts -/

/-- The columns of one level of indentation. -/
def indentation : Int := 4

/-- A place with nothing on its line. -/
def softBreak (offset : Int) : Piece := .place ⟨0, offset, "", false, false⟩

/-- A place with a blank on its line. -/
def space (offset : Int) : Piece := .place ⟨1, offset, "", false, false⟩

/-- A place where the line always ends. -/
def hardBreak (offset : Int) : Piece := .place ⟨infinity, offset, "", false, false⟩

/-- A place where the line always ends, left out at the end of its group. -/
def hardSeparator (offset : Int) : Piece := .place ⟨infinity, offset, "", false, true⟩

/-- A place where the line never ends. -/
def noBreak : Piece := .place ⟨0, 0, "", true, false⟩

/-- A place at the end of a list, with a comma where its line ends. -/
def lastComma (blanks : Nat) (offset : Int) : Piece := .place ⟨blanks, offset, ",", false, false⟩

/-- A block of parts that all stand on lines of their own if they do not fit on one line. -/
def block (parts : List Piece) : Piece := .group true indentation parts

/-- Items with commas between them, and one behind the last item where its line ends. -/
def commaSeparated (blanks : Nat) : List (List Piece) → List Piece
  | [] => []
  | [item] => item ++ [lastComma blanks (-indentation)]
  | item :: items => item ++ [.text ",", space 0] ++ commaSeparated blanks items

/-- Items between brackets, each on a line of its own if they do not fit on one line. -/
def bracketed (opening closing : String) (items : List (List Piece)) : List Piece :=
  [.text opening, block (softBreak 0 :: commaSeparated 0 items), .text closing]

end Piece

end DocAccess.Layout
