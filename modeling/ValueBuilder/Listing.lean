import ValueBuilder.Text.Basic

/-!
# Listings

A listing collects the lines of a text at a depth of indentation. `write` puts the margin in front
of a line, except that an empty line stays empty. `braced` is a block between braces on lines of
their own, one level further in.

A `Session` drives a listing step by step and keeps the blocks that are open. A block can be left,
which writes the brace that closes it, or abandoned, which only takes its level back.
-/

namespace ValueBuilder

/-- The lines of a text so far. -/
structure Listing where
  /-- The margin of one level. -/
  indent : Text := "  "
  /-- How many levels in the next line is; below zero there is no margin. -/
  depth : Int := 0
  /-- The lines, the first one first. -/
  lines : List Text := []
  deriving DecidableEq, Repr

namespace Listing

/-- What stands in front of a line at a depth. -/
def margin (indent : Text) (depth : Int) : Text :=
  (List.replicate depth.toNat indent).flatten

/-- A line at a depth; an empty line has no margin. -/
def indented (indent : Text) (depth : Int) (line : Text) : Text :=
  if line.isEmpty then [] else margin indent depth ++ line

/-- Adds a line. -/
def write (l : Listing) (line : Text) : Listing :=
  { l with lines := l.lines ++ [indented l.indent l.depth line] }

/-- Adds several lines. -/
def writeAll (l : Listing) (lines : List Text) : Listing := lines.foldl write l

/-- One level further in. -/
def indentMore (l : Listing) : Listing := { l with depth := l.depth + 1 }

/-- One level further out. -/
def indentLess (l : Listing) : Listing := { l with depth := l.depth - 1 }

/-- Opens a block between braces, below the line that introduces it if there is one. -/
def openBrace (l : Listing) (opener : Option Text) : Listing :=
  ((opener.elim l l.write).write "\x7b").indentMore

/-- Closes a block between braces. -/
def closeBrace (l : Listing) : Listing := l.indentLess.write "\x7d"

/-- Adds a block between braces. -/
def braced (l : Listing) (opener : Option Text) (body : Listing → Listing) : Listing :=
  (body (l.openBrace opener)).closeBrace

/-- The text: every line ends with a line feed, and a text without lines is one line feed. -/
def render (l : Listing) : Text := List.intercalate "\n" l.lines ++ "\n"

/-- A line goes to the end. -/
@[simp]
theorem lines_write (l : Listing) (line : Text) :
    (l.write line).lines = l.lines ++ [indented l.indent l.depth line] := rfl

/-- A line changes no depth. -/
@[simp]
theorem depth_write (l : Listing) (line : Text) : (l.write line).depth = l.depth := rfl

/-- A line changes no margin. -/
@[simp]
theorem indent_write (l : Listing) (line : Text) : (l.write line).indent = l.indent := rfl

/-- Several lines change no margin and no depth, and go to the end in order. -/
theorem writeAll_eq (l : Listing) (ls : List Text) :
    l.writeAll ls = { l with lines := l.lines ++ ls.map (indented l.indent l.depth) } := by
  induction ls generalizing l with
  | nil => simp [writeAll]
  | cons a as ih =>
    have h : l.writeAll (a :: as) = (l.write a).writeAll as := rfl
    rw [h, ih]
    simp [write]

/-- A block that is opened is one level further in. -/
@[simp]
theorem depth_openBrace (l : Listing) (opener : Option Text) :
    (l.openBrace opener).depth = l.depth + 1 := by
  cases opener <;> rfl

/-- A block that is closed takes its level back. -/
@[simp]
theorem depth_closeBrace (l : Listing) : l.closeBrace.depth = l.depth - 1 := rfl

end Listing

/-- A kind of block. -/
inductive Block where
  /-- A level of indentation. -/
  | plain
  /-- A level of indentation between braces. -/
  | braced
  deriving DecidableEq, Repr

/-- A listing in the making. -/
structure Session where
  /-- The lines so far. -/
  listing : Listing := {}
  /-- The blocks that are open, the innermost one first. -/
  blocks : List Block := []
  deriving DecidableEq, Repr

/-- One step of a listing in the making. -/
inductive Step where
  /-- Adds a line. -/
  | write (line : Text)
  /-- Adds several lines. -/
  | writeAll (lines : List Text)
  /-- Opens a block. -/
  | enter
  /-- Opens a block between braces, below a line if one is given. -/
  | enterBraced (opener : Option Text)
  /-- Leaves the innermost block. -/
  | leave
  /-- Abandons the innermost block. -/
  | abandon
  deriving DecidableEq, Repr

namespace Session

/-- Takes a step. With no block open there is none to leave or to abandon. -/
def step (s : Session) : Step → Session
  | .write line => { s with listing := s.listing.write line }
  | .writeAll lines => { s with listing := s.listing.writeAll lines }
  | .enter => ⟨s.listing.indentMore, .plain :: s.blocks⟩
  | .enterBraced opener => ⟨s.listing.openBrace opener, .braced :: s.blocks⟩
  | .leave =>
    match s.blocks with
    | [] => s
    | .plain :: blocks => ⟨s.listing.indentLess, blocks⟩
    | .braced :: blocks => ⟨s.listing.closeBrace, blocks⟩
  | .abandon =>
    match s.blocks with
    | [] => s
    | _ :: blocks => ⟨s.listing.indentLess, blocks⟩

/-- Takes several steps. -/
def run (s : Session) (steps : List Step) : Session := steps.foldl step s

/-- The lines that a step from one session to another has added. -/
def added (before after : Session) : List Text :=
  after.listing.lines.drop before.listing.lines.length

end Session

end ValueBuilder
