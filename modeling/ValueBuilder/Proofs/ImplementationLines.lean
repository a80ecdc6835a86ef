import ValueBuilder.Proofs.HeaderLines
import ValueBuilder.Proofs.Traversal

/-!
# The lines of an implementation

An implementation is written by a chain of steps on a listing, like a header, but some of them open
a block and close it again. `Listing.Adds` says of a step that it starts and ends outside of all
blocks and adds certain lines. It holds of each step of the chain, and steps that have it can be put
one after the other, so the whole chain adds the lines of `ObjC.CodeFile.implementationLines`. The
lines of a block are one level further in, except that an empty line stays empty.

`ObjC.CodeFile.previews_eq_lines` puts both previews side by side. The lines of a class that start
with the sign of a method are its signatures, in the header as in the implementation.
-/

namespace ValueBuilder

open Traversal
open ObjC (CodeFile Import Method Property Receiver)

namespace ObjC

/-- A line in a block: two spaces are in front of it, except that an empty line stays empty. -/
def blockLine (line : Text) : Text := if line = [] then [] else "  " ++ line

/-- Lines between braces on lines of their own. -/
def betweenBraces (lines : List Text) : List Text :=
  [Text.ofString "\x7b"] ++ lines ++ [Text.ofString "\x7d"]

/-- The lines of a method in an implementation. -/
def Method.implementationLines (receiver : Receiver) (m : Method) : List Text :=
  [[], m.signature receiver] ++ betweenBraces (m.code.map blockLine)

/-- The lines of the variables of a class; without variables there are none. -/
def variableBlockLines (holders : List Text) : List Text :=
  if holders = [] then [] else betweenBraces (holders.map ("  " ++ ·))

/-- The line that opens a class in an implementation. -/
def Class.implementationLine (c : Class) : Text := "@implementation " ++ c.name

/-- The lines of a class in an implementation, with the declarations of its variables. -/
def Class.implementationLines (c : Class) (holders : List Text) : List Text :=
  [[], c.implementationLine] ++ variableBlockLines holders ++
    c.classMethods.flatMap (·.implementationLines .ofClass) ++
    c.instanceMethods.flatMap (·.implementationLines .ofInstance) ++ [[], "@end"]

/-- The lines of the imports in an implementation: each text once. -/
def CodeFile.privateImportLines (f : CodeFile) : List Text :=
  ((f.imports.filter (!·.isPublic)).map Import.code).eraseDups

/-- The lines of an implementation, with the declarations of the variables of each class. -/
def CodeFile.implementationLines (f : CodeFile) (holders : List (List Text)) : List Text :=
  f.privateImportLines ++ (f.classes.zip holders).flatMap fun c => c.1.implementationLines c.2

/-- The signatures of a class: those of the class methods, then those of the instance methods. -/
def Class.signatures (c : Class) : List Text :=
  c.classMethods.map (·.signature .ofClass) ++ c.instanceMethods.map (·.signature .ofInstance)

/-- A Boolean test that a line starts with the sign of a class method or of an instance method. -/
def isSigned (line : Text) : Bool :=
  line.head? == some (.char '+') || line.head? == some (.char '-')

end ObjC

open ObjC (blockLine betweenBraces isSigned variableBlockLines)

/-! ## Steps outside of blocks -/

namespace Listing

variable {α : Type} {xs ys : List Text} {f g : Listing → Listing}

/-- Outside of all blocks a step adds lines, and it ends outside of all blocks. -/
def Adds (lines : List Text) (step : Listing → Listing) : Prop :=
  ∀ before, step { lines := before } = { lines := before ++ lines }

/-- Steps one after the other add their lines one after the other. -/
theorem Adds.comp (hf : Adds xs f) (hg : Adds ys g) : Adds (xs ++ ys) fun l => g (f l) := by
  intro before
  dsimp only
  rw [hf, hg, List.append_assoc]

/-- A step for each element of a list adds the lines of all of them. -/
theorem Adds.foldl {lines : α → List Text} {step : Listing → α → Listing} {as : List α}
    (h : ∀ a ∈ as, Adds (lines a) fun l => step l a) :
    Adds (as.flatMap lines) fun l => as.foldl step l := by
  induction as with
  | nil =>
    intro before
    dsimp only
    rw [List.flatMap_nil, List.append_nil, List.foldl_nil]
  | cons a as ih =>
    obtain ⟨hhead, htail⟩ := List.forall_mem_cons.1 h
    exact hhead.comp (ih htail)

/-- Several lines are added as they are. -/
theorem adds_writeAll (lines : List Text) : Adds lines (·.writeAll lines) := by
  intro before
  have hlines := lines_writeAll (l := { lines := before }) rfl lines
  dsimp only
  rw [writeAll_eq] at hlines ⊢
  exact congrArg (fun ls => ({ lines := ls } : Listing)) hlines

/-- A line is added as it is. -/
theorem adds_write (line : Text) : Adds [line] (·.write line) := adds_writeAll [line]

/-- One level further in a line has a margin of two spaces unless it is empty. -/
theorem indented_one (line : Text) : indented "  " 1 line = blockLine line := by
  cases line <;> rfl

/-- A block adds its opener, and its lines between braces and one level further in. -/
theorem adds_braced (opener : Option Text) (body : List Text) :
    Adds (opener.toList ++ betweenBraces (body.map blockLine))
      (·.braced opener (·.writeAll body)) := by
  intro before
  have hopen : ({ lines := before } : Listing).openBrace opener =
      { depth := 1, lines := before ++ (opener.toList ++ [Text.ofString "\x7b"]) } := by
    have hadds : Adds (opener.toList ++ [Text.ofString "\x7b"])
        fun l => (opener.elim l l.write).write "\x7b" := by
      cases opener with
      | none => exact adds_write _
      | some line => exact (adds_write line).comp (adds_write _)
    exact congrArg indentMore (hadds before)
  have hbody : body.map (indented "  " 1) = body.map blockLine :=
    List.map_congr_left fun line _ => indented_one line
  have hclose (ls : List Text) : ({ depth := 1, lines := ls } : Listing).closeBrace =
      { lines := ls ++ [Text.ofString "\x7d"] } := adds_write _ ls
  simp only [braced, hopen, writeAll_eq, hbody, hclose, betweenBraces, List.append_assoc]

/-- A method adds its lines. -/
theorem adds_defineMethod (receiver : Receiver) (m : Method) :
    Adds (m.implementationLines receiver) fun l => l.defineMethod receiver m := by
  have hlines : m.implementationLines receiver =
      [[]] ++ ((some (m.signature receiver)).toList ++ betweenBraces (m.code.map blockLine)) := by
    simp only [Method.implementationLines, Option.toList_some, List.cons_append, List.nil_append]
  rw [hlines]
  unfold defineMethod blank
  exact (adds_write []).comp (adds_braced (some (m.signature receiver)) m.code)

/-- The variables of a class add their lines, if none of them is empty. -/
theorem adds_variableBlock {holders : List Text} (h : ∀ line ∈ holders, line ≠ []) :
    Adds (variableBlockLines holders) (·.variableBlock holders) := by
  unfold variableBlock variableBlockLines
  cases holders with
  | nil => exact adds_writeAll []
  | cons line lines =>
    have hlines : (line :: lines).map (Text.ofString "  " ++ ·) = (line :: lines).map blockLine :=
      List.map_congr_left fun l hl => (if_neg (h l hl)).symm
    have hadds := adds_braced none (line :: lines)
    rw [Option.toList_none, List.nil_append] at hadds
    rw [if_neg (List.cons_ne_nil _ _), hlines]
    exact hadds

/-- A class adds its lines, if no declaration of a variable is empty. -/
theorem adds_defineClass (c : ObjC.Class) {holders : List Text}
    (h : ∀ line ∈ holders, line ≠ []) :
    Adds (c.implementationLines holders) (·.defineClass c holders) := by
  have hopen := (adds_write []).comp (adds_write c.implementationLine)
  have hmethods (receiver : Receiver) (ms : List Method) :
      Adds (ms.flatMap (·.implementationLines receiver)) fun l =>
        ms.foldl (defineMethod receiver) l :=
    Adds.foldl fun m _ => adds_defineMethod receiver m
  have hclose := (adds_write []).comp (adds_write "@end")
  exact (((hopen.comp (adds_variableBlock h)).comp (hmethods .ofClass c.classMethods)).comp
    (hmethods .ofInstance c.instanceMethods)).comp hclose

end Listing

/-! ## Signatures -/

namespace ObjC

/-- A signature starts with a sign. -/
theorem isSigned_signature (m : Method) (receiver : Receiver) (rest : Text) :
    isSigned (m.signature receiver ++ rest) = true := by
  cases receiver <;> rfl

/-- A test fails for the lines around and inside a block: for an empty line, for a line behind two
spaces, and for the braces. -/
structure MissesBlocks (q : Text → Bool) : Prop where
  /-- It fails for an empty line. -/
  blank : q [] = false
  /-- It fails for a line behind two spaces. -/
  indented : ∀ line : Text, q ("  " ++ line) = false
  /-- It fails for the brace that opens a block. -/
  opening : q (Text.ofString "\x7b") = false
  /-- It fails for the brace that closes a block. -/
  closing : q (Text.ofString "\x7d") = false

namespace MissesBlocks

variable {q : Text → Bool} (h : MissesBlocks q)
include h

/-- A test that fails in blocks picks from lines between braces what it picks from the lines. -/
theorem filter_betweenBraces (lines : List Text) :
    (betweenBraces lines).filter q = lines.filter q := by
  have hopen : [Text.ofString "\x7b"].filter q = [] := by simp [h.opening]
  have hclose : [Text.ofString "\x7d"].filter q = [] := by simp [h.closing]
  rw [betweenBraces, List.filter_append, List.filter_append, hopen, hclose, List.nil_append,
    List.append_nil]

/-- A test that fails in blocks picks nothing from the variables of a class. -/
theorem filter_variableBlockLines (holders : List Text) :
    (variableBlockLines holders).filter q = [] := by
  unfold variableBlockLines
  split
  · rfl
  · rw [h.filter_betweenBraces, List.filter_eq_nil_iff]
    intro line hline
    obtain ⟨l, -, rfl⟩ := List.mem_map.1 hline
    rw [h.indented]
    exact Bool.false_ne_true

/-- A test that fails in blocks picks the signature from a method or nothing. -/
theorem filter_implementationLines (m : Method) (receiver : Receiver) :
    (m.implementationLines receiver).filter q = [m.signature receiver].filter q := by
  have hbody : (m.code.map blockLine).filter q = [] := by
    rw [List.filter_eq_nil_iff]
    intro line hline
    obtain ⟨l, -, rfl⟩ := List.mem_map.1 hline
    unfold blockLine
    split
    · rw [h.blank]
      exact Bool.false_ne_true
    · rw [h.indented]
      exact Bool.false_ne_true
  have hblank : ¬ q [] = true := by simp [h.blank]
  rw [Method.implementationLines, List.filter_append, h.filter_betweenBraces, hbody,
    List.append_nil, List.filter_cons_of_neg hblank]

end MissesBlocks

/-- Signatures are told from all lines of blocks by their sign. -/
theorem missesBlocks_isSigned : MissesBlocks isSigned := ⟨rfl, fun _ => rfl, rfl, rfl⟩

/-- In the lines of a method in an implementation the signature alone has a sign. -/
theorem Method.filter_implementationLines (m : Method) (receiver : Receiver) :
    (m.implementationLines receiver).filter isSigned = [m.signature receiver] := by
  have hsignature := isSigned_signature m receiver []
  rw [List.append_nil] at hsignature
  rw [missesBlocks_isSigned.filter_implementationLines, List.filter_cons_of_pos hsignature,
    List.filter_nil]

/-- In the lines of a method in a header the signature alone has a sign. -/
theorem Method.filter_headerLines (m : Method) (receiver : Receiver) :
    (m.headerLines receiver).filter isSigned = [m.signature receiver ++ ";"] := by
  rw [Method.headerLines, List.filter_cons_of_neg Bool.false_ne_true,
    List.filter_cons_of_pos (isSigned_signature m receiver _), List.filter_nil]

/-- The lines with a sign of several methods are those of each of them. -/
theorem filter_flatMap_of_singleton {lines : Method → List Text} {line : Method → Text}
    (h : ∀ m, (lines m).filter isSigned = [line m]) (ms : List Method) :
    (ms.flatMap lines).filter isSigned = ms.map line := by
  rw [List.filter_flatMap, List.map_eq_flatMap]
  exact congrArg (ms.flatMap ·) (funext h)

/-- In the lines of a class in an implementation exactly the signatures have a sign. -/
theorem Class.filter_implementationLines (c : Class) (holders : List Text) :
    (c.implementationLines holders).filter isSigned = c.signatures := by
  have hholders := missesBlocks_isSigned.filter_variableBlockLines holders
  rw [Class.implementationLines]
  simp only [List.filter_append, hholders,
    filter_flatMap_of_singleton (Method.filter_implementationLines · _)]
  exact List.append_nil _

/-- In the lines of a class in a header exactly the signatures have a sign, and each of them ends in
a semicolon. -/
theorem Class.filter_headerLines (c : Class) :
    c.headerLines.filter isSigned = c.signatures.map (· ++ Text.ofString ";") := by
  rw [Class.headerLines, Class.signatures, List.map_append, List.map_map, List.map_map]
  simp only [List.filter_append, filter_flatMap_of_singleton (Method.filter_headerLines · _)]
  exact List.append_nil _

/-! ## Both previews -/

/-- The line for a variable: the reference to its type, at most one space, and its name. -/
theorem Property.variableLine_eq_ok {q : Property} {line : Text} :
    q.variableLine = .ok line ↔ ∃ reference, q.returnType.reference = .text reference ∧
      reference ++ (if reference.getLast? = some (.char '*') then [] else Text.ofString " ") ++
        "_" ++ q.name ++ ";" = line := by
  unfold Property.variableLine
  cases q.returnType.reference <;> simp

/-- The line for a variable ends in a semicolon, so it is not empty. -/
theorem Property.ne_nil_of_variableLine {q : Property} {line : Text}
    (h : q.variableLine = .ok line) : line ≠ [] := by
  obtain ⟨reference, -, rfl⟩ := Property.variableLine_eq_ok.1 h
  exact List.append_ne_nil_of_right_ne_nil _ (List.cons_ne_nil _ _)

namespace CodeFile

/-- An implementation consists of its lines. There is one if there is a line for each variable. -/
theorem implementation_eq_ok {f : CodeFile} {text : Text} :
    f.implementation = .ok text ↔
      ∃ holders, List.Forall₂ (fun c lines => c.variableLines = .ok lines) f.classes holders ∧
        List.intercalate "\n" (f.implementationLines holders) ++ "\n" = text := by
  have hclasses {holders : List (List Text)}
      (h : List.Forall₂ (fun c lines => c.variableLines = .ok lines) f.classes holders) :
      (f.classes.zip holders).foldl (fun l c => l.defineClass c.1 c.2)
          (({} : Listing).imports (f.imports.filter (!·.isPublic))) =
        { lines := f.implementationLines holders } := by
    have hadds : Listing.Adds ((f.classes.zip holders).flatMap fun c => c.1.implementationLines c.2)
        fun l => (f.classes.zip holders).foldl (fun l c => l.defineClass c.1 c.2) l := by
      refine Listing.Adds.foldl fun c hc => Listing.adds_defineClass c.1 fun line hline => ?_
      have hline' := (mem_iff_of_mapM_eq_ok (List.forall₂_zip h hc)).1 hline
      obtain ⟨q, -, hq⟩ := hline'
      exact Property.ne_nil_of_variableLine hq
    exact (Listing.adds_writeAll f.privateImportLines).comp hadds []
  unfold implementation
  simp only [bind_eq_ok, pure_eq_ok, mapM_eq_ok]
  refine exists_congr fun holders => and_congr_right fun h => ?_
  rw [hclasses h, Listing.render]

/-- Both previews of a file have exactly their lines, each of which ends in a line feed. The
implementation needs a line for each variable, and there is one exactly if its reference is a text.
For each class the lines with the sign of a method are the signatures, in both previews the same
ones in the same order, but for the semicolon behind each of them in the header. -/
theorem previews_eq_lines (f : CodeFile) :
    f.header = List.intercalate "\n" f.headerLines ++ "\n" ∧
    (∀ text, f.implementation = .ok text ↔
      ∃ holders,
        List.Forall₂ (fun c lines =>
          List.Forall₂ (fun q line => q.variableLine = .ok line) c.internalProperties lines)
          f.classes holders ∧
        text = List.intercalate "\n" (f.implementationLines holders) ++ "\n") ∧
    ∀ (c : Class) (holders : List Text),
      (c.implementationLines holders).filter isSigned = c.signatures ∧
      c.headerLines.filter isSigned = c.signatures.map (· ++ Text.ofString ";") := by
  refine ⟨header_eq f, fun text => ?_, fun c holders =>
    ⟨c.filter_implementationLines holders, c.filter_headerLines⟩⟩
  rw [implementation_eq_ok]
  simp only [ObjC.Class.variableLines, mapM_eq_ok, eq_comm (a := text)]

end CodeFile

end ObjC

end ValueBuilder
