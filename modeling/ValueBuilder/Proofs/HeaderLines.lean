import ValueBuilder.Preview
import ValueBuilder.Proofs.Lines

/-!
# The lines of a header

A header is written by a chain of steps on a listing. Each of them adds lines of its own, whatever
the listing holds already, so the whole chain adds the lines of `ObjC.CodeFile.headerLines`, one
part of the file after the other. A header has no block, so every line stands in it as it is
(`ObjC.CodeFile.header_eq`).

From this it is read off that a header has a line for each public import and for each declaration.
Imports whose text is there already are left out, but their text stays.
-/

namespace ValueBuilder

open ObjC (CodeFile ForwardDeclaration Import Method Receiver)

namespace Listing

variable {l : Listing}

/-- Lines that are added behind lines are added together. -/
theorem writeAll_writeAll (xs ys : List Text) :
    (l.writeAll xs).writeAll ys = l.writeAll (xs ++ ys) := by
  simp only [writeAll, List.foldl_append]

/-- If every element of a list adds lines, then the list adds them all. -/
theorem foldl_writeAll {α : Type} (lines : α → List Text) (xs : List α) :
    xs.foldl (fun l x => l.writeAll (lines x)) l = l.writeAll (xs.flatMap lines) := by
  induction xs generalizing l with
  | nil => rfl
  | cons x xs ih => rw [List.foldl_cons, ih, writeAll_writeAll, List.flatMap_cons]

/-- Outside of all blocks lines are added as they are. -/
theorem lines_writeAll (h : l.depth = 0) (xs : List Text) :
    (l.writeAll xs).lines = l.lines ++ xs := by
  -- There is no margin, and an empty line has none anyway.
  have hverbatim : indented l.indent l.depth = id := by
    funext line
    unfold indented margin
    rw [h]
    cases line <;> rfl
  rw [writeAll_eq, hverbatim, List.map_id]

end Listing

namespace ObjC

/-- The lines of a method in a header. -/
def Method.headerLines (receiver : Receiver) (m : Method) : List Text :=
  [[], m.signature receiver ++ ";"]

/-- The line that opens a class in a header. -/
def Class.interfaceLine (c : Class) : Text := "@interface " ++ c.name ++ " : " ++ c.baseClassName

/-- The lines of a class in a header. -/
def Class.headerLines (c : Class) : List Text :=
  [[], c.interfaceLine] ++
    c.classMethods.flatMap (·.headerLines .ofClass) ++
    c.instanceMethods.flatMap (·.headerLines .ofInstance) ++ [[], "@end"]

namespace CodeFile

/-- The lines of the imports in a header: each text once. -/
def importLines (f : CodeFile) : List Text :=
  ((f.imports.filter (·.isPublic)).map Import.code).eraseDups

/-- The lines of the declarations in a header. -/
def declarationLines (f : CodeFile) : List Text :=
  if f.forwardDeclarations.isEmpty then [] else [] :: f.forwardDeclarations.map (·.code)

/-- The lines of a header. -/
def headerLines (f : CodeFile) : List Text :=
  f.importLines ++ f.declarationLines ++ f.classes.flatMap Class.headerLines

end CodeFile

end ObjC

namespace Listing

variable {l : Listing}

/-- The declaration of a method adds its lines. -/
theorem declareMethod_eq (receiver : Receiver) (m : Method) :
    l.declareMethod receiver m = l.writeAll (m.headerLines receiver) := rfl

/-- A class adds its lines. -/
theorem declareClass_eq (c : ObjC.Class) : l.declareClass c = l.writeAll c.headerLines := by
  have hopen : l.blank.write ("@interface " ++ c.name ++ " : " ++ c.baseClassName) =
      l.writeAll [[], c.interfaceLine] := rfl
  have hclose (k : Listing) : k.blank.write "@end" = k.writeAll [[], "@end"] := rfl
  have hmethods (receiver : Receiver) (ms : List Method) (k : Listing) :
      ms.foldl (declareMethod receiver) k = k.writeAll (ms.flatMap (·.headerLines receiver)) := by
    rw [← foldl_writeAll]
    simp only [← declareMethod_eq]
  simp only [declareClass, hopen, hmethods, hclose, writeAll_writeAll, ObjC.Class.headerLines]

end Listing

namespace ObjC.CodeFile

variable {f : CodeFile}

/-- A header consists of its lines. -/
theorem header_eq (f : CodeFile) :
    f.header = List.intercalate "\n" f.headerLines ++ "\n" := by
  have hdeclarations (l : Listing) :
      (if f.forwardDeclarations.isEmpty then l
        else l.blank.writeAll (f.forwardDeclarations.map (·.code))) =
        l.writeAll f.declarationLines := by
    unfold declarationLines
    split <;> rfl
  have hclasses (l : Listing) :
      f.classes.foldl Listing.declareClass l =
        l.writeAll (f.classes.flatMap Class.headerLines) := by
    rw [← Listing.foldl_writeAll]
    simp only [← Listing.declareClass_eq]
  have himports : ({} : Listing).imports (f.imports.filter (·.isPublic)) =
      ({} : Listing).writeAll f.importLines := rfl
  -- The whole chain is one addition of lines to an empty listing.
  calc f.header = (({} : Listing).writeAll f.headerLines).render := by
        unfold header headerLines
        simp only [himports, hdeclarations, hclasses, Listing.writeAll_writeAll]
    _ = List.intercalate "\n" f.headerLines ++ "\n" := by
        rw [Listing.render, Listing.lines_writeAll rfl, List.nil_append]

/-- A header has a line for each public import. -/
theorem hasLine_header_of_import {i : Import} (hi : i ∈ f.imports) (hpublic : i.isPublic = true) :
    f.header.HasLine i.code := by
  rw [header_eq]
  refine Text.hasLine_joined (List.mem_append_left _ (List.mem_append_left _ ?_))
  exact List.mem_eraseDups.2 (List.mem_map.2 ⟨i, List.mem_filter.2 ⟨hi, hpublic⟩, rfl⟩)

/-- A header has a line for each forward declaration. -/
theorem hasLine_header_of_declaration {d : ForwardDeclaration} (hd : d ∈ f.forwardDeclarations) :
    f.header.HasLine d.code := by
  rw [header_eq]
  refine Text.hasLine_joined (List.mem_append_left _ (List.mem_append_right _ ?_))
  rw [declarationLines, if_neg (by simpa using List.ne_nil_of_mem hd)]
  exact List.mem_cons_of_mem _ (List.mem_map.2 ⟨d, hd, rfl⟩)

end ObjC.CodeFile

end ValueBuilder
