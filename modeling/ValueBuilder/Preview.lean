import ValueBuilder.Fault
import ValueBuilder.Listing
import ValueBuilder.ObjC.Code

/-!
# Previews

A file as text: its header and its implementation, enough of both to look a description over. The
imports stand first, each text once, where it is mentioned first. Declarations, classes and methods
are set off by empty lines.
-/

namespace ValueBuilder

open ObjC (CodeFile Import Method Property Receiver)

namespace Listing

/-- An empty line. -/
def blank (l : Listing) : Listing := l.write []

/-- The imports, without those whose text is there already. -/
def imports (l : Listing) (is : List Import) : Listing := l.writeAll (is.map Import.code).eraseDups

/-- The declaration of a method in a header. -/
def declareMethod (receiver : Receiver) (l : Listing) (m : Method) : Listing :=
  l.blank.write (m.signature receiver ++ ";")

/-- A class in a header. -/
def declareClass (l : Listing) (c : ObjC.Class) : Listing :=
  let l := l.blank.write ("@interface " ++ c.name ++ " : " ++ c.baseClassName)
  let l := c.classMethods.foldl (declareMethod .ofClass) l
  let l := c.instanceMethods.foldl (declareMethod .ofInstance) l
  l.blank.write "@end"

/-- A method with its body. -/
def defineMethod (receiver : Receiver) (l : Listing) (m : Method) : Listing :=
  l.blank.braced (some (m.signature receiver)) fun l => l.writeAll m.code

/-- The variables of a class between braces; a class without any has no braces either. -/
def variableBlock (l : Listing) (lines : List Text) : Listing :=
  if lines.isEmpty then l else l.braced none fun l => l.writeAll lines

/-- A class in an implementation, with the lines for its variables. -/
def defineClass (l : Listing) (c : ObjC.Class) (lines : List Text) : Listing :=
  let l := (l.blank.write ("@implementation " ++ c.name)).variableBlock lines
  let l := c.classMethods.foldl (defineMethod .ofClass) l
  let l := c.instanceMethods.foldl (defineMethod .ofInstance) l
  l.blank.write "@end"

end Listing

/-- The line that declares a variable: its name follows a star directly and anything else behind a
space. -/
def ObjC.Property.variableLine (prop : Property) : Except Fault Text :=
  match prop.returnType.reference with
  | .text reference =>
    let separator : Text := if reference.getLast? = some (.char '*') then [] else " "
    .ok (reference ++ separator ++ "_" ++ prop.name ++ ";")
  | _ => .error (.referenceNotText prop.returnType.name)

/-- The lines that declare the variables of a class. -/
def ObjC.Class.variableLines (c : ObjC.Class) : Except Fault (List Text) :=
  c.internalProperties.mapM Property.variableLine

/-- The header of a file. -/
def ObjC.CodeFile.header (f : CodeFile) : Text :=
  let l : Listing := ({} : Listing).imports (f.imports.filter (·.isPublic))
  let l :=
    if f.forwardDeclarations.isEmpty then l
    else l.blank.writeAll (f.forwardDeclarations.map (·.code))
  (f.classes.foldl Listing.declareClass l).render

/-- The implementation of a file. -/
def ObjC.CodeFile.implementation (f : CodeFile) : Except Fault Text := do
  let lines ← f.classes.mapM (·.variableLines)
  let l : Listing := ({} : Listing).imports (f.imports.filter (!·.isPublic))
  return ((f.classes.zip lines).foldl (fun l c => l.defineClass c.1 c.2) l).render

end ValueBuilder
