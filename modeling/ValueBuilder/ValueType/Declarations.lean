import ValueBuilder.Policy.Basic

/-!
# Forward declarations of a builder

What the file of a builder declares without defining it: the value type itself, the looked-up types
for which that is enough, the classes of the attributes, and the protocols that attributes conform
to. Classes stand before protocols, and each group keeps the order of its origin.
-/

namespace ValueBuilder

open ObjC (ForwardDeclaration)

namespace Attribute

/-- The forward declaration of the class of an attribute, if one is enough. -/
def classDeclaration? (a : Attribute) (p : Policy) : Except Fault (Option ForwardDeclaration) := do
  return if ← p.isForwardDeclarable a then some (.ofClass a.type.name) else none

/-- The forward declaration of the protocol of an attribute, if it has one of its own. -/
def protocolDeclaration? (a : Attribute) (p : Policy) :
    Except Fault (Option ForwardDeclaration) := do
  return (← p.forwardProtocol? a).map .ofProtocol

end Attribute

namespace ValueType

/-- The forward declarations of the builder: the value type, the lookups that allow it, the classes
of attributes, and the protocols of attributes. -/
def builderDeclarations (v : ValueType) (p : Policy) : Except Fault (List ForwardDeclaration) := do
  let declarable := v.typeLookups.filter (·.canForwardDeclare)
  let lookups := declarable.map fun l => ForwardDeclaration.ofClass l.name
  let classes ← v.attributes.mapM (·.classDeclaration? p)
  let protocols ← v.attributes.mapM (·.protocolDeclaration? p)
  return .ofClass v.typeName :: (lookups ++ classes.filterMap id ++ protocols.filterMap id)

end ValueType

end ValueBuilder
