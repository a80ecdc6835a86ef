import ValueBuilder.Policy.Basic

/-!
# The names of Apple's platforms

The tables of `Policy.standard`: the types of the language, and the types of Foundation,
Core Graphics and UIKit, each of which comes with the header of its library.
-/

namespace ValueBuilder.Policy

/-- The header of a library of the platform, as public import. -/
def umbrella (library : Text) : ObjC.Import := ⟨.text (library ++ ".h"), true, .text library⟩

/-- The header that every builder imports. -/
def foundation : ObjC.Import := umbrella "Foundation"

/-- The types of the language that are no numbers. -/
def languageTypes : List Text :=
  ["id", "SEL", "Class", "instancetype", "void"]

/-- The types of the language that are numbers. -/
def numberTypes : List Text :=
  ["bool", "char", "short", "int", "long", "long long", "float", "double", "unsigned char",
   "unsigned short", "unsigned int", "unsigned long", "unsigned long long", "int8_t", "int16_t",
   "int32_t", "int64_t", "uint8_t", "uint16_t", "uint32_t", "uint64_t", "size_t", "uintptr_t"]

/-- The types of the platform that are numbers. -/
def platformNumberTypes : List Text :=
  ["BOOL", "NSInteger", "NSUInteger", "CGFloat", "NSTimeInterval"]

/-- The types of Foundation. -/
def foundationTypes : List Text :=
  ["BOOL", "NSInteger", "NSUInteger", "NSTimeInterval", "NSRange", "NSObject", "NSString",
   "NSMutableString", "NSAttributedString", "NSArray", "NSMutableArray", "NSDictionary",
   "NSMutableDictionary", "NSSet", "NSMutableSet", "NSOrderedSet", "NSIndexSet", "NSCountedSet",
   "NSNumber", "NSDecimalNumber", "NSValue", "NSData", "NSMutableData", "NSDate",
   "NSDateComponents", "NSCalendar", "NSTimeZone", "NSLocale", "NSURL", "NSURLRequest", "NSUUID",
   "NSError"]

/-- The types of Core Graphics. -/
def coreGraphicsTypes : List Text :=
  ["CGFloat", "CGRect", "CGPoint", "CGSize", "CGVector", "CGAffineTransform", "CGImageRef",
   "CGColorRef", "CGPathRef"]

/-- The types of UIKit. -/
def uiKitTypes : List Text :=
  ["UIColor", "UIImage", "UIFont", "UIEdgeInsets", "UIOffset", "UIView"]

/-- The policy for Apple's platforms. -/
def standard : Policy where
  primitiveTypes := languageTypes ++ numberTypes
  scalarTypes := numberTypes ++ platformNumberTypes
  structTypes :=
    ["CGRect", "CGPoint", "CGSize", "CGVector", "CGAffineTransform", "NSRange", "UIEdgeInsets",
     "UIOffset"]
  copyableTypes :=
    ["NSString", "NSAttributedString", "NSArray", "NSDictionary", "NSSet", "NSOrderedSet",
     "NSIndexSet", "NSData", "NSURLRequest", "NSDateComponents"]
  wellKnownImports :=
    foundationTypes.map (·, foundation) ++
      coreGraphicsTypes.map (·, umbrella "CoreGraphics") ++ uiKitTypes.map (·, umbrella "UIKit")
  systemPrefixes := ["NS", "UI", "CG", "CF", "CA"]

example : standard.isPlatformName "UIViewController" ∧ ¬ standard.isPlatformName "UIcon" := by
  decide
example : standard.storageFor (.text "Foo") "Foo *" = .object := by decide

end ValueBuilder.Policy
