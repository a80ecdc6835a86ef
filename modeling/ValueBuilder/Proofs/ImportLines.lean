import Mathlib.Data.List.Induction
import Mathlib.Data.List.Nodup
import ValueBuilder.Proofs.Generation
import ValueBuilder.Proofs.ImplementationLines

/-!
# The lines of imports

Several imports of a file may have the same text, since they come from different attributes and
lookups and may name one header in different ways. A preview writes a text once, where it is
mentioned first. `Text.FirstMentions` says this of lines and of the texts that they come from.
Imports are written one after the other, and one more import adds its line unless its text was
written before (`Text.eraseDups_concat`). Either way the lines stay the first mentions of the texts
so far, so at the end they are those of all texts (`Text.firstMentions_eraseDups`).

In both previews the lines that start like an import are those of the imports and no others, since
every other line is empty, stands in a block or starts with a character of its own
(`ObjC.CodeFile.filter_headerLines`, `ObjC.CodeFile.filter_implementationLines`). In the file of a
builder the fixed imports come first. The value type and the builder have different headers, so each
of them has its line, and no later import moves it.
-/

namespace ValueBuilder

open Traversal
open ObjC (CodeFile Import Method Receiver)

/-! ## First mentions -/

namespace Text

/-- A text starts with lines, each of which a line feed ends. -/
def StartsWithLines (lines : List Text) (text : Text) : Prop :=
  lines.flatMap (· ++ Text.ofString "\n") <+: text

/-- Lines are the first mentions of texts: each text has one line, and the lines stand in the order
in which the texts are mentioned first. -/
structure FirstMentions (texts lines : List Text) : Prop where
  /-- No two lines are the same. -/
  nodup : lines.Nodup
  /-- The lines are the texts. -/
  mem_iff : ∀ x, x ∈ lines ↔ x ∈ texts
  /-- A line stands before another one if its text is mentioned before that of the other. -/
  ordered : lines.Pairwise fun x y => texts.idxOf x < texts.idxOf y

variable {texts lines : List Text} {x y : Text}

/-- One more text behind the others does not change the order of the lines so far. -/
theorem FirstMentions.ordered_concat (h : FirstMentions texts lines) :
    lines.Pairwise fun y z => (texts ++ [x]).idxOf y < (texts ++ [x]).idxOf z := by
  have hplace {w : Text} (hw : w ∈ lines) : (texts ++ [x]).idxOf w = texts.idxOf w :=
    List.idxOf_append_of_mem ((h.mem_iff w).1 hw)
  refine h.ordered.imp_of_mem fun {y z} hy hz hlt => ?_
  rwa [hplace hy, hplace hz]

/-- A text that was mentioned before needs no line. -/
theorem FirstMentions.skip (h : FirstMentions texts lines) (hx : x ∈ texts) :
    FirstMentions (texts ++ [x]) lines where
  nodup := h.nodup
  mem_iff y := by
    rw [h.mem_iff, List.mem_append, List.mem_singleton, or_iff_left_of_imp]
    rintro rfl
    exact hx
  ordered := h.ordered_concat

/-- A text that was not mentioned before has its line behind the others. -/
theorem FirstMentions.write (h : FirstMentions texts lines) (hx : x ∉ texts) :
    FirstMentions (texts ++ [x]) (lines ++ [x]) where
  nodup := by
    rw [← List.concat_eq_append, List.nodup_concat, h.mem_iff]
    exact ⟨hx, h.nodup⟩
  mem_iff y := by rw [List.mem_append, List.mem_append, h.mem_iff]
  ordered := by
    refine List.pairwise_append.2 ⟨h.ordered_concat, List.pairwise_singleton _ _, ?_⟩
    intro y hy z hz
    have hmem : y ∈ texts := (h.mem_iff y).1 hy
    have hbefore : texts.idxOf y < texts.length := List.idxOf_lt_length_of_mem hmem
    rw [List.mem_singleton.1 hz, List.idxOf_append_of_mem hmem, List.idxOf_append_of_notMem hx]
    omega

/-- One more text is kept unless it was there before. -/
theorem eraseDups_concat (texts : List Text) (x : Text) :
    (texts ++ [x]).eraseDups = if x ∈ texts then texts.eraseDups else texts.eraseDups ++ [x] := by
  rw [List.eraseDups_append]
  by_cases hx : x ∈ texts
  · have hnone : [x].removeAll texts = [] := by simp [List.removeAll, hx]
    rw [hnone, if_pos hx, List.eraseDups_nil, List.append_nil]
  · have hone : [x].removeAll texts = [x] := by simp [List.removeAll, hx]
    rw [hone, if_neg hx]
    rfl

/-- Texts without repetitions are the first mentions of all of them. -/
theorem firstMentions_eraseDups (texts : List Text) : FirstMentions texts texts.eraseDups := by
  -- The texts are taken one by one, as they are written.
  induction texts using List.reverseRecOn with
  | nil => exact ⟨List.nodup_nil, fun _ => Iff.rfl, List.Pairwise.nil⟩
  | append_singleton texts x ih =>
    rw [eraseDups_concat]
    split
    · next hx => exact ih.skip hx
    · next hx => exact ih.write hx

/-- Two different texts at the front stay there. -/
theorem eraseDups_cons_cons (h : x ≠ y) (rest : List Text) :
    ∃ others, (x :: y :: rest).eraseDups = x :: y :: others := by
  have hkept : (y :: rest).filter (fun z => !z == x) = y :: rest.filter fun z => !z == x :=
    List.filter_cons_of_pos (by simpa using h.symm)
  rw [List.eraseDups_cons, hkept, List.eraseDups_cons]
  exact ⟨_, rfl⟩

end Text

/-! ## Lines that start like an import -/

namespace ObjC

/-- A Boolean test that a line starts like an import. -/
def isImportLine (line : Text) : Bool := (Text.ofString "#import ").isPrefixOf line

/-- Imports are told from all lines of blocks by their start. -/
theorem missesBlocks_isImportLine : MissesBlocks isImportLine := ⟨rfl, fun _ => rfl, rfl, rfl⟩

/-- Every import starts like one. -/
theorem isImportLine_code (i : Import) : isImportLine i.code = true := by
  unfold Import.code
  split <;> rfl

/-- All texts of imports start like one. -/
theorem filter_eraseDups_code (is : List Import) :
    (is.map Import.code).eraseDups.filter isImportLine = (is.map Import.code).eraseDups := by
  rw [List.filter_eq_self]
  intro line hline
  obtain ⟨i, -, rfl⟩ := List.mem_map.1 (List.mem_eraseDups.1 hline)
  exact isImportLine_code i

/-- A signature is no import, whatever follows it. -/
theorem isImportLine_signature (m : Method) (receiver : Receiver) (rest : Text) :
    isImportLine (m.signature receiver ++ rest) = false := by
  cases receiver <;> rfl

/-- If no method has an import among its lines, then several of them have none. -/
theorem filter_flatMap_of_nil {lines : Method → List Text}
    (h : ∀ m, (lines m).filter isImportLine = []) (ms : List Method) :
    (ms.flatMap lines).filter isImportLine = [] := by
  rw [List.filter_flatMap, List.flatMap_eq_nil_iff]
  exact fun m _ => h m

/-- A method has no import among its lines in a header. -/
theorem Method.not_import_headerLines (receiver : Receiver) (m : Method) :
    (m.headerLines receiver).filter isImportLine = [] := by
  rw [Method.headerLines, List.filter_cons_of_neg Bool.false_ne_true, List.filter_cons_of_neg,
    List.filter_nil]
  rw [isImportLine_signature]
  exact Bool.false_ne_true

/-- A method has no import among its lines in an implementation. -/
theorem Method.not_import_implementationLines (receiver : Receiver) (m : Method) :
    (m.implementationLines receiver).filter isImportLine = [] := by
  have hsignature := isImportLine_signature m receiver []
  rw [List.append_nil] at hsignature
  rw [missesBlocks_isImportLine.filter_implementationLines, List.filter_cons_of_neg,
    List.filter_nil]
  rw [hsignature]
  exact Bool.false_ne_true

/-- A class has no import among its lines in a header. -/
theorem Class.not_import_headerLines (c : Class) : c.headerLines.filter isImportLine = [] := by
  rw [Class.headerLines]
  simp only [List.filter_append, filter_flatMap_of_nil (Method.not_import_headerLines _)]
  rfl

/-- A class has no import among its lines in an implementation. -/
theorem Class.not_import_implementationLines (c : Class) (holders : List Text) :
    (c.implementationLines holders).filter isImportLine = [] := by
  rw [Class.implementationLines]
  simp only [List.filter_append, missesBlocks_isImportLine.filter_variableBlockLines,
    filter_flatMap_of_nil (Method.not_import_implementationLines _)]
  rfl

namespace CodeFile

/-- The lines of a header that start like an import are those of the public imports. -/
theorem filter_headerLines (f : CodeFile) :
    f.headerLines.filter isImportLine = f.importLines := by
  have hdeclarations : f.declarationLines.filter isImportLine = [] := by
    unfold declarationLines
    split
    · rfl
    · rw [List.filter_cons_of_neg Bool.false_ne_true, List.filter_eq_nil_iff]
      intro line hline
      obtain ⟨d, -, rfl⟩ := List.mem_map.1 hline
      exact Bool.false_ne_true
  have hclasses : (f.classes.flatMap Class.headerLines).filter isImportLine = [] := by
    rw [List.filter_flatMap, List.flatMap_eq_nil_iff]
    exact fun c _ => c.not_import_headerLines
  rw [headerLines, List.filter_append, List.filter_append, hdeclarations, hclasses, importLines,
    filter_eraseDups_code, List.append_nil, List.append_nil]

/-- The lines of an implementation that start like an import are those of the other imports. -/
theorem filter_implementationLines (f : CodeFile) (holders : List (List Text)) :
    (f.implementationLines holders).filter isImportLine = f.privateImportLines := by
  have hclasses : ((f.classes.zip holders).flatMap fun c => c.1.implementationLines c.2).filter
      isImportLine = [] := by
    rw [List.filter_flatMap, List.flatMap_eq_nil_iff]
    exact fun c _ => c.1.not_import_implementationLines c.2
  rw [implementationLines, List.filter_append, hclasses, privateImportLines,
    filter_eraseDups_code, List.append_nil]

variable {f : CodeFile} {s : Summary}

/-- The summary of a file lists its imports. -/
theorem imports_of_summary (h : f.summary = .ok s) : s.imports = f.imports := by
  unfold summary at h
  split at h
  · cases h
  · rw [← Except.ok.inj h]

/-- The imports in a header are the first mentions of the public imports. -/
theorem firstMentions_headerLines (h : f.summary = .ok s) :
    Text.FirstMentions ((s.imports.filter (·.isPublic)).map Import.code)
      (f.headerLines.filter isImportLine) := by
  rw [imports_of_summary h, filter_headerLines]
  exact Text.firstMentions_eraseDups _

/-- The imports in an implementation are the first mentions of the other imports. -/
theorem firstMentions_implementationLines (h : f.summary = .ok s) (holders : List (List Text)) :
    Text.FirstMentions ((s.imports.filter (!·.isPublic)).map Import.code)
      ((f.implementationLines holders).filter isImportLine) := by
  rw [imports_of_summary h, filter_implementationLines]
  exact Text.firstMentions_eraseDups _

end CodeFile

end ObjC

/-! ## The first lines of a builder -/

namespace ValueType

variable {v : ValueType} {p : Policy} {f : CodeFile}

/-- The import of the header of a value type. -/
def ownHeader (v : ValueType) : Import where
  file := .text (v.typeName ++ ".h")
  isPublic := false
  library := v.libraryName

/-- The import of the header of a builder; it comes from no library. -/
def builderHeader (v : ValueType) : Import where
  file := .text (v.typeName ++ "Builder.h")
  isPublic := false

/-- A value type and its builder have different headers. -/
theorem code_ownHeader_ne (v : ValueType) : v.ownHeader.code ≠ v.builderHeader.code := by
  intro h
  have hbuilder : v.builderHeader.code =
      Text.ofString "#import \"" ++ (v.typeName ++ Text.ofString "Builder.h") ++
        Text.ofString "\"" := rfl
  rw [hbuilder] at h
  cases hlibrary : v.libraryName.isGiven with
  | true =>
    -- With a library the header stands between angle brackets.
    have hown : v.ownHeader.code = Text.ofString "#import <" ++ v.libraryName.display ++
        Text.ofString "/" ++ v.ownHeader.file.display ++ Text.ofString ">" := if_pos hlibrary
    rw [hown] at h
    have hmark : some (CodePoint.char '<') = some (.char '"') :=
      congrArg (fun line : Text => (line.drop 8).head?) h
    exact absurd hmark (by decide)
  | false =>
    -- Without one the header of the builder is longer.
    have hown : v.ownHeader.code = Text.ofString "#import \"" ++
        (v.typeName ++ Text.ofString ".h") ++ Text.ofString "\"" :=
      if_neg (by rw [ownHeader, hlibrary]; exact Bool.false_ne_true)
    have hlengths : (Text.ofString ".h").length = 2 ∧ (Text.ofString "Builder.h").length = 9 :=
      ⟨rfl, rfl⟩
    have hlength := congrArg List.length (hown.symm.trans h)
    simp only [List.length_append, hlengths] at hlength
    omega

/-- The public imports of a builder start with that of Foundation, and the other ones with those of
the headers of the value type and of the builder. -/
theorem exists_imports_eq (h : v.builderFile p = .ok f) :
    ∃ others, f.imports = Policy.foundation :: v.ownHeader :: v.builderHeader :: others := by
  obtain ⟨js, -, himports⟩ := imports_of_builderFile h
  have hbuilder : Names.builder v.typeName ++ Text.ofString ".h" =
      v.typeName ++ Text.ofString "Builder.h" := by
    rw [Names.builder, List.append_assoc]
    rfl
  have hfixed : v.fixedImports = [Policy.foundation, v.ownHeader, v.builderHeader] := by
    rw [fixedImports, hbuilder]
    rfl
  rw [hfixed, List.append_assoc] at himports
  exact ⟨_, himports.symm⟩

/-- The header of a builder starts with the import of Foundation. -/
theorem exists_headerLines_eq (h : v.builderFile p = .ok f) :
    ∃ rest, f.headerLines = Policy.foundation.code :: rest := by
  obtain ⟨others, himports⟩ := exists_imports_eq h
  have hpublic : f.imports.filter (·.isPublic) =
      Policy.foundation :: others.filter (·.isPublic) := by
    rw [himports]
    rfl
  rw [CodeFile.headerLines, CodeFile.importLines, hpublic, List.map_cons, List.eraseDups_cons]
  exact ⟨_, rfl⟩

/-- The implementation of a builder starts with the imports of the headers of the value type and of
the builder. -/
theorem exists_implementationLines_eq (h : v.builderFile p = .ok f) (holders : List (List Text)) :
    ∃ rest, f.implementationLines holders = v.ownHeader.code :: v.builderHeader.code :: rest := by
  obtain ⟨others, himports⟩ := exists_imports_eq h
  have hprivate : f.imports.filter (!·.isPublic) =
      v.ownHeader :: v.builderHeader :: others.filter (!·.isPublic) := by
    rw [himports]
    rfl
  -- The two texts are different, so neither is left out for the other one.
  obtain ⟨lines, hlines⟩ := Text.eraseDups_cons_cons v.code_ownHeader_ne
    ((others.filter (!·.isPublic)).map Import.code)
  rw [CodeFile.implementationLines, CodeFile.privateImportLines, hprivate, List.map_cons,
    List.map_cons, hlines]
  exact ⟨_, rfl⟩

end ValueType

/-! ## Both previews -/

/-- Lines that are joined start with those in front, each of which a line feed ends. -/
theorem Text.startsWithLines_joined {front : List Text} (h : front ≠ []) (rest : List Text) :
    StartsWithLines front (List.intercalate "\n" (front ++ rest) ++ Text.ofString "\n") := by
  have hne : front ++ rest ≠ [] := List.append_ne_nil_of_left_ne_nil h rest
  rw [StartsWithLines, Text.intercalate_append_separator _ hne, List.flatMap_append]
  exact List.prefix_append _ _

/-- The lines of imports in the previews of a file that has an implementation and a summary. In the
header the lines that start like an import are the first mentions of the texts of the public imports
that the summary lists, and in the implementation those of the other imports.

A value type whose members are texts has a builder with an implementation. The header of a builder
starts with the import of Foundation. Its implementation starts with the imports of the headers of
the value type and of the builder. -/
theorem importLines_firstMentions :
    (∀ (f : CodeFile) text s, f.implementation = .ok text → f.summary = .ok s →
      (f.header = List.intercalate "\n" f.headerLines ++ "\n" ∧
        Text.FirstMentions ((s.imports.filter (·.isPublic)).map Import.code)
          (f.headerLines.filter ObjC.isImportLine)) ∧
      ∃ holders, f.classes.mapM (·.variableLines) = .ok holders ∧
        text = List.intercalate "\n" (f.implementationLines holders) ++ "\n" ∧
        Text.FirstMentions ((s.imports.filter (!·.isPublic)).map Import.code)
          ((f.implementationLines holders).filter ObjC.isImportLine)) ∧
    ∀ (v : ValueType) (p : Policy),
      (v.IsTextual → ∃ f text, v.builderFile p = .ok f ∧ f.implementation = .ok text) ∧
      ∀ f, v.builderFile p = .ok f →
        Text.StartsWithLines ["#import <Foundation/Foundation.h>"] f.header ∧
        ∀ text, f.implementation = .ok text →
          Text.StartsWithLines [v.ownHeader.code, v.builderHeader.code] text := by
  refine ⟨fun f text s ht hs =>
    ⟨⟨CodeFile.header_eq f, CodeFile.firstMentions_headerLines hs⟩, ?_⟩,
    fun v p => ⟨fun hv => ?_, fun f hf => ⟨?_, fun text ht => ?_⟩⟩⟩
  · obtain ⟨holders, hholders, htext⟩ := CodeFile.implementation_eq_ok.1 ht
    exact ⟨holders, mapM_eq_ok.2 hholders, htext.symm,
      CodeFile.firstMentions_implementationLines hs holders⟩
  · obtain ⟨f, hf⟩ := ValueType.exists_builderFile_eq_ok.2 fun a ha =>
      Attribute.isSupported_of_isTextual (p := p) (hv a ha)
    obtain ⟨text, ht⟩ := (ValueType.exists_implementation_iff hf).2 fun a ha => (hv a ha).reference
    exact ⟨f, text, hf, ht⟩
  · obtain ⟨rest, hrest⟩ := ValueType.exists_headerLines_eq hf
    rw [CodeFile.header_eq, hrest]
    exact Text.startsWithLines_joined (List.cons_ne_nil _ []) rest
  · obtain ⟨holders, -, rfl⟩ := CodeFile.implementation_eq_ok.1 ht
    obtain ⟨rest, hrest⟩ := ValueType.exists_implementationLines_eq hf holders
    rw [hrest]
    exact Text.startsWithLines_joined (List.cons_ne_nil _ [_]) rest

/-- An album with headers that are mentioned twice: its own one is that of its cover too, the first
and the last page have the same one, and the title comes with Foundation. -/
def album : ValueType where
  typeName := "Album"
  includes := ["UseForwardDeclarations"]
  attributes := [
    { name := "title", type := { name := "NSString", reference := .text "NSString *" } },
    { name := "first", type := { name := "Page", reference := .text "Page *" } },
    { name := "last", type := { name := "Page", reference := .text "Page *" } },
    { name := "cover", type := {
      name := "Cover", reference := .text "Cover *", file := .text "Album.h" } }]

/-- The implementation of the builder of an album has three lines for five imports, and its header
has one line for two. -/
theorem importLines_firstMentions_album :
    album.IsTextual ∧ ∃ f text s holders, album.builderFile .standard = .ok f ∧
      f.implementation = .ok text ∧ f.summary = .ok s ∧
      s.imports.map Import.code = [.ofString "#import <Foundation/Foundation.h>",
        .ofString "#import \"Album.h\"", .ofString "#import \"AlbumBuilder.h\"",
        .ofString "#import <Foundation/Foundation.h>", .ofString "#import \"Page.h\"",
        .ofString "#import \"Page.h\"", .ofString "#import \"Album.h\""] ∧
      Text.FirstMentions ((s.imports.filter (·.isPublic)).map Import.code)
        (f.headerLines.filter ObjC.isImportLine) ∧
      f.headerLines.filter ObjC.isImportLine = [.ofString "#import <Foundation/Foundation.h>"] ∧
      Text.FirstMentions ((s.imports.filter (!·.isPublic)).map Import.code)
        ((f.implementationLines holders).filter ObjC.isImportLine) ∧
      (f.implementationLines holders).filter ObjC.isImportLine =
        [.ofString "#import \"Album.h\"", .ofString "#import \"AlbumBuilder.h\"",
          .ofString "#import \"Page.h\""] ∧
      Text.StartsWithLines ["#import <Foundation/Foundation.h>"] f.header ∧
      Text.StartsWithLines ["#import \"Album.h\"", "#import \"AlbumBuilder.h\""] text := by
  have htextual : album.IsTextual := by decide
  obtain ⟨hfiles, hbuilders⟩ := importLines_firstMentions
  obtain ⟨hexists, hstarts⟩ := hbuilders album .standard
  obtain ⟨f, text, hf, ht⟩ := hexists htextual
  obtain ⟨s, hs⟩ := ValueType.exists_summary_eq_ok hf
  obtain ⟨⟨-, hpublic⟩, holders, -, -, hprivate⟩ := hfiles f text s ht hs
  obtain ⟨hheader, himplementation⟩ := hstarts f hf
  have hmade : album.builderImports (.ofIncludes album.includes) .standard =
      .ok [Policy.foundation, album.ownHeader, album.builderHeader, Policy.foundation,
        ⟨.text "Page.h", false, .null⟩, ⟨.text "Page.h", false, .null⟩,
        ⟨.text "Album.h", false, .null⟩] := by
    decide +kernel
  rw [ValueType.builderImports_of_builderFile hf, Except.ok.injEq] at hmade
  refine ⟨htextual, f, text, s, holders, hf, ht, hs, ?_, hpublic, ?_, hprivate, ?_, hheader,
    himplementation text ht⟩
  · rw [CodeFile.imports_of_summary hs, hmade]
    decide +kernel
  · rw [CodeFile.filter_headerLines, CodeFile.importLines, hmade]
    decide +kernel
  · rw [CodeFile.filter_implementationLines, CodeFile.privateImportLines, hmade]
    decide +kernel

end ValueBuilder
