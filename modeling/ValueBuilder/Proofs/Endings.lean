import ValueBuilder.Proofs.Generation
import ValueBuilder.Proofs.Loading

/-!
# How a run ends

A run of a subcommand on a file ends with a status or is broken off (`Command.Ending`).
`Command.runSubcommand_isStatus_iff` says exactly when it ends with a status: the file is not
loaded, for a reason other than the depth of its JSON value, or it is loaded and the subcommand can
be served from the value type that it describes (`Subcommand.Serves`). What it takes to serve a
subcommand is asked of the attributes one by one. It includes members that a description may fill
with anything, so there are descriptions that are accepted and break a run off. And what is handed
on to a summary must not be nested deeper than the host can print. A host that counts levels has to
have three for the summary itself (`Summary.prints_counting_iff`).

`ValueType.exists_previews_iff` is the same question without a command. If no underlying type and no
protocol is in the way, a builder can be made and shown exactly if every reference is a text.
-/

namespace ValueBuilder

open Traversal

namespace Command

/-! ## What the arguments ask for -/

/-- A word that does not start with a dash is an operand. -/
theorem Scope.readWord_eq_operand {scope : Scope} {text : String}
    (h : text.toList.head? ≠ some '-') : scope.readWord text = .ok (.operand text) := by
  unfold Scope.readWord
  -- All patterns but the last one start with a dash.
  split
  · next hs => exact absurd (by rw [hs]; rfl) h
  · next hs => exact absurd (by rw [hs]; rfl) h
  · next hs => exact absurd (by rw [hs]; rfl) h
  · rfl

/-- Words that do not start with a dash are operands. -/
theorem Scope.readWords_eq_operands {scope : Scope} {texts : List String}
    (h : ∀ text ∈ texts, text.toList.head? ≠ some '-') :
    scope.readWords texts = .ok (texts.map .operand) := by
  induction texts with
  | nil => rfl
  | cons text texts ih =>
    obtain ⟨hhead, htail⟩ := List.forall_mem_cons.1 h
    unfold Scope.readWords
    rw [Scope.readWord_eq_operand hhead, ih htail]
    rfl

/-- The name of a subcommand does not start with a dash. -/
theorem Subcommand.head?_name (c : Subcommand) : c.name.toList.head? ≠ some '-' := by
  cases c <;> decide

/-- A subcommand is found by its name. -/
theorem Subcommand.ofName?_name (c : Subcommand) : Subcommand.ofName? c.name = some c := by
  cases c <;> decide

/-- If a subcommand is found among the words, and nothing but a path stands behind it, then the
subcommand on the path is asked for. -/
theorem parse_of_takeFront {argv : List String} {words : List Word} {verbose : Bool}
    {c : Subcommand} {width : Nat} {path : String}
    (hwords : Scope.program.readWords argv = .ok words)
    (hfront : takeFront false [] 0 words = .ok ⟨verbose, [], some c, width⟩)
    (hbehind : argv.drop width = [path]) (hpath : path.toList.head? ≠ some '-') :
    parse argv = .ok (.run verbose c path) := by
  have hoperand : (Scope.subcommand c).readWords [path] = .ok [.operand path] :=
    Scope.readWords_eq_operands (by simp [hpath])
  -- The command line is read twice: up to the subcommand, and behind it.
  unfold parse
  rw [hwords]
  simp only [bind, Except.bind, hfront, Scope.blame, Except.mapError, hbehind, hoperand]
  rfl

/-- The name of a subcommand and a path are operands, if the path does not start with a dash. -/
theorem Scope.readWords_name_path {scope : Scope} {c : Subcommand} {path : String}
    (h : path.toList.head? ≠ some '-') :
    scope.readWords [c.name, path] = .ok [.operand c.name, .operand path] :=
  Scope.readWords_eq_operands (by simp [h, c.head?_name])

/-- The name of a subcommand and a path ask for the subcommand on the path. -/
theorem parse_name_path {c : Subcommand} {path : String} (h : path.toList.head? ≠ some '-') :
    parse [c.name, path] = .ok (.run false c path) := by
  have hfront : takeFront false [] 0 [.operand c.name, .operand path] =
      .ok ⟨false, [], some c, 1⟩ := by
    unfold takeFront
    rw [Subcommand.ofName?_name]
  exact parse_of_takeFront (Scope.readWords_name_path h) hfront rfl h

/-! ## Loading -/

/-- A run that does not load its description is broken off if the JSON value is nested too deep, and
fails with a report if it is not. -/
theorem LoadFault.outcome_cases (f : LoadFault) (p : Path) :
    f.IsTooDeep ∧ f.outcome p = { ending := .aborted .tooDeep } ∨
      ¬ f.IsTooDeep ∧
        f.outcome p = { ending := .exit 2, stderr := complaint (f.message p) } := by
  unfold LoadFault.IsTooDeep
  cases f with
  | json g =>
    obtain ⟨problem, offset, line, column⟩ := g
    cases problem <;> simp [LoadFault.outcome]
  | file g => simp [LoadFault.outcome]
  | encoding g => simp [LoadFault.outcome]
  | description g => simp [LoadFault.outcome]

/-! ## Serving a subcommand -/

/-- A subcommand can be served from a value type on a host. -/
structure Subcommand.Serves (host : Host) (c : Subcommand) (v : ValueType) : Prop where
  /-- What a builder needs to know about an attribute can be told. -/
  supported : ∀ a ∈ v.attributes,
    a.IsSupported .standard (Directives.ofIncludes v.includes).valueSemantics
  /-- The variables of an implementation are declared with texts. -/
  references : c = .implementation → ∀ a ∈ v.attributes, ∃ s, a.type.reference = .text s
  /-- The host gets to the end of a summary. -/
  nesting : c = .describe → ∀ f s, v.builderFile .standard = .ok f → f.summary = .ok s →
    host.prints s.toJson = true

variable {host : Host} {c : Subcommand} {v : ValueType}

/-- A file that was made is shown, as implementation only if all references are texts. -/
theorem Subcommand.exists_show_eq_ok {p : Policy} {f : ObjC.CodeFile}
    (h : v.builderFile p = .ok f) :
    (∃ text, c.show f = .ok text) ↔
      (c = .implementation → ∀ a ∈ v.attributes, ∃ s, a.type.reference = .text s) := by
  cases c with
  | header => simp [Subcommand.show]
  | implementation => simpa [Subcommand.show] using ValueType.exists_implementation_iff h
  | describe =>
    obtain ⟨s, hs⟩ := ValueType.exists_summary_eq_ok h
    have htext : Subcommand.describe.show f = .ok (s.toJson.pretty ++ "\n") :=
      bind_eq_ok.2 ⟨s, hs, rfl⟩
    simp [htext]

/-- The host gets to the end of what is shown of a file unless it is a summary that is nested too
deep. -/
theorem Subcommand.isPrintable_iff {f : ObjC.CodeFile} :
    c.isPrintable host f = true ↔
      (c = .describe → ∀ s, f.summary = .ok s → host.prints s.toJson = true) := by
  cases c with
  | header => simp [isPrintable]
  | implementation => simp [isPrintable]
  | describe => cases hs : f.summary <;> simp [isPrintable, hs]

/-- A subcommand makes a text if there is a file, it is shown, and the host gets to the end. -/
theorem Subcommand.output_eq_ok {text : Text} :
    c.output host v = .ok text ↔ ∃ f, v.builderFile .standard = .ok f ∧ c.show f = .ok text ∧
      c.isPrintable host f = true := by
  unfold output
  cases v.builderFile .standard with
  | error e => simp [Except.mapError, bind, Except.bind]
  | ok f =>
    cases htext : c.show f with
    | error e => simp [Except.mapError, bind, Except.bind, htext]
    | ok shown =>
      cases hprint : c.isPrintable host f <;>
        simp [Except.mapError, bind, Except.bind, pure, Except.pure, htext, hprint]

/-- When a subcommand makes a text. -/
theorem Subcommand.exists_output_eq_ok :
    (∃ text, c.output host v = .ok text) ↔ c.Serves host v := by
  simp only [output_eq_ok]
  constructor
  · rintro ⟨text, f, hf, htext, hprint⟩
    refine ⟨ValueType.exists_builderFile_eq_ok.1 ⟨f, hf⟩, (exists_show_eq_ok hf).1 ⟨text, htext⟩,
      fun hc g s hg hs => ?_⟩
    obtain rfl : f = g := Except.ok.inj (hf.symm.trans hg)
    exact isPrintable_iff.1 hprint hc s hs
  · intro h
    obtain ⟨f, hf⟩ := ValueType.exists_builderFile_eq_ok.2 h.supported
    obtain ⟨text, htext⟩ := (exists_show_eq_ok hf).2 h.references
    exact ⟨text, f, hf, htext, isPrintable_iff.2 fun hc s hs => h.nesting hc f s hf hs⟩

/-! ## Runs -/

/-- A run ends with a status: that of success or that of a failure which it reports. -/
def Ending.IsStatus (e : Ending) : Prop := e = .exit 0 ∨ e = .exit 2

/-- A run that prints a text ends with a status, whether the output takes the text or not. -/
theorem printed_isStatus (host : Host) (text log : Text) :
    (printed host text log).ending.IsStatus := by
  unfold printed
  cases host.refusal? text with
  | none => exact .inl rfl
  | some message => exact .inr rfl

variable {verbose : Bool} {path : String} {reader : Reader}

/-- A run that does not load its description reports why. -/
theorem runSubcommand_of_error {f : LoadFault}
    (h : load reader host (.ofString path) = .error f) :
    runSubcommand verbose c path reader host = f.outcome (.ofString path) := by
  unfold runSubcommand
  simp only [h]

/-- A run that makes a text prints it. -/
theorem runSubcommand_of_output_eq_ok {text : Text}
    (h : load reader host (.ofString path) = .ok v) (htext : c.output host v = .ok text) :
    runSubcommand verbose c path reader host =
      printed host text (log verbose (.loaded v.typeName path :: v.buildTrace .standard)) := by
  unfold runSubcommand
  simp only [h, htext]

/-- A run that loads its description and makes no text is broken off. -/
theorem runSubcommand_of_output_eq_error {a : Abort}
    (h : load reader host (.ofString path) = .ok v) (habort : c.output host v = .error a) :
    runSubcommand verbose c path reader host =
      { ending := .aborted a
        stderr := log verbose (.loaded v.typeName path :: v.buildTrace .standard) } := by
  unfold runSubcommand
  simp only [h, habort]

/-- A run of a subcommand on a file ends with a status exactly if the file is not loaded, but not
for its depth, or the subcommand can be served from the value type that the file describes. -/
theorem runSubcommand_isStatus_iff :
    (runSubcommand verbose c path reader host).ending.IsStatus ↔
      (∀ f, load reader host (.ofString path) = .error f → ¬ f.IsTooDeep) ∧
        ∀ v, load reader host (.ofString path) = .ok v → c.Serves host v := by
  cases hload : load reader host (.ofString path) with
  | error f =>
    rw [runSubcommand_of_error hload]
    unfold Ending.IsStatus
    rcases f.outcome_cases (.ofString path) with ⟨hf, he⟩ | ⟨hf, he⟩
    · simp [he, hf]
    · simp [he, hf]
  | ok v =>
    -- A run that has loaded its description is broken off if and only if there is no text.
    cases htext : c.output host v with
    | ok text =>
      rw [runSubcommand_of_output_eq_ok hload htext]
      have hserves := Subcommand.exists_output_eq_ok.1 ⟨text, htext⟩
      simp [printed_isStatus, hserves]
    | error a =>
      rw [runSubcommand_of_output_eq_error hload htext]
      have hserves : ¬ c.Serves host v := by
        rw [← Subcommand.exists_output_eq_ok, htext]
        simp
      simp [Ending.IsStatus, hserves]

end Command

/-! ## Previews -/

/-- If the underlying types and the protocols that are given are texts, then a builder can be made
and shown in every way exactly if every reference is a text. -/
theorem ValueType.exists_previews_iff {v : ValueType} {p : Policy}
    (h : ∀ a ∈ v.attributes,
      (a.type.underlyingType.isGiven = true → ∃ s, a.type.underlyingType = .text s) ∧
      (a.type.conformingProtocol.isGiven = true → ∃ s, a.type.conformingProtocol = .text s)) :
    (∃ f, v.builderFile p = .ok f ∧ (∃ text, f.implementation = .ok text) ∧
      ∃ s, f.summary = .ok s) ↔ ∀ a ∈ v.attributes, ∃ s, a.type.reference = .text s := by
  constructor
  · rintro ⟨f, hf, htext, -⟩
    exact (ValueType.exists_implementation_iff hf).1 htext
  · intro href
    have htextual : v.IsTextual := fun a ha => ⟨href a ha, (h a ha).1, (h a ha).2⟩
    obtain ⟨f, hf⟩ := ValueType.exists_builderFile_eq_ok.2 fun a ha =>
      Attribute.isSupported_of_isTextual (p := p) (htextual a ha)
    exact ⟨f, hf, (ValueType.exists_implementation_iff hf).2 href,
      ValueType.exists_summary_eq_ok hf⟩

/-! ## The depth of a summary -/

/-- No item is deeper than the greatest depth. -/
theorem Json.depth_le_depthItems {x : Json} {xs : List Json} (h : x ∈ xs) :
    x.depth ≤ depthItems xs := by
  induction xs with
  | nil => cases h
  | cons y ys ih =>
    rw [depthItems]
    rcases List.mem_cons.1 h with rfl | h
    · exact Nat.le_max_left _ _
    · exact Nat.le_trans (ih h) (Nat.le_max_right _ _)

/-- The greatest depth is that of an item. -/
theorem Json.exists_depth_eq_depthItems {xs : List Json} (h : xs ≠ []) :
    ∃ x ∈ xs, x.depth = depthItems xs := by
  induction xs with
  | nil => exact absurd rfl h
  | cons x xs ih =>
    rw [depthItems]
    by_cases hx : depthItems xs ≤ x.depth
    · exact ⟨x, List.mem_cons_self, (Nat.max_eq_left hx).symm⟩
    · have hxs : xs ≠ [] := by
        rintro rfl
        exact hx (Nat.zero_le _)
      obtain ⟨y, hy, hdepth⟩ := ih hxs
      exact ⟨y, List.mem_cons_of_mem x hy, by omega⟩

/-- Texts are at most one level down. -/
theorem Summary.depth_texts_le (xs : List Text) : (texts xs).depth ≤ 1 := by
  have hitems : Json.depthItems (xs.map .text) = 0 := by
    induction xs with
    | nil => rfl
    | cons x xs ih =>
      have hx : (Json.text x).depth = 0 := rfl
      rw [List.map_cons, Json.depthItems, ih, hx, Nat.max_self]
  cases xs with
  | nil => exact Nat.zero_le 1
  | cons x xs => exact Nat.add_le_add_right (Nat.le_of_eq hitems) 1

/-- An import is one level above its file and its library. -/
theorem Summary.depth_importJson (i : ObjC.Import) :
    (importJson i).depth = max i.file.depth i.library.depth + 1 := by
  simp [importJson, Json.depth, Json.depthMembers]

/-- In a summary the files and the libraries of the imports are three levels down, and nothing else
goes deeper. -/
theorem Summary.depth_toJson_le_iff {s : Summary} {n : Nat} (h : s.imports ≠ []) :
    s.toJson.depth ≤ n ↔ ∀ i ∈ s.imports, max i.file.depth i.library.depth + 3 ≤ n := by
  have hmap : s.imports.map importJson ≠ [] := by simp [h]
  obtain ⟨x, hx, hdeepest⟩ := Json.exists_depth_eq_depthItems hmap
  obtain ⟨i, hi, rfl⟩ := List.mem_map.1 hx
  rw [depth_importJson] at hdeepest
  have hlist : (Json.list (s.imports.map importJson)).depth =
      Json.depthItems (s.imports.map importJson) + 1 := by
    obtain ⟨j, js, hj⟩ := List.exists_cons_of_ne_nil hmap
    rw [hj, Json.depth, Json.depthItems]
  -- Besides the imports there are only texts, and these are less deep than any import.
  have hdepth : s.toJson.depth = max i.file.depth i.library.depth + 3 := by
    have hdeclarations := depth_texts_le s.forwardDeclarations
    have hclass := depth_texts_le s.classMethods
    have hinstance := depth_texts_le s.instanceMethods
    simp only [toJson, Json.depth, Json.depthMembers]
    omega
  rw [hdepth]
  constructor
  · intro hn j hj
    have hle := Json.depth_le_depthItems (List.mem_map_of_mem (f := importJson) hj)
    rw [depth_importJson] at hle
    omega
  · intro hn
    exact hn i hi

/-- A host that counts levels gets to the end of the summary of a builder if it has three levels
besides those of what the imports take over. -/
theorem Summary.prints_counting_iff {v : ValueType} {p : Policy} {f : ObjC.CodeFile} {s : Summary}
    {reading printing : Nat} {refusal? : Text → Option Text} (hf : v.builderFile p = .ok f)
    (hs : f.summary = .ok s) :
    (Command.Host.counting reading printing refusal?).prints s.toJson = true ↔
      ∀ i ∈ f.imports, max i.file.depth i.library.depth + 3 ≤ printing := by
  obtain ⟨ms, hclasses⟩ := ValueType.classes_of_builderFile hf
  obtain ⟨is, -, himports⟩ := ValueType.imports_of_builderFile hf
  have hsame : s.imports = f.imports := by
    unfold ObjC.CodeFile.summary at hs
    rw [hclasses] at hs
    cases hs
    rfl
  have hfixed : f.imports ≠ [] := by
    rw [← himports]
    simp [ValueType.fixedImports]
  rw [← hsame] at hfixed ⊢
  rw [← depth_toJson_le_iff hfixed]
  exact decide_eq_true_iff

namespace Command

/-! ## A file with one description -/

/-- A description of the value type `A` with one attribute, of the type `T`. The text stands behind
the name of that type and may give it further members. -/
def describing (members : String) : String :=
  "\x7b\"typeName\":\"A\",\"attributes\":[\x7b\"name\":\"x\",\"type\":\x7b\"name\":\"T\"" ++
    members ++ "\x7d\x7d]\x7d"

/-- A folder with one file, of the name `s.json`. -/
def folderWith (text : String) : Folder := ⟨[(["s.json"], text.toUTF8.toList)]⟩

/-- The value type `A` with one attribute, of the type `T`. -/
def described : ValueType where
  typeName := "A"
  attributes := [⟨"x", { name := "T", reference := .text "T *" }, .inherited⟩]

/-- The JSON value of `describing`, without further members. -/
def descriptionJson : Json :=
  .object [("typeName", .text "A"),
    ("attributes", .list [
      .object [("name", .text "x"), ("type", .object [("name", .text "T")])]])]

/-- The file without further members is loaded. -/
theorem load_describing :
    load (folderWith (describing "")).read (.utf8 4 3) (.ofString "s.json") = .ok described := by
  rw [← toOption_eq_some]
  decide +kernel

/-! ## When the command ends with a status -/

/-- The command `c` on a path ends with a status, that of success or that of a failure which it
reports, exactly if the file is not loaded, but not for the depth of its JSON value, or `c` can be
served from the value type that it describes. And for a JSON value that describes a value type, with
underlying types and protocols that are texts if they are given, a builder can be made and shown in
every way exactly if every reference is a text. -/
theorem run_ending_iff_and_exists_previews_iff (c : Subcommand) (path : String)
    (reader : Reader) (host : Host) :
    (path.toList.head? ≠ some '-' →
      ((run [c.name, path] reader host).ending = .exit 0 ∨
          (run [c.name, path] reader host).ending = .exit 2 ↔
        (∀ f, load reader host (.ofString path) = .error f → ¬ f.IsTooDeep) ∧
          ∀ v, load reader host (.ofString path) = .ok v → c.Serves host v)) ∧
    ∀ (j : Json) (v : ValueType) (p : Policy), ValueType.ofJson j = .ok v →
      (∀ a ∈ v.attributes,
        (a.type.underlyingType.isGiven = true → ∃ s, a.type.underlyingType = .text s) ∧
        (a.type.conformingProtocol.isGiven = true → ∃ s, a.type.conformingProtocol = .text s)) →
      ((∃ f, v.builderFile p = .ok f ∧ (∃ text, f.implementation = .ok text) ∧
        ∃ s, f.summary = .ok s) ↔ ∀ a ∈ v.attributes, ∃ s, a.type.reference = .text s) := by
  refine ⟨fun hpath => ?_, fun j v p _ h => ValueType.exists_previews_iff h⟩
  have hrun : run [c.name, path] reader host = runSubcommand false c path reader host := by
    unfold run
    rw [parse_name_path hpath]
  rw [hrun]
  exact runSubcommand_isStatus_iff

/-- A type of which nothing but the name is said is shown in every way. Its summary takes the three
levels that every summary takes. -/
theorem run_ending_and_exists_previews_described :
    ((run ["describe", "s.json"] (folderWith (describing "")).read (.utf8 4 3)).ending = .exit 0 ∨
      (run ["describe", "s.json"] (folderWith (describing "")).read (.utf8 4 3)).ending = .exit 2) ∧
    ValueType.ofJson descriptionJson = .ok described ∧
    ∃ f, described.builderFile .standard = .ok f ∧ (∃ text, f.implementation = .ok text) ∧
      ∃ s, f.summary = .ok s := by
  have htextual : described.IsTextual := by decide
  have hjson : ValueType.ofJson descriptionJson = .ok described := rfl
  obtain ⟨hending, hpreviews⟩ := run_ending_iff_and_exists_previews_iff .describe "s.json"
    (folderWith (describing "")).read (.utf8 4 3)
  refine ⟨(hending (by decide)).2 ⟨?_, ?_⟩, hjson, ?_⟩
  · intro f hf
    rw [load_describing] at hf
    cases hf
  · intro v hv
    rw [load_describing] at hv
    cases hv
    refine ⟨fun a ha => Attribute.isSupported_of_isTextual (htextual a ha), nofun,
      fun _ f s hf hs => ?_⟩
    have himports : f.imports.all (fun i => max i.file.depth i.library.depth + 3 ≤ 3) = true := by
      cases hf
      decide
    rw [Host.utf8, Summary.prints_counting_iff hf hs]
    simpa using himports
  · rw [hpreviews descriptionJson described .standard hjson fun a ha =>
      ⟨(htextual a ha).underlyingType, (htextual a ha).conformingProtocol⟩]
    exact fun a ha => (htextual a ha).reference

/-- A reference that is given as null breaks the run off. -/
theorem run_aborted_of_null_reference :
    (run ["header", "s.json"] (folderWith (describing ",\"reference\":null")).read
      (.utf8 4 3)).ending = .aborted (.generation (.referenceNotText "T")) := by
  decide +kernel

end Command

end ValueBuilder
