import ValueBuilder.Proofs.Endings

/-!
# What a run prints

A run of a subcommand on a file prints one whole text or nothing. The option `-v` adds a log to the
reports and changes nothing else: the same text is printed, and the run ends in the same way.

`Command.runSubcommand_cases` lists the three ways that a run comes out. Which one it is depends on
the file, the subcommand and the host, but not on the option. `Command.run_comesOutAlike` reads off
what the two runs print and report: the text of a subcommand (`Command.Subcommand.Shows`), the lines
of the log (`ValueType.logLines`), and the message of a failure (`Command.Subcommand.FailsWith`).
The message is that of a description which is not loaded (`Command.Refused`), or that of an output
which does not take the text.
-/

namespace ValueBuilder

open ObjC (CodeFile)

/-! ## The log -/

namespace Event

/-- The line for an event, with the source and the first words of the message in its front. -/
theorem line_eq {e : Event} {front : String} (source words : String) (rest : Text)
    (hfront : front = "DEBUG " ++ source ++ ": " ++ words) (hsource : e.source = source)
    (hmessage : e.message = words ++ rest) : e.line = front ++ rest ++ "\n" := by
  rw [line, hsource, hmessage, hfront]
  simp only [Text.ofString_append, List.append_assoc]

/-- The line for a description that was read. -/
theorem line_loaded (typeName : Text) (path : String) :
    (loaded typeName path).line =
      "DEBUG mkbuilder.cli: Loaded value type " ++ (typeName ++ " from " ++ path) ++ "\n" :=
  line_eq "mkbuilder.cli" "Loaded value type " _ (by decide) rfl
    (by simp only [message, List.append_assoc])

/-- The line for a type lookup without an import. -/
theorem line_omittedImport (name : Text) :
    (omittedImport name).line =
      "DEBUG mkbuilder.dependencies: Omitting import for forward-declarable lookup " ++ name ++
        "\n" :=
  line_eq "mkbuilder.dependencies" "Omitting import for forward-declarable lookup " _ (by decide)
    rfl rfl

/-- The line for imports of attributes that are left out. -/
theorem line_skippedAttributes (typeName : Text) :
    (skippedAttributes typeName).line =
      "DEBUG mkbuilder.dependencies: Skipping attribute imports for " ++ typeName ++ "\n" :=
  line_eq "mkbuilder.dependencies" "Skipping attribute imports for " _ (by decide) rfl rfl

/-- The line for a builder that was made. -/
theorem line_synthesized (file : Text) (attributes imports declarations : Nat) :
    (synthesized file attributes imports declarations).line =
      "DEBUG mkbuilder.builder: Synthesized " ++ (file ++ ": " ++ toString attributes ++
        " attributes, " ++ toString imports ++ " imports, " ++ toString declarations ++
        " forward declarations") ++ "\n" :=
  line_eq "mkbuilder.builder" "Synthesized " _ (by decide) rfl
    (by simp only [message, List.append_assoc])

end Event

namespace ValueType

variable {v : ValueType} {f : CodeFile} {p : Policy}

/-- The type lookups for which a forward declaration is enough, so that they have no import. If
forward declarations are in use, then all lookups have one. -/
def declaredOnly (v : ValueType) : List TypeLookup :=
  if v.includes.contains "UseForwardDeclarations" then []
  else v.typeLookups.filter (·.canForwardDeclare)

/-- The lines of the log of a run that makes a file: one for the description, one for each lookup
without an import, one if the imports of the attributes are left out, and one for the file. -/
def logLines (v : ValueType) (path : String) (f : CodeFile) : List Text :=
  ["DEBUG mkbuilder.cli: Loaded value type " ++ v.typeName ++ " from " ++ path] ++
  v.declaredOnly.map (fun l => (
    "DEBUG mkbuilder.dependencies: Omitting import for forward-declarable lookup " ++ l.name :
      Text)) ++
  (if v.includes.contains "UseForwardDeclarations" &&
      v.includes.contains "SkipImportsInImplementation" then
    ["DEBUG mkbuilder.dependencies: Skipping attribute imports for " ++ v.typeName] else []) ++
  ["DEBUG mkbuilder.builder: Synthesized " ++ f.name ++ ": " ++ toString v.attributes.length ++
    " attributes, " ++ toString f.imports.length ++ " imports, " ++
    toString f.forwardDeclarations.length ++ " forward declarations"]

/-- The log of a run that makes a file. -/
def logText (v : ValueType) (path : String) (f : CodeFile) : Text :=
  (v.logLines path f).flatMap fun line => line ++ "\n"

/-- The lookups that are found to have no import. -/
theorem omittedLookups_ofIncludes (v : ValueType) :
    v.omittedLookups (.ofIncludes v.includes) = v.declaredOnly := by
  have huse : (Directives.ofIncludes v.includes).useForwardDeclarations =
      v.includes.contains "UseForwardDeclarations" := rfl
  simp only [omittedLookups, declaredOnly, TypeLookup.neededImport?, huse]
  cases v.includes.contains "UseForwardDeclarations" with
  | true =>
    rw [if_pos rfl, List.filter_eq_nil_iff]
    intro l _
    cases l.canForwardDeclare <;> simp
  | false =>
    rw [if_neg Bool.false_ne_true]
    refine List.filter_congr fun l _ => ?_
    cases l.canForwardDeclare <;> rfl

/-- Each lookup has an import or is left without one. -/
theorem length_lookupImports_add_length_omittedLookups (v : ValueType) (d : Directives) :
    (v.lookupImports d).length + (v.omittedLookups d).length = v.typeLookups.length := by
  unfold lookupImports omittedLookups
  induction v.typeLookups with
  | nil => rfl
  | cons l ls ih =>
    rw [List.length_cons, ← ih, List.filterMap_cons, List.filter_cons]
    cases l.neededImport? d v.libraryName with
    | none => simp [Nat.add_assoc]
    | some i => simp [Nat.add_right_comm]

/-- The events of a run that makes a file are logged line by line. -/
theorem flatMap_line_eq_logText (path : String) (h : v.builderFile p = .ok f) :
    (.loaded v.typeName path :: v.buildTrace p).flatMap Event.line = v.logText path f := by
  have hskip : (Directives.ofIncludes v.includes).omitsAttributeImports =
      (v.includes.contains "UseForwardDeclarations" &&
        v.includes.contains "SkipImportsInImplementation") := rfl
  unfold buildTrace importTrace logText logLines
  simp only [h, omittedLookups_ofIncludes, hskip, List.flatMap_cons, List.flatMap_append,
    List.flatMap_map, List.flatMap_nil, Event.line_loaded, Event.line_omittedImport,
    Event.line_synthesized, List.append_assoc, List.append_nil]
  -- Line by line both are the same, but there is a line on attributes only under two directives.
  cases v.includes.contains "UseForwardDeclarations" &&
      v.includes.contains "SkipImportsInImplementation" with
  | false => rfl
  | true =>
    simp only [if_true, List.flatMap_singleton, Event.line_skippedAttributes, List.append_assoc]

end ValueType

namespace Command

/-! ## What the option asks for -/

/-- The option in front of the name of a subcommand and a path asks for a log on top. -/
theorem parse_verbose_name_path {c : Subcommand} {path : String}
    (h : path.toList.head? ≠ some '-') : parse ["-v", c.name, path] = .ok (.run true c path) := by
  have hfront : takeFront false [] 0 [.flag .verbose, .operand c.name, .operand path] =
      .ok ⟨true, [], some c, 2⟩ := by
    have hflags : Scope.program.flags (.flag .verbose) = .ok [.verbose] := rfl
    unfold takeFront
    rw [hflags]
    change takeFront true [] 1 [.operand c.name, .operand path] = _
    unfold takeFront
    rw [Subcommand.ofName?_name]
  have hwords : Scope.program.readWords ["-v", c.name, path] =
      .ok [.flag .verbose, .operand c.name, .operand path] := by
    have hoption : Scope.program.readWord "-v" = .ok (.flag .verbose) := by decide
    unfold Scope.readWords
    rw [hoption, Scope.readWords_name_path h]
    rfl
  exact parse_of_takeFront hwords hfront rfl h

/-! ## What a run shows -/

/-- What a subcommand shows of a file: the header, the implementation, or the summary in JSON with a
line end, if the host gets to the end of it. -/
inductive Subcommand.Shows (host : Host) (f : CodeFile) : Subcommand → Text → Prop where
  /-- The header. -/
  | header : Shows host f .header f.header
  /-- The implementation, if there is one. -/
  | implementation {text : Text} (h : f.implementation = .ok text) :
    Shows host f .implementation text
  /-- The summary, if it can be printed. -/
  | describe {s : Summary} (hs : f.summary = .ok s) (hprints : host.prints s.toJson = true) :
    Shows host f .describe (s.toJson.pretty ++ "\n")

/-- A subcommand makes a text from the file that it makes for the value type at a path. -/
structure Subcommand.Makes (c : Subcommand) (path : String) (reader : Reader) (host : Host)
    (v : ValueType) (f : CodeFile) (text : Text) : Prop where
  /-- The path leads to a description of the value type. -/
  loaded : load reader host (.ofString path) = .ok v
  /-- The file holds the builder of the value type. -/
  file : v.builderFile .standard = .ok f
  /-- The text is what the subcommand shows of the file. -/
  shown : c.Shows host f text

/-- A subcommand fails with a message, and with a log in front of it. -/
inductive Subcommand.FailsWith (c : Subcommand) (path : String) (reader : Reader) (host : Host) :
    Text → Text → Prop where
  /-- The description is not loaded. -/
  | refused {message : Text} (h : Refused reader host (.ofString path) message) :
    FailsWith c path reader host message []
  /-- The output does not take the text that the subcommand makes. -/
  | notTaken {v : ValueType} {f : CodeFile} {text message : Text}
      (hmakes : c.Makes path reader host v f text) (h : host.refusal? text = some message) :
    FailsWith c path reader host message (v.logText path f)

variable {c : Subcommand} {path : String} {reader : Reader} {host : Host} {v w : ValueType}
  {f g : CodeFile} {text other : Text}

/-- What is shown is printed to the end. -/
theorem Subcommand.shows_iff :
    c.Shows host f text ↔ c.show f = .ok text ∧ c.isPrintable host f = true := by
  constructor
  · intro h
    cases h with
    | header => exact ⟨rfl, rfl⟩
    | implementation h => exact ⟨h, rfl⟩
    | describe hs hprints =>
      exact ⟨Traversal.bind_eq_ok.2 ⟨_, hs, rfl⟩, isPrintable_iff.2 fun _ s h => by
        rwa [← Except.ok.inj (hs.symm.trans h)]⟩
  · rintro ⟨htext, hprint⟩
    cases c with
    | header =>
      cases htext
      exact .header
    | implementation => exact .implementation htext
    | describe =>
      obtain ⟨s, hs, hpretty⟩ := Traversal.bind_eq_ok.1 htext
      cases hpretty
      exact .describe hs (isPrintable_iff.1 hprint rfl s hs)

/-- A subcommand makes what it puts out. -/
theorem Subcommand.exists_makes_iff :
    (∃ f, c.Makes path reader host v f text) ↔
      load reader host (.ofString path) = .ok v ∧ c.output host v = .ok text := by
  rw [output_eq_ok]
  constructor
  · rintro ⟨f, hload, hf, hshown⟩
    exact ⟨hload, f, hf, shows_iff.1 hshown⟩
  · rintro ⟨hload, f, hf, hshown⟩
    exact ⟨f, hload, hf, shows_iff.2 hshown⟩

/-- A subcommand makes one text. -/
theorem Subcommand.Makes.unique (h : c.Makes path reader host v f text)
    (hother : c.Makes path reader host w g other) : text = other := by
  obtain rfl : v = w := Except.ok.inj (h.loaded.symm.trans hother.loaded)
  obtain ⟨-, hv⟩ := exists_makes_iff.1 ⟨f, h⟩
  obtain ⟨-, hw⟩ := exists_makes_iff.1 ⟨g, hother⟩
  exact Except.ok.inj (hv.symm.trans hw)

/-! ## How a run comes out -/

/-- The three ways that a run of a subcommand on a file comes out. The description is not loaded,
for a reason that is reported, or a text is made, or the run is broken off. A log makes no
difference to that. -/
theorem runSubcommand_cases (c : Subcommand) (path : String) (reader : Reader) (host : Host) :
    (∃ message, Refused reader host (.ofString path) message ∧
      ∀ verbose, runSubcommand verbose c path reader host =
        { ending := .exit 2, stderr := complaint message }) ∨
    (∃ v f text, c.Makes path reader host v f text ∧
      ∀ verbose, runSubcommand verbose c path reader host =
        printed host text (if verbose then v.logText path f else [])) ∨
    ∃ a report, (∀ message, ¬ Refused reader host (.ofString path) message) ∧
      (∀ v f text, ¬ c.Makes path reader host v f text) ∧
      ∀ verbose, runSubcommand verbose c path reader host =
        { ending := .aborted a, stderr := if verbose then report else [] } := by
  cases hload : load reader host (.ofString path) with
  | error fault =>
    have hmakes (v : ValueType) (f : CodeFile) (text : Text) :
        ¬ c.Makes path reader host v f text := by
      intro h
      rw [h.loaded] at hload
      cases hload
    -- There is a message for every fault but that of depth, which breaks the run off.
    rcases fault.outcome_cases (.ofString path) with ⟨hdeep, houtcome⟩ | ⟨hdeep, houtcome⟩
    · refine .inr (.inr ⟨.tooDeep, [], fun message hrefused => ?_, hmakes, fun verbose => ?_⟩)
      · obtain ⟨other, hother, hshallow, -⟩ := hrefused.exists_fault
        obtain rfl : fault = other := Except.error.inj (hload.symm.trans hother)
        exact hshallow hdeep
      · rw [runSubcommand_of_error hload, houtcome, ite_self]
    · refine .inl ⟨_, refused_of_error hload hdeep, fun verbose => ?_⟩
      rw [runSubcommand_of_error hload, houtcome]
  | ok v =>
    refine .inr ?_
    cases htext : c.output host v with
    | ok text =>
      obtain ⟨f, hmakes⟩ := Subcommand.exists_makes_iff.2 ⟨hload, htext⟩
      refine .inl ⟨v, f, text, hmakes, fun verbose => ?_⟩
      rw [runSubcommand_of_output_eq_ok hload htext, log,
        ValueType.flatMap_line_eq_logText path hmakes.file]
    | error a =>
      have hmakes (w : ValueType) (f : CodeFile) (text : Text) :
          ¬ c.Makes path reader host w f text := by
        intro h
        obtain ⟨hw, hother⟩ := Subcommand.exists_makes_iff.1 ⟨f, h⟩
        obtain rfl : v = w := Except.ok.inj (hload.symm.trans hw)
        rw [htext] at hother
        cases hother
      exact .inr ⟨a, _, not_refused_of_load_eq_ok hload, hmakes, fun verbose =>
        runSubcommand_of_output_eq_error hload htext⟩

/-- Two runs of a subcommand on a file come out alike, and the second one has a log on top. -/
structure Subcommand.ComesOutAlike (c : Subcommand) (path : String) (reader : Reader) (host : Host)
    (quiet verbose : Outcome) : Prop where
  /-- Both print the same. -/
  stdout : verbose.stdout = quiet.stdout
  /-- Both end in the same way. -/
  ending : verbose.ending = quiet.ending
  /-- They succeed exactly if the subcommand makes a text that the output takes. -/
  succeeds : quiet.ending = .exit 0 ↔
    ∃ v f text, c.Makes path reader host v f text ∧ host.refusal? text = none
  /-- They fail exactly if there is a message to fail with. -/
  fails : quiet.ending = .exit 2 ↔ ∃ message log, c.FailsWith path reader host message log
  /-- Nothing is printed unless the run succeeds. -/
  nothing : quiet.ending ≠ .exit 0 → quiet.stdout = []
  /-- A run that succeeds prints the one text that the subcommand makes, and reports nothing unless
  it keeps a log. In the log each type lookup without an import has a line. -/
  success : quiet.ending = .exit 0 → ∃ v f attributeImports,
    c.Makes path reader host v f quiet.stdout ∧ quiet.stderr = [] ∧
    verbose.stderr = v.logText path f ∧
    f.imports = v.fixedImports ++ v.lookupImports (.ofIncludes v.includes) ++ attributeImports ∧
    (v.lookupImports (.ofIncludes v.includes)).length + v.declaredOnly.length =
      v.typeLookups.length
  /-- A run that fails reports why, and behind its log if it keeps one. -/
  failure : quiet.ending = .exit 2 → ∃ message log, c.FailsWith path reader host message log ∧
    quiet.stderr = ("mkbuilder: " ++ message ++ "\n" : Text) ∧ verbose.stderr = log ++ quiet.stderr

/-- The report of a failure stands behind the name of the program. -/
theorem complaint_eq (message : Text) : complaint message = "mkbuilder: " ++ message ++ "\n" := by
  have hname : Text.ofString "mkbuilder: " = Text.ofString (programName ++ ": ") := by decide
  rw [hname]
  rfl

/-- Two runs that print a text come out alike. -/
theorem Subcommand.Makes.comesOutAlike (h : c.Makes path reader host v f text) :
    c.ComesOutAlike path reader host (printed host text [])
      (printed host text (v.logText path f)) := by
  obtain ⟨is, -, himports⟩ := ValueType.imports_of_builderFile h.file
  have hcount : (v.lookupImports (.ofIncludes v.includes)).length + v.declaredOnly.length =
      v.typeLookups.length := by
    rw [← ValueType.omittedLookups_ofIncludes]
    exact v.length_lookupImports_add_length_omittedLookups _
  unfold printed
  cases hrefusal : host.refusal? text with
  | none => exact {
      stdout := rfl
      ending := rfl
      succeeds := ⟨fun _ => ⟨v, f, text, h, hrefusal⟩, fun _ => rfl⟩
      fails := by
        refine ⟨nofun, ?_⟩
        rintro ⟨message, log, hfails⟩
        cases hfails with
        | refused hrefused => exact absurd hrefused (not_refused_of_load_eq_ok h.loaded message)
        | notTaken hmakes hmessage =>
          rw [← h.unique hmakes, hrefusal] at hmessage
          cases hmessage
      nothing := fun hending => absurd rfl hending
      success := fun _ => ⟨v, f, is, h, rfl, rfl, himports.symm, hcount⟩
      failure := nofun }
  | some message => exact {
      stdout := rfl
      ending := rfl
      succeeds := by
        refine ⟨nofun, ?_⟩
        rintro ⟨w, g, other, hmakes, hnone⟩
        rw [← h.unique hmakes, hrefusal] at hnone
        cases hnone
      fails := ⟨fun _ => ⟨message, _, .notTaken h hrefusal⟩, fun _ => rfl⟩
      nothing := fun _ => rfl
      success := nofun
      failure := fun _ => ⟨message, _, .notTaken h hrefusal, complaint_eq message, rfl⟩ }

/-- A log makes no difference but on the side of the reports. -/
theorem runSubcommand_comesOutAlike (c : Subcommand) (path : String) (reader : Reader)
    (host : Host) :
    c.ComesOutAlike path reader host (runSubcommand false c path reader host)
      (runSubcommand true c path reader host) := by
  rcases runSubcommand_cases c path reader host with
    ⟨message, hrefused, hrun⟩ | ⟨v, f, text, hmakes, hrun⟩ | ⟨a, report, hloads, hmakes, hrun⟩
  · rw [hrun, hrun]
    exact {
      stdout := rfl
      ending := rfl
      succeeds := ⟨nofun, fun ⟨v, f, text, hmakes, _⟩ =>
        absurd hrefused (not_refused_of_load_eq_ok hmakes.loaded message)⟩
      fails := ⟨fun _ => ⟨message, _, .refused hrefused⟩, fun _ => rfl⟩
      nothing := fun _ => rfl
      success := nofun
      failure := fun _ => ⟨message, [], .refused hrefused, complaint_eq message, rfl⟩ }
  · rw [hrun, hrun]
    exact hmakes.comesOutAlike
  · rw [hrun, hrun]
    exact {
      stdout := rfl
      ending := rfl
      succeeds := ⟨nofun, fun ⟨v, f, text, h, _⟩ => absurd h (hmakes v f text)⟩
      fails := by
        refine ⟨nofun, ?_⟩
        rintro ⟨message, log, hfails⟩
        cases hfails with
        | refused hrefused => exact absurd hrefused (hloads message)
        | notTaken h _ => exact absurd h (hmakes _ _ _)
      nothing := fun _ => rfl
      success := nofun
      failure := nofun }

/-- A subcommand on a path comes out alike with and without the option `-v`, whatever there is to
read, and whatever it runs on. A run prints one whole text or nothing, and without the option it
reports nothing but the failure with which it ends. A path that starts with a dash would be read as
an option. -/
theorem run_comesOutAlike (c : Subcommand) (path : String) (reader : Reader) (host : Host)
    (h : path.toList.head? ≠ some '-') :
    c.ComesOutAlike path reader host (run [c.name, path] reader host)
      (run ["-v", c.name, path] reader host) := by
  have hquiet : run [c.name, path] reader host = runSubcommand false c path reader host := by
    unfold run
    rw [parse_name_path h]
  have hverbose : run ["-v", c.name, path] reader host =
      runSubcommand true c path reader host := by
    unfold run
    rw [parse_verbose_name_path h]
  rw [hquiet, hverbose]
  exact runSubcommand_comesOutAlike c path reader host

/-- The value type `A` with a lookup of `B`, for which a forward declaration is enough. -/
def lookingUp : ValueType where
  typeName := "A"
  typeLookups := [{ name := "B" }]

/-- A folder with a description of this value type, and one of a value type whose name is half of a
pair. -/
def lookingUpFolder : Folder :=
  ⟨[(["s.json"],
      "\x7b\"typeName\":\"A\",\"typeLookups\":[\x7b\"name\":\"B\"\x7d]\x7d".toUTF8.toList),
    (["t.json"], "\x7b\"typeName\":\"\\ud800\"\x7d".toUTF8.toList)]⟩

/-- The first file in the folder is loaded. -/
theorem load_lookingUpFolder :
    load lookingUpFolder.read (.utf8 3 3) (.ofString "s.json") = .ok lookingUp := by
  rw [← Traversal.toOption_eq_some]
  decide +kernel

/-- The header for this description is printed with and without a log, and the log says why there is
no import of `B`. A header with half of a pair in it is not taken by the output, and if there is no
such file, then nothing is printed either. -/
theorem run_comesOutAlike_lookingUp :
    (run ["header", "s.json"] lookingUpFolder.read (.utf8 3 3)).ending = .exit 0 ∧
    (run ["-v", "header", "s.json"] lookingUpFolder.read (.utf8 3 3)).stdout =
      (run ["header", "s.json"] lookingUpFolder.read (.utf8 3 3)).stdout ∧
    (run ["header", "s.json"] lookingUpFolder.read (.utf8 3 3)).stderr = [] ∧
    (run ["-v", "header", "s.json"] lookingUpFolder.read (.utf8 3 3)).stderr =
      ("DEBUG mkbuilder.cli: Loaded value type A from s.json\n" ++
        "DEBUG mkbuilder.dependencies: Omitting import for forward-declarable lookup B\n" ++
        "DEBUG mkbuilder.builder: Synthesized ABuilder: 0 attributes, 3 imports, " ++
        "2 forward declarations\n" : String) ∧
    (run ["header", "t.json"] lookingUpFolder.read (.utf8 3 3)).ending = .exit 2 ∧
    (run ["header", "t.json"] lookingUpFolder.read (.utf8 3 3)).stdout = [] ∧
    (run ["describe", "u.json"] lookingUpFolder.read (.utf8 3 3)).ending = .exit 2 ∧
    (run ["describe", "u.json"] lookingUpFolder.read (.utf8 3 3)).stdout = [] := by
  have hheader := run_comesOutAlike .header "s.json" lookingUpFolder.read (.utf8 3 3) (by decide)
  have hhalf := run_comesOutAlike .header "t.json" lookingUpFolder.read (.utf8 3 3) (by decide)
  have hmissing := run_comesOutAlike .describe "u.json" lookingUpFolder.read (.utf8 3 3) (by decide)
  obtain ⟨f, hf, hlog, htaken⟩ : ∃ f, lookingUp.builderFile .standard = .ok f ∧
      lookingUp.logText "s.json" f =
        ("DEBUG mkbuilder.cli: Loaded value type A from s.json\n" ++
          "DEBUG mkbuilder.dependencies: Omitting import for forward-declarable lookup B\n" ++
          "DEBUG mkbuilder.builder: Synthesized ABuilder: 0 attributes, 3 imports, " ++
          "2 forward declarations\n" : String) ∧
      (Host.utf8 3 3).refusal? f.header = none :=
    ⟨_, rfl, by decide +kernel, by decide +kernel⟩
  have hending := hheader.succeeds.2
    ⟨lookingUp, f, f.header, ⟨load_lookingUpFolder, hf, .header⟩, htaken⟩
  obtain ⟨v, g, -, ⟨hv, hg, -⟩, hquiet, hverbose, -, -⟩ := hheader.success hending
  rw [load_lookingUpFolder, Except.ok.injEq] at hv
  subst hv
  rw [hf, Except.ok.injEq] at hg
  subst hg
  rw [hlog] at hverbose
  have hrefused : (run ["header", "t.json"] lookingUpFolder.read (.utf8 3 3)).ending = .exit 2 := by
    decide +kernel
  have hnofile : (run ["describe", "u.json"] lookingUpFolder.read (.utf8 3 3)).ending =
      .exit 2 := by
    decide +kernel
  exact ⟨hending, hheader.stdout, hquiet, hverbose,
    hrefused, hhalf.nothing (ne_of_eq_of_ne hrefused (by decide)),
    hnofile, hmissing.nothing (ne_of_eq_of_ne hnofile (by decide))⟩

end Command

end ValueBuilder
