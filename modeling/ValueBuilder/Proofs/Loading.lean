import ValueBuilder.Command.Run
import ValueBuilder.Proofs.Acceptance
import ValueBuilder.Proofs.Injectivity
import ValueBuilder.Proofs.ParsedNames

/-!
# Loading descriptions

A description is loaded in four steps, from the file to its bytes, their text, the JSON value and
the value type. `Command.EndsWith` lists the faults with which the steps end. Unless the JSON value
is nested too deep there is a message. `Command.Refused` has the messages of all steps in full, with
the place where a text goes wrong given by the characters before it, and `Command.refused_iff` says
that these are the ones that are given.

What is read from a file does not repeat the name of a member, so the law of normal forms holds of
files without a condition (`Command.load_eq_iff_alike`).
-/

namespace ValueBuilder

/-! ## Places in a text -/

/-- The place at which a text goes wrong is behind the characters at its front. -/
theorem Json.parse_eq_error {s : List Char} {reads : List Level → Bool} {f : ParseFault}
    (h : parse s reads = .error f) :
    ∃ problem before rest, s = before ++ rest ∧ f = .after problem before := by
  unfold parse at h
  split at h
  · cases h
  · next stop _ =>
    cases h
    exact ⟨stop.problem, _, _, (List.take_append_drop _ s).symm, rfl⟩

namespace Command

variable {reader : Reader} {host : Host} {p q : Path}

/-! ## Steps -/

/-- A description is not loaded because its JSON value is nested too deep. -/
def LoadFault.IsTooDeep (f : LoadFault) : Prop := ∃ g, f = .json g ∧ g.problem = .tooDeep

/-- The bytes of a file spell a JSON value if they are a text that does. -/
theorem jsonOfBytes_eq_ok {bytes : List UInt8} {j : Json} :
    jsonOfBytes host bytes = .ok j ↔ ∃ text, Text.Utf8.decode bytes = .ok text ∧
      Json.parse (Text.unifyLines text) host.reads = .ok j := by
  unfold jsonOfBytes
  cases Text.Utf8.decode bytes with
  | error f => simp [bind, Except.bind, Except.mapError]
  | ok text =>
    cases hjson : Json.parse (Text.unifyLines text) host.reads <;>
      simp [bind, Except.bind, Except.mapError, hjson]

/-- A file that spells a JSON value describes what is read from the value. -/
theorem load_of_jsonOfBytes {bytes : List UInt8} {j : Json} (hread : reader p = .ok bytes)
    (hjson : jsonOfBytes host bytes = .ok j) :
    load reader host p = (ValueType.ofJson j).mapError .description := by
  simp only [load, hread, hjson, Except.mapError, bind, Except.bind]

/-- Loading ends with a fault at one of its steps, behind those that succeed. -/
inductive EndsWith (reader : Reader) (host : Host) (p : Path) : LoadFault → Prop where
  /-- The file is not read. -/
  | file {f : FileFault} (hread : reader p = .error f) : EndsWith reader host p (.file f)
  /-- Its bytes are no text. -/
  | encoding {bytes : List UInt8} {f : Text.Utf8.Fault} (hread : reader p = .ok bytes)
      (htext : Text.Utf8.decode bytes = .error f) : EndsWith reader host p (.encoding f)
  /-- Its text is no JSON. -/
  | json {bytes : List UInt8} {text : List Char} {f : Json.ParseFault}
      (hread : reader p = .ok bytes) (htext : Text.Utf8.decode bytes = .ok text)
      (hjson : Json.parse (Text.unifyLines text) host.reads = .error f) :
    EndsWith reader host p (.json f)
  /-- The JSON value describes no value type. -/
  | description {bytes : List UInt8} {j : Json} {f : DescriptionFault}
      (hread : reader p = .ok bytes) (hjson : jsonOfBytes host bytes = .ok j)
      (hvalue : ValueType.ofJson j = .error f) : EndsWith reader host p (.description f)

/-- Bytes that spell no JSON value end the loading. -/
theorem EndsWith.of_jsonOfBytes {bytes : List UInt8} {fault : LoadFault}
    (hread : reader p = .ok bytes) (h : jsonOfBytes host bytes = .error fault) :
    EndsWith reader host p fault := by
  unfold jsonOfBytes at h
  cases htext : Text.Utf8.decode bytes with
  | error f =>
    rw [htext] at h
    cases h
    exact .encoding hread htext
  | ok text =>
    simp only [htext, Except.mapError, bind, Except.bind] at h
    cases hjson : Json.parse (Text.unifyLines text) host.reads with
    | error f =>
      rw [hjson] at h
      cases h
      exact .json hread htext hjson
    | ok j =>
      rw [hjson] at h
      cases h

/-- A description is not loaded exactly if one of the steps ends with a fault. -/
theorem load_eq_error {fault : LoadFault} :
    load reader host p = .error fault ↔ EndsWith reader host p fault := by
  constructor
  · intro h
    cases hread : reader p with
    | error f =>
      rw [load, hread] at h
      cases h
      exact .file hread
    | ok bytes =>
      cases hjson : jsonOfBytes host bytes with
      | error g =>
        simp only [load, hread, hjson, Except.mapError, bind, Except.bind, Except.error.injEq] at h
        exact h ▸ .of_jsonOfBytes hread hjson
      | ok j =>
        rw [load_of_jsonOfBytes hread hjson] at h
        cases hvalue : ValueType.ofJson j with
        | error f =>
          rw [hvalue] at h
          cases h
          exact .description hread hjson hvalue
        | ok v =>
          rw [hvalue] at h
          cases h
  · intro h
    cases h with
    | file hread => simp only [load, hread, Except.mapError, bind, Except.bind]
    | encoding hread htext =>
      simp only [load, jsonOfBytes, hread, htext, Except.mapError, bind, Except.bind]
    | json hread htext hjson =>
      simp only [load, jsonOfBytes, hread, htext, hjson, Except.mapError, bind, Except.bind]
    | description hread hjson hvalue =>
      rw [load_of_jsonOfBytes hread hjson, hvalue]
      rfl

/-! ## Messages -/

/-- The words of the system for files that it does not read. -/
def systemWords : List (FileFault × String) :=
  [(.notFound, "[Errno 2] No such file or directory"), (.notFolder, "[Errno 20] Not a directory"),
   (.isFolder, "[Errno 21] Is a directory"), (.nameTooLong, "[Errno 36] File name too long")]

/-- The words for bytes that are no text. -/
def encodingWords : List (Text.Utf8.Reason × String) :=
  [(.invalidStart, "invalid start byte"), (.invalidContinuation, "invalid continuation byte"),
   (.unexpectedEnd, "unexpected end of data")]

/-- The words for a text that is no JSON. -/
def jsonWords : List (Json.Problem × String) :=
  [(.noValue, "Expecting value"),
   (.noName, "Expecting property name enclosed in double quotes"),
   (.noColon, "Expecting ':' delimiter"), (.noComma, "Expecting ',' delimiter"),
   (.extraData, "Extra data"), (.unterminated, "Unterminated string starting at"),
   (.controlCharacter, "Invalid control character at"), (.invalidEscape, "Invalid \\escape"),
   (.invalidCode, "Invalid \\uXXXX escape"),
   (.byteOrderMark, "Unexpected UTF-8 BOM (decode using utf-8-sig)")]

/-- The place behind some characters: its line and its column, counted from one, and the number of
the characters. -/
def placeBehind (before : List Char) : String :=
  "line " ++ toString (before.count '\n' + 1) ++ " column " ++
    toString ((before.reverse.takeWhile (· != '\n')).length + 1) ++
    " (char " ++ toString before.length ++ ")"

/-- Loading a file is refused with a message. -/
inductive Refused (reader : Reader) (host : Host) (p : Path) : Text → Prop where
  /-- The system does not read the file, for a reason that it has words for. -/
  | file {fault : FileFault} {words : String} (hread : reader p = .error fault)
      (hwords : (fault, words) ∈ systemWords) :
    Refused reader host p (words ++ ": " ++ Text.quoted p.toString : String)
  /-- The system does not read the file, for another reason. -/
  | system {number : Nat} {words : String} (hread : reader p = .error (.refused number words)) :
    Refused reader host p
      ("[Errno " ++ toString number ++ "] " ++ words ++ ": " ++ Text.quoted p.toString : String)
  /-- The path cannot be one of a file. -/
  | nullCharacter (hread : reader p = .error .nullCharacter) :
    Refused reader host p "embedded null byte"
  /-- One byte is no text. -/
  | byte {bytes : List UInt8} {fault : Text.Utf8.Fault} {words : String}
      (hread : reader p = .ok bytes) (htext : Text.Utf8.decode bytes = .error fault)
      (hwidth : fault.width = 1) (hwords : (fault.reason, words) ∈ encodingWords) :
    Refused reader host p
      ("'utf-8' codec can't decode byte 0x" ++ String.ofList (Text.hex 2 fault.lead.toNat) ++
        " in position " ++ toString fault.start ++ ": " ++ words : String)
  /-- Several bytes are no text. -/
  | bytes {bytes : List UInt8} {fault : Text.Utf8.Fault} {words : String}
      (hread : reader p = .ok bytes) (htext : Text.Utf8.decode bytes = .error fault)
      (hwidth : fault.width ≠ 1) (hwords : (fault.reason, words) ∈ encodingWords) :
    Refused reader host p
      ("'utf-8' codec can't decode bytes in position " ++ toString fault.start ++ "-" ++
        toString (fault.start + fault.width - 1) ++ ": " ++ words : String)
  /-- The text is no JSON behind the characters at its front. -/
  | json {bytes : List UInt8} {text before rest : List Char} {problem : Json.Problem}
      {words : String} (hread : reader p = .ok bytes) (htext : Text.Utf8.decode bytes = .ok text)
      (hsplit : Text.unifyLines text = before ++ rest)
      (hjson : Json.parse (Text.unifyLines text) host.reads = .error (.after problem before))
      (hwords : (problem, words) ∈ jsonWords) :
    Refused reader host p (words ++ ": " ++ placeBehind before : String)
  /-- A whole number of the text has too many digits. -/
  | digits {bytes : List UInt8} {text before : List Char} {count : Nat}
      (hread : reader p = .ok bytes) (htext : Text.Utf8.decode bytes = .ok text)
      (hjson : Json.parse (Text.unifyLines text) host.reads =
        .error (.after (.tooManyDigits count) before)) :
    Refused reader host p
      ("Exceeds the limit (4300 digits) for integer string conversion: value has " ++
        toString count ++ " digits; use sys.set_int_max_str_digits() to increase the limit" :
        String)
  /-- The JSON value is no description of a value type: there is a check that it does not pass. -/
  | description {bytes : List UInt8} {j : Json} {message : Text} (hread : reader p = .ok bytes)
      (hjson : jsonOfBytes host bytes = .ok j)
      (hcheck : Check.firstText (Check.ofValueType j) = some message) :
    Refused reader host p message

/-- The message for a file that the system has words for. -/
theorem FileFault.message_of_mem {fault : FileFault} {words : String}
    (h : (fault, words) ∈ systemWords) :
    fault.message p = words ++ ": " ++ Text.quoted p.toString := by
  simp only [systemWords, List.mem_cons, List.not_mem_nil, or_false, Prod.mk.injEq] at h
  rw [String.append_assoc]
  rcases h with ⟨rfl, rfl⟩ | ⟨rfl, rfl⟩ | ⟨rfl, rfl⟩ | ⟨rfl, rfl⟩
  · rfl
  · rfl
  · rfl
  · rfl

/-- The message for a file that the system does not read for another reason. -/
theorem FileFault.message_refused (number : Nat) (words : String) :
    (FileFault.refused number words).message p =
      "[Errno " ++ toString number ++ "] " ++ words ++ ": " ++ Text.quoted p.toString := by
  rw [String.append_assoc]
  rfl

/-- There are words for each reason for which bytes are no text. -/
theorem encodingWords_iff {reason : Text.Utf8.Reason} {words : String} :
    (reason, words) ∈ encodingWords ↔ reason.message = words := by
  cases reason <;> simp [encodingWords, Text.Utf8.Reason.message, eq_comm]

/-- The message for one byte that is no text. -/
theorem message_of_width_eq {fault : Text.Utf8.Fault} {words : String} (hwidth : fault.width = 1)
    (hwords : (fault.reason, words) ∈ encodingWords) :
    fault.message = "'utf-8' codec can't decode byte 0x" ++
      String.ofList (Text.hex 2 fault.lead.toNat) ++ " in position " ++ toString fault.start ++
      ": " ++ words := by
  have hfront : "'utf-8' codec can't decode byte 0x" =
      "'utf-8' codec can't decode " ++ "byte 0x" := by decide
  unfold Text.Utf8.Fault.message
  rw [if_pos hwidth, encodingWords_iff.1 hwords, hfront]
  simp only [String.append_assoc]

/-- The message for several bytes that are no text. -/
theorem message_of_width_ne {fault : Text.Utf8.Fault} {words : String} (hwidth : fault.width ≠ 1)
    (hwords : (fault.reason, words) ∈ encodingWords) :
    fault.message = "'utf-8' codec can't decode bytes in position " ++ toString fault.start ++
      "-" ++ toString (fault.start + fault.width - 1) ++ ": " ++ words := by
  have hfront : "'utf-8' codec can't decode bytes in position " =
      "'utf-8' codec can't decode " ++ "bytes in position " := by decide
  unfold Text.Utf8.Fault.message
  rw [if_neg hwidth, encodingWords_iff.1 hwords, hfront]
  simp only [String.append_assoc]

/-- There are words for each problem that has a place and is not one of depth. -/
theorem jsonWords_iff {problem : Json.Problem} {words : String} :
    (problem, words) ∈ jsonWords ↔
      problem.message = words ∧ problem ≠ .tooDeep ∧ ∀ count, problem ≠ .tooManyDigits count := by
  unfold jsonWords
  cases problem with
  | tooManyDigits count =>
    refine iff_of_false (by simp) fun h => h.2.2 count rfl
  | tooDeep => exact iff_of_false (by simp) fun h => h.2.1 rfl
  | _ =>
    simp only [List.mem_cons, Prod.mk.injEq, reduceCtorEq, false_and, or_false, false_or,
      List.not_mem_nil, true_and, ne_eq, not_false_eq_true, implies_true, and_self, and_true]
    exact eq_comm

/-- The message for a text that goes wrong behind some characters. -/
theorem message_after {problem : Json.Problem} {before : List Char} {words : String}
    (h : (problem, words) ∈ jsonWords) :
    (Json.ParseFault.after problem before).message = words ++ ": " ++ placeBehind before := by
  obtain ⟨rfl, -, hdigits⟩ := jsonWords_iff.1 h
  unfold Json.ParseFault.message
  split
  · next count hcount => exact absurd hcount (hdigits count)
  · simp only [placeBehind, String.append_assoc]
    rfl

/-- The message for a whole number that has too many digits. -/
theorem message_after_tooManyDigits (count : Nat) (before : List Char) :
    (Json.ParseFault.after (.tooManyDigits count) before).message =
      "Exceeds the limit (4300 digits) for integer string conversion: value has " ++
        toString count ++ " digits; use sys.set_int_max_str_digits() to increase the limit" := by
  have hfront : "Exceeds the limit (4300 digits) for integer string conversion: value has " =
      "Exceeds the limit (" ++ toString Json.greatestLength ++
        " digits) for integer string conversion: value has " := by decide
  rw [hfront]
  rfl

/-! ## Refusals -/

/-- A file that is not read is refused. -/
theorem Refused.of_file {fault : FileFault} (hread : reader p = .error fault) :
    Refused reader host p (fault.message p) := by
  have hfile {words : String} (hwords : (fault, words) ∈ systemWords) :
      Refused reader host p (fault.message p) := by
    rw [FileFault.message_of_mem hwords]
    exact .file hread hwords
  cases fault with
  | nullCharacter => exact .nullCharacter hread
  | refused number words =>
    rw [FileFault.message_refused]
    exact .system hread
  | notFound => exact hfile List.mem_cons_self
  | notFolder => exact hfile (List.mem_of_getElem? (i := 1) rfl)
  | isFolder => exact hfile (List.mem_of_getElem? (i := 2) rfl)
  | nameTooLong => exact hfile (List.mem_of_getElem? (i := 3) rfl)

/-- Bytes that are no text are refused. -/
theorem Refused.of_encoding {bytes : List UInt8} {fault : Text.Utf8.Fault}
    (hread : reader p = .ok bytes) (htext : Text.Utf8.decode bytes = .error fault) :
    Refused reader host p fault.message := by
  have hwords : (fault.reason, fault.reason.message) ∈ encodingWords := encodingWords_iff.2 rfl
  by_cases hwidth : fault.width = 1
  · rw [message_of_width_eq hwidth hwords]
    exact .byte hread htext hwidth hwords
  · rw [message_of_width_ne hwidth hwords]
    exact .bytes hread htext hwidth hwords

/-- A text that is no JSON is refused, unless it is nested too deep. -/
theorem Refused.of_json {bytes : List UInt8} {text : List Char} {fault : Json.ParseFault}
    (hread : reader p = .ok bytes) (htext : Text.Utf8.decode bytes = .ok text)
    (hjson : Json.parse (Text.unifyLines text) host.reads = .error fault)
    (hdepth : fault.problem ≠ .tooDeep) : Refused reader host p fault.message := by
  obtain ⟨problem, before, rest, hsplit, rfl⟩ := Json.parse_eq_error hjson
  by_cases hdigits : ∃ count, problem = .tooManyDigits count
  · obtain ⟨count, rfl⟩ := hdigits
    rw [message_after_tooManyDigits]
    exact .digits hread htext hjson
  · have hwords : (problem, problem.message) ∈ jsonWords :=
      jsonWords_iff.2 ⟨rfl, hdepth, fun count hcount => hdigits ⟨count, hcount⟩⟩
    rw [message_after hwords]
    exact .json hread htext hsplit hjson hwords

/-- Loading that does not succeed is refused with the message for its fault, unless it is one of
depth. -/
theorem refused_of_error {fault : LoadFault} (h : load reader host p = .error fault)
    (hdepth : ¬ fault.IsTooDeep) : Refused reader host p (fault.message p) := by
  cases load_eq_error.1 h with
  | file hread => exact .of_file hread
  | encoding hread htext => exact .of_encoding hread htext
  | json hread htext hjson =>
    exact .of_json hread htext hjson fun hproblem => hdepth ⟨_, rfl, hproblem⟩
  | @description _ j f hread hjson hvalue =>
    exact .description hread hjson
      ((ValueType.firstText_eq_some_iff j f.message).2 ⟨f, hvalue, rfl⟩)

/-- What is refused is not loaded, but not for its depth, and the fault has the message. -/
theorem Refused.exists_fault {message : Text} (h : Refused reader host p message) :
    ∃ fault, load reader host p = .error fault ∧ ¬ fault.IsTooDeep ∧ fault.message p = message := by
  cases h with
  | file hread hwords =>
    refine ⟨_, load_eq_error.2 (.file hread), nofun, ?_⟩
    exact congrArg Text.ofString (FileFault.message_of_mem hwords)
  | system hread =>
    refine ⟨_, load_eq_error.2 (.file hread), nofun, ?_⟩
    exact congrArg Text.ofString (FileFault.message_refused _ _)
  | nullCharacter hread => exact ⟨_, load_eq_error.2 (.file hread), nofun, rfl⟩
  | byte hread htext hwidth hwords =>
    refine ⟨_, load_eq_error.2 (.encoding hread htext), nofun, ?_⟩
    exact congrArg Text.ofString (message_of_width_eq hwidth hwords)
  | bytes hread htext hwidth hwords =>
    refine ⟨_, load_eq_error.2 (.encoding hread htext), nofun, ?_⟩
    exact congrArg Text.ofString (message_of_width_ne hwidth hwords)
  | json hread htext hsplit hjson hwords =>
    obtain ⟨-, hlevel, -⟩ := jsonWords_iff.1 hwords
    refine ⟨_, load_eq_error.2 (.json hread htext hjson), ?_, ?_⟩
    · rintro ⟨g, hg, hproblem⟩
      cases hg
      exact hlevel hproblem
    · exact congrArg Text.ofString (message_after hwords)
  | digits hread htext hjson =>
    refine ⟨_, load_eq_error.2 (.json hread htext hjson), ?_, ?_⟩
    · rintro ⟨g, hg, hproblem⟩
      cases hg
      cases hproblem
    · exact congrArg Text.ofString (message_after_tooManyDigits _ _)
  | @description _ j _ hread hjson hcheck =>
    obtain ⟨f, hvalue, hmessage⟩ := (ValueType.firstText_eq_some_iff j message).1 hcheck
    exact ⟨_, load_eq_error.2 (.description hread hjson hvalue), nofun, hmessage⟩

/-- Loading is refused with a message exactly if it does not succeed, and not for depth, and this is
the message for the fault. -/
theorem refused_iff {message : Text} :
    Refused reader host p message ↔
      ∃ fault, load reader host p = .error fault ∧ ¬ fault.IsTooDeep ∧
        fault.message p = message := by
  constructor
  · exact Refused.exists_fault
  · rintro ⟨fault, hload, hdepth, rfl⟩
    exact refused_of_error hload hdepth

/-- Nothing that is loaded is refused. -/
theorem not_refused_of_load_eq_ok {v : ValueType} (h : load reader host p = .ok v)
    (message : Text) : ¬ Refused reader host p message := by
  intro hrefused
  obtain ⟨fault, hfault, -, -⟩ := hrefused.exists_fault
  rw [h] at hfault
  cases hfault

/-! ## Files that say the same -/

/-- What the bytes of a file spell does not repeat the name of a member. -/
theorem hasDistinctKeys_of_jsonOfBytes {bytes : List UInt8} {j : Json}
    (h : jsonOfBytes host bytes = .ok j) : j.HasDistinctKeys := by
  obtain ⟨text, -, hjson⟩ := jsonOfBytes_eq_ok.1 h
  exact Json.hasDistinctKeys_of_parse hjson

/-- A file that is loaded spells a JSON value, and the value type is read from it. -/
theorem load_eq_ok {v : ValueType} :
    load reader host p = .ok v ↔ ∃ bytes j, reader p = .ok bytes ∧
      jsonOfBytes host bytes = .ok j ∧ ValueType.ofJson j = .ok v := by
  constructor
  · intro h
    cases hread : reader p with
    | error f =>
      rw [load_eq_error.2 (.file hread)] at h
      cases h
    | ok bytes =>
      cases hjson : jsonOfBytes host bytes with
      | error g =>
        rw [load_eq_error.2 (.of_jsonOfBytes hread hjson)] at h
        cases h
      | ok j =>
        cases hvalue : ValueType.ofJson j with
        | error f =>
          rw [load_eq_error.2 (.description hread hjson hvalue)] at h
          cases h
        | ok w =>
          rw [load_of_jsonOfBytes hread hjson, hvalue] at h
          cases h
          exact ⟨bytes, j, rfl, hjson, hvalue⟩
  · rintro ⟨bytes, j, hread, hjson, hvalue⟩
    rw [load_of_jsonOfBytes hread hjson, hvalue]
    rfl

/-- Two files that are loaded describe the same value type exactly if the normal forms of their JSON
values are alike. -/
theorem load_eq_iff_alike {v w : ValueType} (hv : load reader host p = .ok v)
    (hw : load reader host q = .ok w) :
    ∃ j k, (∃ bytes, reader p = .ok bytes ∧ jsonOfBytes host bytes = .ok j) ∧
      (∃ bytes, reader q = .ok bytes ∧ jsonOfBytes host bytes = .ok k) ∧
      (v = w ↔ ValueType.Alike Eq (ValueType.normalForm j) (ValueType.normalForm k)) := by
  obtain ⟨bytes, j, hp, hj, hjv⟩ := load_eq_ok.1 hv
  obtain ⟨bytes', k, hq, hk, hkw⟩ := load_eq_ok.1 hw
  refine ⟨j, k, ⟨bytes, hp, hj⟩, ⟨bytes', hq, hk⟩, ?_⟩
  -- The reader leaves no name twice, so the law of normal forms holds.
  have hlaw := ValueType.eqUpTo_iff_alike (R := Eq) (hasDistinctKeys_of_jsonOfBytes hj)
    (hasDistinctKeys_of_jsonOfBytes hk) hjv hkw
  rw [← hlaw, ValueType.eqUpTo_eq_iff]

end Command

end ValueBuilder
