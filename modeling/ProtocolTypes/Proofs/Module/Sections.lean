import ProtocolTypes.Proofs.Module.LineBreaks

/-!
# Sections of a module

The members of an interface stand in the module as a block that is moved in by one tab, and
the overloads as one that is moved in by two.  Where no text that goes into them breaks a
line but by newlines, each block can be cut out of the module at the line that closes it,
and gives back the text of its members (`sections_are_cut_out`).
-/

namespace ProtocolTypes

namespace ModuleParts

/-- The line of the module that opens the interface for a kind. -/
def interfaceOpening (kind : EntityKind) : String :=
  "export interface " ++ kind.interfaceName ++ " \x7b"

/-- What the module has in front of the interface for a kind. -/
def textsBefore (parts : ModuleParts) (kind : EntityKind) : List String :=
  let beforeEvents := opening ++ enumLines parts.enums ++ MessageTypes.lines ++ ["// Events"]
  let beforeRequests := beforeEvents ++ interfaceLines "OBSEventTypes" parts.events ++
    ["", "// Requests and Responses"]
  match kind with
  | .event => beforeEvents
  | .request => beforeRequests
  | .response => beforeRequests ++ interfaceLines "OBSRequestTypes" parts.requests ++ [""]

/-- The lines of the module up to the one that opens the interface for a kind. -/
def linesBefore (parts : ModuleParts) (kind : EntityKind) : List String :=
  (parts.textsBefore kind).flatMap (Text.splitAt '\n') ++ [interfaceOpening kind]

/-- What the module has in front of the overloads. -/
def textsBeforeOverloads (parts : ModuleParts) : List String :=
  parts.textsBefore .response ++ interfaceLines "OBSResponseTypes" parts.responses ++
    [ "",
      "// Overloads for per-request documentation and typing",
      "declare module './base' \x7b" ]

/-- The line of the module that opens the block of the overloads. -/
def overloadOpening : String := "\tinterface BaseOBSWebSocket \x7b"

/-- The lines of the module up to the one that opens the block of the overloads. -/
def linesBeforeOverloads (parts : ModuleParts) : List String :=
  parts.textsBeforeOverloads.flatMap (Text.splitAt '\n') ++ [overloadOpening]

/-- All that the module is joined from. -/
def texts (parts : ModuleParts) : List String :=
  opening ++ enumLines parts.enums ++ MessageTypes.lines ++ interfacesLines parts ++
    overloadLines parts.overloads

/-- The lines of a module are those of the texts that it is joined from. -/
theorem splitAt_source (parts : ModuleParts) :
    Text.splitAt '\n' parts.source = (parts.texts ++ [""]).flatMap (Text.splitAt '\n') := by
  have present : parts.texts ≠ [] := by
    simp [texts, opening]
  have isJoin : parts.source = Text.joinLines (parts.texts ++ [""]) := by
    rw [Text.joinLines_concat parts.texts present, String.append_empty]
    rfl
  rw [isJoin, Text.splitAt_joinLines _ (by simp)]

/-- The interface for a kind stands between what is before it and the rest. -/
theorem exists_texts_eq (parts : ModuleParts) (kind : EntityKind) :
    ∃ after, parts.texts = parts.textsBefore kind ++
      [interfaceOpening kind, Text.indent "\t" (parts.members kind), "\x7d"] ++ after := by
  cases kind with
  | event =>
      refine ⟨["", "// Requests and Responses"] ++ interfaceLines "OBSRequestTypes" parts.requests ++
        [""] ++ interfaceLines "OBSResponseTypes" parts.responses ++ overloadLines parts.overloads,
        ?_⟩
      simp only [texts, textsBefore, interfacesLines, List.append_assoc]
      rfl
  | request =>
      refine ⟨[""] ++ interfaceLines "OBSResponseTypes" parts.responses ++
        overloadLines parts.overloads, ?_⟩
      simp only [texts, textsBefore, interfacesLines, List.append_assoc]
      rfl
  | response =>
      refine ⟨overloadLines parts.overloads, ?_⟩
      simp only [texts, textsBefore, interfacesLines, List.append_assoc]
      rfl

/-- The overloads stand between what is before them and the last two lines. -/
theorem texts_eq_of_overloads (parts : ModuleParts) (present : parts.overloads ≠ "") :
    parts.texts = parts.textsBeforeOverloads ++
      [overloadOpening, Text.indent "\t\t" parts.overloads, "\t\x7d"] ++ ["\x7d"] := by
  have notEmpty : ¬ parts.overloads.isEmpty = true := by simpa using present
  simp only [texts, textsBeforeOverloads, textsBefore, interfacesLines, overloadLines,
    if_neg notEmpty, List.append_assoc]
  rfl

/-- The members of an interface can be cut out of the module. -/
theorem cutsOut_members
    (parts : ModuleParts)
    (kind : EntityKind)
    (onlyNewlines : Text.OnlyNewlines (parts.members kind)) :
    Text.CutsOut parts.source (parts.linesBefore kind) "\t" "\x7d" (parts.members kind) := by
  obtain ⟨after, isSource⟩ := parts.exists_texts_eq kind
  refine Text.cutsOut_of_splitAt_eq _ _ ((after ++ [""]).flatMap (Text.splitAt '\n')) _ _ _
    (by decide) (by decide) (by decide) onlyNewlines ?_
  have isOpening : Text.splitAt '\n' (interfaceOpening kind) = [interfaceOpening kind] := by
    cases kind <;> decide +kernel
  have isClosing : Text.splitAt '\n' "\x7d" = ["\x7d"] := by decide +kernel
  rw [splitAt_source, isSource]
  simp only [List.flatMap_append, List.flatMap_cons, List.flatMap_nil, isOpening, isClosing,
    linesBefore, List.append_assoc, List.cons_append, List.nil_append]

/-- The overloads can be cut out of the module, where there are any. -/
theorem cutsOut_overloads
    (parts : ModuleParts)
    (present : parts.overloads ≠ "")
    (onlyNewlines : Text.OnlyNewlines parts.overloads) :
    Text.CutsOut parts.source parts.linesBeforeOverloads "\t\t" "\t\x7d" parts.overloads := by
  refine Text.cutsOut_of_splitAt_eq _ _ ["\x7d", ""] _ _ _
    (by decide) (by decide) (by decide) onlyNewlines ?_
  have isOpening : Text.splitAt '\n' overloadOpening = [overloadOpening] := by decide +kernel
  have isClosing : Text.splitAt '\n' "\t\x7d" = ["\t\x7d"] := by decide +kernel
  have isEnd : (["\x7d"] ++ [""]).flatMap (Text.splitAt '\n') = ["\x7d", ""] := by decide +kernel
  rw [splitAt_source, parts.texts_eq_of_overloads present, List.append_assoc, List.flatMap_append,
    isEnd]
  simp only [List.flatMap_append, List.flatMap_cons, List.flatMap_nil, isOpening, isClosing,
    linesBeforeOverloads, List.append_assoc, List.cons_append, List.nil_append]

end ModuleParts

namespace Protocol

/-- The parts of a module are the texts of its interfaces and overloads. -/
theorem exists_parts_of_generate
    (protocol : Protocol)
    (mode : GenerationMode)
    (overloads : Bool)
    (generated : GeneratedModule)
    (succeeds : protocol.generate mode overloads = .ok generated) :
    ∃ parts : ModuleParts, generated.source = parts.source ∧
      (∀ kind, protocol.interfaceText mode kind = .ok (parts.members kind)) ∧
      protocol.overloadText overloads = .ok parts.overloads := by
  cases made : protocol.moduleParts mode overloads with
  | error cause =>
      rw [generate, made] at succeeds
      cases succeeds
  | ok parts =>
      rw [generate, made] at succeeds
      obtain rfl := Except.ok.inj succeeds
      obtain ⟨enums, -, made⟩ := exists_of_bind_eq_ok made
      obtain ⟨events, hasEvents, made⟩ := exists_of_bind_eq_ok made
      obtain ⟨requests, hasRequests, made⟩ := exists_of_bind_eq_ok made
      obtain ⟨responses, hasResponses, made⟩ := exists_of_bind_eq_ok made
      have made : ∃ text, protocol.overloadText overloads = .ok text ∧
          { enums, events, requests, responses, overloads := text } = parts := by
        cases overloads with
        | false => exact ⟨"", rfl, Except.ok.inj made⟩
        | true =>
            obtain ⟨text, hasText, made⟩ := exists_of_bind_eq_ok made
            exact ⟨text, eq_ok_of_mapError_eq_ok hasText, Except.ok.inj made⟩
      obtain ⟨text, hasText, rfl⟩ := made
      refine ⟨_, rfl, fun kind => ?_, hasText⟩
      cases kind with
      | event => exact hasEvents
      | request => exact hasRequests
      | response => exact hasResponses

/-- The source of a module is made of these parts, and the members of each interface, and the
overloads where there are any, can be cut out of it. -/
structure HasSections
    (protocol : Protocol)
    (mode : GenerationMode)
    (overloads : Bool)
    (source : String)
    (parts : ModuleParts) : Prop where
  isSource : source = parts.source
  members : ∀ kind, protocol.interfaceText mode kind = .ok (parts.members kind)
  overloadText : protocol.overloadText overloads = .ok parts.overloads
  cutMembers : ∀ kind,
    Text.CutsOut source (parts.linesBefore kind) "\t" "\x7d" (parts.members kind)
  cutOverloads : parts.overloads ≠ "" →
    Text.CutsOut source parts.linesBeforeOverloads "\t\t" "\t\x7d" parts.overloads

/-- Where the texts of a protocol break lines by newlines alone, each section can be cut out of
its module again, in either mode. -/
theorem sections_are_cut_out
    (protocol : Protocol)
    (textsOnly : ∀ text ∈ protocol.sectionTexts, Text.OnlyNewlines text)
    (mode : GenerationMode)
    (overloads : Bool)
    (generated : GeneratedModule)
    (succeeds : protocol.generate mode overloads = .ok generated) :
    ∃ parts, protocol.HasSections mode overloads generated.source parts := by
  obtain ⟨parts, isSource, hasMembers, hasOverloads⟩ :=
    protocol.exists_parts_of_generate mode overloads generated succeeds
  refine ⟨parts, isSource, hasMembers, hasOverloads, fun kind => ?_, fun present => ?_⟩
  · rw [isSource]
    exact parts.cutsOut_members kind
      (protocol.onlyNewlines_interfaceText textsOnly mode kind _ (hasMembers kind))
  · rw [isSource]
    exact parts.cutsOut_overloads present
      (protocol.onlyNewlines_overloadText textsOnly overloads _ hasOverloads)

/-- A protocol whose texts have lines that look like the ends of sections. -/
def bracedProtocol : Protocol :=
  { sampleProtocol with
    requests :=
      [{ name := "Set"
         description := "One.\n\x7d\n\n\t\x7d"
         parameters :=
          [{ name := "a.b", declaredType := "String", description := "\x7d\n\nB." }] }] }

theorem bracedProtocol_sections_are_cut_out :
    (∀ text ∈ bracedProtocol.sectionTexts, Text.OnlyNewlines text) ∧
      ∃ generated, bracedProtocol.generate .strict true = .ok generated ∧
        ∃ parts, bracedProtocol.HasSections .strict true generated.source parts := by
  have textsOnly : ∀ text ∈ bracedProtocol.sectionTexts, Text.OnlyNewlines text := by
    decide +kernel
  have succeeds : (bracedProtocol.generate .strict true).toOption.isSome = true := by
    decide +kernel
  obtain ⟨generated, isGenerated⟩ := Option.isSome_iff_exists.mp succeeds
  have isGenerated := eq_ok_of_toOption isGenerated
  exact ⟨textsOnly, generated, isGenerated,
    sections_are_cut_out bracedProtocol textsOnly .strict true generated isGenerated⟩

end Protocol
end ProtocolTypes
