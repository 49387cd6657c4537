import ProtocolTypes.Document.Load
import ProtocolTypes.Proofs.Json.LongNumbers
import ProtocolTypes.Proofs.Web.PageText
import ProtocolTypes.Proofs.Yaml.Accidents

/-!
# How loading ends

Loading a document has its entries, or a cause that is reported as one of loading, unless an
accident breaks it.  The accidents are told in full, from the text up to the origin: a number
in a JSON text, a value in a YAML text, the encoding of a file or of a page, a name that is too
long, and an exchange that breaks down.
-/

namespace ProtocolTypes
namespace Document

section

variable [StandIns]

/-- How an accident breaks the reading of a text with that hint. -/
inductive TextBreaks (hint : FormatHint) (text : String) : Accident → Prop
  /-- An integer of a JSON text has more digits than are converted. -/
  | longNumber
      (isTried : hint ≠ .yaml)
      (stops : Json.read text = .error .hugeInteger)
      (isThere : Json.HasLongNumber text.toList) :
      TextBreaks hint text .badValue
  /-- The text is read as YAML, because it has to be or since it is no JSON. -/
  | yaml
      {accident : Accident}
      (isTried : hint = .yaml ∨ hint = .unknown ∧ ∃ fault, Json.read text = .error (.fault fault))
      (breaks : Yaml.read text = .error (.accident accident))
      (isListed : accident ∈ Yaml.accidents) :
      TextBreaks hint text accident

/-- How an accident breaks the reading of what a server replies. -/
inductive ReplyBreaks : WebReply → Accident → Prop
  /-- Asking or answering breaks down; the address, for example, is none. -/
  | exchange (accident : Accident) : ReplyBreaks (.broken accident) accident
  /-- The encoding that the page names cannot be used on it. -/
  | encoding
      {page : WebPage}
      {accident : Accident}
      (isSuccess : page.isSuccess)
      (breaks : page.text = .error accident)
      (isListed : accident ∈ Encoding.accidents) :
      ReplyBreaks (.page page) accident
  | text
      {page : WebPage}
      {text : String}
      {accident : Accident}
      (isSuccess : page.isSuccess)
      (isText : page.text = .ok text)
      (breaks : TextBreaks (FormatHint.ofContentType page.contentType) text accident) :
      ReplyBreaks (.page page) accident

/-- How an accident breaks the reading of the file of that name. -/
inductive FileBreaks (storage : Storage) (name : String) : Accident → Prop
  | longName
      (isTooLong : storage.find (FilePath.ofText name) = .error .nameTooLong) :
      FileBreaks storage name .fileSystem
  | encoding
      {content : ByteArray}
      (isFile : storage.find (FilePath.ofText name) = .ok (.file content))
      (isNoText : String.fromUTF8? content = none) :
      FileBreaks storage name .badEncoding
  | text
      {content : ByteArray}
      {text : String}
      {accident : Accident}
      (isFile : storage.find (FilePath.ofText name) = .ok (.file content))
      (isText : Storage.textOf content = .ok text)
      (notBlank : Text.isBlankText text = false)
      (breaks :
        TextBreaks (FormatHint.ofExtension (FilePath.ofText name).extension) text accident) :
      FileBreaks storage name accident

/-- How an accident breaks the loading of a document from its origin.  From the repository,
the reply for the latest release may be at fault, or the reply for the document. -/
inductive LoadBreaks (settings : Settings) (sources : DocumentSources) :
    Origin → Accident → Prop
  | standardInput
      {accident : Accident}
      (notBlank : Text.isBlankText sources.standardInput = false)
      (breaks : TextBreaks .unknown sources.standardInput accident) :
      LoadBreaks settings sources .standardInput accident
  | web
      {address : String}
      {accident : Accident}
      (breaks : ReplyBreaks (WebReply.nth sources.replies 0) accident) :
      LoadBreaks settings sources (.web address) accident
  | file
      {name : String}
      {accident : Accident}
      (breaks : FileBreaks sources.storage name accident) :
      LoadBreaks settings sources (.file name) accident
  | commit
      {commit : String}
      {accident : Accident}
      (isNamed : settings.namedCommit? = some commit)
      (breaks : ReplyBreaks (WebReply.nth sources.replies 0) accident) :
      LoadBreaks settings sources .repository accident
  | release
      {accident : Accident}
      (isNotNamed : settings.namedCommit? = none)
      (breaks : ReplyBreaks (WebReply.nth sources.replies 0) accident) :
      LoadBreaks settings sources .repository accident
  | tagged
      {release : Entries}
      {tag : String}
      {accident : Accident}
      (isNotNamed : settings.namedCommit? = none)
      (isRelease : entriesOfReply (WebRequest.latestAddress settings.repository)
        (WebReply.nth sources.replies 0) = .ok release)
      (isTag : releaseTag settings.repository release = .ok tag)
      (breaks : ReplyBreaks (WebReply.nth sources.replies 1) accident) :
      LoadBreaks settings sources .repository accident

omit [StandIns] in
theorem entriesOf_ne_accident (emptyKind : String) (value : Value) (accident : Accident) :
    entriesOf emptyKind value ≠ .error (.accident accident) := by
  cases value <;> simp [entriesOf]

/-- The accidents of a text that YAML may be are those of the YAML reader. -/
theorem parseYaml_eq_accident_iff
    (json : Option Json.Fault)
    (text : String)
    (accident : Accident) :
    parseYaml json text = .error (.accident accident) ↔
      Yaml.read text = .error (.accident accident) := by
  unfold parseYaml
  split
  · next value isValue =>
      simp [isValue, entriesOf_ne_accident]
  · next fault isFault => simp [isFault]
  · next kind isAccident => simp [isAccident]

/-- A text breaks a parse exactly as its hint lets it. -/
theorem parse_eq_accident_iff (hint : FormatHint) (text : String) (accident : Accident) :
    parse hint text = .error (.accident accident) ↔ TextBreaks hint text accident := by
  constructor
  · intro broken
    unfold parse at broken
    split at broken
    · have breaks := (parseYaml_eq_accident_iff none text accident).mp broken
      exact .yaml (.inl rfl) breaks (Yaml.mem_accidents_of_read breaks)
    · next notYaml =>
        split at broken
        · exact absurd broken (entriesOf_ne_accident _ _ accident)
        · next stops =>
            cases broken
            exact .longNumber notYaml stops (Json.hasLongNumber_of_read stops)
        · next fault isFault =>
            split at broken
            · cases broken
            · next notJson =>
                have breaks := (parseYaml_eq_accident_iff _ text accident).mp broken
                have isUnknown : hint = .unknown := by
                  cases hint with
                  | unknown => rfl
                  | json => exact absurd rfl notJson
                  | yaml => exact absurd rfl notYaml
                exact .yaml (.inr ⟨isUnknown, fault, isFault⟩) breaks
                  (Yaml.mem_accidents_of_read breaks)
  · intro breaks
    cases breaks with
    | longNumber isTried stops isThere =>
        cases hint with
        | yaml => exact absurd rfl isTried
        | json => simp only [parse, stops]
        | unknown => simp only [parse, stops]
    | yaml isTried breaks isListed =>
        rcases isTried with rfl | ⟨rfl, fault, isFault⟩
        · exact (parseYaml_eq_accident_iff none text accident).mpr breaks
        · simp only [parse, isFault]
          exact (parseYaml_eq_accident_iff _ text accident).mpr breaks

/-- What is asked of the entries is no accident. -/
theorem entriesOfText_eq_accident_iff
    (hint : FormatHint)
    (text : String)
    (accident : Accident) :
    entriesOfText hint text = .error (.accident accident) ↔ TextBreaks hint text accident := by
  rw [← parse_eq_accident_iff, entriesOfText]
  cases parse hint text with
  | ok entries => simp
  | error cause => cases cause <;> simp [Interruption.map]

/-- A reply breaks the loading by what it is or by its text. -/
theorem entriesOfReply_eq_accident_iff
    (address : String)
    (reply : WebReply)
    (accident : Accident) :
    entriesOfReply address reply = .error (.accident accident) ↔ ReplyBreaks reply accident := by
  constructor
  · intro broken
    unfold entriesOfReply at broken
    split at broken
    · cases broken
    · cases broken
      exact .exchange _
    · next page =>
        split at broken
        · next isSuccess =>
            cases isText : page.text with
            | error kind =>
                rw [isText] at broken
                cases broken
                exact .encoding isSuccess isText (WebPage.mem_accidents_of_text isText)
            | ok text =>
                rw [isText] at broken
                exact .text isSuccess isText ((entriesOfText_eq_accident_iff _ _ _).mp broken)
        · cases broken
  · intro breaks
    cases breaks with
    | exchange => rfl
    | encoding isSuccess isBroken isListed =>
        rw [entriesOfReply, if_pos isSuccess, isBroken]
        rfl
    | text isSuccess isText breaks =>
        rw [entriesOfReply, if_pos isSuccess, isText]
        exact (entriesOfText_eq_accident_iff _ _ _).mpr breaks

omit [StandIns] in
theorem file_of_fileText
    {storage : Storage}
    {name text : String}
    (hasText : fileText storage name = .ok text) :
    ∃ content, storage.find (FilePath.ofText name) = .ok (.file content) ∧
      Storage.textOf content = .ok text := by
  unfold fileText Storage.readFile? at hasText
  cases isFound : storage.find (FilePath.ofText name) with
  | error problem =>
      rw [isFound] at hasText
      cases problem <;> cases hasText
  | ok entry =>
      rw [isFound] at hasText
      cases entry with
      | directory => cases hasText
      | file content =>
          refine ⟨content, rfl, ?_⟩
          cases isText : Storage.textOf content <;> simp_all [Except.mapError]

/-- Only a name that is too long and bytes that encode no text break the reading of a file. -/
theorem fileBreaks_of_fileText
    {storage : Storage}
    {name : String}
    {accident : Accident}
    (isBroken : fileText storage name = .error (.accident accident)) :
    FileBreaks storage name accident := by
  unfold fileText Storage.readFile? at isBroken
  cases isFound : storage.find (FilePath.ofText name) with
  | error problem =>
      rw [isFound] at isBroken
      cases problem with
      | nameTooLong =>
          cases isBroken
          exact .longName isFound
      | missing | notDirectory | nullCharacter => cases isBroken
  | ok entry =>
      rw [isFound] at isBroken
      cases entry with
      | directory => cases isBroken
      | file content =>
          cases isText : String.fromUTF8? content with
          | some text => simp [Storage.textOf, isText, Except.mapError] at isBroken
          | none =>
              simp only [Storage.textOf, isText, Except.mapError] at isBroken
              cases isBroken
              exact .encoding isFound isText

/-- A file breaks the loading by its text, or by having none. -/
theorem entriesOfFile_eq_accident_iff
    (storage : Storage)
    (name : String)
    (accident : Accident) :
    entriesOfFile storage name = .error (.accident accident) ↔
      FileBreaks storage name accident := by
  constructor
  · intro broken
    unfold entriesOfFile at broken
    cases hasText : fileText storage name with
    | error cause =>
        rw [hasText] at broken
        cases broken
        exact fileBreaks_of_fileText hasText
    | ok text =>
        obtain ⟨content, isFile, isText⟩ := file_of_fileText hasText
        rw [hasText] at broken
        simp only [bind, Except.bind] at broken
        split at broken
        · cases broken
        · next notBlank =>
            exact .text isFile isText (Bool.eq_false_iff.mpr notBlank)
              ((entriesOfText_eq_accident_iff _ _ _).mp broken)
  · intro breaks
    cases breaks with
    | longName isTooLong =>
        simp [entriesOfFile, fileText, Storage.readFile?, isTooLong, PathProblem.accident, bind,
          Except.bind]
    | encoding isFile isNoText =>
        simp [entriesOfFile, fileText, Storage.readFile?, isFile, Storage.textOf, isNoText,
          Except.mapError, bind, Except.bind]
    | text isFile isText notBlank breaks =>
        simpa [entriesOfFile, fileText, Storage.readFile?, isFile, isText, Except.mapError, bind,
          Except.bind, notBlank] using (entriesOfText_eq_accident_iff _ _ _).mpr breaks

omit [StandIns] in
theorem releaseTag_ne_accident
    (repository : String)
    (release : Entries)
    (accident : Accident) :
    releaseTag repository release ≠ .error (.accident accident) := by
  unfold releaseTag
  split
  · split <;> simp
  · simp

/-- The release and then the document of the repository may break the loading. -/
theorem loadRepository_eq_accident_iff
    (settings : Settings)
    (sources : DocumentSources)
    (accident : Accident) :
    (loadRepository settings sources.replies).result = .error (.accident accident) ↔
      LoadBreaks settings sources .repository accident := by
  constructor
  · intro broken
    unfold loadRepository at broken
    split at broken
    · next commit isNamed =>
        exact .commit isNamed ((entriesOfReply_eq_accident_iff _ _ _).mp broken)
    · next isNotNamed =>
        cases isRelease : entriesOfReply (WebRequest.latestAddress settings.repository)
            (WebReply.nth sources.replies 0) with
        | error cause =>
            simp only [isRelease, bind, Except.bind] at broken
            cases broken
            exact .release isNotNamed ((entriesOfReply_eq_accident_iff _ _ _).mp isRelease)
        | ok release =>
            simp only [isRelease, bind, Except.bind] at broken
            split at broken
            · next tag isTag =>
                exact .tagged isNotNamed isRelease isTag
                  ((entriesOfReply_eq_accident_iff _ _ _).mp broken)
            · next cause isTag =>
                cases broken
                exact absurd isTag (releaseTag_ne_accident _ _ _)
  · intro breaks
    cases breaks with
    | commit isNamed breaks =>
        simp only [loadRepository, isNamed]
        exact (entriesOfReply_eq_accident_iff _ _ _).mpr breaks
    | release isNotNamed breaks =>
        have isBroken := (entriesOfReply_eq_accident_iff
          (WebRequest.latestAddress settings.repository) _ _).mpr breaks
        simp only [loadRepository, isNotNamed, isBroken, bind, Except.bind]
    | tagged isNotNamed isRelease isTag breaks =>
        simp only [loadRepository, isNotNamed, isRelease, isTag, bind, Except.bind]
        exact (entriesOfReply_eq_accident_iff _ _ _).mpr breaks

/-- For each origin, the accidents of loading are those that are told of it. -/
theorem load_eq_accident_iff
    (origin : Origin)
    (settings : Settings)
    (sources : DocumentSources)
    (accident : Accident) :
    (load origin settings sources).result = .error (.accident accident) ↔
      LoadBreaks settings sources origin accident := by
  cases origin with
  | repository => exact loadRepository_eq_accident_iff settings sources accident
  | standardInput =>
      constructor
      · intro broken
        simp only [load, entriesOfInput] at broken
        split at broken
        · cases broken
        · next notBlank =>
            exact .standardInput (Bool.eq_false_iff.mpr notBlank)
              ((entriesOfText_eq_accident_iff _ _ _).mp broken)
      · intro breaks
        cases breaks with
        | standardInput notBlank breaks =>
            simp only [load, entriesOfInput, notBlank, Bool.false_eq_true, if_false]
            exact (entriesOfText_eq_accident_iff _ _ _).mpr breaks
  | web address =>
      constructor
      · exact fun broken => .web ((entriesOfReply_eq_accident_iff _ _ _).mp broken)
      · intro breaks
        cases breaks with
        | web breaks => exact (entriesOfReply_eq_accident_iff _ _ _).mpr breaks
  | file name =>
      constructor
      · exact fun broken => .file ((entriesOfFile_eq_accident_iff _ _ _).mp broken)
      · intro breaks
        cases breaks with
        | file breaks => exact (entriesOfFile_eq_accident_iff _ _ _).mpr breaks

omit [StandIns] in
/-- Loading has the entries of a document, or fails as loading does. -/
def EndsAsDeclared (loading : Loading) : Prop :=
  (∃ entries, loading.result = .ok entries) ∨
    ∃ fault, loading.result = .error (.reported fault) ∧ fault.report.kind = .protocolLoad

omit [StandIns] in
/-- Loading ends as declared exactly if there is no accident. -/
theorem endsAsDeclared_iff (loading : Loading) :
    EndsAsDeclared loading ↔ ∀ accident, loading.result ≠ .error (.accident accident) := by
  constructor
  · rintro (⟨entries, hasEntries⟩ | ⟨fault, isReported, -⟩) accident isBroken
    · rw [hasEntries] at isBroken
      cases isBroken
    · rw [isReported] at isBroken
      cases isBroken
  · intro notBroken
    cases ending : loading.result with
    | ok entries => exact .inl ⟨entries, ending⟩
    | error cause =>
        cases cause with
        | reported fault => exact .inr ⟨fault, ending, fault.kind_report⟩
        | accident accident => exact absurd ending (notBroken accident)

/-- Loading ends as declared, unless an accident breaks it in one of the ways that are told. -/
theorem load_ends_as_declared_unless_broken
    (source : Option String)
    (settings : Settings)
    (sources : DocumentSources) :
    EndsAsDeclared (load (.ofText? source) settings sources) ↔
      ∀ accident, ¬LoadBreaks settings sources (.ofText? source) accident := by
  rw [endsAsDeclared_iff]
  exact forall_congr' fun accident => not_congr (load_eq_accident_iff _ settings sources accident)

end

/-- A file that holds no text breaks loading. -/
theorem load_breaks_on_a_file_of_no_text :
    ¬EndsAsDeclared (load (.ofText? (some "p.json")) {}
      { storage := { entries := [(["p.json"], .file ⟨#[0xFF]⟩)] } }) := by
  rw [endsAsDeclared_iff]
  exact fun neverBroken => neverBroken .badEncoding rfl

end Document
end ProtocolTypes
