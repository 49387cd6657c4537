import ProtocolTypes.Document.Load
import ProtocolTypes.Proofs.Json.Newlines

/-!
# Routes of a JSON document

A JSON text means the same by whatever route it comes in: on standard input, in a file, as a
page of the web, or handed to the parser with a hint.  Routes differ in the hint that they give
and in that some turn line ends into newlines, and neither makes a difference, nor does
anything that a reader of YAML would say.
-/

namespace ProtocolTypes

namespace Json

theorem isBlank_of_isDigit {character : Char} (isDigit : character.isDigit) :
    Text.isBlank character = false := by
  simp only [Char.isDigit, Bool.and_eq_true, decide_eq_true_eq] at isDigit
  obtain ⟨above, below⟩ := isDigit
  have atLeast : 48 ≤ character.toNat := above
  have atMost : character.toNat ≤ 57 := below
  simp [Text.isBlank, Text.isWhiteSpace]
  omega

/-- A character in front of the text is no blank. -/
def BeginsPlain (text : List Char) : Prop :=
  ∃ character rest, text = character :: rest ∧ Text.isBlank character = false

theorem beginsPlain_of_readMagnitude
    {start text left : List Char}
    {negative : Bool}
    {value : Value}
    (reads : readMagnitude start negative text = .ok (value, left)) :
    BeginsPlain text := by
  obtain ⟨isText, areDigits⟩ := wholeDigits_spec text
  unfold readMagnitude at reads
  generalize wholeDigits text = number at isText areDigits reads
  obtain ⟨whole, afterWhole⟩ := number
  cases whole with
  | nil => cases reads
  | cons digit more =>
      exact ⟨digit, more ++ afterWhole, isText.symm, isBlank_of_isDigit (areDigits digit (by simp))⟩

theorem beginsPlain_of_readNumber
    {text left : List Char}
    {value : Value}
    (reads : readNumber text = .ok (value, left)) :
    BeginsPlain text := by
  unfold readNumber at reads
  split at reads
  · next rest => exact ⟨'-', rest, rfl, by decide⟩
  · exact beginsPlain_of_readMagnitude reads

theorem beginsPlain_of_readWord?
    {text : List Char}
    {found : Value × List Char}
    (reads : readWord? text = some found) :
    BeginsPlain text := by
  have heads : ∀ entry ∈ words, entry.1.head?.any fun head => !Text.isBlank head := by decide
  obtain ⟨⟨word, value⟩, isWord, isFound⟩ := List.exists_of_findSome?_eq_some reads
  obtain ⟨left, isAfter, rfl⟩ := Option.map_eq_some_iff.mp isFound
  simp only [afterWord?, Option.ite_none_right_eq_some, List.isPrefixOf_iff_prefix] at isAfter
  obtain ⟨⟨rest, rfl⟩, -⟩ := isAfter
  have head := heads _ isWord
  cases word with
  | nil => simp at head
  | cons first more => exact ⟨first, more ++ rest, rfl, by simpa using head⟩

/-- A text from which a value is read begins with no blank. -/
theorem beginsPlain_of_readValue
    [StandIns]
    {fuel : Nat}
    {text left : List Char}
    {value : Value}
    (reads : readValue fuel text = .ok (value, left)) :
    BeginsPlain text := by
  cases fuel with
  | zero => cases reads
  | succ fuel =>
      unfold readValue at reads
      split at reads
      · next rest => exact ⟨'"', rest, rfl, by decide⟩
      · next rest => exact ⟨'\x7b', rest, rfl, by decide⟩
      · next rest => exact ⟨'[', rest, rfl, by decide⟩
      · split at reads
        · next found isWord => exact beginsPlain_of_readWord? isWord
        · exact beginsPlain_of_readNumber reads

/-- A text that is accepted is not blank. -/
theorem isBlankText_of_read
    [StandIns]
    {text : String}
    {value : Value}
    (accepts : read text = .ok value) :
    Text.isBlankText text = false := by
  obtain ⟨-, left, reads, -⟩ := (read_eq_ok_iff text value).mp accepts
  obtain ⟨character, rest, isFront, notBlank⟩ := beginsPlain_of_readValue reads
  have isThere : character ∈ text.toList := by
    apply (skipBlanks_suffix text.toList).subset
    rw [isFront]
    exact List.mem_cons_self
  rw [Text.isBlankText, List.all_eq_false]
  exact ⟨character, isThere, by simp [notBlank]⟩

end Json

theorem fromUTF8?_toUTF8 (text : String) : String.fromUTF8? text.toUTF8 = some text :=
  dif_pos text.isValidUTF8

namespace Storage

/-- The text of an encoded text is the text with unified newlines. -/
theorem textOf_toUTF8 (text : String) :
    textOf text.toUTF8 = .ok (Text.unifyNewlines text) := by
  rw [textOf, fromUTF8?_toUTF8]

end Storage

namespace Encoding

/-- A page that is an encoded text is decoded to it. -/
theorem decode_bytes_toUTF8 [StandIns] (text : String) :
    Encoding.bytes.decode text.toUTF8.data.toList = .ok text.toList := by
  unfold decode
  split
  · next isEmpty =>
      rw [List.isEmpty_iff, Array.toList_eq_nil_iff] at isEmpty
      have isText := fromUTF8?_toUTF8 text
      rw [show text.toUTF8 = "".toUTF8 from ByteArray.ext isEmpty, fromUTF8?_toUTF8] at isText
      cases isText
      rfl
  · rw [decodeBytes, Array.toArray_toList, fromUTF8?_toUTF8]

end Encoding

namespace WebPage

variable [StandIns]

/-- The page sends the text in UTF-8, and is not taken as YAML. -/
structure Sends (page : WebPage) (text : String) : Prop where
  isSuccess : page.isSuccess
  isUnicode : ContentType.encoding page.contentType = .ok .bytes
  isBody : page.body = text.toUTF8.data.toList
  noYaml : FormatHint.mentions "json" page.contentType ∨
    ¬FormatHint.mentions "yaml" page.contentType ∧ ¬FormatHint.mentions "yml" page.contentType

variable {page : WebPage} {text : String}

/-- The text of a page that sends a text is that text. -/
theorem Sends.text_eq (sends : page.Sends text) : page.text = .ok text := by
  rw [WebPage.text, sends.isUnicode, sends.isBody]
  change (do return String.ofList (← Encoding.bytes.decode text.toUTF8.data.toList)) = .ok text
  rw [Encoding.decode_bytes_toUTF8]
  exact congrArg Except.ok String.ofList_toList

/-- A page that sends a text does not hint at YAML. -/
theorem Sends.hint_ne_yaml (sends : page.Sends text) :
    FormatHint.ofContentType page.contentType ≠ .yaml := by
  unfold FormatHint.ofContentType
  rcases sends.noYaml with isJson | ⟨noYaml, noYml⟩
  · rw [if_pos isJson]
    decide
  · split
    · decide
    · rw [if_neg (by simp [noYaml, noYml])]
      decide

end WebPage

theorem FormatHint.ofExtension_ne_yaml
    {extension : String}
    (noYaml : extension ∉ [".yaml", ".yml"]) :
    FormatHint.ofExtension extension ≠ .yaml := by
  rw [List.mem_cons, List.mem_singleton, not_or] at noYaml
  unfold FormatHint.ofExtension
  split
  · decide
  · rw [if_neg (by simp [noYaml])]
    decide

namespace Document

/-- What a value means as a document: its entries if it is a map, and else the fault that it
is none. -/
def meaning : Value → Outcome Entries
  | .map entries => .ok entries
  | other => .error (.reported (.notAMap other.kindName))

/-- What a value means as a document that is loaded. -/
def loadedMeaning (value : Value) : Loaded Entries :=
  (meaning value).mapError fun cause => cause.map .unreadable

section

variable [StandIns]

/-- The document of a text, by any reader of YAML. -/
def parseBy
    (readYaml : String → Except (Interruption Yaml.Fault) Value)
    (hint : FormatHint)
    (text : String) :
    Outcome Entries :=
  let asYaml (json : Option Json.Fault) : Outcome Entries :=
    match readYaml text with
    | .ok value => entriesOf "empty document" value
    | .error (.reported fault) => .error (.reported (.unreadable json fault))
    | .error (.accident accident) => .error (.accident accident)
  match hint with
  | .yaml => asYaml none
  | _ =>
    match Json.read text with
    | .ok value => entriesOf Value.null.kindName value
    | .error .hugeInteger => .error (.accident .badValue)
    | .error (.fault fault) =>
      if hint = .json then .error (.reported (.invalidJson fault)) else asYaml (some fault)

/-- The reader of documents is the one that reads YAML by the reader of this library. -/
theorem parse_eq_parseBy : parse = parseBy Yaml.read := by
  funext hint text
  cases hint <;> rfl

variable {text : String} {value : Value}

/-- An accepted text means its value, whatever a reader of YAML would say of it. -/
theorem parseBy_eq_meaning
    (accepts : Json.read text = .ok value)
    {hint : FormatHint}
    (noYaml : hint ≠ .yaml)
    (readYaml : String → Except (Interruption Yaml.Fault) Value) :
    parseBy readYaml hint text = meaning value := by
  have isMeaning : entriesOf Value.null.kindName value = meaning value := by
    cases value <;> rfl
  cases hint with
  | yaml => exact absurd rfl noYaml
  | json => simp only [parseBy, accepts, isMeaning]
  | unknown => simp only [parseBy, accepts, isMeaning]

/-- Unless YAML is asked for, a text that JSON reads is loaded as its meaning. -/
theorem entriesOfText_eq_loadedMeaning
    (accepts : Json.read text = .ok value)
    {hint : FormatHint}
    (noYaml : hint ≠ .yaml) :
    entriesOfText hint text = loadedMeaning value := by
  rw [entriesOfText, parse_eq_parseBy, parseBy_eq_meaning accepts noYaml, loadedMeaning]
  cases meaning value <;> rfl

/-- The text comes in from an origin by way of which it is not taken as YAML. -/
inductive Arrives (text : String) (settings : Settings) (sources : DocumentSources) :
    Origin → Prop
  /-- What comes in on standard input may have its line ends turned into newlines. -/
  | standardInput
      (isInput : sources.standardInput = text ∨
        sources.standardInput = Text.unifyNewlines text) :
      Arrives text settings sources .standardInput
  | file
      {name : String}
      (isFile : sources.storage.find (FilePath.ofText name) = .ok (.file text.toUTF8))
      (noYaml : (FilePath.ofText name).extension ∉ [".yaml", ".yml"]) :
      Arrives text settings sources (.file name)
  | web
      {address : String}
      {page : WebPage}
      (isReply : WebReply.nth sources.replies 0 = .page page)
      (sends : page.Sends text) :
      Arrives text settings sources (.web address)
  | commit
      {commit : String}
      {page : WebPage}
      (isNamed : settings.namedCommit? = some commit)
      (isReply : WebReply.nth sources.replies 0 = .page page)
      (sends : page.Sends text) :
      Arrives text settings sources .repository
  | release
      {release : Entries}
      {tag : String}
      {page : WebPage}
      (isNotNamed : settings.namedCommit? = none)
      (isRelease : entriesOfReply (WebRequest.latestAddress settings.repository)
        (WebReply.nth sources.replies 0) = .ok release)
      (isTag : releaseTag settings.repository release = .ok tag)
      (isReply : WebReply.nth sources.replies 1 = .page page)
      (sends : page.Sends text) :
      Arrives text settings sources .repository

variable {settings : Settings} {sources : DocumentSources} {origin : Origin}

/-- A page that sends a text is loaded as the text. -/
theorem entriesOfReply_of_sends
    (address : String)
    {page : WebPage}
    (sends : page.Sends text) :
    entriesOfReply address (.page page) =
      entriesOfText (FormatHint.ofContentType page.contentType) text := by
  rw [entriesOfReply, if_pos sends.isSuccess, sends.text_eq]
  rfl

omit [StandIns] in
/-- A file that holds an encoded text is read with unified newlines. -/
theorem fileText_of_find
    {storage : Storage}
    {name : String}
    (isFile : storage.find (FilePath.ofText name) = .ok (.file text.toUTF8)) :
    fileText storage name = .ok (Text.unifyNewlines text) := by
  rw [fileText, Storage.readFile?, isFile]
  dsimp only
  rw [Storage.textOf_toUTF8]
  rfl

/-- What arrives is handed to the parser as it is or with its line ends turned, and with no
hint of YAML. -/
theorem exists_handed
    (accepts : Json.read text = .ok value)
    (arrives : Arrives text settings sources origin) :
    ∃ hint handed, hint ≠ .yaml ∧ (handed = text ∨ handed = Text.unifyNewlines text) ∧
      (load origin settings sources).result = entriesOfText hint handed := by
  cases arrives with
  | standardInput isInput =>
      have notBlank : Text.isBlankText sources.standardInput = false := by
        rcases isInput with same | same
        · exact same ▸ Json.isBlankText_of_read accepts
        · exact same ▸ Json.isBlankText_of_read (Json.read_unifyNewlines accepts)
      refine ⟨.unknown, sources.standardInput, by decide, isInput, ?_⟩
      simp [load, entriesOfInput, notBlank]
  | file isFile noYaml =>
      have notBlank := Json.isBlankText_of_read (Json.read_unifyNewlines accepts)
      refine ⟨_, Text.unifyNewlines text, FormatHint.ofExtension_ne_yaml noYaml, .inr rfl, ?_⟩
      simp [load, entriesOfFile, fileText_of_find isFile, notBlank, bind, Except.bind]
  | web isReply sends =>
      refine ⟨_, text, sends.hint_ne_yaml, .inl rfl, ?_⟩
      rw [load, isReply]
      exact entriesOfReply_of_sends _ sends
  | commit isNamed isReply sends =>
      refine ⟨_, text, sends.hint_ne_yaml, .inl rfl, ?_⟩
      rw [load, loadRepository, isNamed, isReply]
      exact entriesOfReply_of_sends _ sends
  | release isNotNamed isRelease isTag isReply sends =>
      refine ⟨_, text, sends.hint_ne_yaml, .inl rfl, ?_⟩
      simp only [load, loadRepository, isNotNamed, isRelease, isTag, isReply, bind, Except.bind]
      exact entriesOfReply_of_sends _ sends

/-- What is loaded is what the text that arrives means. -/
theorem result_of_arrives
    (accepts : Json.read text = .ok value)
    (arrives : Arrives text settings sources origin) :
    (load origin settings sources).result = loadedMeaning value := by
  obtain ⟨hint, handed, noYaml, isHanded, isResult⟩ := exists_handed accepts arrives
  have handedAccepts : Json.read handed = .ok value := by
    rcases isHanded with rfl | rfl
    · exact accepts
    · exact Json.read_unifyNewlines accepts
  exact isResult.trans (entriesOfText_eq_loadedMeaning handedAccepts noYaml)

/-- A JSON text means its value by every route: handed to the parser with any hint but that of
YAML, with its line ends as they are or turned, or loaded from an origin from which it arrives.
What a reader of YAML would say of it has no part in that. -/
theorem json_means_its_value_by_every_route
    (text : String)
    (value : Value)
    (accepts : Json.read text = .ok value) :
    Json.read (Text.unifyNewlines text) = .ok value ∧
    (∀ hint, hint ≠ .yaml → parse hint text = meaning value) ∧
    (∀ readYaml hint handed, hint ≠ .yaml →
      handed = text ∨ handed = Text.unifyNewlines text →
      parseBy readYaml hint handed = meaning value) ∧
    ∀ settings sources origin, Arrives text settings sources origin →
      (∃ hint handed, hint ≠ .yaml ∧ (handed = text ∨ handed = Text.unifyNewlines text) ∧
        (load origin settings sources).result = entriesOfText hint handed) ∧
      (load origin settings sources).result = loadedMeaning value := by
  have turned := Json.read_unifyNewlines accepts
  refine ⟨turned, fun hint noYaml => ?_, fun readYaml hint handed noYaml isHanded => ?_,
    fun settings sources origin arrives =>
      ⟨exists_handed accepts arrives, result_of_arrives accepts arrives⟩⟩
  · rw [parse_eq_parseBy]
    exact parseBy_eq_meaning accepts noYaml Yaml.read
  · rcases isHanded with rfl | rfl
    · exact parseBy_eq_meaning accepts noYaml readYaml
    · exact parseBy_eq_meaning turned noYaml readYaml

end

/-- A JSON text whose lines end in a carriage return and a newline. -/
def foldedText : String := "\x7b\r\n\"events\":\r\n[]\x7d\r\n"

/-- A page with that text, of no content type. -/
def foldedPage : WebPage := { body := foldedText.toUTF8.data.toList }

theorem folded_text_is_loaded_from_a_file_and_a_page :
    (load (.file "protocol.txt") {}
        { storage := { entries := [(["protocol.txt"], .file foldedText.toUTF8)] } }).result =
      .ok [(.str "events", .list [])] ∧
    (load (.web "https://example.com/protocol") {} { replies := [.page foldedPage] }).result =
      .ok [(.str "events", .list [])] := by
  have accepts : Json.read foldedText = .ok (.map [(.str "events", .list [])]) := by
    simp [foldedText, Json.read, Json.readWhole, Json.readValue, Json.readEntries,
      Json.readString, Json.skipBlanks, Json.isBlank, Value.setEntry, Except.map, bind,
      Except.bind, Except.mapError]
  obtain ⟨-, -, -, loads⟩ := json_means_its_value_by_every_route _ _ accepts
  have sends : foldedPage.Sends foldedText :=
    { isSuccess := by decide
      isUnicode := rfl
      isBody := rfl
      noYaml := by decide }
  exact ⟨(loads {} _ _ (.file rfl (by decide))).2, (loads {} _ _ (.web rfl sends)).2⟩

end Document

end ProtocolTypes
