import Mathlib.Data.List.Infix
import Mathlib.Data.List.TakeWhile
import ProtocolTypes.Console.Basic
import ProtocolTypes.Proofs.Results
import ProtocolTypes.Proofs.Text.Pieces

/-!
# Messages in markup

A message with no tag in it never keeps a diagnostic from being shown, and one that also has no
escape, no name of a picture and no character that a console drops says in markup what it says
without.
-/

namespace ProtocolTypes

namespace Emoji

/-- No name of a picture stands between two colons. -/
def NoPicture (text : List Char) : Prop :=
  ∀ name, ':' :: name ++ [':'] <:+: text → ':' ∉ name → name.any Text.isBlank = false →
    shown name = ':' :: name ++ [':']

/-- A text with at most one colon has no name between two. -/
theorem noPicture_of_count {text : List Char} (few : text.count ':' < 2) : NoPicture text := by
  intro name isThere
  have enough := isThere.sublist.count_le ':'
  simp only [List.count_append, List.count_cons_self, List.count_nil] at enough
  omega

theorem NoPicture.cons
    {text : List Char}
    (noPicture : NoPicture text)
    {first : Char}
    (noColon : first ≠ ':') :
    NoPicture (first :: text) := by
  intro name isThere
  rcases List.infix_cons_iff.mp isThere with isFront | isThere
  · exact absurd (List.cons_prefix_cons.mp isFront).1 noColon.symm
  · exact noPicture name isThere

/-- Parts that are no names of pictures are joined as they were cut. -/
theorem joinParts_eq_flatMap
    {parts : List (List Char)}
    (noName : ∀ before part next after, parts = before ++ part :: next :: after →
      part.any Text.isBlank = true ∨ shown part = ':' :: part ++ [':']) :
    joinParts parts = parts.flatMap (':' :: ·) := by
  fun_induction joinParts parts with
  | case1 => rfl
  | case2 last => simp
  | case3 part next later hasBlank inductionHypothesis =>
      rw [inductionHypothesis fun before other next' after same =>
        noName (part :: before) other next' after (by rw [same, List.cons_append])]
      rfl
  | case4 part next later noBlank inductionHypothesis =>
      rcases noName [] part next later rfl with hasBlank | isPlain
      · exact absurd hasBlank noBlank
      · rw [isPlain, inductionHypothesis fun before other next' after same =>
          noName (part :: next :: before) other next' after (by simp [same])]
        simp

theorem intercalate_colon (first : List Char) (parts : List (List Char)) :
    [':'].intercalate (first :: parts) = first ++ parts.flatMap (':' :: ·) := by
  induction parts generalizing first with
  | nil => simp
  | cons part parts inductionHypothesis =>
      rw [List.intercalate_cons_cons, inductionHypothesis, List.flatMap_cons]
      simp

/-- A text with no name of a picture in it stays as it is. -/
theorem replace_of_noPicture {text : List Char} (noPicture : NoPicture text) :
    replace text = text := by
  have isWhole : [':'].intercalate (text.splitOn ':') = text := List.intercalate_splitOn ':'
  have noColon := Text.not_mem_of_mem_splitOn ':' text
  unfold replace
  split
  · next noParts => exact absurd noParts (List.splitOn_ne_nil ':' text)
  · next first parts isSplit =>
      rw [isSplit, intercalate_colon] at isWhole
      rw [joinParts_eq_flatMap, isWhole]
      rintro before part next after rfl
      cases hasBlank : part.any Text.isBlank with
      | true => exact .inl rfl
      | false =>
          refine .inr (noPicture part ?_ (noColon part (by simp [isSplit])) hasBlank)
          refine ⟨first ++ before.flatMap (':' :: ·), next ++ after.flatMap (':' :: ·), ?_⟩
          rw [← isWhole]
          simp

end Emoji

namespace Markup

/-- No tag stands anywhere in the text. -/
def Untagged (text : List Char) : Prop := ∀ rear, rear <:+ text → tag? rear = none

instance (text : List Char) : Decidable (Untagged text) :=
  decidable_of_iff (∀ rear ∈ text.tails, tag? rear = none) <| by
    simp only [Untagged, List.mem_tails]

/-- The rear of a text without tags has none. -/
theorem Untagged.of_suffix
    {text rear : List Char}
    (untagged : Untagged text)
    (isRear : rear <:+ text) :
    Untagged rear :=
  fun _ isRearToo => untagged _ (isRearToo.trans isRear)

/-! ## Pieces -/

/-- Backslashes are the same from both ends. -/
theorem reverse_takeWhile_backslash (text : List Char) :
    (text.takeWhile (· == '\\')).reverse = text.takeWhile (· == '\\') := by
  have same : text.takeWhile (· == '\\') =
      List.replicate (text.takeWhile (· == '\\')).length '\\' :=
    List.eq_replicate_of_mem fun character isTaken => by
      simpa using List.mem_takeWhile_imp isTaken
  rw [same, List.reverse_replicate]

/-- A text with no tag in it is one piece with what was collected. -/
theorem piecesWithin_of_untagged
    (bound : Nat)
    (plain text : List Char)
    (untagged : Untagged text) :
    piecesWithin bound plain text = collected (text.reverse ++ plain) := by
  fun_induction piecesWithin bound plain text with
  | case1 plain text => rfl
  | case2 => rfl
  | case3 bound plain character rest escapes afterEscapes body after isTag inductionHypothesis =>
      have isRear : afterEscapes <:+ character :: rest := List.dropWhile_suffix _
      rw [untagged _ isRear] at isTag
      cases isTag
  | case4 bound plain character rest escapes afterEscapes noTag noEscape inductionHypothesis =>
      rw [inductionHypothesis (untagged.of_suffix (List.suffix_cons _ _))]
      simp
  | case5 bound plain character rest escapes afterEscapes noTag someEscape inductionHypothesis =>
      have isRear : afterEscapes <:+ character :: rest := List.dropWhile_suffix _
      have isWhole : escapes ++ afterEscapes = character :: rest :=
        List.takeWhile_append_dropWhile
      rw [inductionHypothesis (untagged.of_suffix isRear), ← isWhole, List.reverse_append,
        reverse_takeWhile_backslash, List.append_assoc]

/-- A tag that does not end in a text does not end in front of the next one. -/
theorem inside?_append
    {text : List Char}
    (noInside : inside? text = none)
    (more : List Char) :
    inside? (text ++ '[' :: more) = none := by
  fun_induction inside? text with
  | case1 => rfl
  | case2 => cases noInside
  | case3 => rfl
  | case4 character rest notClosing notOpening inductionHypothesis =>
      rw [Option.map_eq_none_iff] at noInside
      rw [List.cons_append, inside?, inductionHypothesis noInside]
      · rfl
      · exact notClosing
      · exact notOpening

/-- A bracket that opens behind a text makes no tag of the text. -/
theorem tag?_append
    {text : List Char}
    (notNil : text ≠ [])
    (noTag : tag? text = none)
    (more : List Char) :
    tag? (text ++ '[' :: more) = none := by
  unfold tag? at noTag
  split at noTag
  · next first rest =>
      rw [List.cons_append, List.cons_append, tag?]
      split at noTag
      · next begins =>
          rw [Option.map_eq_none_iff] at noTag
          rw [if_pos begins, inside?_append noTag]
          rfl
      · next begins => rw [if_neg begins]
  · next noBracket =>
      cases text with
      | nil => exact absurd rfl notNil
      | cons first rest =>
          unfold tag?
          split
          · next second others same =>
              obtain ⟨isFirst, same⟩ := List.cons_eq_cons.mp same
              cases rest with
              | nil =>
                  obtain ⟨isSecond, -⟩ := List.cons_eq_cons.mp same
                  rw [← isSecond, if_neg (by decide)]
              | cons next rest => exact absurd (by rw [isFirst]) (noBracket next rest)
          · rfl

/-- One step over a text that is not at its end. -/
theorem piecesWithin_succ
    (bound : Nat)
    (plain : List Char)
    {text : List Char}
    (notNil : text ≠ []) :
    piecesWithin (bound + 1) plain text =
      match tag? (text.dropWhile (· == '\\')) with
      | some (body, after) =>
        collected plain ++ tagPieces (text.takeWhile (· == '\\')).length body ++
          piecesWithin bound [] after
      | none =>
        if (text.takeWhile (· == '\\')).isEmpty then
          piecesWithin bound (text.head notNil :: plain) text.tail
        else
          piecesWithin bound (text.takeWhile (· == '\\') ++ plain)
            (text.dropWhile (· == '\\')) := by
  cases text with
  | nil => exact absurd rfl notNil
  | cons character rest => rfl

/-- The backslashes in front of a text end within it, or in front of what follows. -/
theorem backslashes_append
    {front back : List Char}
    (stops : (∃ character ∈ front, character ≠ '\\') ∨ back.takeWhile (· == '\\') = []) :
    (front ++ back).takeWhile (· == '\\') = front.takeWhile (· == '\\') ∧
      (front ++ back).dropWhile (· == '\\') = front.dropWhile (· == '\\') ++ back := by
  induction front with
  | nil =>
      obtain ⟨character, isThere, -⟩ | noEscape := stops
      · cases isThere
      · have isWhole : back.takeWhile (· == '\\') ++ back.dropWhile (· == '\\') = back :=
          List.takeWhile_append_dropWhile
        rw [noEscape, List.nil_append] at isWhole
        exact ⟨noEscape, isWhole⟩
  | cons first front inductionHypothesis =>
      by_cases isEscape : first = '\\'
      · subst isEscape
        have stopsLater : (∃ character ∈ front, character ≠ '\\') ∨
            back.takeWhile (· == '\\') = [] := by
          refine stops.imp_left ?_
          rintro ⟨character, isThere, other⟩
          exact ⟨character, (List.mem_cons.mp isThere).resolve_left other, other⟩
        obtain ⟨taken, dropped⟩ := inductionHypothesis stopsLater
        simp [taken, dropped]
      · simp [isEscape]

/-- The characters in front of the backslashes that a text ends in are collected when a tag
follows, and the backslashes belong to the tag. -/
theorem piecesWithin_closing
    (bound : Nat)
    (plain message closing body : List Char)
    (untagged : Untagged message)
    (enough : message.length < bound)
    (isTag : tag? ('[' :: closing) = some (body, [])) :
    piecesWithin bound plain (message ++ '[' :: closing) =
      collected (message.reverse.dropWhile (· == '\\') ++ plain) ++
        tagPieces (message.reverse.takeWhile (· == '\\')).length body := by
  induction bound generalizing plain message with
  | zero => cases enough
  | succ bound inductionHypothesis =>
      have isWhole : message.takeWhile (· == '\\') ++ message.dropWhile (· == '\\') = message :=
        List.takeWhile_append_dropWhile
      obtain ⟨taken, dropped⟩ := @backslashes_append message ('[' :: closing) (.inr rfl)
      rw [piecesWithin_succ bound plain (by simp), taken, dropped]
      by_cases allEscapes : message.dropWhile (· == '\\') = []
      -- Nothing but backslashes is left of the message: they all stand in front of the tag.
      · have fromRear : ∀ character ∈ message.reverse, character == '\\' := by
          simpa using List.dropWhile_eq_nil_iff.mp allEscapes
        rw [allEscapes, List.append_nil] at isWhole
        rw [allEscapes, List.nil_append, isTag, List.dropWhile_eq_nil_iff.mpr fromRear,
          List.takeWhile_eq_self_iff.mpr fromRear, List.length_reverse, isWhole]
        cases bound <;> simp [piecesWithin, collected]
      · have isRear : message.dropWhile (· == '\\') <:+ message := List.dropWhile_suffix _
        rw [tag?_append allEscapes (untagged _ isRear)]
        dsimp only
        obtain ⟨first, more, isFront⟩ := List.exists_cons_of_ne_nil allEscapes
        have notEscape : first ≠ '\\' := by
          have fails := List.head_dropWhile_not (· == '\\') (l := message) allEscapes
          simpa [isFront] using fails
        -- A step collects one character, or the backslashes in front, and what is left of the
        -- message ends in the same backslashes.
        by_cases noEscape : message.takeWhile (· == '\\') = []
        · rw [noEscape, isFront, List.nil_append] at isWhole
          subst isWhole
          have fromRear := @backslashes_append more.reverse [first] (.inr (by simp [notEscape]))
          rw [if_pos (by simp [noEscape])]
          rw [List.reverse_cons, fromRear.1, fromRear.2, List.append_assoc]
          exact inductionHypothesis (first :: plain) more
            (untagged.of_suffix (List.suffix_cons _ _)) (by simpa using enough)
        · rw [if_neg (by simpa using noEscape)]
          have fromRear := @backslashes_append (first :: more).reverse
            (message.takeWhile (· == '\\')) (.inl ⟨first, by simp, notEscape⟩)
          have isReverse : message.reverse =
              (first :: more).reverse ++ message.takeWhile (· == '\\') := by
            conv_lhs => rw [← isWhole, isFront]
            rw [List.reverse_append, reverse_takeWhile_backslash]
          have fewer : (first :: more).length < bound := by
            have lengths := congrArg List.length isWhole
            have someEscape := List.length_pos_iff.mpr noEscape
            rw [List.length_append, isFront] at lengths
            omega
          rw [isReverse, fromRear.1, fromRear.2, List.append_assoc, isFront]
          exact inductionHypothesis _ (first :: more) (untagged.of_suffix (isFront ▸ isRear)) fewer

/-! ## Characters -/

/-- Plain text adds what it says, whatever tags are open. -/
theorem charactersFrom_collected (tags : List OpenTag) (plain : List Char) (rest : List Piece) :
    charactersFrom tags (collected plain ++ rest) =
      (charactersFrom tags rest).map (Emoji.replace (unescape plain.reverse) ++ ·) := by
  cases plain with
  | nil =>
      change charactersFrom tags rest = _
      cases charactersFrom tags rest <;> rfl
  | cons character plain => rfl

/-- A word that a style is written in. -/
structure IsStyle (name : List Char) (known : String) : Prop where
  notClosing : name.head?.any (· != '/')
  isTrimmed : Text.stripWhile Text.isBlank name = name
  isKnown : Style.nameOf name = .ok known

variable {name : List Char} {known : String}

/-- A tag in the name of a style is opened under the name by which it is known. -/
theorem IsStyle.open
    (isStyle : IsStyle name known)
    (tags : List OpenTag)
    (rest : List Piece) :
    charactersFrom tags (.tag { name := name } :: rest) =
      charactersFrom ({ name := known } :: tags) rest := by
  rw [charactersFrom]
  split
  · next closing =>
      have notClosing := isStyle.notClosing
      dsimp only at closing
      rw [closing] at notClosing
      cases notClosing
  · dsimp only
    rw [isStyle.isKnown]
    rfl

/-- A closing tag in the name of a style closes the tag that was opened last. -/
theorem IsStyle.close
    (isStyle : IsStyle name known)
    (tags : List OpenTag)
    (rest : List Piece) :
    charactersFrom ({ name := known } :: tags) (.tag { name := '/' :: name } :: rest) =
      charactersFrom tags rest := by
  have notEmpty : name.isEmpty = false := by
    have notClosing := isStyle.notClosing
    cases name with
    | nil => cases notClosing
    | cons first more => rfl
  have closes : Markup.close name ({ name := known } :: tags) = .ok tags := by
    simp [Markup.close, closed?, isStyle.isTrimmed, notEmpty, isStyle.isKnown, OpenTag.isSpoiled,
      bind, Except.bind, pure, Except.pure]
  change (Markup.close name ({ name := known } :: tags) >>= (charactersFrom · rest)) = _
  rw [closes]
  rfl

/-- What a message says that is one piece: escapes and the names of pictures are gone. -/
def said (message : List Char) : List Char := Emoji.replace (unescape message)

/-- Plain text alone says what it says. -/
theorem charactersFrom_collected_nil (plain : List Char) (tags : List OpenTag) :
    charactersFrom tags (collected plain) = .ok (said plain.reverse) := by
  have whole := charactersFrom_collected tags plain []
  rw [List.append_nil] at whole
  rw [whole, charactersFrom]
  simp [said, Except.map]

/-- A styled label stands in front of what the message says. -/
theorem IsStyle.charactersFrom_label
    (isStyle : IsStyle name known)
    {label : List Char}
    (noPicture : Emoji.replace label = label)
    (message : List Char) :
    charactersFrom [] ([.tag { name := name }, .plain label, .tag { name := '/' :: name }] ++
        collected (message.reverse ++ [' '])) =
      .ok (label ++ said (' ' :: message)) := by
  rw [List.cons_append, isStyle.open, List.cons_append, charactersFrom, List.cons_append,
    List.nil_append, isStyle.close, charactersFrom_collected_nil, noPicture]
  simp [Except.map]

theorem isStyle_green : IsStyle "green".toList "green" :=
  ⟨by decide, by decide, eq_ok_of_toOption (by decide +kernel)⟩

theorem isStyle_yellow : IsStyle "yellow".toList "yellow" :=
  ⟨by decide, by decide, eq_ok_of_toOption (by decide +kernel)⟩

theorem isStyle_boldRed : IsStyle "bold red".toList "bold red" :=
  ⟨by decide, by decide, eq_ok_of_toOption (by decide +kernel)⟩

/-! ## Diagnostics -/

section

variable {message : List Char} (untagged : Untagged message)

include untagged

/-- A text without tags is one piece of plain text. -/
theorem pieces_of_untagged : pieces message = collected message.reverse := by
  rw [pieces, piecesWithin_of_untagged _ _ _ untagged, List.append_nil]

/-- A label in front of a message is styled, and the message is one piece with the space in
front of it. -/
theorem pieces_warning :
    pieces ("[yellow]Warning:[/yellow] ".toList ++ message) =
      [.tag { name := "yellow".toList }, .plain "Warning:".toList,
        .tag { name := "/yellow".toList }] ++ collected (message.reverse ++ [' ']) := by
  rw [← piecesWithin_of_untagged (message.length + 16) [' '] message untagged]
  rfl

@[inherit_doc pieces_warning]
theorem pieces_error :
    pieces ("[bold red]Error:[/bold red] ".toList ++ message) =
      [.tag { name := "bold red".toList }, .plain "Error:".toList,
        .tag { name := "/bold red".toList }] ++ collected (message.reverse ++ [' ']) := by
  rw [← piecesWithin_of_untagged (message.length + 20) [' '] message untagged]
  rfl

/-- A message that is styled as a whole is one piece, but for backslashes at its end. -/
theorem pieces_success :
    pieces ("[green]".toList ++ message ++ "[/green]".toList) =
      .tag { name := "green".toList } ::
        (collected (message.reverse.dropWhile (· == '\\')) ++
          tagPieces (message.reverse.takeWhile (· == '\\')).length "/green".toList) := by
  have closing := piecesWithin_closing (message.length + 15) [] message "/green]".toList
    "/green".toList untagged (by omega) (by decide)
  have length : ("[green]".toList ++ (message ++ "[/green]".toList)).length =
      message.length + 15 := by
    simp only [List.length_append, show "[green]".toList.length = 7 from rfl,
      show "[/green]".toList.length = 8 from rfl]
    omega
  rw [List.append_nil] at closing
  rw [← closing, List.append_assoc, pieces, length]
  rfl

/-- A warning says its label and then its message. -/
theorem charactersFrom_warning :
    charactersFrom [] (pieces ("[yellow]Warning:[/yellow] ".toList ++ message)) =
      .ok ("Warning:".toList ++ said (' ' :: message)) := by
  rw [pieces_warning untagged]
  exact isStyle_yellow.charactersFrom_label (by decide) message

/-- An error says its label and then its message. -/
theorem charactersFrom_error :
    charactersFrom [] (pieces ("[bold red]Error:[/bold red] ".toList ++ message)) =
      .ok ("Error:".toList ++ said (' ' :: message)) := by
  rw [pieces_error untagged]
  exact isStyle_boldRed.charactersFrom_label (by decide) message

/-- A message that ends in no backslash is styled as a whole. -/
theorem charactersFrom_success (noEscape : message.getLast? ≠ some '\\') :
    charactersFrom [] (pieces ("[green]".toList ++ message ++ "[/green]".toList)) =
      .ok (said message) := by
  have noEscapes : message.reverse.takeWhile (· == '\\') = [] := by
    cases isReverse : message.reverse with
    | nil => rfl
    | cons last rest =>
        rw [List.getLast?_eq_head?_reverse, isReverse, List.head?_cons] at noEscape
        have notEscape : last ≠ '\\' := fun same => noEscape (congrArg some same)
        rw [List.takeWhile_cons_of_neg (by simpa using notEscape)]
  have isWhole : message.reverse.takeWhile (· == '\\') ++ message.reverse.dropWhile (· == '\\') =
      message.reverse := List.takeWhile_append_dropWhile
  rw [noEscapes, List.nil_append] at isWhole
  rw [pieces_success untagged, isStyle_green.open, charactersFrom_collected, noEscapes, isWhole,
    List.reverse_reverse]
  change Except.map _ (charactersFrom _ [.tag { name := '/' :: "green".toList }]) = _
  rw [isStyle_green.close, charactersFrom]
  simp [Except.map, said]

/-- Backslashes at the end of a message that is styled as a whole break nothing. -/
theorem exists_charactersFrom_success :
    ∃ characters,
      charactersFrom [] (pieces ("[green]".toList ++ message ++ "[/green]".toList)) =
        .ok characters := by
  rw [pieces_success untagged, isStyle_green.open, charactersFrom_collected]
  generalize (message.reverse.takeWhile (· == '\\')).length = backslashes
  have closes : charactersFrom [{ name := "green" }] [.tag (Tag.ofBody "/green".toList)] = .ok [] :=
    isStyle_green.close [] []
  have ends : ∃ characters, charactersFrom [{ name := "green" }]
      (tagPieces backslashes "/green".toList) = .ok characters := by
    unfold tagPieces
    split_ifs
    · exact ⟨_, closes⟩
    · exact ⟨_, rfl⟩
    · rw [List.singleton_append, charactersFrom, closes]
      exact ⟨_, rfl⟩
    · exact ⟨_, rfl⟩
  obtain ⟨characters, ended⟩ := ends
  rw [ended]
  exact ⟨_, rfl⟩

end

/-! ## Styles -/

/-- A piece has no parameters that a style could be spoiled by. -/
def IsBare : Piece → Prop
  | .plain _ => True
  | .tag tag => tag.parameters = none

theorem checkPiece_of_isBare
    {piece : Piece}
    (isBare : IsBare piece) :
    checkPiece piece = .ok () := by
  cases piece with
  | plain text => rfl
  | tag tag =>
      rw [checkPiece, show tag.parameters = none from isBare]
      split <;> simp_all

/-- Tags without parameters pass the check of the styles. -/
theorem checkStyles_of_isBare
    {text : String}
    (areBare : ∀ piece ∈ pieces text.toList, IsBare piece) :
    checkStyles text = .ok () := by
  unfold checkStyles
  generalize pieces text.toList = found at areBare
  induction found with
  | nil => rfl
  | cons piece rest inductionHypothesis =>
      obtain ⟨isBare, areBare⟩ := List.forall_mem_cons.mp areBare
      change (checkPiece piece >>= fun _ => rest.forM checkPiece) = _
      rw [checkPiece_of_isBare isBare]
      exact inductionHypothesis areBare

theorem isBare_of_mem_collected
    {plain : List Char}
    {piece : Piece}
    (isThere : piece ∈ collected plain) :
    IsBare piece := by
  unfold collected at isThere
  split at isThere
  · cases isThere
  · rw [List.mem_singleton.mp isThere]
    trivial

theorem isBare_of_mem_tagPieces
    {backslashes : Nat}
    {body : List Char}
    (noParameters : (Tag.ofBody body).parameters = none)
    {piece : Piece}
    (isThere : piece ∈ tagPieces backslashes body) :
    IsBare piece := by
  unfold tagPieces at isThere
  rcases List.mem_append.mp isThere with isEscape | isTag
  · split at isEscape
    · cases isEscape
    · rw [List.mem_singleton.mp isEscape]
      trivial
  · rw [List.mem_singleton.mp isTag]
    split
    · exact noParameters
    · trivial

/-! ## What is said as it is written -/

/-- A text without an escaped bracket is not unescaped. -/
theorem unescape_of_no_escape {text : List Char} (noEscape : ¬['\\', '['] <:+: text) :
    unescape text = text := by
  fun_induction unescape text with
  | case1 => rfl
  | case2 rest => exact absurd (List.prefix_append _ rest).isInfix noEscape
  | case3 character rest _ inductionHypothesis =>
      have noEscapeBehind : ¬['\\', '['] <:+: rest := fun isThere =>
        noEscape (isThere.trans (List.suffix_cons _ _).isInfix)
      rw [inductionHypothesis noEscapeBehind]

/-- The text says in markup what it says without. -/
structure ReadsAsWritten (text : List Char) : Prop where
  untagged : Untagged text
  noEscape : ¬['\\', '['] <:+: text
  noPicture : Emoji.NoPicture text
  noneDropped : ∀ character ∈ text, !isDropped character

/-- A text that reads as it is written says what is written. -/
theorem ReadsAsWritten.said_eq {text : List Char} (reads : ReadsAsWritten text) :
    said text = text := by
  rw [said, unescape_of_no_escape reads.noEscape, Emoji.replace_of_noPicture reads.noPicture]

/-- A text behind a label and a space, too. -/
theorem ReadsAsWritten.said_space {text : List Char} (reads : ReadsAsWritten text) :
    said (' ' :: text) = ' ' :: text := by
  have noEscape : ¬['\\', '['] <:+: ' ' :: text := by
    intro isThere
    rcases List.infix_cons_iff.mp isThere with isFront | isThere
    · exact absurd (List.cons_prefix_cons.mp isFront).1 (by decide)
    · exact reads.noEscape isThere
  rw [said, unescape_of_no_escape noEscape,
    Emoji.replace_of_noPicture (reads.noPicture.cons (by decide))]

end Markup

end ProtocolTypes
