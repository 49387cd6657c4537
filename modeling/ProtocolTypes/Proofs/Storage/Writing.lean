import ProtocolTypes.Proofs.Storage.Growth
import ProtocolTypes.Storage.Write
import Mathlib.Data.List.Nodup

/-!
# What a write changes

Whichever step breaks, a write that succeeds puts the new content at its destination, one
that fails changes no file, and no temporary file is left (`writeWith_changes`).  This needs
that nothing stands where the temporary file is made, and the mark that a write takes is
chosen for that (`freshMark_free`).
-/

namespace ProtocolTypes
namespace Storage

/-! ## Marks -/

theorem ofDigitChars_markOf (number : Nat) :
    Nat.ofDigitChars 10 (markOf number).toList 0 = number := by
  simp only [markOf, String.toList_ofList, Nat.ofDigitChars_append,
    Nat.ofDigitChars_replicate_zero, Nat.mul_zero, Nat.ofDigitChars_ten_toDigits]

theorem markOf_injective (first second : Nat) (same : markOf first = markOf second) :
    first = second := by
  rw [← ofDigitChars_markOf first, same, ofDigitChars_markOf]

theorem temporaryName_injective
    (path : FilePath)
    (first second : Nat)
    (same : temporaryName (markOf first) path = temporaryName (markOf second) path) :
    first = second := by
  apply markOf_injective
  have characters := congrArg String.toList same
  simp only [temporaryName, String.toList_append, List.append_cancel_right_eq,
    List.append_cancel_left_eq] at characters
  exact String.toList_injective characters

theorem temporaryName_ne_up (mark : String) (path : FilePath) :
    temporaryName mark path ≠ ".." := by
  intro same
  have lengths := congrArg (fun name => name.toList.length) same
  have tail : ".tmp".toList.length = 4 := rfl
  have up : "..".toList.length = 2 := rfl
  simp only [temporaryName, String.toList_append, List.length_append, tail, up] at lengths
  omega

/-- The path of the temporary file with that mark. -/
def temporaryPath (mark : String) (path : FilePath) : FilePath :=
  path.parent.child (temporaryName mark path)

/-- Temporary files are made in the directory that the destination's parent leads to. -/
theorem exists_above_of_temporary
    (storage : Storage)
    (path : FilePath)
    (mark : String)
    (location : Location)
    (leads : storage.locate (temporaryPath mark path) = .ok location) :
    ∃ above, storage.follow (if path.isAbsolute then [] else storage.workingDirectory)
        path.parent.parts = .ok above ∧ location = above ++ [temporaryName mark path] := by
  unfold locate at leads
  split at leads
  · cases leads
  · split at leads
    · cases leads
    · obtain ⟨above, leadsAbove, rfl⟩ :=
        exists_of_follow_append_singleton storage path.parent.parts _ _ location leads
      rw [if_neg (temporaryName_ne_up mark path)]
      exact ⟨above, leadsAbove, rfl⟩

/-- What is found as a temporary file is an entry of that name in the directory. -/
theorem exists_entry_of_find_temporary
    (storage : Storage)
    (path : FilePath)
    (mark : String)
    (entry : StorageEntry)
    (found : storage.find (temporaryPath mark path) = .ok entry) :
    ∃ above, storage.follow (if path.isAbsolute then [] else storage.workingDirectory)
        path.parent.parts = .ok above ∧
      above ++ [temporaryName mark path] ∈ storage.entries.map Prod.fst := by
  unfold find at found
  cases leads : storage.locate (temporaryPath mark path) with
  | error problem => simp [leads, bind, Except.bind] at found
  | ok location =>
      obtain ⟨above, leadsAbove, rfl⟩ := exists_above_of_temporary storage path mark _ leads
      refine ⟨above, leadsAbove, ?_⟩
      simp only [leads, bind, Except.bind] at found
      split at found
      · next stands =>
          rw [entryAt?, if_neg (by simp), List.lookup_eq_some_iff] at stands
          obtain ⟨before, after, split, _⟩ := stands
          rw [split]
          simp
      · cases found

/-- Among one number more than there are entries, one makes a new temporary file. -/
theorem exists_untaken (storage : Storage) (path : FilePath) :
    ∃ number ∈ List.range (storage.entries.length + 1),
      ∀ entry, storage.find (temporaryPath (markOf number) path) ≠ .ok entry := by
  by_contra allTaken
  push Not at allTaken
  obtain ⟨first, foundFirst⟩ := allTaken 0 (by simp)
  obtain ⟨above, leadsAbove, _⟩ :=
    exists_entry_of_find_temporary storage path _ first foundFirst
  -- All the temporary files stand in the same directory, under different names.
  let location (number : Nat) : Location := above ++ [temporaryName (markOf number) path]
  have injective : Function.Injective location := by
    intro left right same
    simp only [location, List.append_cancel_left_eq, List.cons.injEq, and_true] at same
    exact temporaryName_injective path left right same
  have areEntries : (List.range (storage.entries.length + 1)).map location ⊆
      storage.entries.map Prod.fst := by
    intro other isThere
    obtain ⟨number, inRange, rfl⟩ := List.mem_map.mp isThere
    obtain ⟨entry, found⟩ := allTaken number inRange
    obtain ⟨again, leadsAgain, isEntry⟩ :=
      exists_entry_of_find_temporary storage path _ entry found
    obtain rfl : again = above := Except.ok.inj (leadsAgain.symm.trans leadsAbove)
    exact isEntry
  have fewer := (List.nodup_range.map injective).length_le_of_subset areEntries
  simp only [List.length_map, List.length_range] at fewer
  omega

/-- The chosen mark is that of the first number that makes no temporary file there is. -/
theorem freshMark_eq (storage : Storage) (path : FilePath) :
    storage.freshMark path =
      markOf (((List.range (storage.entries.length + 1)).find? fun number =>
        !(storage.find (temporaryPath (markOf number) path)).isOk).getD 0) := by
  refine congrArg (fun free : Nat → Bool =>
    markOf (((List.range (storage.entries.length + 1)).find? free).getD 0)) ?_
  funext number
  unfold temporaryPath
  cases found : storage.find (path.parent.child (temporaryName (markOf number) path)) <;>
    simp [found, Except.isOk, Except.toBool]

/-- The chosen mark makes a new temporary file. -/
theorem find_freshMark
    (storage : Storage)
    (path : FilePath)
    (entry : StorageEntry) :
    storage.find (temporaryPath (storage.freshMark path) path) ≠ .ok entry := by
  rw [freshMark_eq]
  cases first : (List.range (storage.entries.length + 1)).find? fun number =>
      !(storage.find (temporaryPath (markOf number) path)).isOk with
  | some number =>
      rw [Option.getD_some]
      intro found
      have untaken := List.find?_some first
      simp [found, Except.isOk, Except.toBool] at untaken
  | none =>
      obtain ⟨number, inRange, untaken⟩ := storage.exists_untaken path
      have isTaken := List.find?_eq_none.mp first number inRange
      cases found : storage.find (temporaryPath (markOf number) path) with
      | ok other => exact absurd found (untaken other)
      | error problem => simp [found, Except.isOk, Except.toBool] at isTaken

theorem locate_of_temporaryLocation
    (storage : Storage)
    (path : FilePath)
    (mark : String)
    (location : Location)
    (isMade : storage.temporaryLocation mark path = .ok location) :
    storage.locate (temporaryPath mark path) = .ok location := by
  unfold temporaryLocation at isMade
  split at isMade
  · next found => rwa [Except.ok.inj isMade] at found
  · cases isMade

/-- The mark is new: nothing stands where the temporary file is made. -/
def Unused (storage : Storage) (mark : String) (path : FilePath) : Prop :=
  ∀ location, storage.temporaryLocation mark path = .ok location →
    storage.entryAt? location = none

/-- The mark that a write takes is new. -/
theorem freshMark_unused (storage : Storage) (path : FilePath) :
    storage.Unused (storage.freshMark path) path := by
  intro location leads
  cases stands : storage.entryAt? location with
  | none => rfl
  | some entry =>
      have located := storage.locate_of_temporaryLocation path _ location leads
      refine absurd ?_ (storage.find_freshMark path entry)
      simp [find, located, stands, bind, Except.bind]

/-! ## What a write changes -/

/-- The path leads to a file of that content, and nothing else has changed but for new
directories. -/
def Holds (before after : Storage) (path : FilePath) (content : ByteArray) : Prop :=
  ∃ location, after.locate path = .ok location ∧
    after.entryAt? location = some (.file content) ∧
    ∀ other, other ≠ location → Grown (before.entryAt? other) (after.entryAt? other)

/-- What writing that content to a path leaves: the content at the destination after a
success, and nothing but new directories after an accident. -/
inductive Change (before : Storage) (path : FilePath) (content : ByteArray) :
    Storage × Except Accident FilePath → Prop
  | written (after : Storage) (holds : before.Holds after path content) :
      Change before path content (after, .ok path)
  | failed (after : Storage) (accident : Accident) (grows : before.Grows after) :
      Change before path content (after, .error accident)

/-- A destination is where its path leads, and no directory. -/
theorem locate_of_destination
    (storage : Storage)
    (path : FilePath)
    (location : Location)
    (leads : storage.destination path = .ok location) :
    storage.locate path = .ok location ∧ storage.entryAt? location ≠ some .directory := by
  unfold destination at leads
  split at leads
  · cases leads
  · split at leads
    · cases leads
    · next located =>
        split at leads
        · cases leads
        · next noDirectory =>
            obtain rfl := Except.ok.inj leads
            exact ⟨located, noDirectory⟩

/-- A file put at the destination is held there. -/
theorem holds_put_destination
    {before known after : Storage}
    (path : FilePath)
    (location : Location)
    (leads : known.destination path = .ok location)
    (content : ByteArray)
    (sameStart : after.workingDirectory = known.workingDirectory)
    (kept : known.KeepsDirectories after)
    (others : ∀ other, Grown (before.entryAt? other) (after.entryAt? other)) :
    before.Holds (after.put location (.file content)) path content := by
  obtain ⟨located, noDirectory⟩ := locate_of_destination known path location leads
  have isNamed : location ≠ [] := by
    rintro rfl
    exact noDirectory rfl
  have keptAfter : known.KeepsDirectories (after.put location (.file content)) := by
    intro other isDirectory
    have different : other ≠ location := by
      rintro rfl
      exact noDirectory isDirectory
    rw [entryAt?_put_of_ne location other different]
    exact kept other isDirectory
  refine ⟨location, locate_of_keepsDirectories keptAfter sameStart path location located,
    entryAt?_put_self location isNamed _ after, fun other different => ?_⟩
  rw [entryAt?_put_of_ne location other different]
  exact others other

/-- Filling a new temporary file and putting it in place changes what a write may change. -/
theorem fillAndReplace_changes
    (breaks : Breakage)
    (path : FilePath)
    (content : ByteArray)
    (storage grown : Storage)
    (grows : storage.Grows grown)
    (temporary : Location)
    (unused : grown.entryAt? temporary = none) :
    storage.Change path content
      (fillAndReplace breaks path content temporary
        (grown.put temporary (.file ByteArray.empty))) := by
  have isNamed := ne_nil_of_entryAt?_eq_none unused
  let written := (grown.put temporary (.file ByteArray.empty)).put temporary (.file content)
  have elsewhere (other : Location) (different : other ≠ temporary) :
      written.entryAt? other = grown.entryAt? other := by
    rw [entryAt?_put_of_ne _ _ different, entryAt?_put_of_ne _ _ different]
  have cleared (other : Location) :
      (written.remove temporary).entryAt? other = grown.entryAt? other := by
    by_cases same : other = temporary
    · rw [same, entryAt?_remove_self _ isNamed, unused]
    · rw [entryAt?_remove_of_ne _ _ same, elsewhere other same]
  have clearedGrows : storage.Grows (written.remove temporary) :=
    ⟨grows.workingDirectory, fun other => by
      rw [cleared other]
      exact grows.entries other⟩
  have kept : written.KeepsDirectories (written.remove temporary) := by
    intro other isDirectory
    have different : other ≠ temporary := by
      rintro rfl
      rw [entryAt?_put_self other isNamed] at isDirectory
      cases isDirectory
    rwa [cleared other, ← elsewhere other different]
  unfold fillAndReplace
  split
  · exact .failed _ _ clearedGrows
  · split
    · exact .failed _ _ clearedGrows
    · dsimp only
      split
      · exact .failed _ _ clearedGrows
      · next location leads =>
          exact .written _ (holds_put_destination path location leads content rfl kept
            clearedGrows.entries)

/-- Whichever step of a write breaks, it changes what a write may change, provided that its
temporary file is new. -/
theorem writeWith_changes
    (breaks : Breakage)
    (mark : String)
    (storage : Storage)
    (path : FilePath)
    (unused : (storage.makeDirectories path.parent).1.Unused mark path)
    (text : String) :
    storage.Change path (withFinalNewline text).toUTF8
      (storage.writeWith breaks mark path text) := by
  have grows := storage.grows_makeDirectories path.parent
  unfold writeWith
  split
  · exact .failed _ _ (.refl storage)
  · split
    · next grown accident made =>
        rw [made] at grows
        exact .failed _ _ grows
    · next grown made =>
        rw [made] at grows unused
        split
        · exact .failed _ _ grows
        · split
          · exact .failed _ _ grows
          · next temporary leads =>
              exact fillAndReplace_changes breaks path _ storage grown grows temporary
                (unused temporary leads)

/-- A text that takes the place of what a file held is held there. -/
theorem holds_overwrite
    {before storage : Storage}
    (grows : before.Grows storage)
    (path : FilePath)
    (text : String)
    (after : Storage)
    (overwrites : storage.overwrite path text = .ok after) :
    before.Holds after path text.toUTF8 := by
  unfold overwrite at overwrites
  cases leads : storage.destination path with
  | error accident => simp [leads, Except.map] at overwrites
  | ok location =>
      rw [leads] at overwrites
      obtain rfl := Except.ok.inj overwrites
      exact holds_put_destination path location leads _ rfl (fun _ kept => kept) grows.entries

/-- A write changes what a write may change. -/
theorem write_changes [StandIns] (storage : Storage) (path : FilePath) (text : String) :
    storage.Change path (withFinalNewline text).toUTF8 (storage.write path text) :=
  writeWith_changes (encodingBreakage path text) _ storage path (freshMark_unused _ path) text

/-- Where another text can be written, one that cannot be encoded breaks off for that. -/
theorem write_unencodable
    [StandIns]
    (storage : Storage)
    (path : FilePath)
    (other text : String)
    (writes : (storage.write path other).2.toOption.isSome)
    (notEncodable : Text.isEncodable text = false) :
    (storage.write path text).2 = .error .unencodable := by
  have breaks : encodingBreakage path text .writeTemporary = some .unencodable := by
    rw [encodingBreakage, notEncodable]
    rfl
  -- The steps before that one do not depend on the text.
  have sameDirectories : encodingBreakage path text .makeDirectories =
      encodingBreakage path other .makeDirectories := rfl
  have sameTemporary : encodingBreakage path text .createTemporary =
      encodingBreakage path other .createTemporary := rfl
  unfold write writeWith at writes ⊢
  rw [sameDirectories, sameTemporary]
  dsimp only at writes ⊢
  split at writes
  · cases writes
  · split at writes
    · cases writes
    · split at writes
      · cases writes
      · split at writes
        · cases writes
        · simp [fillAndReplace, firstBreak, breaks]

/-! ## The newline at the end -/

/-- A text that is written ends in a newline, and is otherwise as it was. -/
theorem withFinalNewline_spec (text : String) :
    (withFinalNewline text).toList.getLast? = some '\n' ∧
      (withFinalNewline text = text ∨
        text.toList.getLast? ≠ some '\n' ∧ withFinalNewline text = text ++ "\n") := by
  unfold withFinalNewline
  split
  · next ends => exact ⟨ends, .inl rfl⟩
  · next noEnd => exact ⟨by simp, .inr ⟨noEnd, rfl⟩⟩

end Storage
end ProtocolTypes
