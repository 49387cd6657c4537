import ProtocolTypes.Proofs.Storage.Writing
import Mathlib.Logic.Function.Basic

/-!
# Atomic writes

Whichever step of a write breaks, the write either puts its whole text at its destination or
leaves all files as they were, and its temporary file is gone.  A sequence of writes
therefore comes to the files that the successful ones replace, one after the other
(`writes_are_atomic`).
-/

namespace ProtocolTypes

/-- A write that is asked for, with the steps that break of themselves and the mark of its
temporary file. -/
structure WriteCall where
  path : FilePath
  text : String
  breaks : Breakage
  mark : String

namespace WriteCall

/-- The storage that the call leaves, and its result. -/
def run (call : WriteCall) (storage : Storage) : Storage × Except Accident FilePath :=
  storage.writeWith call.breaks call.mark call.path call.text

/-- What the call has to write. -/
def content (call : WriteCall) : ByteArray := (Storage.withFinalNewline call.text).toUTF8

/-- The storage with the directories above the destination, as far as they can be made. -/
def prepared (call : WriteCall) (storage : Storage) : Storage :=
  (storage.makeDirectories call.path.parent).1

/-- Nothing stands where the temporary file is made. -/
def Fresh (call : WriteCall) (storage : Storage) : Prop :=
  (call.prepared storage).Unused call.mark call.path

/-- The call changes all of one file, or none. -/
structure Atomic (call : WriteCall) (before : Storage) : Prop where
  /-- After a success the destination holds the text, and every other file is unchanged. -/
  written : ∀ path, (call.run before).2 = .ok path →
    path = call.path ∧ ∃ location, (call.run before).1.locate call.path = .ok location ∧
      (call.run before).1.content? location = some call.content ∧
      ∀ other, other ≠ location → (call.run before).1.content? other = before.content? other
  /-- After an accident every file is unchanged. -/
  unwritten : ∀ accident, (call.run before).2 = .error accident →
    ∀ location, (call.run before).1.content? location = before.content? location
  /-- In either case there is no file where the temporary one was made. -/
  noTemporary : ∀ location,
    (call.prepared before).temporaryLocation call.mark call.path = .ok location →
    (call.run before).1.content? location = none

/-! ## The temporary file -/

/-- A write that succeeds has filled a temporary file and put it in place. -/
theorem exists_filled_of_run_eq_ok
    (call : WriteCall)
    (before : Storage)
    (path : FilePath)
    (succeeds : (call.run before).2 = .ok path) :
    ∃ temporary storage, (Storage.fillAndReplace call.breaks call.path call.content temporary
      storage).2 = .ok path := by
  unfold run Storage.writeWith at succeeds
  split at succeeds
  · cases succeeds
  · split at succeeds
    · cases succeeds
    · split at succeeds
      · cases succeeds
      · split at succeeds
        · cases succeeds
        · exact ⟨_, _, succeeds⟩

/-- A file is put in place only where there is a destination. -/
theorem exists_destination_of_fillAndReplace_eq_ok
    (breaks : Breakage)
    (destination path : FilePath)
    (content : ByteArray)
    (temporary : Location)
    (storage : Storage)
    (succeeds :
      (Storage.fillAndReplace breaks destination content temporary storage).2 = .ok path) :
    ∃ known location, Storage.destination known destination = .ok location := by
  unfold Storage.fillAndReplace at succeeds
  split at succeeds
  · cases succeeds
  · split at succeeds
    · cases succeeds
    · dsimp only at succeeds
      split at succeeds
      · cases succeeds
      · next location leads => exact ⟨_, location, leads⟩

/-- Only a path with a name of its own is written to. -/
theorem hasOwnName_of_run_eq_ok
    (call : WriteCall)
    (before : Storage)
    (path : FilePath)
    (succeeds : (call.run before).2 = .ok path) :
    Storage.hasOwnName call.path = true := by
  obtain ⟨temporary, storage, filled⟩ := call.exists_filled_of_run_eq_ok before path succeeds
  obtain ⟨known, location, leads⟩ := exists_destination_of_fillAndReplace_eq_ok _ _ _ _ _ _ filled
  by_contra unnamed
  rw [Storage.destination, if_pos (by simpa using unnamed)] at leads
  cases leads

/-- The temporary file does not have the name of the destination. -/
theorem temporaryName_ne_name (mark : String) (path : FilePath) :
    Storage.temporaryName mark path ≠ path.name := by
  intro same
  have lengths := congrArg (fun name => name.toList.length) same
  have dot : ".".toList.length = 1 := rfl
  simp only [Storage.temporaryName, String.toList_append, List.length_append, dot] at lengths
  omega

/-- A path with a name of its own leads to that name in some directory. -/
theorem exists_above_of_locate
    (storage : Storage)
    (path : FilePath)
    (named : Storage.hasOwnName path = true)
    (location : Location)
    (leads : storage.locate path = .ok location) :
    ∃ above, location = above ++ [path.name] := by
  simp only [Storage.hasOwnName, Bool.and_eq_true, Bool.not_eq_true', bne_iff_ne] at named
  have present : path.parts ≠ [] := by
    intro empty
    simp [FilePath.name, empty] at named
  have isParts : path.parts = path.parts.dropLast ++ [path.name] := by
    rw [FilePath.name, List.getLast?_eq_some_getLast present, Option.getD_some,
      List.dropLast_append_getLast present]
  unfold Storage.locate at leads
  split at leads
  · cases leads
  · split at leads
    · cases leads
    · rw [isParts] at leads
      obtain ⟨above, -, rfl⟩ :=
        Storage.exists_of_follow_append_singleton storage _ _ _ location leads
      exact ⟨above, by rw [if_neg named.2]⟩

/-- The temporary file is made elsewhere than at the destination. -/
theorem temporaryLocation_ne
    (call : WriteCall)
    (named : Storage.hasOwnName call.path = true)
    (made left : Storage)
    (temporary location : Location)
    (isMade : made.temporaryLocation call.mark call.path = .ok temporary)
    (leads : left.locate call.path = .ok location) :
    temporary ≠ location := by
  obtain ⟨directory, -, rfl⟩ := Storage.exists_above_of_temporary made call.path call.mark temporary
    (made.locate_of_temporaryLocation call.path call.mark temporary isMade)
  obtain ⟨above, rfl⟩ := exists_above_of_locate left call.path named location leads
  intro same
  have sameName := List.append_inj_right' same rfl
  exact temporaryName_ne_name call.mark call.path (List.singleton_inj.mp sameName)

/-! ## One write -/

/-- Before the call there is no file where the temporary one is made. -/
theorem content?_eq_none_of_fresh
    (call : WriteCall)
    (before : Storage)
    (fresh : call.Fresh before)
    (location : Location)
    (isMade : (call.prepared before).temporaryLocation call.mark call.path = .ok location) :
    before.content? location = none := by
  have grows : before.Grows (call.prepared before) := before.grows_makeDirectories call.path.parent
  have nothing : (call.prepared before).entryAt? location = none := fresh location isMade
  rw [← (grows.entries location).content?, Storage.content?, nothing]

/-- A call whose temporary file is new is atomic. -/
theorem atomic_of_fresh
    (call : WriteCall)
    (before : Storage)
    (fresh : call.Fresh before) :
    call.Atomic before := by
  have changes := Storage.writeWith_changes call.breaks call.mark before call.path fresh call.text
  change before.Change call.path call.content (call.run before) at changes
  have unmade := call.content?_eq_none_of_fresh before fresh
  generalize outcome : call.run before = result at changes
  cases changes with
  | written after holds =>
      obtain ⟨location, leads, isFile, others⟩ := holds
      have elsewhere (other : Location) (different : other ≠ location) :
          after.content? other = before.content? other :=
        (others other different).content?
      constructor
      · intro path succeeds
        rw [outcome] at succeeds ⊢
        exact ⟨(Except.ok.inj succeeds).symm, location, leads, Storage.content?_of_file isFile,
          elsewhere⟩
      · intro accident fails
        rw [outcome] at fails
        cases fails
      · intro temporary isMade
        have named := call.hasOwnName_of_run_eq_ok before call.path (by rw [outcome])
        rw [outcome, elsewhere temporary
          (call.temporaryLocation_ne named _ after temporary location isMade leads)]
        exact unmade temporary isMade
  | failed after accident grows =>
      constructor
      · intro path succeeds
        rw [outcome] at succeeds
        cases succeeds
      · intro _ _ location
        rw [outcome]
        exact (grows.entries location).content?
      · intro temporary isMade
        rw [outcome, (grows.entries temporary).content?]
        exact unmade temporary isMade

/-- What the call replaces: the content of one file, or nothing. -/
def replacement? (call : WriteCall) (before : Storage) : Option (Location × ByteArray) :=
  match call.run before with
  | (after, .ok _) =>
    match after.locate call.path with
    | .ok location => some (location, call.content)
    | .error _ => none
  | (_, .error _) => none

end WriteCall

/-- The contents of files after some of them are replaced, one after the other. -/
def replaced (files : Location → Option ByteArray) :
    List (Location × ByteArray) → Location → Option ByteArray
  | [] => files
  | (location, content) :: rest => replaced (Function.update files location (some content)) rest

theorem replaced_append
    (files : Location → Option ByteArray)
    (first second : List (Location × ByteArray)) :
    replaced files (first ++ second) = replaced (replaced files first) second := by
  induction first generalizing files with
  | nil => rfl
  | cons replacement rest inductionHypothesis => exact inductionHypothesis _

/-- An atomic call replaces the content of one file, or nothing. -/
theorem WriteCall.Atomic.content?_eq
    {call : WriteCall}
    {before : Storage}
    (atomic : call.Atomic before) :
    (call.run before).1.content? = replaced before.content? (call.replacement? before).toList := by
  funext other
  cases outcome : call.run before with
  | mk after result =>
      cases result with
      | error accident =>
          have unchanged := atomic.unwritten accident (by rw [outcome]) other
          rw [outcome] at unchanged
          simpa [WriteCall.replacement?, outcome, replaced] using unchanged
      | ok path =>
          obtain ⟨-, location, leads, isContent, others⟩ := atomic.written path (by rw [outcome])
          rw [outcome] at leads isContent others
          simp only [WriteCall.replacement?, outcome, leads, Option.toList_some, replaced]
          by_cases same : other = location
          · subst same
            rw [isContent, Function.update_self]
          · rw [others other same, Function.update_of_ne same]

/-! ## Writes one after the other -/

namespace Storage

/-- The storage that calls leave, one after the other. -/
def afterCalls (storage : Storage) (calls : List WriteCall) : Storage :=
  calls.foldl (fun current call => (call.run current).1) storage

/-- Whenever a call is made, its temporary file is new. -/
def FreshCalls : Storage → List WriteCall → Prop
  | _, [] => True
  | storage, call :: rest => call.Fresh storage ∧ FreshCalls (call.run storage).1 rest

/-- What the calls replace, one after the other. -/
def replacements : Storage → List WriteCall → List (Location × ByteArray)
  | _, [] => []
  | storage, call :: rest =>
    (call.replacement? storage).toList ++ replacements (call.run storage).1 rest

/-- Every call in the sequence is atomic where it is made. -/
theorem atomic_of_freshCalls
    (storage : Storage)
    (calls : List WriteCall)
    (fresh : storage.FreshCalls calls)
    (earlier : List WriteCall)
    (call : WriteCall)
    (later : List WriteCall)
    (split : calls = earlier ++ call :: later) :
    call.Atomic (storage.afterCalls earlier) := by
  subst split
  induction earlier generalizing storage with
  | nil => exact call.atomic_of_fresh storage fresh.1
  | cons first rest inductionHypothesis => exact inductionHypothesis (first.run storage).1 fresh.2

/-- The files after the calls are those that the calls replace, one after the other. -/
theorem content?_afterCalls
    (storage : Storage)
    (calls : List WriteCall)
    (fresh : storage.FreshCalls calls) :
    (storage.afterCalls calls).content? =
      replaced storage.content? (storage.replacements calls) := by
  induction calls generalizing storage with
  | nil => rfl
  | cons call rest inductionHypothesis =>
      have first := (call.atomic_of_fresh storage fresh.1).content?_eq
      calc (storage.afterCalls (call :: rest)).content?
          = ((call.run storage).1.afterCalls rest).content? := rfl
        _ = replaced (call.run storage).1.content? ((call.run storage).1.replacements rest) :=
            inductionHypothesis (call.run storage).1 fresh.2
        _ = replaced storage.content? (storage.replacements (call :: rest)) := by
            rw [first, replacements, replaced_append]

/-- Whichever steps of which calls break, each call of a sequence writes its whole text or
changes no file, and the files at the end are those that the successful calls replace. -/
theorem writes_are_atomic
    (storage : Storage)
    (calls : List WriteCall)
    (fresh : storage.FreshCalls calls) :
    (∀ earlier call later, calls = earlier ++ call :: later →
        call.Atomic (storage.afterCalls earlier)) ∧
      (storage.afterCalls calls).content? =
        replaced storage.content? (storage.replacements calls) :=
  ⟨storage.atomic_of_freshCalls calls fresh, storage.content?_afterCalls calls fresh⟩

/-- Calls with these paths, texts and breaks, each with a mark that is new when it is made. -/
def marked : Storage → List (FilePath × String × Breakage) → List WriteCall
  | _, [] => []
  | storage, (path, text, breaks) :: rest =>
    let mark := (storage.makeDirectories path.parent).1.freshMark path
    let call : WriteCall := { path, text, breaks, mark }
    call :: marked (call.run storage).1 rest

/-- There are new marks for all calls. -/
theorem freshCalls_marked
    (storage : Storage)
    (requests : List (FilePath × String × Breakage)) :
    storage.FreshCalls (storage.marked requests) := by
  induction requests generalizing storage with
  | nil => exact trivial
  | cons request rest inductionHypothesis =>
      obtain ⟨path, text, breaks⟩ := request
      exact ⟨freshMark_unused _ path, inductionHypothesis _⟩

/-- Two writes to one path, of which the second breaks before the file is replaced. -/
def twoWrites : List WriteCall :=
  marked {} [
    (FilePath.ofText "/out/types.ts", "first", unbroken),
    (FilePath.ofText "/out/types.ts", "second", fun step =>
      if step = .replaceDestination then some .fileSystem else none)]

theorem twoWrites_are_atomic :
    FreshCalls {} twoWrites ∧
      (∀ earlier call later, twoWrites = earlier ++ call :: later →
        call.Atomic (afterCalls {} earlier)) ∧
      (afterCalls {} twoWrites).content? = replaced (content? {}) (replacements {} twoWrites) ∧
      replacements {} twoWrites = [(["out", "types.ts"], "first\n".toUTF8)] := by
  have fresh : FreshCalls {} twoWrites := freshCalls_marked {} _
  have whole := writes_are_atomic {} twoWrites fresh
  exact ⟨fresh, whole.1, whole.2, by decide +kernel⟩

end Storage
end ProtocolTypes
