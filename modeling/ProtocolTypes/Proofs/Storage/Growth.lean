import ProtocolTypes.Storage.Directory

/-!
# Growing storage

Making directories only adds to a storage: a directory stands where nothing stood before,
and nothing else changes (`Grows`).  A path that leads somewhere keeps leading there as long
as the directories stay (`locate_of_keepsDirectories`).
-/

namespace ProtocolTypes
namespace Storage

/-! ## Entries -/

/-- What is put at a location is there. -/
theorem entryAt?_put_self
    (location : Location)
    (isNamed : location ≠ [])
    (entry : StorageEntry)
    (storage : Storage) :
    (storage.put location entry).entryAt? location = some entry := by
  rw [entryAt?, if_neg (by simpa using isNamed), lookup_put_self]

/-- What is removed from a location is gone. -/
theorem entryAt?_remove_self
    (location : Location)
    (isNamed : location ≠ [])
    (storage : Storage) :
    (storage.remove location).entryAt? location = none := by
  rw [entryAt?, if_neg (by simpa using isNamed), remove, List.lookup_eq_none_iff]
  rintro ⟨other, entry⟩ isThere
  simp only [List.mem_filter, bne_iff_ne, ne_eq] at isThere
  simpa using Ne.symm isThere.2

theorem ne_nil_of_entryAt?_eq_none
    {storage : Storage}
    {location : Location}
    (nothing : storage.entryAt? location = none) :
    location ≠ [] := by
  rintro rfl
  simp at nothing

/-- The same entry has the same content. -/
theorem content?_eq_of_entryAt?_eq
    {before after : Storage}
    {location : Location}
    (same : after.entryAt? location = before.entryAt? location) :
    after.content? location = before.content? location := by
  rw [content?, same, content?]

theorem content?_of_file
    {storage : Storage}
    {location : Location}
    {content : ByteArray}
    (isFile : storage.entryAt? location = some (.file content)) :
    storage.content? location = some content := by
  rw [content?, isFile]

/-! ## Growth -/

/-- What stands at a location is the same, or a directory where nothing stood. -/
def Grown (before after : Option StorageEntry) : Prop :=
  after = before ∨ (before = none ∧ after = some .directory)

/-- What grows twice grows. -/
theorem Grown.trans
    {first second third : Option StorageEntry}
    (early : Grown first second)
    (late : Grown second third) :
    Grown first third := by
  rcases early with rfl | ⟨rfl, rfl⟩
  · exact late
  · rcases late with rfl | ⟨isNone, _⟩
    · exact .inr ⟨rfl, rfl⟩
    · cases isNone

/-- Nothing has changed but for new directories. -/
structure Grows (before after : Storage) : Prop where
  workingDirectory : after.workingDirectory = before.workingDirectory
  entries : ∀ location, Grown (before.entryAt? location) (after.entryAt? location)

theorem Grows.refl (storage : Storage) : storage.Grows storage :=
  ⟨rfl, fun _ => .inl rfl⟩

theorem Grows.trans
    {first second third : Storage}
    (early : first.Grows second)
    (late : second.Grows third) :
    first.Grows third :=
  ⟨late.workingDirectory.trans early.workingDirectory,
    fun location => (early.entries location).trans (late.entries location)⟩

/-- What grows keeps the contents of files. -/
theorem Grown.content?
    {before after : Storage}
    {location : Location}
    (grown : Grown (before.entryAt? location) (after.entryAt? location)) :
    after.content? location = before.content? location := by
  rcases grown with same | ⟨isNone, isDirectory⟩
  · exact content?_eq_of_entryAt?_eq same
  · rw [Storage.content?, isDirectory, Storage.content?, isNone]

/-- A directory that is made is added to what there is. -/
theorem grows_makeDirectory
    (storage : Storage)
    (path : FilePath)
    (grown : Storage)
    (made : storage.makeDirectory path = .ok grown) :
    storage.Grows grown := by
  unfold makeDirectory at made
  split at made
  · cases made
  · next location _ =>
      split at made
      · cases made
      · next nothing =>
          obtain rfl := Except.ok.inj made
          refine ⟨rfl, fun other => ?_⟩
          by_cases same : other = location
          · subst same
            have isNamed := ne_nil_of_entryAt?_eq_none nothing
            exact .inr ⟨nothing, entryAt?_put_self other isNamed .directory storage⟩
          · exact .inl (entryAt?_put_of_ne location other same .directory storage)

/-- Whatever became of a directory, the storage is the same. -/
theorem fst_settle (storage : Storage) (path : FilePath) (problem : DirectoryProblem) :
    (storage.settle path problem).1 = storage := by
  unfold settle
  split <;> rfl

/-- Making the directories above a path adds directories; by induction on the levels. -/
theorem grows_makeDirectoriesWithin (levels : Nat) (storage : Storage) (path : FilePath) :
    storage.Grows (makeDirectoriesWithin levels storage path).1 := by
  induction levels generalizing path with
  | zero =>
      unfold makeDirectoriesWithin
      split
      · next grown made => exact grows_makeDirectory storage path grown made
      · exact .refl storage
      · rw [fst_settle]
        exact .refl storage
  | succ above inductionHypothesis =>
      unfold makeDirectoriesWithin
      split
      · next grown made => exact grows_makeDirectory storage path grown made
      · have parents := inductionHypothesis path.parent
        simp only
        split
        · next grown accident below => rwa [below] at parents
        · next grown below =>
            rw [below] at parents
            split
            · next complete made =>
                exact parents.trans (grows_makeDirectory grown path complete made)
            · rwa [fst_settle]
      · rw [fst_settle]
        exact .refl storage

/-- Making directories grows the storage, also when an accident ends it. -/
theorem grows_makeDirectories (storage : Storage) (path : FilePath) :
    storage.Grows (storage.makeDirectories path).1 :=
  grows_makeDirectoriesWithin _ storage path

/-! ## Where paths lead -/

/-- Every directory is still there. -/
def KeepsDirectories (before after : Storage) : Prop :=
  ∀ location, before.entryAt? location = some .directory →
    after.entryAt? location = some .directory

/-- Where directories are kept, a path leads to the same location. -/
theorem follow_of_keepsDirectories
    {before after : Storage}
    (kept : before.KeepsDirectories after)
    (parts : List String)
    (start location : Location)
    (leads : before.follow start parts = .ok location) :
    after.follow start parts = .ok location := by
  induction parts generalizing start with
  | nil => exact leads
  | cons part rest inductionHypothesis =>
      unfold follow at leads ⊢
      cases found : before.entryAt? start with
      | none => simp [found] at leads
      | some entry =>
          cases entry with
          | file content => simp [found] at leads
          | directory =>
              simp only [found] at leads
              simp only [kept start found]
              split
              · rename_i isUp
                rw [if_pos isUp] at leads
                exact inductionHypothesis _ leads
              · rename_i isDown
                rw [if_neg isDown] at leads
                split at leads
                · cases leads
                · rename_i short
                  rw [if_neg short]
                  exact inductionHypothesis _ leads

/-- A path leads where it led while the directories stay. -/
theorem locate_of_keepsDirectories
    {before after : Storage}
    (kept : before.KeepsDirectories after)
    (sameStart : after.workingDirectory = before.workingDirectory)
    (path : FilePath)
    (location : Location)
    (leads : before.locate path = .ok location) :
    after.locate path = .ok location := by
  unfold locate at leads ⊢
  rw [sameStart]
  split at leads
  · cases leads
  · next noNull =>
      rw [if_neg noNull]
      split at leads
      · cases leads
      · next short =>
          rw [if_neg short]
          exact follow_of_keepsDirectories kept path.parts _ location leads

/-- The last part of a way begins in a directory and leads above it or to that name in it. -/
theorem exists_of_follow_append_singleton
    (storage : Storage)
    (parts : List String)
    (part : String)
    (start location : Location)
    (leads : storage.follow start (parts ++ [part]) = .ok location) :
    ∃ above, storage.follow start parts = .ok above ∧
      location = if part = ".." then above.dropLast else above ++ [part] := by
  induction parts generalizing start with
  | nil =>
      refine ⟨start, rfl, ?_⟩
      rw [List.nil_append, follow] at leads
      split at leads
      · cases leads
      · cases leads
      · split at leads
        · next isUp => rw [if_pos isUp, Except.ok.inj leads]
        · next isDown =>
            split at leads
            · cases leads
            · rw [if_neg isDown, Except.ok.inj leads]
  | cons first rest inductionHypothesis =>
      rw [List.cons_append, follow] at leads
      rw [follow]
      split at leads
      · cases leads
      · cases leads
      · split at leads
        · next isUp =>
            rw [if_pos isUp]
            exact inductionHypothesis _ leads
        · next isDown =>
            split at leads
            · cases leads
            · next short =>
                rw [if_neg isDown, if_neg short]
                exact inductionHypothesis _ leads

end Storage
end ProtocolTypes
