import ClientPackager.Proofs.Disk.Write

set_option autoImplicit false

namespace ClientPackager.Disk

-- All that there was is there, and what is new are directories.
def Grown (before after : Disk) : Prop := ∀ spot, after.node? spot = before.node? spot ∨
  before.node? spot = none ∧ after.node? spot = some .directory

theorem grown_refl (disk : Disk) : Grown disk disk := fun _ => .inl rfl

theorem grown_trans (first second third : Disk) (early : Grown first second) (late : Grown second third) :
    Grown first third := by
  intro spot
  rcases late spot with same | ⟨free, made⟩
  · rw [same]
    exact early spot
  · rcases early spot with same | ⟨_, already⟩
    · exact .inr ⟨same ▸ free, made⟩
    · rw [free] at already
      cases already

def IsDirectory (disk : Disk) (path : String) : Prop := ∃ place, disk.find path = .ok (place, .directory)

theorem is_directory_asked (disk : Disk) (path : String) : ∃ answer,
    FileStore.isDirectory (m := StateM Disk) path disk = (answer, disk) ∧ (answer = true ↔ disk.IsDirectory path) := by
  cases found : disk.find path with
  | error fault =>
      refine ⟨false, ?_, by simp [IsDirectory, found]⟩
      simp only [FileStore.isDirectory, FileStore.kind?, found, bind, StateT.bind]
      rfl
  | ok there =>
      obtain ⟨place, node⟩ := there
      refine ⟨decide (node = .directory), ?_, by simp [IsDirectory, found]⟩
      simp only [FileStore.isDirectory, FileStore.kind?, found, bind, StateT.bind]
      cases node <;> rfl

theorem is_directory_iff (disk : Disk) (path : String) : disk.IsDirectory path ↔
    ∃ target, disk.locate path = .ok target ∧ disk.node? target.place = some .directory := by
  rw [IsDirectory]
  cases located : disk.locate path with
  | error fault => simp [find, located, bind, Except.bind]
  | ok target =>
      simp only [find, located, bind, Except.bind]
      cases held : disk.node? target.place with
      | none => simp [held, throw, throwThe, MonadExceptOf.throw]
      | some node =>
          cases node with
          | directory => simp [held, pure, Except.pure]
          | file content =>
              cases slashed : target.slashed <;> simp [held, throw, throwThe, MonadExceptOf.throw, pure, Except.pure]

theorem make_directory_ok (disk after : Disk) (path : String) (made : disk.makeDirectory path = .ok after) :
    Grown disk after ∧ after.IsDirectory path ∧ ¬ disk.IsDirectory path := by
  simp only [makeDirectory, bind_eq_ok, unless_refused, pure, Except.pure, Except.ok.injEq] at made
  obtain ⟨target, located, free, rfl⟩ := made
  have none : disk.node? target.place = none := by simpa using free
  have solid : disk.node? target.place ≠ some .directory := by simp [none]
  have node := fun spot => node_put disk target.place .directory spot (not_root disk target.place solid)
  refine ⟨fun spot => ?_, ?_, ?_⟩
  · rw [node]
    split
    · next here => exact .inr ⟨here ▸ none, rfl⟩
    · exact .inl rfl
  · rw [is_directory_iff]
    exact ⟨target, locate_put disk target.place .directory solid path target located, by rw [node, if_pos rfl]⟩
  · rw [is_directory_iff]
    rintro ⟨other, again, there⟩
    rw [located] at again
    cases again
    exact solid there

-- Making a directory leaves one at the path, and changes nothing if there was one.
structure Made (before after : Disk) (path : String) : Prop where
  grown : Grown before after
  there : after.IsDirectory path
  idle : before.IsDirectory path → after = before

theorem ensure_run (disk after : Disk) (path : String) (result : Except DiskFault Unit)
    (ran : FileStore.ensureDirectory (m := StateM Disk) path disk = (result, after)) :
    result = .ok () ∧ Made disk after path ∨
      (∃ fault, result = .error fault) ∧ after = disk ∧ ¬ disk.IsDirectory path := by
  obtain ⟨answer, asked, answered⟩ := is_directory_asked disk path
  cases made : disk.makeDirectory path with
  | ok grown =>
      obtain ⟨more, there, absent⟩ := make_directory_ok disk grown path made
      simp only [FileStore.ensureDirectory, FileStore.makeDirectory, change, bind, StateT.bind, made] at ran
      cases ran
      exact .inl ⟨rfl, more, there, fun before => absurd before absent⟩
  | error fault =>
      simp only [FileStore.ensureDirectory, FileStore.makeDirectory, change, bind, StateT.bind, made, asked] at ran
      cases answer with
      | true =>
          cases ran
          exact .inl ⟨rfl, grown_refl disk, answered.mp rfl, fun _ => rfl⟩
      | false =>
          cases ran
          exact .inr ⟨⟨fault, rfl⟩, rfl, fun there => by cases answered.mpr there⟩

theorem make_upward_run (paths : List String) (disk after : Disk) (result : Except DiskFault Unit)
    (ran : FileStore.makeUpward (m := StateM Disk) paths disk = (result, after)) :
    Grown disk after ∧ (result = .ok () → ∀ path ∈ paths.head?, Made disk after path) := by
  induction paths generalizing disk after result with
  | nil =>
      cases ran
      exact ⟨grown_refl disk, by simp⟩
  | cons path above ih =>
      rw [FileStore.makeUpward] at ran
      cases first : FileStore.ensureDirectory (m := StateM Disk) path disk with
      | mk early mid =>
          simp only [bind, StateT.bind, first] at ran
          rcases ensure_run disk mid path early first with ⟨rfl, made⟩ | ⟨⟨fault, rfl⟩, rfl, absent⟩
          · cases ran
            exact ⟨made.grown, fun _ other shown => by simpa [← Option.some.inj shown] using made⟩
          · by_cases missing : fault = .notFound
            · subst missing
              cases outer : FileStore.makeUpward (m := StateM Disk) above mid with
              | mk opened opening =>
                  obtain ⟨grown, _⟩ := ih mid opening opened outer
                  simp only [StateT.bind, outer] at ran
                  cases opened with
                  | error fault =>
                      cases ran
                      exact ⟨grown, fun done => by cases done⟩
                  | ok _ =>
                      rcases ensure_run opening after path result ran with ⟨_, made⟩ | ⟨⟨fault, rfl⟩, rfl, _⟩
                      · refine ⟨grown_trans _ _ _ grown made.grown, fun _ other shown => ?_⟩
                        rw [← Option.some.inj shown]
                        exact ⟨grown_trans _ _ _ grown made.grown, made.there, fun there => absurd there absent⟩
                      · exact ⟨grown, fun done => by cases done⟩
            · have refused : (.error fault, mid) = (result, after) := by
                cases fault <;> first | exact absurd rfl missing | exact ran
              cases refused
              exact ⟨grown_refl _, fun done => by cases done⟩

theorem make_directories_run (disk after : Disk) (path : String)
    (ran : FileStore.makeDirectories (m := StateM Disk) path disk = (.ok (), after)) :
    path = "" ∧ after = disk ∨ path ≠ "" ∧ Made disk after path := by
  rw [FileStore.makeDirectories, DiskPath.upward] at ran
  split at ran
  · next empty =>
      cases ran
      exact .inl ⟨empty, rfl⟩
  · next present => exact .inr ⟨present, (make_upward_run _ disk after (.ok ()) ran).2 rfl path rfl⟩

end ClientPackager.Disk
