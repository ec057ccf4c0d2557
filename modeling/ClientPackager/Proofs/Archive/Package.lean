import ClientPackager.Archive.Stream
import ClientPackager.Proofs.Archive.EntryName
import ClientPackager.Proofs.Client.DeclarationText
import ClientPackager.Proofs.Client.ScriptText
import ClientPackager.Proofs.Outcome
import ClientPackager.Proofs.Package.Name

set_option autoImplicit false

namespace ClientPackager

namespace Archive

variable (options : ArchiveOptions)

theorem entries_of_succeeds (name content : String) (present : name ≠ "") (clean : '\x00' ∉ name.toList) :
    ∃ entries, entriesOf options name content = .ok entries := by
  obtain ⟨entry, named⟩ := of_name_succeeds name.toList (by simpa using present) clean
  cases entry <;> simp only [entriesOf, named] <;> exact ⟨_, rfl⟩

-- A file that an archive takes under its path in a tree.
def Packable (file : TreeFile) : Prop := file.path.relative ≠ "" ∧ '\x00' ∉ file.path.relative.toList

theorem of_tree_succeeds (tree : FileTree) (packable : ∀ file ∈ tree.files.items, Packable file) :
    ∃ archive, ofTree options tree = .ok archive := by
  obtain ⟨entries, packed⟩ := map_m_succeeds (fun file : TreeFile => entriesOf options file.path.relative file.content)
    tree.files.items fun file member => entries_of_succeeds options _ _ (packable file member).1 (packable file member).2
  exact ⟨⟨entries.flatten, options.level⟩, by simp only [ofTree, packed]; rfl⟩

theorem mem_replace_or_append {α κ : Type} [DecidableEq κ] (key : α → κ) (item other : α) (items : List α)
    (member : other ∈ Keyed.replaceOrAppend key item items) : other = item ∨ other ∈ items := by
  induction items with
  | nil => exact .inl (by simpa [Keyed.replaceOrAppend] using member)
  | cons first rest ih =>
      rw [Keyed.replaceOrAppend] at member
      split at member
      · exact (List.mem_cons.mp member).imp_right (List.mem_cons_of_mem first)
      · rcases List.mem_cons.mp member with rfl | later
        · exact .inr List.mem_cons_self
        · exact (ih later).imp_right (List.mem_cons_of_mem first)

-- Each file of a package is accepted under its path, so a draft collects no
-- faults and holds files that can be packed only.
structure Sound (draft : Draft) : Prop where
  faultless : draft.faults = []
  packable : ∀ file ∈ draft.tree.files.items, Packable file

theorem add_sound (draft : Draft) (path : FilePath) (content : String) (sound : Sound draft)
    (packable : Packable ⟨path, content⟩) : Sound (draft.add path.text content) := by
  have added : draft.tree.add path.text content = .ok (draft.tree.insert path content) := by
    simp only [FileTree.add, FilePath.parse_text]
    rfl
  simp only [Draft.add, added]
  refine ⟨sound.faultless, ?_⟩
  intro file member
  rcases mem_replace_or_append TreeFile.path _ file draft.tree.files.items member with rfl | old
  · exact packable
  · exact sound.packable file old

theorem add_all_sound (draft : Draft) (files : List (String × String)) (sound : Sound draft)
    (accepted : ∀ file ∈ files, ∃ path : FilePath, file.1 = path.text ∧ Packable ⟨path, file.2⟩) :
    Sound (draft.addAll files) := by
  induction files generalizing draft with
  | nil => exact sound
  | cons file rest ih =>
      obtain ⟨path, named, packable⟩ := accepted file List.mem_cons_self
      have first : Sound (draft.add file.1 file.2) := named ▸ add_sound draft path file.2 sound packable
      exact ih _ first fun later member => accepted later (List.mem_cons_of_mem file member)

theorem of_bundle_succeeds (bundle : Bundle) (accepted : ∀ file ∈ bundle.files,
    ∃ path : FilePath, "/" ++ file.path = path.text ∧ Packable ⟨path, file.content⟩) :
    ∃ archive, ofBundle options bundle = .ok archive := by
  have base : Draft.directory "/" = "/" := by decide
  have sound : Sound (Draft.ofBundle bundle "/") := by
    apply add_all_sound
    · exact ⟨rfl, by simp [Draft.empty, FileTree.empty, Keyed.empty]⟩
    · intro pair member
      obtain ⟨file, listed, rfl⟩ := List.mem_map.mp member
      rw [base]
      exact accepted file listed
  obtain ⟨archive, packed⟩ := of_tree_succeeds options (Draft.ofBundle bundle "/").tree sound.packable
  refine ⟨archive, ?_⟩
  simp only [ofBundle, Draft.build, sound.faultless]
  exact packed

end Archive

namespace Bundle

theorem generate_files (contract : Contract) (spec : PackageSpec) :
    ∃ bundle, generate contract spec = .ok bundle ∧
      ∀ file ∈ bundle.files, ∃ name ∈ [manifestFile, moduleFile, declarationFile],
        file.path = contract.shortName ++ "/" ++ name := by
  have assembled (script : String) (declarations : Option String) :
      ∀ file ∈ (assemble spec contract.shortName script declarations).files,
        ∃ name ∈ [manifestFile, moduleFile, declarationFile], file.path = contract.shortName ++ "/" ++ name := by
    intro file member
    simp only [assemble] at member
    rcases List.mem_append.mp member with always | declared
    · simp only [List.mem_cons, List.not_mem_nil, or_false] at always
      rcases always with rfl | rfl
      · exact ⟨manifestFile, by simp, rfl⟩
      · exact ⟨moduleFile, by simp, rfl⟩
    · split at declared
      · rw [List.mem_singleton.mp declared]
        exact ⟨declarationFile, by simp, rfl⟩
      · simp at declared
  rw [generate, Client.render_script, Client.render_declarations]
  cases spec.declarations <;> exact ⟨_, rfl, assembled _ _⟩

end Bundle

end ClientPackager
