import ClientPackager.Proofs.Command.Generate
import ClientPackager.Proofs.Contract.Encoding
import ClientPackager.Proofs.Disk.Failing
import ClientPackager.Proofs.Disk.Making
import ClientPackager.Proofs.Package.Placement

set_option autoImplicit false

namespace ClientPackager.Command

-- The disk itself failed.
def isDisk (failure : Failure) : Bool :=
  match failure.cause with
  | .disk _ | .tree (.disk _ _) => true
  | _ => false

theorem on_disk_run {α : Type} (before after : Disk) (what : String) (given : StateM Disk (Except DiskFault α))
    (result : Except Failure α) (ran : (onDisk what given).run before = (result, after)) :
    (∃ value, result = .ok value ∧ given before = (.ok value, after)) ∨ ∃ failure, result = .error failure ∧
      isDisk failure = true := by
  simp only [onDisk, ExceptT.run, ExceptT.mk, bind, StateT.bind] at ran
  cases done : given before with
  | mk outcome mid =>
      rw [done] at ran
      cases ran
      cases outcome with
      | ok value => exact .inl ⟨value, rfl, rfl⟩
      | error fault => exact .inr ⟨_, rfl, rfl⟩

theorem write_archive_failed (disk after : Disk) (home path : String) (bundle : Bundle) (failure : Failure)
    (failed : (writeArchive (m := StateM Disk) home path bundle).run disk = (.error failure, after)) :
    isDisk failure = true ∨ after = disk := by
  rw [writeArchive] at failed
  rcases run_bind_failed _ _ disk after failure failed with packing | ⟨archive, mid, packed, later⟩
  · exact .inr (Prod.mk.inj packing).2.symm
  · rcases run_bind_failed _ _ mid after failure later with writing | ⟨_, _, _, finished⟩
    · rcases on_disk_run mid after _ _ _ writing with ⟨_, same, _⟩ | ⟨_, same, own⟩
      · cases same
      · cases same
        exact .inl own
    · cases finished

-- Where a package without an archive goes.
def folderOf (setting : Setting) (choices : GenerateChoices) : String :=
  DiskPath.expandTilde setting.home (choices.output.getD ".")

-- Files that have no place in a directory: the path of one of them has an empty
-- piece, or the directory is not the one that was made.
inductive Unplaced (setting : Setting) (choices : GenerateChoices) (contract : Contract) : Failure → Prop where
  | emptyPiece (inside : [] ∈ Text.pieces '/' contract.shortName.toList) : Unplaced setting choices contract
      ⟨none, .tree (.invalidSegment ("/" ++ (contract.shortName ++ "/" ++ manifestFile)) .empty)⟩
  | elsewhere (other : DiskPath.expandTilde setting.home (folderOf setting choices) ≠ folderOf setting choices ∨
      folderOf setting choices = "") : Unplaced setting choices contract
      ⟨none, .tree (.fileNotFound (DiskPath.expandTilde setting.home (folderOf setting choices)))⟩

theorem discarded_failed (disk after : Disk) (action : ExceptT TreeFault (StateM Disk) FileTree) (failure : Failure)
    (failed : (discard (ExceptT.mk do return inTree (← action.run)) : ExceptT Failure (StateM Disk) Unit).run disk =
      (.error failure, after)) :
    ∃ fault, failure = ⟨none, .tree fault⟩ ∧ action.run disk = (.error fault, after) := by
  cases ran : action.run disk with
  | mk outcome done =>
      simp only [discard, Functor.mapConst, ExceptT.map, ExceptT.mk, ExceptT.run, Function.comp_def,
        Function.const, bind, StateT.bind] at failed ran
      rw [ran] at failed
      cases outcome with
      | ok tree => cases failed
      | error fault =>
          cases failed
          exact ⟨fault, rfl, rfl⟩

theorem build_and_run_failed (disk after : Disk) (contract : Contract) (spec : PackageSpec) (bundle : Bundle)
    (home base : String) (fault : TreeFault) (generated : Bundle.generate contract spec = .ok bundle)
    (failed : (Export.buildAndRun (m := StateM Disk) (Draft.ofBundle bundle "/") home base).run disk =
      (.error fault, after)) :
    Export.OfDisk fault ∨ after = disk ∧
      ([] ∈ Text.pieces '/' contract.shortName.toList ∧
        fault = .invalidSegment ("/" ++ (contract.shortName ++ "/" ++ manifestFile)) .empty ∨
      fault = .fileNotFound (DiskPath.expandTilde home base) ∧
        ∀ found, disk.find (DiskPath.expandTilde home base) ≠ .ok found) := by
  rw [Export.buildAndRun, Bundle.generated_build contract spec bundle generated] at failed
  by_cases empty : [] ∈ Text.pieces '/' contract.shortName.toList
  · rw [if_pos empty] at failed
    cases failed
    exact .inr ⟨rfl, .inl ⟨empty, rfl⟩⟩
  · rw [if_neg empty, run_bind_ok _ _ disk disk (Draft.ofBundle bundle "/").tree (by rfl)] at failed
    rcases run_bind_failed _ _ disk after fault failed with here | ⟨_, _, _, finished⟩
    · rcases Export.run_failed _ _ _ disk after fault here with own | ⟨rfl, same, lost⟩
      · exact .inl own
      · exact .inr ⟨same, .inr ⟨rfl, lost⟩⟩
    · cases finished

theorem write_directory_failed (disk after : Disk) (setting : Setting) (choices : GenerateChoices) (contract : Contract)
    (spec : PackageSpec) (bundle : Bundle) (failure : Failure) (generated : Bundle.generate contract spec = .ok bundle)
    (failed : (writeDirectory (m := StateM Disk) setting.home (choices.output.getD ".") bundle).run disk =
      (.error failure, after)) :
    isDisk failure = true ∨
      FileStore.makeDirectories (m := StateM Disk) (folderOf setting choices) disk = (.ok (), after) ∧
        Unplaced setting choices contract failure := by
  rw [writeDirectory] at failed
  rcases run_bind_failed _ _ disk after failure failed with making | ⟨_, mid, made, later⟩
  · rcases on_disk_run disk after _ _ _ making with ⟨_, same, _⟩ | ⟨_, same, own⟩
    · cases same
    · cases same
      exact .inl own
  · rcases on_disk_run disk mid _ _ _ made with ⟨_, _, ran⟩ | ⟨_, same, _⟩
    · rcases run_bind_failed _ _ mid after failure later with writing | ⟨_, _, _, finished⟩
      · obtain ⟨fault, rfl, delivered⟩ := discarded_failed mid after _ failure writing
        rcases build_and_run_failed mid after contract spec bundle _ _ fault generated delivered with
          ⟨path, reason, rfl⟩ | ⟨rfl, ⟨empty, rfl⟩ | ⟨rfl, lost⟩⟩
        · exact .inl rfl
        · exact .inr ⟨ran, .emptyPiece empty⟩
        · refine .inr ⟨ran, .elsewhere (Decidable.byContradiction fun found => ?_)⟩
          rw [not_or, ne_eq, not_not] at found
          rcases Disk.make_directories_run disk after _ ran with ⟨empty, _⟩ | ⟨_, made⟩
          · exact found.2 empty
          · obtain ⟨place, there⟩ := made.there
            exact lost _ (by rw [← folderOf, found.1]; exact there)
      · cases finished
    · cases same

theorem doing_ok {α : Type} (what : String) (outcome : Outcome α) (value : α)
    (done : doing what outcome = .ok value) : outcome = .ok value := by
  cases outcome <;> cases done
  rfl

-- A report on what was done is always written.
theorem shown_finishes (disk after : Disk) (path : String) (report : String → String) (failure : Failure) :
    (do let shown ← (liftM (displayed (m := StateM Disk) path) : ExceptT Failure (StateM Disk) _)
        pure (report shown)).run disk ≠ (.error failure, after) := by
  obtain ⟨shown, display⟩ := run_displayed disk path
  rw [run_bind_ok _ _ disk disk shown display]
  intro same
  cases same

section Generate

variable (config : Config) (format : OutputFormat) (setting : Setting) (choices : GenerateChoices)

theorem package_of_generated (today : Version) (contract : Contract) (spec : PackageSpec) (bundle : Bundle)
    (packaged : packageOf choices config today contract = .ok (spec, bundle)) :
    Bundle.generate contract spec = .ok bundle := by
  simp only [packageOf, unless_refused, bind_eq_ok] at packaged
  obtain ⟨_, name, _, files, generated, same⟩ := packaged
  cases same
  cases made : Bundle.generate contract _ with
  | ok bundle =>
      rw [made] at generated
      cases generated
      rfl
  | error fault =>
      rw [made] at generated
      cases generated

theorem generate_uninspected (disk : Disk) (unknown : ∀ contract,
    ¬ Introspects disk (orderOf config choices.alphabetical) choices.document contract) :
    ∃ failure, (runGenerate (m := StateM Disk) config format setting choices).run disk = (.error failure, disk) := by
  have loaded := run_load disk choices.document
  cases worked : contractOf (orderOf config choices.alphabetical) choices.document (disk.document choices.document) with
  | error failure =>
      refine ⟨failure, ?_⟩
      rw [runGenerate, run_bind_ok _ _ disk disk _ (run_lifted disk disk _ _ loaded),
        run_bind_error _ _ disk disk failure (by rw [worked]; rfl)]
  | ok contract =>
      obtain ⟨reflection, parsed, made⟩ := (bind_eq_ok _ _ _).mp worked
      obtain ⟨text, there, same⟩ := (disk.document_ok _ reflection).mp (doing_ok _ _ _ parsed)
      exact absurd ⟨text, reflection, there, same, doing_ok _ _ _ made⟩ (unknown contract)

-- A package is ready and the directory for it is still to be made.
structure Stray (disk : Disk) : Prop where
  folder : choices.archive = none
  packaged : ∃ contract spec bundle,
    Introspects disk (orderOf config choices.alphabetical) choices.document contract ∧
      packageOf choices config setting.today contract = .ok (spec, bundle)
  named : folderOf setting choices ≠ ""
  missing : ¬ disk.IsDirectory (folderOf setting choices)

theorem packaged_failed (disk after : Disk) (failure : Failure) (contract : Contract) (spec : PackageSpec)
    (bundle : Bundle)
    (introspected : Introspects disk (orderOf config choices.alphabetical) choices.document contract)
    (packaged : packageOf choices config setting.today contract = .ok (spec, bundle))
    (failed : (runGenerate (m := StateM Disk) config format setting choices).run disk = (.error failure, after))
    (own : isDisk failure = false) :
    (∃ path, choices.archive = some path) ∧ after = disk ∨ choices.archive = none ∧
      FileStore.makeDirectories (m := StateM Disk) (folderOf setting choices) disk = (.ok (), after) ∧
        Unplaced setting choices contract failure := by
  have generated := package_of_generated config choices setting.today contract spec bundle packaged
  rw [runGenerate, run_introspection disk _ _ contract introspected,
    run_bind_ok _ _ disk disk (spec, bundle) (by rw [packaged]; rfl)] at failed
  cases chosen : choices.archive with
  | some path =>
      simp only [chosen] at failed
      rcases run_bind_failed _ _ disk after failure failed with writing | ⟨_, mid, _, shown⟩
      · rcases write_archive_failed disk after _ _ bundle failure writing with lost | same
        · rw [own] at lost
          cases lost
        · exact .inl ⟨⟨path, rfl⟩, same⟩
      · exact absurd shown (shown_finishes mid after _ _ failure)
  | none =>
      simp only [chosen] at failed
      rcases run_bind_failed _ _ disk after failure failed with writing | ⟨_, mid, _, shown⟩
      · rcases write_directory_failed disk after setting choices contract spec bundle failure generated writing with
          lost | unplaced
        · rw [own] at lost
          cases lost
        · exact .inr ⟨rfl, unplaced⟩
      · exact absurd shown (shown_finishes mid after _ _ failure)

theorem failed_generate_spares_disk (disk after : Disk) (failure : Failure)
    (failed : (runGenerate (m := StateM Disk) config format setting choices).run disk = (.error failure, after))
    (own : isDisk failure = false) :
    (after = disk ↔ ¬ Stray config setting choices disk) ∧
    (after ≠ disk → Disk.Grown disk after ∧ after.IsDirectory (folderOf setting choices) ∧
      ∃ contract, Introspects disk (orderOf config choices.alphabetical) choices.document contract ∧
        Unplaced setting choices contract failure) := by
  by_cases packaged : ∃ contract spec bundle,
      Introspects disk (orderOf config choices.alphabetical) choices.document contract ∧
        packageOf choices config setting.today contract = .ok (spec, bundle)
  · obtain ⟨contract, spec, bundle, introspected, ready⟩ := packaged
    have outcome := packaged_failed config format setting choices disk after failure contract spec bundle introspected
      ready failed own
    rcases outcome with ⟨⟨path, archived⟩, same⟩ | ⟨folder, made, unplaced⟩
    · refine ⟨⟨fun _ stray => ?_, fun _ => same⟩, fun other => absurd same other⟩
      have folder := stray.folder
      rw [archived] at folder
      cases folder
    · rcases Disk.make_directories_run disk after _ made with ⟨empty, same⟩ | ⟨named, made⟩
      · exact ⟨⟨fun _ stray => stray.named empty, fun _ => same⟩, fun other => absurd same other⟩
      · refine ⟨⟨fun same stray => stray.missing (same ▸ made.there), fun settled => made.idle ?_⟩, fun _ =>
          ⟨made.grown, made.there, contract, introspected, unplaced⟩⟩
        by_contra missing
        exact settled ⟨folder, ⟨contract, spec, bundle, introspected, ready⟩, named, missing⟩
  · have same : after = disk := by
      by_cases known : ∃ contract, Introspects disk (orderOf config choices.alphabetical) choices.document contract
      · obtain ⟨contract, introspected⟩ := known
        cases ready : packageOf choices config setting.today contract with
        | ok both => exact absurd ⟨contract, both.1, both.2, introspected, ready⟩ packaged
        | error refusal =>
            rw [generate_fails config format setting disk choices contract refusal introspected ready] at failed
            exact (Prod.mk.inj failed).2.symm
      · obtain ⟨refusal, ran⟩ := generate_uninspected config format setting choices disk (not_exists.mp known)
        rw [ran] at failed
        exact (Prod.mk.inj failed).2.symm
    exact ⟨⟨fun _ stray => packaged stray.packaged, fun _ => same⟩, fun other => absurd same other⟩

def specNamed (today : Version) (contract : Contract) (name : PackageName) : PackageSpec where
  name := name
  version := (choices.version.map Version.mk).getD today
  description := choices.description.getD (Server.description config contract.shortName)
  declarations := config.declarations && !choices.noDeclarations

theorem package_of_named (today : Version) (contract : Contract) (callable : contract.isEmpty = false)
    (name : PackageName) (named : nameOf choices contract = .ok name) :
    ∃ bundle, packageOf choices config today contract = .ok (specNamed config choices today contract name, bundle) := by
  obtain ⟨bundle, generated, _⟩ := Bundle.generate_files contract (specNamed config choices today contract name)
  refine ⟨bundle, ?_⟩
  simp only [packageOf, callable, Bool.false_eq_true, if_false, named]
  change (plainly (Bundle.generate contract (specNamed config choices today contract name))).bind _ = _
  rw [generated]
  rfl

-- The directory is made before the files are given their places in it.
theorem generate_strays (disk after : Disk) (contract : Contract) (spec : PackageSpec) (bundle : Bundle)
    (folder : choices.archive = none)
    (introspected : Introspects disk (orderOf config choices.alphabetical) choices.document contract)
    (packaged : packageOf choices config setting.today contract = .ok (spec, bundle))
    (made : FileStore.makeDirectories (m := StateM Disk) (folderOf setting choices) disk = (.ok (), after))
    (empty : [] ∈ Text.pieces '/' contract.shortName.toList) :
    (runGenerate (m := StateM Disk) config format setting choices).run disk =
      (.error ⟨none, .tree (.invalidSegment ("/" ++ (contract.shortName ++ "/" ++ manifestFile)) .empty)⟩, after) := by
  have generated := package_of_generated config choices setting.today contract spec bundle packaged
  have refused := Bundle.generated_build contract spec bundle generated
  rw [if_pos empty] at refused
  rw [runGenerate, run_introspection disk _ _ contract introspected,
    run_bind_ok _ _ disk disk (spec, bundle) (by rw [packaged]; rfl)]
  simp only [folder]
  apply run_bind_error
  rw [folderOf] at made
  rw [writeDirectory, run_bind_ok _ _ disk after () (run_on_disk disk after _ _ () made)]
  apply run_bind_error
  simp only [Export.buildAndRun, refused]
  rfl

end Generate

-- A route that ends in a dot.
def danglingText : String := "[\"org.demo.PagerImpl\",\"org.demo.\",null,[[\"page\",\"direct\"]]]"

def danglingDocument : Reflection :=
  ⟨"org.demo.PagerImpl", some "org.demo.", none, [⟨"page", some .direct, false, none, false, [], "void"⟩], []⟩

def danglingContract : Contract :=
  ⟨⟨"org.demo."⟩, "org.demo.PagerImpl", none, .declaration,
    [⟨"page", [], .void, false, none, false, .fireAndForget, false, .void⟩], ⟨[]⟩⟩

def danglingDisk : Disk := (Disk.empty ["home"]).put ["home", "pager.json"] (.file (.text danglingText))

def danglingSetting : Setting := ⟨"/home", "/home/.config", none, ⟨"2024.05.01"⟩, false⟩

def danglingChoices (output : String) : GenerateChoices :=
  ⟨"pager.json", some "@demo/pager", some "1.0.0", none, some output, none, false, false⟩

theorem dangling_introspected : Introspects danglingDisk .declaration "pager.json" danglingContract := by
  refine ⟨danglingText, danglingDocument, rfl, ?_, rfl⟩
  have written :
      danglingText = (Reflection.brief "org.demo.PagerImpl" "org.demo." none [("page", .direct)]).compact := rfl
  rw [Reflection.of_json_file danglingText rfl, written, Reflection.brief_decoded _ _ _ _ danglingDocument rfl]

theorem dangling_fails (output : String) (after : Disk)
    (made : FileStore.makeDirectories (m := StateM Disk) (DiskPath.expandTilde "/home" output) danglingDisk =
      (.ok (), after)) :
    (runGenerate (m := StateM Disk) {} .pretty danglingSetting (danglingChoices output)).run danglingDisk =
      (.error ⟨none, .tree (.invalidSegment "//package.json" .empty)⟩, after) := by
  obtain ⟨bundle, packaged⟩ := package_of_named {} (danglingChoices output) ⟨"2024.05.01"⟩ danglingContract rfl
    ⟨"@demo/pager", by decide, by decide⟩ rfl
  exact generate_strays {} .pretty danglingSetting (danglingChoices output) danglingDisk after danglingContract _ bundle
    rfl dangling_introspected packaged made (by decide)

theorem dangling_spares_home :
    (runGenerate (m := StateM Disk) {} .pretty danglingSetting (danglingChoices "~")).run danglingDisk =
      (.error ⟨none, .tree (.invalidSegment "//package.json" .empty)⟩, danglingDisk) ∧
    ¬ Stray {} danglingSetting (danglingChoices "~") danglingDisk := by
  have failed := dangling_fails "~" danglingDisk rfl
  obtain ⟨spared, _⟩ := failed_generate_spares_disk {} .pretty danglingSetting (danglingChoices "~") danglingDisk
    danglingDisk _ failed rfl
  exact ⟨failed, spared.mp rfl⟩

theorem dangling_leaves_directory : ∃ failure after,
    (runGenerate (m := StateM Disk) {} .pretty danglingSetting (danglingChoices "out")).run danglingDisk =
      (.error failure, after) ∧ isDisk failure = false ∧
    danglingDisk.node? ["home", "out"] = none ∧ after.node? ["home", "out"] = some .directory := by
  refine ⟨_, _, dangling_fails "out" _ rfl, rfl, by decide +kernel, by decide +kernel⟩

end ClientPackager.Command
