import ClientPackager.Command.Run
import ClientPackager.Proofs.Disk.Running
import ClientPackager.Proofs.Outcome

set_option autoImplicit false

namespace ClientPackager.Command

theorem run_on_disk {α : Type} (before after : Disk) (what : String) (given : StateM Disk (Except DiskFault α))
    (value : α) (done : given before = (.ok value, after)) : (onDisk what given).run before = (.ok value, after) := by
  simp only [onDisk, ExceptT.run, ExceptT.mk, bind, StateT.bind, done]
  rfl

variable (config : Config) (format : OutputFormat) (setting : Setting)

-- A contract is read from a disk before anything is done to it.
def Introspects (disk : Disk) (order : MethodOrder) (document : String) (contract : Contract) : Prop :=
  ∃ text doc, disk.readText document = .ok text ∧ Reflection.ofFileText document text = .ok doc ∧
    Contract.ofReflection order doc = .ok contract

theorem run_introspection {α : Type} (disk : Disk) (order : MethodOrder) (document : String) (contract : Contract)
    (introspected : Introspects disk order document contract) (next : Contract → ExceptT Failure (StateM Disk) α) :
    (do let doc ← (liftM (Reflection.load (m := StateM Disk) document) : ExceptT Failure (StateM Disk) _)
        let contract ← ExceptT.mk (return contractOf order document doc)
        next contract).run disk = (next contract).run disk := by
  obtain ⟨text, doc, read, parsed, made⟩ := introspected
  have loaded : Reflection.load (m := StateM Disk) document disk = (.ok doc, disk) := by
    rw [run_load, (disk.document_ok document doc).mpr ⟨text, read, parsed⟩]
  have worked : contractOf order document (.ok doc) = .ok contract := by
    change doing _ (Contract.ofReflection order doc) = .ok contract
    rw [made]
    rfl
  rw [run_bind_ok _ _ disk disk _ (run_lifted disk disk _ _ loaded),
    run_bind_ok _ _ disk disk contract (by rw [worked]; rfl)]

theorem generate_fails (disk : Disk) (choices : GenerateChoices) (contract : Contract) (failure : Failure)
    (introspected : Introspects disk (orderOf config choices.alphabetical) choices.document contract)
    (refused : packageOf choices config setting.today contract = .error failure) :
    (runGenerate (m := StateM Disk) config format setting choices).run disk = (.error failure, disk) := by
  rw [runGenerate, run_introspection disk _ _ contract introspected, run_bind_error _ _ disk disk failure]
  rw [refused]
  rfl

theorem run_displayed (disk : Disk) (path : String) :
    ∃ shown, (liftM (displayed (m := StateM Disk) path) : ExceptT Failure (StateM Disk) _).run disk =
      (.ok shown, disk) := by
  cases named : disk.canonical path with
  | ok full =>
      refine ⟨full, run_lifted disk disk _ _ ?_⟩
      simp only [displayed, FileStore.canonical, bind, StateT.bind, named]
      rfl
  | error fault =>
      refine ⟨path, run_lifted disk disk _ _ ?_⟩
      simp only [displayed, FileStore.canonical, bind, StateT.bind, named]
      rfl

theorem run_write_archive (disk after : Disk) (home path : String) (bundle : Bundle) (archive : Archive)
    (packed : Archive.ofBundle .standard bundle = .ok archive)
    (written : disk.write (DiskPath.expandTilde home path) (.archive archive) = .ok after) :
    (writeArchive (m := StateM Disk) home path bundle).run disk = (.ok (DiskPath.expandTilde home path), after) := by
  have changed : FileStore.write (m := StateM Disk) (DiskPath.expandTilde home path) (.archive archive) disk =
      (.ok (), after) := by
    simp only [FileStore.write, Disk.change, written]
  rw [writeArchive, run_bind_ok _ _ disk disk archive (by rw [packed]; rfl),
    run_bind_ok _ _ disk after () (run_on_disk disk after _ _ () changed)]
  rfl

theorem generate_archives (disk after : Disk) (choices : GenerateChoices) (contract : Contract) (spec : PackageSpec)
    (bundle : Bundle) (archive : Archive) (path : String) (chosen : choices.archive = some path)
    (introspected : Introspects disk (orderOf config choices.alphabetical) choices.document contract)
    (packaged : packageOf choices config setting.today contract = .ok (spec, bundle))
    (packed : Archive.ofBundle .standard bundle = .ok archive)
    (written : disk.write (DiskPath.expandTilde setting.home path) (.archive archive) = .ok after) :
    ∃ output, (runGenerate (m := StateM Disk) config format setting choices).run disk = (.ok output, after) := by
  obtain ⟨shown, display⟩ := run_displayed after (DiskPath.expandTilde setting.home path)
  rw [runGenerate, run_introspection disk _ _ contract introspected,
    run_bind_ok _ _ disk disk (spec, bundle) (by rw [packaged]; rfl)]
  simp only [chosen]
  rw [run_bind_ok _ _ disk after _ (run_write_archive disk after setting.home path bundle archive packed written),
    run_bind_ok _ _ after after shown display]
  exact ⟨_, rfl⟩

end ClientPackager.Command
