import ClientPackager.Proofs.Command.Generate
import ClientPackager.Proofs.Contract.Encoding
import ClientPackager.Proofs.Disk.Write
import ClientPackager.Proofs.Server.Export

set_option autoImplicit false

namespace ClientPackager.Command

-- Nothing is chosen but the document, a name, a version and the archive.
def archiveChoices (document name version path : String) : GenerateChoices :=
  ⟨document, some name, some version, none, none, some path, false, false⟩

def soleServer (contract : Contract) (config : Config) : Server := ⟨Catalog.ofList [contract], config⟩

section Choices

variable (config : Config) (setting : Setting) (contract : Contract) (document name version path : String)

theorem idle_service_refused (idle : contract.isEmpty = true) :
    ∃ failure, packageOf (archiveChoices document name version path) config setting.today contract =
      .error failure := by
  simp only [packageOf, idle, if_true]
  exact ⟨_, rfl⟩

theorem invalid_name_refused (callable : contract.isEmpty = false) (defect : PackageName.Defect)
    (refused : PackageName.parse name = .error defect) :
    ∃ failure, packageOf (archiveChoices document name version path) config setting.today contract =
      .error failure := by
  simp only [packageOf, callable, Bool.false_eq_true, if_false, nameOf, archiveChoices, refused]
  exact ⟨_, rfl⟩

theorem package_of_choices (callable : contract.isEmpty = false) (package : PackageName)
    (parsed : PackageName.parse name = .ok package) (bundle : Bundle)
    (generated : Bundle.generate contract ⟨package, ⟨version⟩, Server.description config contract.shortName,
      config.declarations⟩ = .ok bundle) :
    ∃ spec, packageOf (archiveChoices document name version path) config setting.today contract =
      .ok (spec, bundle) := by
  rw [← Bool.and_true config.declarations] at generated
  refine ⟨⟨package, ⟨version⟩, Server.description config contract.shortName, config.declarations && true⟩, ?_⟩
  simp only [packageOf, callable, Bool.false_eq_true, if_false, nameOf, archiveChoices, parsed]
  change (plainly (Bundle.generate contract
    ⟨package, ⟨version⟩, Server.description config contract.shortName, config.declarations && true⟩)).bind _ = _
  rw [generated]
  rfl

end Choices

theorem plain_package (name : String) (plain : Text.hasLeading "/" name = false) : Server.packageOf name = name := by
  rw [Server.packageOf, Text.dropLeading]
  split
  · next head rest shape =>
      have other : head ≠ '/' := by
        rintro rfl
        simp [Text.hasLeading, shape] at plain
      rw [if_neg other]
  · rfl

theorem sole_candidate (contract : Contract) (config : Config) (name : String)
    (plain : Text.hasLeading "/" name = false) (short : Text.afterLast '/' name = contract.shortName) :
    (soleServer contract config).candidate? name = some contract := by
  rw [Server.candidate?, plain_package name plain, short]
  simp [soleServer, Catalog.findByShortName?, Catalog.ofList, Catalog.toList, Catalog.insert, Catalog.empty,
    Keyed.insert, Keyed.empty, Keyed.replaceOrAppend]

-- What is served and what is written at a path are there together, and the
-- same archive.
def Agree (served : Except ServerFault Archive) (ran : Except Failure String × Disk) (path : String) : Prop :=
  ((∃ archive, served = .ok archive) ↔ ∃ output after, ran = (.ok output, after)) ∧
  ∀ archive output after, served = .ok archive → ran = (.ok output, after) →
    ∃ place, after.find path = .ok (place, .file (.archive archive))

theorem agree_refused (fault : ServerFault) (failure : Failure) (disk : Disk) (path : String) :
    Agree (.error fault) (.error failure, disk) path := by
  simp [Agree]

theorem agree_delivered (disk after : Disk) (archive : Archive) (output path : String)
    (written : disk.write path (.archive archive) = .ok after) : Agree (.ok archive) (.ok output, after) path := by
  refine ⟨⟨fun _ => ⟨output, after, rfl⟩, fun _ => ⟨archive, rfl⟩⟩, ?_⟩
  intro other _ later served ran
  cases served
  cases ran
  exact Disk.find_written disk path _ after written

theorem command_and_server_agree (config : Config) (format : OutputFormat) (setting : Setting) (disk : Disk)
    (document text : String) (doc : Reflection) (contract : Contract) (name version path : String)
    (read : disk.readText document = .ok text) (parsed : Reflection.ofFileText document text = .ok doc)
    (introspected : Contract.ofReflection config.methodOrder doc = .ok contract)
    (plain : Text.hasLeading "/" name = false) (short : Text.afterLast '/' name = contract.route.shortName)
    (writable : ∀ archive, ∃ after,
      disk.write (DiskPath.expandTilde setting.home path) (.archive archive) = .ok after) :
    Agree ((soleServer contract config).exportPackage name ⟨version⟩)
      ((runGenerate (m := StateM Disk) config format setting (archiveChoices document name version path)).run disk)
      (DiskPath.expandTilde setting.home path) := by
  have found := sole_candidate contract config name plain short
  have known : Introspects disk config.methodOrder document contract := ⟨text, doc, read, parsed, introspected⟩
  have fails (failure : Failure) := generate_fails config format setting disk
    (archiveChoices document name version path) contract failure known
  cases methods : contract.isEmpty with
  | true =>
      obtain ⟨failure, refused⟩ := idle_service_refused config setting contract document name version path methods
      have unserved := Server.export_not_found (soleServer contract config) name ⟨version⟩ fun other same =>
        Option.some.inj (found.symm.trans same) ▸ methods
      rw [fails failure refused, unserved]
      exact agree_refused _ failure disk _
  | false =>
      cases checked : PackageName.parse name with
      | error defect =>
          obtain ⟨failure, refused⟩ :=
            invalid_name_refused config setting contract document name version path methods defect checked
          rw [← plain_package name plain] at checked
          have unserved := Server.export_invalid_name (soleServer contract config) name ⟨version⟩ contract found methods
            defect checked
          rw [fails failure refused, unserved]
          exact agree_refused _ failure disk _
      | ok package =>
          have given : PackageName.parse (Server.packageOf name) = .ok package := by rw [plain_package name plain, checked]
          obtain ⟨bundle, archive, generated, packed, exported⟩ :=
            Server.export_succeeds (soleServer contract config) name ⟨version⟩ contract found methods package given
          rw [Server.specOf, plain_package name plain, short] at generated
          obtain ⟨spec, packaged⟩ := package_of_choices config setting contract document name version path methods package
            checked bundle generated
          obtain ⟨after, written⟩ := writable archive
          obtain ⟨output, ran⟩ := generate_archives config format setting disk after
            (archiveChoices document name version path) contract spec bundle archive path rfl known packaged packed written
          rw [exported, ran]
          exact agree_delivered disk after archive output _ written

def pagerText : String := "[\"org.demo.PagerImpl\",\"org.demo.Pager\",null,[[\"page\",\"direct\"]]]"

def pagerDocument : Reflection :=
  ⟨"org.demo.PagerImpl", some "org.demo.Pager", none, [⟨"page", some .direct, false, none, false, [], "void"⟩], []⟩

def pagerContract : Contract :=
  ⟨⟨"org.demo.Pager"⟩, "org.demo.PagerImpl", none, .declaration,
    [⟨"page", [], .void, false, none, false, .fireAndForget, false, .void⟩], ⟨[]⟩⟩

def pagerDisk : Disk := (Disk.empty ["home"]).put ["home", "pager.json"] (.file (.text pagerText))

def pagerSetting : Setting := ⟨"/home", "/home/.config", none, ⟨"2024.05.01"⟩, false⟩

theorem pager_reads : Reflection.ofFileText "pager.json" pagerText = .ok pagerDocument := by
  have written :
      pagerText = (Reflection.brief "org.demo.PagerImpl" "org.demo.Pager" none [("page", .direct)]).compact := rfl
  rw [Reflection.of_json_file pagerText rfl, written, Reflection.brief_decoded _ _ _ _ pagerDocument rfl]

theorem pager_delivered_alike : ∃ archive output after place,
    (soleServer pagerContract {}).exportPackage "@demo/Pager" ⟨"1.0.0"⟩ = .ok archive ∧
    (runGenerate (m := StateM Disk) {} .pretty pagerSetting
      (archiveChoices "pager.json" "@demo/Pager" "1.0.0" "~/pager.tgz")).run pagerDisk = (.ok output, after) ∧
    after.find "/home/pager.tgz" = .ok (place, .file (.archive archive)) := by
  have agree := command_and_server_agree {} .pretty pagerSetting pagerDisk "pager.json" pagerText pagerDocument
    pagerContract "@demo/Pager" "1.0.0" "~/pager.tgz" rfl pager_reads rfl (by decide) (by decide) fun _ => ⟨_, rfl⟩
  obtain ⟨_, archive, _, _, served⟩ := Server.export_succeeds (soleServer pagerContract {}) "@demo/Pager" ⟨"1.0.0"⟩
    pagerContract rfl rfl ⟨"@demo/Pager", by decide, by decide⟩ rfl
  obtain ⟨output, after, ran⟩ := agree.1.mp ⟨archive, served⟩
  obtain ⟨place, found⟩ := agree.2 archive output after served ran
  exact ⟨archive, output, after, place, served, ran, found⟩

end ClientPackager.Command
