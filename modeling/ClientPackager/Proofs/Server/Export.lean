import ClientPackager.Proofs.Archive.Package
import ClientPackager.Server.Http

set_option autoImplicit false

namespace ClientPackager.Server

-- The package that a path asks for and the service that it is taken to name.
def packageOf (path : String) : String := Text.dropLeading '/' path

def candidate? (server : Server) (path : String) : Option Contract :=
  server.catalog.findByShortName? (Text.afterLast '/' (packageOf path))

def specOf (server : Server) (path : String) (version : Version) (name : PackageName) : PackageSpec :=
  ⟨name, version, description server.config (Text.afterLast '/' (packageOf path)), server.config.declarations⟩

theorem export_not_found (server : Server) (path : String) (version : Version)
    (idle : ∀ contract, server.candidate? path = some contract → contract.isEmpty = true) :
    server.exportPackage path version = .error (.notFound (packageOf path)) := by
  have missing : (server.candidate? path).filter (fun contract => !contract.isEmpty) = none := by
    cases found : server.candidate? path with
    | none => rfl
    | some contract => simp [idle contract found]
  simp only [candidate?, packageOf] at missing
  simp only [exportPackage, missing]
  rfl

theorem export_invalid_name (server : Server) (path : String) (version : Version) (contract : Contract)
    (found : server.candidate? path = some contract) (callable : contract.isEmpty = false)
    (defect : PackageName.Defect) (refused : PackageName.parse (packageOf path) = .error defect) :
    server.exportPackage path version = .error (.invalidPackageName (packageOf path) defect.fault) := by
  simp only [candidate?, packageOf] at found refused
  simp only [exportPackage, found, Option.filter, callable, refused]
  rfl

theorem export_package (server : Server) (path : String) (version : Version) (contract : Contract)
    (found : server.candidate? path = some contract) (callable : contract.isEmpty = false)
    (name : PackageName) (parsed : PackageName.parse (packageOf path) = .ok name) (bundle : Bundle)
    (generated : Bundle.generate contract (server.specOf path version name) = .ok bundle) :
    server.exportPackage path version = (Archive.ofBundle .standard bundle).mapError .archive := by
  simp only [candidate?, packageOf, specOf] at found parsed generated
  simp only [exportPackage, found, Option.filter, callable, parsed]
  change ((Bundle.generate contract _).mapError ServerFault.generation).bind _ = _
  rw [generated]
  rfl

theorem candidate_short (server : Server) (path : String) (contract : Contract)
    (found : server.candidate? path = some contract) : contract.shortName = Text.afterLast '/' (packageOf path) := by
  simpa using List.find?_some found

theorem file_names_clean : ∀ name ∈ [manifestFile, moduleFile, declarationFile],
    FilePath.isSegment name.toList = true ∧ '\x00' ∉ name.toList := by
  decide

-- The last segment of the name of a package is one segment of a path.
theorem package_file_accepted (directory name content : String)
    (segment : PackageName.isSegment directory.toList = true)
    (listed : name ∈ [manifestFile, moduleFile, declarationFile]) :
    ∃ path : FilePath, "/" ++ (directory ++ "/" ++ name) = path.text ∧ Archive.Packable ⟨path, content⟩ := by
  obtain ⟨folder, noNul⟩ := PackageName.segment_of_path directory.toList segment
  obtain ⟨file, alsoNoNul⟩ := file_names_clean name listed
  refine ⟨⟨[directory.toList, name.toList], by simp [folder, file]⟩, ?_, ?_, ?_⟩
  · apply String.toList_inj.mp
    simp [FilePath.text, FilePath.written]
  · intro empty
    have sizes := congrArg String.length empty
    simp [FilePath.relative, List.intercalate] at sizes
  · simp [FilePath.relative, List.intercalate, noNul, alsoNoNul]

theorem generated_files_accepted (server : Server) (path : String) (name : PackageName)
    (parsed : PackageName.parse (packageOf path) = .ok name) (contract : Contract)
    (found : server.candidate? path = some contract) (spec : PackageSpec) :
    ∃ bundle, Bundle.generate contract spec = .ok bundle ∧ ∀ file ∈ bundle.files,
      ∃ tree : FilePath, "/" ++ file.path = tree.text ∧ Archive.Packable ⟨tree, file.content⟩ := by
  obtain ⟨bundle, generated, files⟩ := Bundle.generate_files contract spec
  have segment : PackageName.isSegment contract.shortName.toList = true := by
    rw [candidate_short server path contract found]
    exact PackageName.parsed_segment (packageOf path) name parsed
  refine ⟨bundle, generated, fun file member => ?_⟩
  obtain ⟨fileName, listed, located⟩ := files file member
  rw [located]
  exact package_file_accepted contract.shortName fileName file.content segment listed

theorem export_succeeds (server : Server) (path : String) (version : Version) (contract : Contract)
    (found : server.candidate? path = some contract) (callable : contract.isEmpty = false)
    (name : PackageName) (parsed : PackageName.parse (packageOf path) = .ok name) :
    ∃ bundle archive, Bundle.generate contract (server.specOf path version name) = .ok bundle ∧
      Archive.ofBundle .standard bundle = .ok archive ∧ server.exportPackage path version = .ok archive := by
  obtain ⟨bundle, generated, accepted⟩ :=
    generated_files_accepted server path name parsed contract found (server.specOf path version name)
  obtain ⟨archive, packed⟩ := Archive.of_bundle_succeeds .standard bundle accepted
  refine ⟨bundle, archive, generated, packed, ?_⟩
  rw [export_package server path version contract found callable name parsed bundle generated, packed]
  rfl

theorem export_outcome (server : Server) (path : String) (version : Version) :
    (∃ archive, server.exportPackage path version = .ok archive) ∨
      server.exportPackage path version = .error (.notFound (packageOf path)) ∨
      ∃ defect : PackageName.Defect, PackageName.parse (packageOf path) = .error defect ∧
        server.exportPackage path version = .error (.invalidPackageName (packageOf path) defect.fault) := by
  cases found : server.candidate? path with
  | none =>
      have idle : ∀ contract, server.candidate? path = some contract → contract.isEmpty = true := by simp [found]
      exact .inr (.inl (export_not_found server path version idle))
  | some contract =>
      cases methods : contract.isEmpty with
      | true =>
          have idle : ∀ other, server.candidate? path = some other → other.isEmpty = true := by simp [found, methods]
          exact .inr (.inl (export_not_found server path version idle))
      | false =>
          cases parsed : PackageName.parse (packageOf path) with
          | error defect =>
              have refused := export_invalid_name server path version contract found methods defect parsed
              exact .inr (.inr ⟨defect, rfl, refused⟩)
          | ok name =>
              obtain ⟨_, archive, _, _, exported⟩ :=
                export_succeeds server path version contract found methods name parsed
              exact .inl ⟨archive, exported⟩

theorem response_status (server : Server) (today : Version) (request : Request) :
    (server.respond today request).status ≠ 500 := by
  have answered (resource : Resource) : (server.get today resource).status ≠ 500 := by
    cases resource with
    | listing => simp [get]
    | package name =>
        rw [get]
        split
        · simp [Response.plain]
        · next decoded _ =>
            rcases export_outcome server decoded today with ⟨archive, exported⟩ | missing | ⟨defect, _, refused⟩
            · simp [exported]
            · simp [missing, Response.plain, ServerFault.status]
            · simp [refused, Response.plain, ServerFault.status]
  rw [respond]
  split
  · simp [Response.bare]
  · next resource _ =>
      have here := answered resource
      split
      · exact here
      · split
        · exact here
        · simp [Response.bare]

theorem export_has_no_inner_failure (server : Server) (path : String) (version : Version) :
    ((∃ archive, server.exportPackage path version = .ok archive) ∨
      server.exportPackage path version = .error (.notFound (packageOf path)) ∨
      ∃ defect : PackageName.Defect, PackageName.parse (packageOf path) = .error defect ∧
        server.exportPackage path version = .error (.invalidPackageName (packageOf path) defect.fault)) ∧
    (∀ request, (server.respond version request).status ≠ 500) ∧
    (∀ name, PackageName.parse (packageOf path) = .ok name →
      ∀ contract, server.catalog.findByShortName? (Text.afterLast '/' (packageOf path)) = some contract →
      ∀ spec, ∃ bundle, Bundle.generate contract spec = .ok bundle ∧
        ∀ file ∈ bundle.files, ∃ tree entry, FilePath.parse (Draft.directory "/" ++ file.path) = .ok tree ∧
          Archive.EntryName.ofName tree.relative.toList = .ok entry) := by
  refine ⟨export_outcome server path version, response_status server version, ?_⟩
  intro name parsed contract found spec
  obtain ⟨bundle, generated, accepted⟩ := generated_files_accepted server path name parsed contract found spec
  refine ⟨bundle, generated, fun file member => ?_⟩
  obtain ⟨tree, named, packable⟩ := accepted file member
  obtain ⟨entry, written⟩ := Archive.of_name_succeeds tree.relative.toList (by simpa using packable.1) packable.2
  have base : Draft.directory "/" = "/" := by decide
  exact ⟨tree, entry, by rw [base, named, FilePath.parse_text], written⟩

end ClientPackager.Server
