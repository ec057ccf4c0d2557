import ClientPackager.Contract.OfReflection
import ClientPackager.Proofs.Server.Export

set_option autoImplicit false

namespace ClientPackager.Server

theorem dependencies_show (base name : String) (names : List String) (member : name ∈ names) :
    ∃ before after, dependencies base names = before ++ dependencyLine base name ++ after := by
  have present : names.isEmpty = false := List.isEmpty_eq_false_iff.mpr (List.ne_nil_of_mem member)
  obtain ⟨before, after, lines, _⟩ := Text.intercalate_infix ",\n" (dependencyLine base name)
    (names.map (dependencyLine base)) (List.mem_map_of_mem member)
  have text : dependencies base names = "# NPM Packages\n\n```json\n\"dependencies\": \x7b\n" ++
      (if names.isEmpty then "" else ",\n".intercalate (names.map (dependencyLine base)) ++ "\n") ++
      "\x7d\n```\n\n" := rfl
  rw [text, present, if_neg Bool.false_ne_true, lines]
  refine ⟨"# NPM Packages\n\n```json\n\"dependencies\": \x7b\n" ++ before, after ++ "\n" ++ "\x7d\n```\n\n", ?_⟩
  simp only [String.append_assoc]

theorem listing_shows (server : Server) (name : PackageName) (contract : Contract)
    (advertised : (name, contract) ∈ server.catalog.packages) :
    ∃ before after, server.listing = before ++ dependencyLine server.config.publicBaseUrl name.text ++ after := by
  have listed : name.text ∈ server.catalog.packages.map (·.1.text) := List.mem_map_of_mem advertised
  obtain ⟨before, after, shown⟩ := dependencies_show server.config.publicBaseUrl name.text _ listed
  refine ⟨before, after ++ instructions server.config.publicBaseUrl
    ((server.catalog.packages.map (·.1.text)).headD samplePackage), ?_⟩
  rw [← String.append_assoc, ← shown]
  rfl

-- The archive that is served is that of the package of a contract, under the
-- name that was asked for.
def Delivers (server : Server) (name : PackageName) (version : Version) (contract : Contract) : Prop :=
  ∃ bundle archive,
    Bundle.generate contract
      ⟨name, version, description server.config name.shortName, server.config.declarations⟩ = .ok bundle ∧
    Archive.ofBundle .standard bundle = .ok archive ∧ server.exportPackage name.text version = .ok archive

theorem own_package (name : PackageName) : packageOf name.text = name.text := PackageName.name_leads_no_slash name

theorem own_candidate (server : Server) (name : PackageName) :
    server.candidate? name.text = server.catalog.findByShortName? name.shortName := by
  rw [candidate?, own_package, PackageName.shortName]

theorem first_delivers (server : Server) (name : PackageName) (version : Version) (first : Contract)
    (found : server.catalog.findByShortName? name.shortName = some first) (callable : first.isEmpty = false) :
    server.Delivers name version first := by
  have parsed : PackageName.parse (packageOf name.text) = .ok name := by
    rw [own_package]
    exact PackageName.parse_own_text name
  have chosen : server.candidate? name.text = some first := (own_candidate server name).trans found
  obtain ⟨bundle, archive, generated, packed, exported⟩ :=
    export_succeeds server name.text version first chosen callable name parsed
  refine ⟨bundle, archive, ?_, packed, exported⟩
  rw [specOf, own_package] at generated
  exact generated

theorem find_first (catalog : Catalog) (contract : Contract) (before after : List Contract) (short : String)
    (place : catalog.toList = before ++ contract :: after) (named : contract.shortName = short)
    (earlier : ∀ other ∈ before, other.shortName ≠ short) : catalog.findByShortName? short = some contract := by
  have none : before.find? (fun other => decide (other.shortName = short)) = none := by
    rw [List.find?_eq_none]
    intro other member
    simpa using earlier other member
  rw [Catalog.findByShortName?, place, List.find?_append, none]
  simp [named]

theorem module_of_package (contract : Contract) (spec : PackageSpec) (bundle : Bundle)
    (made : Bundle.generate contract spec = .ok bundle) : (bundle.files[1]?).map PackageFile.content =
      some ((Client.Interface.ofContract contract).script ((Client.Registry.ofContract contract).nameOr "Object")
        contract) := by
  rw [Bundle.generate, Client.render_script, Client.render_declarations] at made
  cases declared : spec.declarations <;>
    · rw [declared] at made
      cases made
      rfl

-- The module holds the route, so services apart in nothing else have packages apart.
theorem route_of_package (first second : Contract) (spec : PackageSpec) (bundle : Bundle)
    (made : Bundle.generate first spec = .ok bundle) (again : Bundle.generate second spec = .ok bundle)
    (types : first.typeName = second.typeName) (methods : first.methods = second.methods)
    (registries : Client.Registry.ofContract first = Client.Registry.ofContract second) :
    (Json.string first.route.text).compact = (Json.string second.route.text).compact := by
  have interfaces : Client.Interface.ofContract first = Client.Interface.ofContract second := by
    simp only [Client.Interface.ofContract, methods, registries]
  have texts := (module_of_package first spec bundle made).symm.trans (module_of_package second spec bundle again)
  rw [interfaces, registries] at texts
  simpa only [Client.Interface.script, Contract.className, types, String.join, List.foldl, Option.some.injEq,
    String.append_left_inj, String.append_right_inj] using texts

theorem advertised_package_served (server : Server) (name : PackageName) (contract : Contract) (version : Version)
    (advertised : (name, contract) ∈ server.catalog.packages) :
    (∃ before after, server.listing = before ++ dependencyLine server.config.publicBaseUrl name.text ++ after) ∧
    (∀ first, server.catalog.findByShortName? name.shortName = some first → first.isEmpty = false →
      server.Delivers name version first) ∧
    ((∀ first, server.catalog.findByShortName? name.shortName = some first → first.isEmpty = true) →
      server.exportPackage name.text version = .error (.notFound name.text)) ∧
    (∀ before after, server.catalog.toList = before ++ contract :: after → contract.shortName = name.shortName →
      (∀ other ∈ before, other.shortName ≠ name.shortName) → contract.isEmpty = false →
      server.Delivers name version contract) := by
  refine ⟨listing_shows server name contract advertised, first_delivers server name version, ?_, ?_⟩
  · intro idle
    have refused := export_not_found server name.text version fun first found =>
      idle first ((own_candidate server name).symm.trans found)
    rwa [own_package] at refused
  · intro before after place named earlier callable
    exact first_delivers server name version contract
      (find_first server.catalog contract before after name.shortName place named earlier) callable

def demoName : PackageName := ⟨"@demo/ClockService", by decide, by decide⟩

def demoDocument : Reflection :=
  ⟨"org.demo.ClockServiceImpl", some "org.demo.ClockService", some demoName.text, [], []⟩

def demoContract (methods : List Contract.Method) : Contract :=
  ⟨⟨"org.demo.ClockService"⟩, "org.demo.ClockServiceImpl", some demoName, .declaration, methods, ⟨[]⟩⟩

def demoServer (methods : List Contract.Method) : Server := ⟨Catalog.ofList [demoContract methods], {}⟩

def tick : Contract.Method := ⟨"tick", [], .void, false, none, false, .fireAndForget, false, .void⟩

def counterContract : Contract :=
  ⟨⟨"org.demo.CounterService"⟩, "org.demo.CounterServiceImpl", none, .declaration, [tick], ⟨[]⟩⟩

def standbyName : PackageName := ⟨"@standby/ClockService", by decide, by decide⟩

def standbyContract : Contract :=
  ⟨⟨"org.standby.ClockService"⟩, "org.demo.ClockServiceImpl", some standbyName, .declaration, [tick], ⟨[]⟩⟩

def clocks : Server := ⟨Catalog.ofList [counterContract, demoContract [tick], standbyContract], {}⟩

-- Both names end in the short name of two services, of which the first is served.
theorem clock_package_served : clocks.Delivers demoName ⟨"1.0.0"⟩ (demoContract [tick]) ∧
    clocks.Delivers standbyName ⟨"1.0.0"⟩ (demoContract [tick]) := by
  have own : (demoName, demoContract [tick]) ∈ clocks.catalog.packages := List.mem_cons_self
  have later : (standbyName, standbyContract) ∈ clocks.catalog.packages := List.mem_cons_of_mem _ List.mem_cons_self
  exact ⟨(advertised_package_served clocks demoName (demoContract [tick]) ⟨"1.0.0"⟩ own).2.2.2
      [counterContract] [standbyContract] rfl (by decide) (by decide) rfl,
    (advertised_package_served clocks standbyName standbyContract ⟨"1.0.0"⟩ later).2.1 _ rfl rfl⟩

-- A service without exported methods is listed, but there is nothing to call.
theorem idle_service_has_no_package :
    Contract.ofReflection .declaration demoDocument = .ok (demoContract []) ∧
    Config.validate {} = .ok () ∧
    (demoName, demoContract []) ∈ (demoServer []).catalog.packages ∧
    (∃ before after, (demoServer []).listing =
      before ++ "  \"@demo/ClockService\": \"http://127.0.0.1:8080/npm/@demo/ClockService\"" ++ after) ∧
    (demoServer []).exportPackage demoName.text ⟨"1.0.0"⟩ = .error (.notFound demoName.text) := by
  have listed : (demoName, demoContract []) ∈ (demoServer []).catalog.packages := List.mem_cons_self
  exact ⟨rfl, rfl, listed, listing_shows (demoServer []) demoName (demoContract []) listed, rfl⟩

def tickMethod : Reflection.Method := ⟨"tick", some .direct, false, none, false, [], "void"⟩

-- The service of the same short name that comes first takes the place of a later one.
theorem namesake_served_instead :
    Contract.ofReflection .declaration
      ⟨"org.demo.ClockServiceImpl", some "org.standby.ClockService", some standbyName.text, [tickMethod], []⟩ =
        .ok standbyContract ∧
    (standbyName, standbyContract) ∈ clocks.catalog.packages ∧ standbyContract.isEmpty = false ∧
    clocks.Delivers standbyName ⟨"1.0.0"⟩ (demoContract [tick]) ∧
    ∀ spec, Bundle.generate standbyContract spec ≠ Bundle.generate (demoContract [tick]) spec := by
  refine ⟨rfl, List.mem_cons_of_mem _ List.mem_cons_self, rfl,
    first_delivers clocks standbyName ⟨"1.0.0"⟩ (demoContract [tick]) rfl rfl, fun spec same => ?_⟩
  obtain ⟨bundle, made, _⟩ := Bundle.generate_files standbyContract spec
  have route := route_of_package _ _ spec bundle made (same.symm.trans made) rfl rfl rfl
  exact absurd route (by decide +kernel)

def watchName : PackageName := ⟨"@demo/wrist-watch", by decide, by decide⟩

def watchContract : Contract :=
  ⟨⟨"org.demo.WatchService"⟩, "org.demo.WatchServiceImpl", some watchName, .declaration, [tick], ⟨[]⟩⟩

-- A package is looked up by the last segment of its name, which need not be the end of
-- the route.
theorem otherwise_named_service_not_found :
    Contract.ofReflection .declaration
      ⟨"org.demo.WatchServiceImpl", some "org.demo.WatchService", some watchName.text, [tickMethod], []⟩ =
        .ok watchContract ∧
    (watchName, watchContract) ∈ (⟨Catalog.ofList [watchContract], {}⟩ : Server).catalog.packages ∧
    watchContract.isEmpty = false ∧
    (⟨Catalog.ofList [watchContract], {}⟩ : Server).exportPackage watchName.text ⟨"1.0.0"⟩ =
      .error (.notFound watchName.text) :=
  ⟨rfl, List.mem_cons_self, rfl, rfl⟩

end ClientPackager.Server
