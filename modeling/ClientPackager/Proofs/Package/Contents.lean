import ClientPackager.Proofs.Client.DeclarationText
import ClientPackager.Proofs.Client.ScriptText
import ClientPackager.Proofs.Package.Manifest

set_option autoImplicit false

namespace ClientPackager.Bundle

-- The text of a file of a package, by the directory of the package.
def text? (bundle : Bundle) (directory name : String) : Option String :=
  (bundle.find? (directory ++ "/" ++ name)).map PackageFile.content

def manifest? (bundle : Bundle) (directory : String) : Option Manifest :=
  ((bundle.text? directory "package.json").bind Json.parse).bind Manifest.ofJson?

-- What the files of a package say about each other, if these are its module and
-- its declarations.
structure Consistent (bundle : Bundle) (spec : PackageSpec) (directory script : String)
    (declarations : Option String) : Prop where
  paths : bundle.files.map PackageFile.path =
    (["package.json", "index.js"] ++ if declarations.isSome then ["index.d.ts"] else []).map (directory ++ "/" ++ ·)
  module : bundle.text? directory "index.js" = some script
  declared : bundle.text? directory "index.d.ts" = declarations
  described : ∃ manifest, bundle.manifest? directory = some manifest ∧ manifest.name = spec.name.text ∧
    manifest.version = spec.version.text ∧ manifest.description = spec.description ∧
    bundle.text? directory manifest.main = some script ∧
    (∀ file, manifest.types = some file ↔
      file = "index.d.ts" ∧ directory ++ "/" ++ file ∈ bundle.files.map PackageFile.path) ∧
    manifest.dependencies.entries = [("fbjs", "^1.0.0"), ("rsocket-core", "0.0.19"), ("rsocket-flowable", "^0.0.14"),
      ("rsocket-types", "^0.0.16"), ("rsocket-websocket-client", "0.0.19"), ("rxjs", "^6.5.4")]

def emitted (spec : PackageSpec) (declarations : Option String) : Option String :=
  if spec.declarations then declarations else none

def manifestOf (spec : PackageSpec) (declarations : Option String) : Manifest :=
  { Manifest.ofSpec spec with types := (emitted spec declarations).map fun _ => "index.d.ts" }

-- Two packages with one module, whose manifests differ at most in their types.
structure AlikeButTypes (directory : String) (bundle other : Bundle) : Prop where
  module : bundle.text? directory "index.js" = other.text? directory "index.js"
  manifest : (bundle.manifest? directory).map (fun manifest => { manifest with types := none }) =
    (other.manifest? directory).map fun manifest => { manifest with types := none }

section Assembled

variable (spec : PackageSpec) (directory script : String) (declarations : Option String)

theorem assembled_files : (assemble spec directory script declarations).files =
    [⟨directory ++ "/" ++ "package.json", (manifestOf spec declarations).text⟩,
      ⟨directory ++ "/" ++ "index.js", script⟩] ++
      ((emitted spec declarations).map fun content => ⟨directory ++ "/" ++ "index.d.ts", content⟩).toList := by
  simp only [assemble, emitted, manifestOf]
  cases (if spec.declarations then declarations else none) <;> rfl

theorem assembled_text (name : String) : (assemble spec directory script declarations).text? directory name =
    if name = "package.json" then some (manifestOf spec declarations).text
    else if name = "index.js" then some script
    else if name = "index.d.ts" then emitted spec declarations
    else none := by
  have same (other : String) : (directory ++ "/" ++ other == directory ++ "/" ++ name) = decide (name = other) := by
    rw [Bool.eq_iff_iff, beq_iff_eq, String.append_right_inj, decide_eq_true_eq, eq_comm]
  rw [text?, find?, assembled_files]
  by_cases manifest : name = "package.json"
  · simp [manifest]
  · by_cases module : name = "index.js"
    · simp [module]
    · rw [if_neg manifest, if_neg module]
      cases emitted spec declarations with
      | none => simp [same, manifest, module]
      | some content => by_cases declared : name = "index.d.ts" <;> simp [same, manifest, module, declared]

theorem assembled_manifest : (assemble spec directory script declarations).manifest? directory =
    some (manifestOf spec declarations) := by
  rw [manifest?, assembled_text, if_pos rfl, Option.bind_some, Manifest.manifest_parsed]
  exact Manifest.manifest_restored _

theorem pinned_dependencies : Manifest.clientDependencies.entries = [("fbjs", "^1.0.0"), ("rsocket-core", "0.0.19"),
    ("rsocket-flowable", "^0.0.14"), ("rsocket-types", "^0.0.16"), ("rsocket-websocket-client", "0.0.19"),
    ("rxjs", "^6.5.4")] :=
  Dependencies.of_list_ascending _ (by decide +kernel)

theorem assembled_consistent : Consistent (assemble spec directory script declarations) spec directory script
    (emitted spec declarations) where
  paths := by
    rw [assembled_files]
    cases emitted spec declarations <;> rfl
  module := by
    rw [assembled_text, if_neg (by decide), if_pos rfl]
  declared := by
    rw [assembled_text, if_neg (by decide), if_neg (by decide), if_pos rfl]
  described := by
    refine ⟨_, assembled_manifest spec directory script declarations, rfl, rfl, rfl, ?_, fun file => ?_, pinned_dependencies⟩
    · exact (assembled_text spec directory script declarations "index.js").trans (by rw [if_neg (by decide), if_pos rfl])
    · rw [assembled_files, manifestOf]
      cases emitted spec declarations with
      | none =>
          simp only [Option.map_none, reduceCtorEq, false_iff, not_and]
          rintro rfl
          simp
      | some content =>
          simp only [Option.map_some, Option.some.injEq]
          refine ⟨fun same => ⟨same.symm, by simp [← same]⟩, fun named => named.1.symm⟩

theorem assembled_alike (emit : Bool) : AlikeButTypes directory (assemble spec directory script declarations)
    (assemble { spec with declarations := emit } directory script declarations) where
  module := by
    rw [assembled_text, assembled_text, if_neg (by decide), if_pos rfl, if_neg (by decide), if_pos rfl]
  manifest := by
    rw [assembled_manifest, assembled_manifest]
    rfl

end Assembled

theorem generated_assembled (contract : Contract) (spec : PackageSpec) (script declarations : String)
    (rendered : renderScript contract = .ok script) (declared : renderDeclarations contract = .ok declarations) :
    generate contract spec = .ok (assemble spec contract.shortName script (some declarations)) := by
  obtain ⟨name, version, description, wanted⟩ := spec
  rw [generate, rendered, declared]
  cases wanted <;> rfl

theorem package_consistent (contract : Contract) (spec : PackageSpec) :
    (∃ script declarations bundle, renderScript contract = .ok script ∧ renderDeclarations contract = .ok declarations ∧
      generate contract spec = .ok bundle ∧ Consistent bundle spec contract.route.shortName script
        (if spec.declarations then some declarations else none)) ∧
    (∀ emit, ∃ bundle other, generate contract spec = .ok bundle ∧
      generate contract { spec with declarations := emit } = .ok other ∧
      AlikeButTypes contract.route.shortName bundle other) ∧
    ∀ directory script declarations, Consistent (assemble spec directory script declarations) spec directory script
      (if spec.declarations then declarations else none) := by
  obtain ⟨script, rendered⟩ : ∃ script, renderScript contract = .ok script := ⟨_, Client.render_script contract⟩
  obtain ⟨declarations, declared⟩ : ∃ declarations, renderDeclarations contract = .ok declarations :=
    ⟨_, Client.render_declarations contract⟩
  have generated (spec : PackageSpec) := generated_assembled contract spec script declarations rendered declared
  refine ⟨⟨script, declarations, _, rendered, declared, generated spec, ?_⟩, fun emit => ?_, assembled_consistent spec⟩
  · exact assembled_consistent spec _ script (some declarations)
  · exact ⟨_, _, generated spec, generated _, assembled_alike spec _ script (some declarations) emit⟩

end ClientPackager.Bundle
