import Mathlib.Data.List.TakeWhile
import ClientPackager.Proofs.Client.Comment

set_option autoImplicit false

namespace ClientPackager.Client

open Contract (Method)
open ClientPackager.Client.Span (own given spelled)
open Template

section Through

variable (name : RecordId → String)

theorem operation_through (method : Method) :
    (Position.code false).through ((Operation.ofMethod method).scriptSpans name) =
      verdict ((Operation.ofMethod method).commentTexts name) (.code false) := by
  have primitive : Calm (Operation.ofMethod method).mode.primitive := by
    cases (Operation.ofMethod method).mode <;> exact words_along _ _ _ rfl
  have call : Uncommented (Operation.ofMethod method).callSpans := by
    simp [Uncommented, Operation.callSpans, primitive, calm_words]
  rw [Operation.scriptSpans,
    comment_through _ _ _ _ (words_along _ _ _ rfl) (laid_operation name _) (words_along _ _ _ rfl),
    uncommented_through _ call, verdict_congr _ _ _ (operation_texts_harmless name method)]

theorem shape_through (shape : Shape) :
    (Position.code false).through (shape.scriptSpans name) = verdict (shape.commentTexts name) (.code false) := by
  rw [Shape.scriptSpans,
    comment_through _ _ _ _ (words_along _ _ _ rfl) (laid_shape name shape) (words_along _ _ _ rfl),
    verdict_congr _ _ _ (shape_texts_harmless name shape), through_nil]

theorem script_through (contract : Contract) (registry : Registry) :
    (Position.code false).through ((Interface.under registry contract).scriptSpans name contract) =
      verdict ((Interface.under registry contract).commentTexts name contract) (.code false) := by
  obtain ⟨prelude, constructor, opens, closes, exported, heading, _, _⟩ := passages_read
  have front : Uncommented [own "// Generated from ", given contract.typeName, own scriptPrelude,
      given contract.className, own scriptConstructor, given (Json.string contract.route.text).compact] := by
    simp [Uncommented, calm_words, prelude, constructor]
  have between : Uncommented [own scriptExport, given contract.className, own typedefHeading] := by
    simp [Uncommented, exported, heading]
  have receiver : Laid (bracedSpans contract.className) := by simp [bracedSpans, Laid, quiet_words]
  have methods := blocks_through (fun method => (Operation.ofMethod method).scriptSpans name)
    (fun method => (Operation.ofMethod method).commentTexts name) (operation_through name) "\n" "\n\n"
    (by simp [calm_words]) contract.methods (by simp [calm_words])
  have shapes := blocks_through (Shape.scriptSpans name) (Shape.commentTexts name) (shape_through name) "" "\n"
    (by simp [calm_words]) (Interface.under registry contract).shapes (by simp [calm_words])
  have operations : (Interface.under registry contract).operations.map (Operation.scriptSpans name) =
      contract.methods.map fun method => (Operation.ofMethod method).scriptSpans name := List.map_map
  rw [Interface.scriptSpans, through_append, uncommented_through _ front, comment_through _ _ _ _ opens receiver closes,
    operations, through_append, through_append, methods, verdict_through, uncommented_through _ between,
    verdict_through]
  have texts : (Interface.under registry contract).operations.flatMap (Operation.commentTexts name) =
      contract.methods.flatMap fun method => (Operation.ofMethod method).commentTexts name := List.flatMap_map ..
  rw [shapes, ← verdict_append, ← verdict_append, given_in_braced, Interface.commentTexts, texts, List.singleton_append,
    List.cons_append]

theorem script_contained (contract : Contract) (registry : Registry) :
    Contained ((Interface.under registry contract).scriptSpans name contract) ↔
      ∀ text ∈ (Interface.under registry contract).commentTexts name contract, Harmless text := by
  rw [Contained, script_through, verdict_code]

theorem doc_section_through (doc : List String) (harmless : ∀ line ∈ doc, Harmless line) :
    (Position.code false).through (docSectionSpans doc) = .code false := by
  rw [docSectionSpans]
  split
  · rfl
  · have laid : Laid (docSpans " * " doc) := laid_doc " * " (by simp [quiet_words]) doc
    rw [comment_through _ _ _ _ (words_along _ _ _ rfl) laid (words_along _ _ _ rfl), given_in_doc, through_nil]
    exact (verdict_code doc).mpr harmless

theorem operation_declaration_through (method : Method) :
    (Position.code false).through ((Operation.ofMethod method).declarationSpans name) = .code false := by
  have exported : Uncommented ((Operation.ofMethod method).exportSpans name) := by
    rw [Operation.exportSpans]
    cases (Operation.ofMethod method).alias? <;> simp [Uncommented, calm_words]
  have described := doc_section_through (Operation.ofMethod method).doc (doc_harmless method)
  rw [Operation.declarationSpans, through_append, described, uncommented_through _ exported]

theorem shape_declaration_through (shape : Shape) :
    (Position.code false).through (shape.declarationSpans name) = .code false := by
  have members : Uncommented (shape.declarationSpans name) := by
    simp only [Uncommented, Shape.declarationSpans, Member.declarationSpans, List.forall_mem_cons,
      List.forall_mem_append, List.forall_mem_flatMap]
    simp [calm_words]
  exact uncommented_through _ members

theorem declarations_through (contract : Contract) (registry : Registry) :
    (Position.code false).through ((Interface.under registry contract).declarationSpans name contract) =
      .code false := by
  obtain ⟨_, _, _, _, _, _, prelude, heading⟩ := passages_read
  have front : Uncommented [own "// Generated from ", given contract.typeName, own declarationPrelude] := by
    simp [Uncommented, calm_words, prelude]
  have none : verdict [] (.code false) = .code false := verdict_nil (.code false)
  have functions := blocks_through (fun method => (Operation.ofMethod method).declarationSpans name) (fun _ => [])
    (fun method => (operation_declaration_through name method).trans none.symm) "\n" "\n\n"
    (by simp [calm_words]) contract.methods (by simp [calm_words])
  have classes := blocks_through (Shape.declarationSpans name) (fun _ => [])
    (fun shape => (shape_declaration_through name shape).trans none.symm) "" "\n\n"
    (by simp [calm_words]) (Interface.under registry contract).shapes (by simp [calm_words])
  have operations : (Interface.under registry contract).operations.map (Operation.declarationSpans name) =
      contract.methods.map fun method => (Operation.ofMethod method).declarationSpans name := List.map_map
  have titled : (Position.code false).along (own classHeading) = .code false := heading
  have nothing {α : Type} (values : List α) : values.flatMap (fun _ => ([] : List String)) = [] := by simp
  rw [nothing, none] at functions classes
  rw [Interface.declarationSpans, through_append, through_append, uncommented_through _ front, operations, functions,
    through_cons, titled, classes]

end Through

-- The first line of a file, by the four characters that end a line of a program.
def isLineEnd (c : Char) : Bool := c == '\n' || c == '\r' || c == '\u2028' || c == '\u2029'

def headLine (text : String) : String := String.ofList (text.toList.takeWhile (!isLineEnd ·))

def heading (contract : Contract) : String := "// Generated from " ++ contract.typeName ++ ". Do not edit."

theorem head_line_whole (line rest : String) :
    headLine (line ++ ("\n" ++ rest)) = line ↔ ∀ c ∈ line.toList, isLineEnd c = false := by
  have feed : ("\n" ++ rest).toList.takeWhile (!isLineEnd ·) = [] := by simp [isLineEnd]
  rw [headLine, ← String.toList_inj, String.toList_ofList, String.toList_append]
  constructor
  · intro whole c listed
    rw [← whole] at listed
    simpa using List.mem_takeWhile_imp listed
  · intro inner
    rw [List.takeWhile_append_of_pos (by simpa using inner), feed, List.append_nil]

theorem heading_inner (contract : Contract) : (∀ c ∈ (heading contract).toList, isLineEnd c = false) ↔
    ∀ c ∈ contract.typeName.toList, isLineEnd c = false := by
  have before : "// Generated from ".toList.all (!isLineEnd ·) = true := rfl
  have behind : ". Do not edit.".toList.all (!isLineEnd ·) = true := rfl
  simp only [List.all_eq_true, Bool.not_eq_true'] at before behind
  unfold heading
  rw [String.toList_append, String.toList_append, List.forall_mem_append, List.forall_mem_append]
  exact ⟨fun all => all.1.2, fun inner => ⟨⟨before, inner⟩, behind⟩⟩

theorem heading_whole (contract : Contract) (text rest : String) (headed : text = heading contract ++ ("\n" ++ rest)) :
    headLine text = heading contract ↔ ∀ c ∈ contract.typeName.toList, isLineEnd c = false := by
  subst headed
  exact (head_line_whole (heading contract) rest).trans (heading_inner contract)

theorem join_headed (front title back rest : String) (others : List String) :
    String.join (front :: title :: (back ++ ("\n" ++ rest)) :: others) =
      front ++ title ++ back ++ ("\n" ++ (rest ++ String.join others)) := by
  simp [String.append_assoc]

theorem script_headed (name : RecordId → String) (contract : Contract) (interface : Interface) :
    ∃ rest, interface.script name contract = heading contract ++ ("\n" ++ rest) := by
  have prelude : ∃ rest, scriptPrelude = ". Do not edit." ++ ("\n" ++ rest) := by
    rw [scriptPrelude, lines, List.map_cons, String.join_cons, String.append_assoc, String.append_assoc]
    exact ⟨_, rfl⟩
  obtain ⟨rest, shape⟩ := prelude
  rw [Interface.script, shape]
  exact ⟨_, join_headed "// Generated from " contract.typeName ". Do not edit." rest _⟩

theorem declarations_headed (name : RecordId → String) (contract : Contract) (interface : Interface) :
    ∃ rest, interface.declarations name contract = heading contract ++ ("\n" ++ rest) := by
  have prelude : ∃ rest, declarationPrelude = ". Do not edit." ++ ("\n" ++ rest) := by
    rw [declarationPrelude, lines, List.map_cons, String.join_cons, String.append_assoc]
    exact ⟨_, rfl⟩
  obtain ⟨rest, shape⟩ := prelude
  rw [Interface.declarations, shape]
  exact ⟨_, join_headed "// Generated from " contract.typeName ". Do not edit." rest _⟩

theorem comments_kept_by_harmless_texts (contract : Contract) :
    let interface := Interface.ofContract contract
    let registry := Registry.ofContract contract
    let script := interface.scriptSpans (registry.nameOr "Object") contract
    let declarations := interface.declarationSpans (registry.nameOr "any") contract
    Bundle.renderScript contract = .ok (spelled script) ∧
      Bundle.renderDeclarations contract = .ok (spelled declarations) ∧
      (Contained script ↔ ∀ text ∈ interface.commentTexts (registry.nameOr "Object") contract, Harmless text) ∧
      Contained declarations ∧
      ∀ file ∈ [script, declarations],
        headLine (spelled file) = heading contract ↔ ∀ c ∈ contract.typeName.toList, isLineEnd c = false := by
  intro interface registry script declarations
  have written : spelled script = interface.script (registry.nameOr "Object") contract := script_spelled _ _ _
  have declared : spelled declarations = interface.declarations (registry.nameOr "any") contract :=
    declarations_spelled _ _ _
  refine ⟨written ▸ render_script contract, declared ▸ render_declarations contract,
    script_contained _ contract registry, declarations_through _ contract registry, ?_⟩
  intro file listed
  rcases List.mem_pair.mp listed with rfl | rfl
  · obtain ⟨rest, headed⟩ := script_headed (registry.nameOr "Object") contract interface
    exact heading_whole contract _ rest (written.trans headed)
  · obtain ⟨rest, headed⟩ := declarations_headed (registry.nameOr "any") contract interface
    exact heading_whole contract _ rest (declared.trans headed)

-- A default goes into the comment of its method as it stands.
def searchContract : Contract where
  route := ⟨"org.demo.Search"⟩
  typeName := "org.demo.SearchImpl"
  npmPackage := none
  order := .declaration
  methods := [{
    name := "find"
    params := [⟨"limit", .number .int, false, some "*/ 10", none⟩]
    result := .stream .text
    deprecated := false
    description := none
    resultNullable := false
    mode := .requestStream
    singleResultChannel := false
    payload := .text }]
  records := ⟨[]⟩

theorem search_default_ends_comment :
    let interface := Interface.ofContract searchContract
    let script := interface.scriptSpans ((Registry.ofContract searchContract).nameOr "Object") searchContract
    Bundle.renderScript searchContract = .ok (spelled script) ∧ ¬ Contained script := by
  intro interface script
  have shown : "*/ 10" ∈
      interface.commentTexts ((Registry.ofContract searchContract).nameOr "Object") searchContract := by
    have solid : Text.blank "*/ 10" = false := by decide
    simp [interface, Interface.commentTexts, Interface.ofContract, searchContract, Operation.ofMethod, Argument.ofParam,
      Operation.commentTexts, Argument.commentTexts, Argument.shown, Option.filter, solid]
  refine ⟨script_spelled _ _ _ ▸ render_script searchContract, fun contained => ?_⟩
  have harmless := (script_contained _ searchContract (Registry.ofContract searchContract)).mp contained _ shown
  exact absurd harmless (by decide)

end ClientPackager.Client
