import ClientPackager.Proofs.Client.DeclarationText
import ClientPackager.Proofs.Client.ScriptText
import ClientPackager.Proofs.Client.Span

set_option autoImplicit false

namespace ClientPackager.Client

open ClientPackager.Client.Span (own given spelled)
open Template

theorem spelled_cons (span : Span) (rest : List Span) : spelled (span :: rest) = span.text ++ spelled rest := by
  simp [spelled]

theorem spelled_append (front back : List Span) : spelled (front ++ back) = spelled front ++ spelled back := by
  simp [spelled]

theorem spelled_each {α : Type} (spans : α → List Span) (values : List α) :
    spelled (values.flatMap spans) = String.join (values.map fun value => spelled (spans value)) := by
  induction values with
  | nil => rfl
  | cons value rest ih => rw [List.flatMap_cons, spelled_append, ih, List.map_cons, String.join_cons]

theorem spelled_blocks (opening between : String) (all : List (List Span)) :
    spelled (Span.blocks opening between all) = blocks opening between (all.map spelled) := by
  have separated : spelled ([own between].intercalate all) = between.intercalate (all.map spelled) := by
    induction all with
    | nil => rfl
    | cons block rest ih =>
        cases rest with
        | nil => simp
        | cons next later =>
            rw [List.intercalate_cons_cons, spelled_append, spelled_append, ih]
            simp only [List.map_cons, String.intercalate_cons_cons]
            rw [spelled_cons]
            simp [spelled]
  rw [Span.blocks, blocks]
  by_cases none : all = []
  · rw [if_pos none, if_pos (by simpa using none)]
    rfl
  · rw [if_neg none, if_neg (by simpa using none), spelled_cons, spelled_append, separated, String.append_assoc]
    rfl

def bracedSpans (text : String) : List Span := [own "\x7b", given text, own "\x7d"]

def docSpans (margin : String) (doc : List String) : List Span :=
  doc.flatMap fun line => [own margin, given line, own "\n"]

theorem braced_spelled (text : String) : spelled (bracedSpans text) = Script.braced text := by
  simp [bracedSpans, spelled, Script.braced, String.append_assoc]

theorem doc_spelled (margin : String) (doc : List String) :
    spelled (docSpans margin doc) = commentLines margin doc := by
  rw [docSpans, spelled_each, commentLines]
  simp [spelled, String.append_assoc]

section Script

variable (name : RecordId → String)

def Argument.shown (argument : Argument) : Option String :=
  if argument.optional then argument.fallback.filter (!Text.blank ·) else none

def Argument.targetSpans (argument : Argument) : List Span :=
  if argument.optional then
    own "[" :: given argument.identifier ::
      ((argument.shown.toList.flatMap fun value => [own "=", given value]) ++ [own "]"])
  else [given argument.identifier]

def Argument.tagSpans (argument : Argument) : List Span :=
  own "     * " :: own "@param " :: (bracedSpans (argument.type.runtimeText name) ++
    own " " :: (argument.targetSpans ++ [own "\n"]))

def Answer.scriptSpans : Answer → List Span
  | .nothing => [own "Promise<boolean>"]
  | .delivery wrapper type nullable =>
    let text := Registry.runtimeTextBy name type
    [own wrapper.text, own "<"] ++ (if nullable then [own "(", given text, own "|null)"] else [given text]) ++ [own ">"]

def Operation.commentSpans (operation : Operation) : List Span :=
  docSpans "     * " operation.doc ++ operation.arguments.flatMap (Argument.tagSpans name) ++
    own "     * " :: own "@return " :: own "\x7b" :: (operation.answer.scriptSpans name ++ [own "\x7d", own "\n"])

def Operation.callSpans (operation : Operation) : List Span :=
  let identifiers := operation.arguments.map Argument.identifier
  [given operation.name, own "(", given (", ".intercalate identifiers), own ") \x7b\n        return this.",
    own operation.mode.primitive, own "(", given (Json.string operation.name).compact,
    given (Script.callArguments operation.mode identifiers), own ");\n    \x7d"]

def Operation.scriptSpans (operation : Operation) : List Span :=
  own "    /**\n" :: (operation.commentSpans name ++ own "     */\n    " :: operation.callSpans)

def Member.scriptSpans (member : Member) : List Span :=
  own " * @property " :: (bracedSpans (member.type.runtimeText name) ++ own " " :: given member.name ::
    ((if member.description = "" then [] else [own " ", given member.description]) ++ [own "\n"]))

def Shape.commentSpans (shape : Shape) : List Span :=
  given shape.name :: own "\n" :: shape.members.flatMap (Member.scriptSpans name)

def Shape.scriptSpans (shape : Shape) : List Span :=
  own "/**\n * @typedef \x7bObject\x7d " :: (shape.commentSpans name ++ [own " */"])

def Interface.scriptSpans (contract : Contract) (interface : Interface) : List Span :=
  [own "// Generated from ", given contract.typeName, own scriptPrelude, given contract.className,
    own scriptConstructor, given (Json.string contract.route.text).compact] ++
    own scriptPrimitives :: (bracedSpans contract.className ++ own scriptReceiver ::
      (Span.blocks "\n" "\n\n" (interface.operations.map (Operation.scriptSpans name)) ++
        [own scriptExport, given contract.className, own typedefHeading] ++
        Span.blocks "" "\n" (interface.shapes.map (Shape.scriptSpans name))))

theorem target_spelled (argument : Argument) : spelled argument.targetSpans = argument.target := by
  rcases argument with ⟨word, type, optional, fallback⟩
  cases optional with
  | false => simp [Argument.targetSpans, Argument.target, spelled]
  | true =>
      rcases fallback with _ | value
      · simp [Argument.targetSpans, Argument.target, Argument.shown, spelled, String.append_assoc]
      · by_cases blank : Text.blank value <;>
          simp [Argument.targetSpans, Argument.target, Argument.shown, Option.filter, spelled, blank,
            String.append_assoc]

theorem tag_spelled (argument : Argument) :
    spelled (argument.tagSpans name) = "     * " ++ argument.tag name ++ "\n" := by
  simp only [Argument.tagSpans, spelled_cons, spelled_append, braced_spelled, target_spelled, Argument.tag]
  simp [spelled, String.append_assoc]

theorem answer_spelled (answer : Answer) : spelled (answer.scriptSpans name) = answer.runtimeText name := by
  rcases answer with _ | ⟨wrapper, type, nullable⟩
  · simp [Answer.scriptSpans, Answer.runtimeText, spelled]
  · cases nullable <;> simp [Answer.scriptSpans, Answer.runtimeText, spelled, String.append_assoc]

theorem comment_spelled (operation : Operation) :
    spelled (operation.commentSpans name) = commentLines "     * " (operation.scriptDoc name) := by
  simp only [Operation.commentSpans, spelled_append, spelled_cons, doc_spelled, spelled_each, tag_spelled,
    answer_spelled]
  simp [spelled, commentLines, Operation.scriptDoc, Script.braced, Function.comp_def, String.append_assoc]

theorem operation_spelled (operation : Operation) : spelled (operation.scriptSpans name) = operation.script name := by
  simp only [Operation.scriptSpans, spelled_append, spelled_cons, comment_spelled]
  simp [spelled, Operation.callSpans, Operation.script]

theorem member_spelled (member : Member) : spelled (member.scriptSpans name) = member.script name := by
  simp only [Member.scriptSpans, spelled_append, spelled_cons, braced_spelled]
  by_cases empty : member.description = "" <;> simp [spelled, Member.script, empty, String.append_assoc]

theorem shape_spelled (shape : Shape) : spelled (shape.scriptSpans name) = shape.script name := by
  simp only [Shape.scriptSpans, Shape.commentSpans, spelled_append, spelled_cons, spelled_each, member_spelled]
  simp [spelled, Shape.script, String.append_assoc]

theorem script_spelled (contract : Contract) (interface : Interface) :
    spelled (interface.scriptSpans name contract) = interface.script name contract := by
  simp only [Interface.scriptSpans, spelled_append, spelled_cons, braced_spelled, spelled_blocks, List.map_map,
    Function.comp_def, operation_spelled, shape_spelled]
  simp [spelled, Interface.script, String.append_assoc]

end Script

section Declarations

variable (name : RecordId → String)

def docSectionSpans (doc : List String) : List Span :=
  if doc = [] then [] else own "/**\n" :: (docSpans " * " doc ++ [own " */\n"])

def Operation.exportSpans (operation : Operation) : List Span :=
  let rest := [own "(", given (", ".intercalate (signature name operation.arguments)), own "): ",
    given (operation.answer.staticText name)]
  match operation.alias? with
  | some word => own "declare function " :: given word :: (rest ++
      [own ";\nexport \x7b ", given word, own " as ", given operation.name, own " \x7d;"])
  | none => own "export function " :: given operation.name :: (rest ++ [own ";"])

def Operation.declarationSpans (operation : Operation) : List Span :=
  docSectionSpans operation.doc ++ operation.exportSpans name

def Member.declarationSpans (member : Member) : List Span :=
  [own "    ", given member.name, own ": ", given (member.type.staticText name), own ";\n"]

def Shape.declarationSpans (shape : Shape) : List Span :=
  own "declare class " :: given shape.name :: own " \x7b\n" ::
    (shape.members.flatMap (Member.declarationSpans name) ++ [own "\x7d"])

def Interface.declarationSpans (contract : Contract) (interface : Interface) : List Span :=
  [own "// Generated from ", given contract.typeName, own declarationPrelude] ++
    Span.blocks "\n" "\n\n" (interface.operations.map (Operation.declarationSpans name)) ++
    own classHeading :: Span.blocks "" "\n\n" (interface.shapes.map (Shape.declarationSpans name))

theorem doc_section_spelled (doc : List String) : spelled (docSectionSpans doc) = docSection doc := by
  rw [docSectionSpans, docSection]
  split
  · rfl
  · rw [spelled_cons, spelled_append, doc_spelled]
    simp [spelled]

theorem export_spelled (operation : Operation) : spelled (operation.exportSpans name) = operation.exportText name := by
  rw [Operation.exportSpans, Operation.exportText]
  cases operation.alias? <;> simp [spelled, String.append_assoc]

theorem operation_declaration_spelled (operation : Operation) :
    spelled (operation.declarationSpans name) = operation.declaration name := by
  rw [Operation.declarationSpans, spelled_append, doc_section_spelled, export_spelled, Operation.declaration]

theorem member_declaration_spelled (member : Member) :
    spelled (member.declarationSpans name) = member.declaration name := by
  simp [Member.declarationSpans, Member.declaration, spelled]

theorem shape_declaration_spelled (shape : Shape) : spelled (shape.declarationSpans name) = shape.declaration name := by
  simp only [Shape.declarationSpans, spelled_append, spelled_cons, spelled_each, member_declaration_spelled]
  simp [spelled, Shape.declaration]

theorem declarations_spelled (contract : Contract) (interface : Interface) :
    spelled (interface.declarationSpans name contract) = interface.declarations name contract := by
  simp only [Interface.declarationSpans, spelled_append, spelled_cons, spelled_blocks, List.map_map, Function.comp_def,
    operation_declaration_spelled, shape_declaration_spelled]
  simp [spelled, Interface.declarations, String.append_assoc]

end Declarations

theorem quiet_words : Quiet "     * " ∧ Quiet " * " ∧ Quiet " * @property " ∧ Quiet "@param " ∧ Quiet "@return " ∧
    Quiet "Promise<boolean>" ∧ Quiet "Promise" ∧ Quiet "Observable" ∧ Quiet "|null)" ∧ Quiet "\n" ∧ Quiet " " ∧
    Quiet "\x7b" ∧ Quiet "\x7d" ∧ Quiet "[" ∧ Quiet "]" ∧ Quiet "(" ∧ Quiet "<" ∧ Quiet ">" ∧ Quiet "=" := by
  and_intros <;> exact quiet_literal _ _ (by decide) rfl

theorem calm_words : Calm "// Generated from " ∧ Calm ") \x7b\n        return this." ∧ Calm ");\n    \x7d" ∧
    Calm "declare function " ∧ Calm "export function " ∧ Calm ";\nexport \x7b " ∧ Calm " as " ∧ Calm " \x7d;" ∧
    Calm "declare class " ∧ Calm " \x7b\n" ∧ Calm "\x7d" ∧ Calm "    " ∧ Calm ": " ∧ Calm "): " ∧ Calm ";\n" ∧
    Calm ";" ∧ Calm "(" ∧ Calm "\n\n" ∧ Calm "\n" ∧ Calm "" := by
  and_intros <;> exact words_along _ _ _ rfl

theorem passages_read : Calm scriptPrelude ∧ Calm scriptConstructor ∧
    (Position.code false).along (own scriptPrimitives) = .comment none ∧
    (Position.comment none).along (own scriptReceiver) = .code false ∧ Calm scriptExport ∧ Calm typedefHeading ∧
    Calm declarationPrelude ∧ Calm classHeading := by
  refine ⟨lined_then _ (.code false) _ _ _ ?_ rfl, lined_then _ (.code false) _ _ _ ?_ rfl,
    lined_then _ (.comment none) _ _ _ ?_ rfl, lined_along _ _ _ ?_,
    lined_then _ (.code false) _ _ _ ?_ rfl, lined_along _ _ _ ?_, lined_along _ _ _ ?_, lined_along _ _ _ ?_⟩
  all_goals
    repeat first
      | refine .code _ _ _ rfl ?_
      | refine .inside _ _ _ rfl ?_
      | refine .crossing _ _ _ (.comment none) _ rfl ?_
      | refine .crossing _ _ _ (.code false) _ rfl ?_
    exact .nil _

end ClientPackager.Client
