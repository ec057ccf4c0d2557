import ClientPackager.Contract.OfReflection
import ClientPackager.Proofs.Client.Announced
import ClientPackager.Proofs.Registry.Names

set_option autoImplicit false

namespace ClientPackager.Client

open Contract (Method)
open ClientPackager.Client.Span (own given spelled)
open Template

def topLevel : List Opening :=
  [⟨['i', 'm', 'p', 'o', 'r', 't', ' ', '\x7b'], '\x7d'⟩,
    ⟨['e', 'x', 'p', 'o', 'r', 't', ' ', 'f', 'u', 'n', 'c', 't', 'i', 'o', 'n', ' '], '('⟩,
    ⟨['d', 'e', 'c', 'l', 'a', 'r', 'e', ' ', 'f', 'u', 'n', 'c', 't', 'i', 'o', 'n', ' '], '('⟩,
    ⟨['d', 'e', 'c', 'l', 'a', 'r', 'e', ' ', 'c', 'l', 'a', 's', 's', ' '], ' '⟩]

-- The methods of a class, and the fields that these set.
def classMembers : List Opening :=
  [⟨List.replicate 4 ' ', '('⟩, ⟨List.replicate 8 ' ' ++ ['t', 'h', 'i', 's', '.'], ' '⟩]

def fixedBindings : List String := ["Observable", "Flowable", "setPromiseRSocket"]

def ownMembers : List String :=
  ["constructor", "serviceName", "rsocketRequestResponse", "rsocketFireAndForget", "rsocketRequestStream",
    "rsocketRequestChannel", "setPromiseRSocket", "promiseRSocket"]

def localName (name : String) : String := if isReserved name then identifier name else name

def Operation.localName (operation : Operation) : String := operation.alias?.getD operation.name

theorem local_name_of (operation : Operation) : operation.localName = localName operation.name := by
  rw [Operation.localName, Operation.alias?, localName]
  split <;> rfl

theorem passages_declare (typeName className : String) :
    Reads topLevel (pieces [own "// Generated from ", given typeName]) (pieces [own declarationPrelude])
      ([] ++ fixedBindings) [] ∧
    Reads topLevel [] (pieces [own classHeading]) ([] ++ []) [] ∧
    Reads classMembers ("     * @return ".toList.map .own ++ pieces (bracedSpans className))
      (pieces [own scriptReceiver])
      ([] ++ ["setPromiseRSocket", "promiseRSocket"]) [] ∧
    Reads classMembers ("module.exports = new ".toList.map .own ++ [.given className]) (pieces [own typedefHeading])
      ([] ++ []) [] := by
  refine ⟨?_, ?_, ?_, ?_⟩
  all_goals
    apply passage_read
    · repeat apply Lettered.cons
      apply Lettered.nil
    · decide +kernel
    · rfl
    · decide +kernel

-- These passages end in the middle of a line.
theorem open_passages_declare (typeName className route : String) :
    Reads classMembers (pieces [own "// Generated from ", given typeName]) (pieces [own scriptPrelude]) ([] ++ [])
      ("class ".toList.map .own) ∧
    Reads classMembers ("class ".toList.map .own ++ [.given className]) (pieces [own scriptConstructor])
      ([] ++ ["constructor"]) ("        this.serviceName = ".toList.map .own) ∧
    Reads classMembers ("        this.serviceName = ".toList.map .own ++ [.given route]) (pieces [own scriptPrimitives])
      (["serviceName"] ++ ["rsocketRequestResponse", "rsocketFireAndForget", "rsocketRequestStream",
        "rsocketRequestChannel"]) ("     * @return ".toList.map .own) ∧
    Reads classMembers [] (pieces [own scriptExport]) ([] ++ []) ("module.exports = new ".toList.map .own) := by
  refine ⟨?_, ?_, ?_, ?_⟩
  all_goals
    apply open_passage_read
    · repeat apply Lettered.cons
      apply Lettered.nil
    · decide +kernel
    · rfl
    · decide +kernel

theorem head_read (openings : List Opening) (typeName : String) :
    Reads openings [] (pieces [own "// Generated from ", given typeName]) []
      (pieces [own "// Generated from ", given typeName]) :=
  reads_part openings [] _ (by simp)

section Declarations

variable (name : RecordId → String)

theorem doc_section_read (doc : List String) : Reads topLevel [] (pieces (docSectionSpans doc)) [] [] := by
  rw [docSectionSpans]
  split
  · exact reads_nil topLevel []
  · have opens : Reads topLevel [] (pieces [own "/**\n"]) [] [] :=
      reads_line topLevel [] (pieces [own "/**"]) [] (by simp) rfl
    have line (text : String) : Reads topLevel [] (pieces [own " * ", given text, own "\n"]) [] [] :=
      reads_line topLevel [] (pieces [own " * ", given text]) [] (by simp) rfl
    have closes : Reads topLevel [] (pieces [own " */\n"]) [] [] :=
      reads_line topLevel [] (pieces [own " */"]) [] (by simp) rfl
    have described : Reads topLevel [] (pieces (docSpans " * " doc)) [] [] := reads_silent topLevel _ doc line
    have both := reads_append topLevel _ _ _ _ _ _ _ described closes
    rw [← pieces_append] at both
    exact reads_then topLevel _ _ _ _ _ _ _ opens both

theorem export_read (operation : Operation) :
    Reads topLevel [] (pieces (operation.exportSpans name) ++ [.own '\n']) [operation.localName] [] := by
  rw [Operation.exportSpans, Operation.localName]
  cases operation.alias? with
  | none => exact reads_name topLevel [] _ _ (by simp) rfl
  | some word =>
      have declared : Reads topLevel [] (pieces [own "declare function ", given word, own "(",
          given (", ".intercalate (signature name operation.arguments)), own "): ",
          given (operation.answer.staticText name), own ";"] ++ [.own '\n']) [word] [] :=
        reads_name topLevel [] _ _ (by simp) rfl
      have exported : Reads topLevel [] (pieces [own "export \x7b ", given word, own " as ", given operation.name,
          own " \x7d;"] ++ [.own '\n']) [] [] :=
        reads_line topLevel [] _ _ (by simp) rfl
      have both := reads_append topLevel _ _ _ _ _ _ _ declared exported
      simpa using both

theorem operation_declaration_read (operation : Operation) :
    Reads topLevel [] (pieces (operation.declarationSpans name) ++ [.own '\n']) [operation.localName] [] := by
  rw [Operation.declarationSpans, pieces_append, List.append_assoc]
  exact reads_append topLevel _ _ _ _ _ _ _ (doc_section_read operation.doc) (export_read name operation)

theorem shape_declaration_read (shape : Shape) :
    Reads topLevel [] (pieces (shape.declarationSpans name) ++ [.own '\n']) [shape.name] [] := by
  have opens : Reads topLevel [] (pieces [own "declare class ", given shape.name, own " \x7b\n"]) [shape.name] [] :=
    reads_name topLevel [] (pieces [own "declare class ", given shape.name, own " \x7b"]) _
      (by simp) rfl
  have line (member : Member) : Reads topLevel [] (pieces (member.declarationSpans name)) [] [] :=
    reads_line topLevel []
      (pieces [own "    ", given member.name, own ": ", given (member.type.staticText name), own ";"])
      _ (by simp) rfl
  have closes : Reads topLevel [] (pieces [own "\x7d"] ++ [.own '\n']) [] [] :=
    reads_line topLevel [] _ _ (by simp) rfl
  have members := reads_silent topLevel _ shape.members line
  have all := reads_append topLevel _ _ _ _ _ _ _ (reads_append topLevel _ _ _ _ _ _ _ opens members) closes
  rw [← pieces_append, ← List.append_assoc, ← pieces_append] at all
  simpa [Shape.declarationSpans] using all

theorem declarations_declare (contract : Contract) (interface : Interface) :
    declaredNames topLevel (interface.declarationSpans name contract) =
      fixedBindings ++ interface.operations.map Operation.localName ++ interface.shapes.map Shape.name := by
  obtain ⟨prelude, heading, _, _⟩ := passages_declare contract.typeName contract.className
  have functions : Reads topLevel []
      (pieces (Span.blocks "\n" "\n\n" (interface.operations.map (Operation.declarationSpans name)))) _ [] :=
    blocks_read topLevel (Operation.declarationSpans name) (fun operation => [operation.localName])
      (operation_declaration_read name) "\n" "\n" (reads_end topLevel []) interface.operations (reads_end topLevel [])
  have classes : Reads topLevel []
      (pieces (Span.blocks "" "\n\n" (interface.shapes.map (Shape.declarationSpans name)))) _ [] :=
    blocks_read topLevel (Shape.declarationSpans name) (fun shape => [shape.name])
      (shape_declaration_read name) "" "\n" (reads_end topLevel []) interface.shapes (reads_nil topLevel [])
  have front := reads_append topLevel _ _ _ _ _ _ _ (head_read topLevel contract.typeName) prelude
  rw [← pieces_append, List.cons_append, List.cons_append, List.nil_append] at front
  have upper := reads_append topLevel _ _ _ _ _ _ _ front functions
  have lower := reads_then topLevel _ _ _ _ _ _ _ heading classes
  have all := reads_append topLevel _ _ _ _ _ _ _ upper lower
  rw [← pieces_append, ← pieces_append] at all
  have names := declared_of_reads topLevel _ _ all rfl
  rw [Interface.declarationSpans, names, ← List.map_eq_flatMap, ← List.map_eq_flatMap]
  simp

end Declarations

section Script

variable (name : RecordId → String)

-- Lines of the comment in front of a method.
theorem comment_line_read (spans : List Span) (inner : .own '\n' ∉ pieces spans) :
    Reads classMembers [] (pieces (own "     * " :: (spans ++ [own "\n"]))) [] [] := by
  have line := reads_line classMembers [] (pieces (own "     * " :: spans)) [] (by simpa using inner) rfl
  have split : pieces (own "     * " :: (spans ++ [own "\n"])) = pieces (own "     * " :: spans) ++ [.own '\n'] := by
    rw [← List.cons_append, pieces_append]
    rfl
  rwa [split]

theorem tag_read (argument : Argument) : Reads classMembers [] (pieces (argument.tagSpans name)) [] [] := by
  have target : .own '\n' ∉ pieces argument.targetSpans := by
    rw [Argument.targetSpans]
    split
    · cases argument.shown <;> simp
    · simp
  have line := comment_line_read (own "@param " :: (bracedSpans (argument.type.runtimeText name) ++
    own " " :: argument.targetSpans)) (by simpa [bracedSpans] using target)
  simpa [Argument.tagSpans] using line

theorem answer_read (answer : Answer) : Reads classMembers [] (pieces (own "     * " :: own "@return " ::
    own "\x7b" :: (answer.scriptSpans name ++ [own "\x7d", own "\n"]))) [] [] := by
  have result : .own '\n' ∉ pieces (answer.scriptSpans name) := by
    rcases answer with _ | ⟨wrapper, type, nullable⟩
    · simp [Answer.scriptSpans]
    · cases wrapper <;> cases nullable <;>
        simp [Answer.scriptSpans, Wrapper.text]
  have line := comment_line_read (own "@return " :: own "\x7b" :: (answer.scriptSpans name ++ [own "\x7d"]))
    (by simpa using result)
  simpa using line

theorem comment_read (operation : Operation) :
    Reads classMembers [] (pieces (operation.commentSpans name)) [] [] := by
  have line (text : String) : Reads classMembers [] (pieces [own "     * ", given text, own "\n"]) [] [] :=
    comment_line_read [given text] (by simp)
  have described : Reads classMembers [] (pieces (docSpans "     * " operation.doc)) [] [] :=
    reads_silent classMembers _ operation.doc line
  have tagged := reads_silent classMembers _ operation.arguments (tag_read name)
  have both := reads_append classMembers _ _ _ _ _ _ _ described tagged
  have all := reads_append classMembers _ _ _ _ _ _ _ both (answer_read name operation.answer)
  rwa [← pieces_append, ← pieces_append] at all

theorem call_read (operation : Operation) :
    Reads classMembers [] (pieces (own "     */\n    " :: operation.callSpans) ++ [.own '\n']) [operation.name] [] := by
  have primitive : '\n' ∉ operation.mode.primitive.toList := by cases operation.mode <;> simp [Mode.primitive]
  have closes : Reads classMembers [] (pieces [own "     */"] ++ [.own '\n']) [] [] :=
    reads_line classMembers [] _ _ (by simp) rfl
  have head : Reads classMembers [] (pieces [own "    ", given operation.name, own "(",
      given (", ".intercalate (operation.arguments.map Argument.identifier)), own ") \x7b"] ++ [.own '\n'])
      [operation.name] [] :=
    reads_name classMembers [] _ _ (by simp) rfl
  have body : Reads classMembers [] (pieces [own "        return this.", own operation.mode.primitive, own "(",
      given (Json.string operation.name).compact,
      given (Script.callArguments operation.mode (operation.arguments.map Argument.identifier)), own ");"] ++
      [.own '\n']) [] [] :=
    reads_line classMembers [] _ _ (by simpa using primitive) rfl
  have ends : Reads classMembers [] (pieces [own "    \x7d"] ++ [.own '\n']) [] [] :=
    reads_line classMembers [] _ _ (by simp) rfl
  have front := reads_append classMembers _ _ _ _ _ _ _ closes head
  have back := reads_append classMembers _ _ _ _ _ _ _ body ends
  have all := reads_append classMembers _ _ _ _ _ _ _ front back
  simpa [Operation.callSpans] using all

theorem operation_read (operation : Operation) :
    Reads classMembers [] (pieces (operation.scriptSpans name) ++ [.own '\n']) [operation.name] [] := by
  have opens : Reads classMembers [] (pieces [own "    /**\n"]) [] [] :=
    reads_line classMembers [] (pieces [own "    /**"]) [] (by simp) rfl
  have comment := reads_then classMembers _ _ _ _ _ _ _ opens (comment_read name operation)
  have all := reads_append classMembers _ _ _ _ _ _ _ comment (call_read operation)
  rwa [← List.append_assoc, ← pieces_append] at all

theorem shape_read (shape : Shape) :
    Reads classMembers [] (pieces (shape.scriptSpans name) ++ [.own '\n']) [] [] := by
  have opens : Reads classMembers [] (pieces [own "/**\n * @typedef \x7bObject\x7d ", given shape.name, own "\n"])
      [] [] := by
    have first : Reads classMembers [] (pieces [own "/**"] ++ [.own '\n']) [] [] :=
      reads_line classMembers [] _ _ (by simp) rfl
    have second : Reads classMembers [] (pieces [own " * @typedef \x7bObject\x7d ", given shape.name] ++ [.own '\n'])
        [] [] :=
      reads_line classMembers [] _ _ (by simp) rfl
    have both := reads_append classMembers _ _ _ _ _ _ _ first second
    simpa using both
  have line (member : Member) : Reads classMembers [] (pieces (member.scriptSpans name)) [] [] := by
    have read : Reads classMembers [] (pieces (own " * @property " :: (bracedSpans (member.type.runtimeText name) ++
        own " " :: given member.name :: if member.description = "" then [] else [own " ", given member.description])) ++
        [.own '\n']) [] [] := by
      apply reads_line
      · split <;> simp [bracedSpans]
      · rfl
    simpa [Member.scriptSpans] using read
  have closes : Reads classMembers [] (pieces [own " */"] ++ [.own '\n']) [] [] :=
    reads_line classMembers [] _ _ (by simp) rfl
  have members := reads_silent classMembers _ shape.members line
  have all := reads_append classMembers _ _ _ _ _ _ _ (reads_append classMembers _ _ _ _ _ _ _ opens members) closes
  rw [← pieces_append, ← List.append_assoc, ← pieces_append] at all
  simpa [Shape.scriptSpans, Shape.commentSpans] using all

theorem script_declares (contract : Contract) (interface : Interface) :
    declaredNames classMembers (interface.scriptSpans name contract) =
      ownMembers ++ interface.operations.map Operation.name := by
  obtain ⟨_, _, receiver, heading⟩ := passages_declare contract.typeName contract.className
  obtain ⟨prelude, constructor, primitives, exported⟩ :=
    open_passages_declare contract.typeName contract.className (Json.string contract.route.text).compact
  have methods : Reads classMembers []
      (pieces (Span.blocks "\n" "\n\n" (interface.operations.map (Operation.scriptSpans name)))) _ [] :=
    blocks_read classMembers (Operation.scriptSpans name) (fun operation => [operation.name])
      (operation_read name) "\n" "\n" (reads_end classMembers []) interface.operations (reads_end classMembers [])
  have shapes : Reads classMembers []
      (pieces (Span.blocks "" "\n" (interface.shapes.map (Shape.scriptSpans name)))) _ [] :=
    blocks_read classMembers (Shape.scriptSpans name) (fun shape => [])
      (shape_read name) "" "" (reads_nil classMembers []) interface.shapes (reads_nil classMembers [])
  have typed := reads_then classMembers _ _ _ _ _ _ _ (reads_given classMembers _ contract.className)
    (reads_then classMembers _ _ _ _ _ _ _ heading shapes)
  have called := reads_append classMembers _ _ _ _ _ _ _ methods (reads_then classMembers _ _ _ _ _ _ _ exported typed)
  rw [← pieces_append] at called
  have receives := reads_append classMembers _ _ _ _ _ _ _
    (reads_part classMembers ("     * @return ".toList.map .own) (pieces (bracedSpans contract.className))
      (by simp [bracedSpans]))
    (reads_then classMembers _ _ _ _ _ _ _ receiver called)
  rw [← pieces_append] at receives
  have requests := reads_then classMembers _ _ _ _ _ _ _ (reads_given classMembers _ _)
    (reads_then classMembers _ _ _ _ _ _ _ primitives receives)
  have constructs := reads_then classMembers _ _ _ _ _ _ _ (reads_given classMembers _ contract.className)
    (reads_then classMembers _ _ _ _ _ _ _ constructor requests)
  have all := reads_append classMembers _ _ _ _ _ _ _ (head_read classMembers contract.typeName)
    (reads_then classMembers _ _ _ _ _ _ _ prelude constructs)
  rw [← pieces_append] at all
  have names := declared_of_reads classMembers _ _ all rfl
  simp only [Interface.scriptSpans, List.cons_append, List.nil_append, List.append_assoc] at names ⊢
  rw [names, ← List.map_eq_flatMap]
  simp [ownMembers]

end Script

end ClientPackager.Client
