import ClientPackager.Proofs.Client.FileSpans

set_option autoImplicit false

namespace ClientPackager.Client

open Contract (Method)
open ClientPackager.Client.Span (own givenTexts)
open Template

section Texts

variable (name : RecordId → String)

-- What a document puts into the comments of the module, apart from the lines of
-- descriptions and the names of arguments.
def Argument.commentTexts (argument : Argument) : List String := argument.type.runtimeText name :: argument.shown.toList

def Answer.commentTexts : Answer → List String
  | .nothing => []
  | .delivery _ type _ => [Registry.runtimeTextBy name type]

def Operation.commentTexts (operation : Operation) : List String :=
  operation.arguments.flatMap (Argument.commentTexts name) ++ operation.answer.commentTexts name

def Member.commentTexts (member : Member) : List String :=
  [member.type.runtimeText name, member.name, member.description]

def Shape.commentTexts (shape : Shape) : List String :=
  shape.name :: shape.members.flatMap (Member.commentTexts name)

def Interface.commentTexts (contract : Contract) (interface : Interface) : List String :=
  contract.className :: (interface.operations.flatMap (Operation.commentTexts name) ++
    interface.shapes.flatMap (Shape.commentTexts name))

end Texts

-- What a backslash has been put into begins as it did.
theorem guarded_head (cs : List Char) : (guardComment cs).head? = cs.head? := by
  fun_cases guardComment cs <;> rfl

theorem guarded_harmless (cs : List Char) : ¬ ['*', '/'] <:+: guardComment cs := by
  fun_induction guardComment cs with
  | case1 rest ih => simpa [List.infix_cons_iff] using ih
  | case2 c rest apart ih =>
      rw [List.infix_cons_iff]
      rintro (⟨back, shape⟩ | later)
      · obtain ⟨rfl, front⟩ : '*' = c ∧ '/' :: back = guardComment rest := by simpa using shape
        have head := guarded_head rest
        rw [← front, List.head?_cons] at head
        obtain ⟨others, rfl⟩ := List.head?_eq_some_iff.mp head.symm
        exact apart others rfl rfl
      · exact ih later
  | case3 => simp

theorem doc_harmless (method : Method) : ∀ line ∈ docLines method, Harmless line := by
  intro line listed
  rcases List.mem_append.mp listed with described | tagged
  · obtain ⟨text, _, rfl⟩ := List.mem_map.mp described
    rw [Harmless, String.toList_ofList]
    exact guarded_harmless text.toList
  · obtain ⟨_, rfl⟩ : method.deprecated = true ∧ line = "@deprecated" := by
      split at tagged <;> simp_all
    decide

theorem identifier_harmless (word : String) : Harmless (identifier word) := by
  apply harmless_without_slash
  intro listed
  exact absurd ((identifier_is_name word).2 '/' listed) (by decide)

section Laying

variable (name : RecordId → String)

theorem laid_doc (margin : String) (quiet : Quiet margin) (doc : List String) : Laid (docSpans margin doc) :=
  laid_each _ doc fun line => by simp [Laid, quiet, quiet_words]

theorem laid_tag (argument : Argument) : Laid (argument.tagSpans name) := by
  by_cases optional : argument.optional
  · cases shown : argument.shown <;>
      simp [Argument.tagSpans, bracedSpans, Argument.targetSpans, optional, shown, Laid, quiet_words]
  · simp [Argument.tagSpans, bracedSpans, Argument.targetSpans, optional, Laid, quiet_words]

theorem laid_answer (answer : Answer) (rest : List Span) (later : Laid rest) :
    Laid (answer.scriptSpans name ++ rest) := by
  rcases answer with _ | ⟨wrapper, type, nullable⟩
  · simp [Answer.scriptSpans, Laid, later, quiet_words]
  · have wrapped : Quiet wrapper.text := by cases wrapper <;> simp [Wrapper.text, quiet_words]
    cases nullable <;> simp [Answer.scriptSpans, Laid, later, wrapped, quiet_words]

theorem laid_operation (operation : Operation) : Laid (operation.commentSpans name) := by
  have described := laid_append _ _ (laid_doc "     * " (by simp [quiet_words]) operation.doc)
    (laid_each _ operation.arguments (laid_tag name))
  have closed : Laid [own "\x7d", own "\n"] := by simp [Laid, quiet_words]
  apply laid_append _ _ described
  simp only [Laid, quiet_words, true_and]
  exact laid_answer name operation.answer _ closed

theorem laid_member (member : Member) : Laid (member.scriptSpans name) := by
  by_cases empty : member.description = "" <;>
    simp [Member.scriptSpans, bracedSpans, empty, Laid, quiet_words]

theorem laid_shape (shape : Shape) : Laid (shape.commentSpans name) := by
  have members := laid_each _ shape.members (laid_member name)
  simp [Shape.commentSpans, Laid, members, quiet_words]

end Laying

theorem given_texts_append (front back : List Span) :
    givenTexts (front ++ back) = givenTexts front ++ givenTexts back := by
  simp [givenTexts]

theorem given_texts_each {α : Type} (spans : α → List Span) (values : List α) :
    givenTexts (values.flatMap spans) = values.flatMap fun value => givenTexts (spans value) := by
  induction values with
  | nil => rfl
  | cons value rest ih => rw [List.flatMap_cons, given_texts_append, ih, List.flatMap_cons]

theorem given_in_braced (text : String) : givenTexts (bracedSpans text) = [text] := rfl

section Given

variable (name : RecordId → String)

theorem given_in_doc (margin : String) (doc : List String) : givenTexts (docSpans margin doc) = doc := by
  rw [docSpans, given_texts_each]
  simp [givenTexts]

theorem given_in_tag (argument : Argument) : givenTexts (argument.tagSpans name) =
    argument.type.runtimeText name :: argument.identifier :: argument.shown.toList := by
  by_cases optional : argument.optional
  · cases shown : argument.shown <;>
      simp [Argument.tagSpans, bracedSpans, Argument.targetSpans, givenTexts, optional, shown]
  · simp [Argument.tagSpans, bracedSpans, Argument.targetSpans, Argument.shown, givenTexts, optional]

theorem given_in_answer (answer : Answer) : givenTexts (answer.scriptSpans name) = answer.commentTexts name := by
  rcases answer with _ | ⟨wrapper, type, nullable⟩
  · rfl
  · cases nullable <;> rfl

theorem given_in_operation (operation : Operation) : givenTexts (operation.commentSpans name) =
    operation.doc ++ (operation.arguments.flatMap fun argument =>
      argument.type.runtimeText name :: argument.identifier :: argument.shown.toList) ++
        operation.answer.commentTexts name := by
  have tail : givenTexts (own "     * " :: own "@return " :: own "\x7b" :: (operation.answer.scriptSpans name ++
      [own "\x7d", own "\n"])) = operation.answer.commentTexts name := by
    rw [← given_in_answer]
    simp [givenTexts]
  simp only [Operation.commentSpans, given_texts_append, given_texts_each, given_in_doc, given_in_tag, tail]

theorem given_in_member (member : Member) : (∀ text ∈ givenTexts (member.scriptSpans name), Harmless text) ↔
    ∀ text ∈ member.commentTexts name, Harmless text := by
  have nothing : Harmless "" := by decide
  by_cases empty : member.description = "" <;>
    simp [Member.scriptSpans, Member.commentTexts, bracedSpans, givenTexts, empty, nothing]

theorem operation_texts_harmless (method : Method) :
    (∀ text ∈ givenTexts ((Operation.ofMethod method).commentSpans name), Harmless text) ↔
      ∀ text ∈ (Operation.ofMethod method).commentTexts name, Harmless text := by
  have described : ∀ line ∈ (Operation.ofMethod method).doc, Harmless line := doc_harmless method
  have named : ∀ argument ∈ (Operation.ofMethod method).arguments, Harmless argument.identifier := by
    intro argument listed
    obtain ⟨param, _, rfl⟩ := List.mem_map.mp listed
    exact identifier_harmless param.name
  rw [given_in_operation, Operation.commentTexts]
  simp only [List.forall_mem_append, List.forall_mem_flatMap, List.forall_mem_cons, Argument.commentTexts]
  constructor
  · rintro ⟨⟨_, arguments⟩, answer⟩
    exact ⟨fun argument listed => ⟨(arguments argument listed).1, (arguments argument listed).2.2⟩, answer⟩
  · rintro ⟨arguments, answer⟩
    exact ⟨⟨described, fun argument listed =>
      ⟨(arguments argument listed).1, named argument listed, (arguments argument listed).2⟩⟩, answer⟩

theorem shape_texts_harmless (shape : Shape) : (∀ text ∈ givenTexts (shape.commentSpans name), Harmless text) ↔
    ∀ text ∈ shape.commentTexts name, Harmless text := by
  have split : givenTexts (shape.commentSpans name) =
      shape.name :: shape.members.flatMap fun member => givenTexts (member.scriptSpans name) := by
    rw [← given_texts_each]
    rfl
  simp only [split, Shape.commentTexts, List.forall_mem_cons, List.forall_mem_flatMap, given_in_member]

end Given

end ClientPackager.Client
