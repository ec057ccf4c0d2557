import ClientPackager.Proofs.Client.DeclarationText
import ClientPackager.Proofs.Client.TypeMeaning

set_option autoImplicit false

namespace ClientPackager.Client

open Contract (Method Param)
open ScriptType (Denotes IsName Reads Token tokens)

-- What a declaration tells of a parameter: the name in front of the colon, the
-- question mark at its end, and the type behind the colon.
structure Reading where
  name : String
  marked : Bool
  type : String
deriving DecidableEq

def readParam (text : String) : Reading :=
  let front := text.toList.takeWhile (· != ':')
  ⟨String.ofList (front.takeWhile (· != '?')), front.contains '?',
    String.ofList ((text.toList.dropWhile (· != ':')).drop 2)⟩

theorem read_written (name type : String) (marked : Bool) (proper : IsName name) :
    readParam (name ++ (if marked then "?" else "") ++ ": " ++ type) = ⟨name, marked, type⟩ := by
  have apart (c : Char) (foreign : isIdentifierChar c = false) : ∀ letter ∈ name.toList, (letter != c) = true := by
    intro letter member
    have own := proper.2 letter member
    simpa using fun same : letter = c => by simp [same, foreign] at own
  have colon := apart ':' (by decide)
  have question := apart '?' (by decide)
  have unmarked : '?' ∉ name.toList := fun listed => by simpa using question '?' listed
  have front : name.toList.takeWhile (· != '?') = name.toList := List.takeWhile_eq_self_iff.mpr question
  cases marked with
  | false => simp [readParam, List.takeWhile_append_of_pos colon, List.dropWhile_append_of_pos colon, front, unmarked]
  | true =>
      simp [readParam, List.takeWhile_append_of_pos colon, List.dropWhile_append_of_pos colon,
        List.takeWhile_append_of_pos question]

def omittable (params : List Param) : Bool := params.all fun param => !param.required

-- What a signature says of a parameter, given it and all behind it.
def written (registry : Registry) (onwards : List Param) (param : Param) : String :=
  identifier param.name ++ (if omittable onwards then "?" else "") ++ ": " ++
    (Declarations.paramType registry param ++ if !param.required && !omittable onwards then " | undefined" else "")

theorem signature_written (registry : Registry) (params : List Param) : Declarations.signature registry params =
    params.mapIdx fun position param => written registry (params.drop position) param := by
  induction params with
  | nil => rfl
  | cons param rest ih =>
      rw [Declarations.signature, List.mapIdx_cons, ih]
      refine List.cons_eq_cons.mpr ⟨?_, rfl⟩
      cases required : param.required <;> cases later : rest.all (fun other => !other.required) <;>
        simp [written, omittable, required, later, String.append_assoc]

theorem read_of_written (registry : Registry) (onwards : List Param) (param : Param) :
    readParam (written registry onwards param) = ⟨identifier param.name, omittable onwards,
      Declarations.paramType registry param ++ if !param.required && !omittable onwards then " | undefined" else ""⟩ :=
  read_written _ _ _ (identifier_is_name param.name)

-- Which parameters of a signature have a question mark.
def marks (registry : Registry) (params : List Param) : List Bool :=
  (Declarations.signature registry params).map fun text => (readParam text).marked

-- A parameter that a caller may leave out: none behind it has to be given.
structure Allowed (params : List Param) (marks : List Bool) : Prop where
  each : marks.length = params.length
  optional : ∀ (position : Nat) (param : Param), params[position]? = some param → marks[position]? = some true →
    param.required = false
  behind : marks.Pairwise fun earlier later => earlier = true → later = true

section Marks

variable (registry : Registry) (params : List Param)

theorem marks_indexed : marks registry params =
    params.mapIdx fun position _ => omittable (params.drop position) := by
  apply List.ext_getElem?
  intro position
  rw [marks, signature_written, List.getElem?_map, List.getElem?_mapIdx, List.getElem?_mapIdx]
  cases params[position]? with
  | none => rfl
  | some param => rw [Option.map_some, Option.map_some, Option.map_some, read_of_written]

theorem mark_at (position : Nat) (param : Param) (present : params[position]? = some param) :
    (marks registry params)[position]? = some true ↔ ∀ later ∈ params.drop position, later.required = false := by
  rw [marks_indexed, List.getElem?_mapIdx, present]
  simp [omittable]

theorem marks_allowed : Allowed params (marks registry params) where
  each := by rw [marks_indexed, List.length_mapIdx]
  optional position param present marked := by
    refine (mark_at registry params position param present).mp marked param ?_
    have first : (params.drop position)[0]? = some param := by rw [List.getElem?_drop, Nat.add_zero, present]
    exact List.mem_of_getElem? first
  behind := by
    rw [marks_indexed, List.pairwise_iff_getElem]
    intro earlier later _ _ before free
    rw [List.getElem_mapIdx, omittable, List.all_eq_true] at free ⊢
    intro other listed
    exact free other (List.drop_subset_drop_left params (Nat.le_of_lt before) listed)

theorem marks_greatest (other : List Bool) (allowed : Allowed params other) (position : Nat)
    (marked : other[position]? = some true) : (marks registry params)[position]? = some true := by
  obtain ⟨within, here⟩ := List.getElem?_eq_some_iff.mp marked
  obtain ⟨param, present⟩ : ∃ param, params[position]? = some param :=
    ⟨_, List.getElem?_eq_getElem (allowed.each ▸ within)⟩
  rw [mark_at registry params position param present]
  intro later listed
  obtain ⟨distance, found⟩ := List.mem_iff_getElem?.mp listed
  rw [List.getElem?_drop] at found
  have reached : position + distance < other.length := allowed.each ▸ (List.getElem?_eq_some_iff.mp found).1
  have free : other[position + distance] = true := by
    cases distance with
    | zero => exact here
    | succ rest => exact List.pairwise_iff_getElem.mp allowed.behind _ _ within reached (by omega) here
  exact allowed.optional _ later found (List.getElem?_eq_some_iff.mpr ⟨reached, free⟩)

end Marks

namespace ScriptType

-- What stands between the bars of a union.
def alternatives : ScriptType → List ScriptType
  | union first rest => first.alternatives ++ rest.alternatives
  | type => [type]

theorem reads_or_undefined (ts : List Token) (type : ScriptType) : Reads .barred ts type →
    ∃ whole, Reads .barred (ts ++ [.mark '|', .name "undefined"]) whole ∧
      whole.alternatives = type.alternatives ++ [.named "undefined"]
  | .single _ _ only =>
      ⟨.union type (.named "undefined"),
        .union ts _ type _ only (.single _ _ (bracketed_of_atom _ _ (.named "undefined"))), rfl⟩
  | .union front later first rest left right => by
      obtain ⟨whole, read, listed⟩ := reads_or_undefined later rest right
      refine ⟨.union first whole, ?_, ?_⟩
      · rw [List.append_assoc]
        exact .union front _ first whole left read
      · rw [alternatives, alternatives, listed, List.append_assoc]

theorem denotes_or_undefined (text : String) (type : ScriptType) (denotes : Denotes text type) :
    ∃ whole, Denotes (text ++ " | undefined") whole ∧ whole.alternatives = type.alternatives ++ [.named "undefined"] := by
  obtain ⟨whole, read, listed⟩ := reads_or_undefined _ type denotes
  refine ⟨whole, ?_, listed⟩
  have split : (text ++ " | undefined").toList = text.toList ++ " | ".toList ++ "undefined".toList := by simp
  rw [Denotes, split, tokens_parted text.toList _ " | " [.mark '|'] (by decide +kernel),
    tokens_name "undefined" (by decide +kernel), List.append_assoc]
  exact read

end ScriptType

-- The declaration of a method with some texts for its parameters.
def signatureText (registry : Registry) (method : Method) (params : List String) : String :=
  (Declarations.alias? method).elim ("export function " ++ method.name) ("declare function " ++ ·) ++
    "(" ++ ", ".intercalate params ++ "): " ++ Declarations.resultType registry method ++ ";"

def Signed (registry : Registry) (text : String) (method : Method) (params : List String) : Prop :=
  ∃ front back, text = front ++ "\n" ++ signatureText registry method params ++ back

theorem export_signed (registry : Registry) (method : Method) : ∃ back,
    (Operation.ofMethod method).exportText (registry.nameOr "any") =
      signatureText registry method (Declarations.signature registry method.params) ++ back := by
  have inner : (Operation.ofMethod method).alias? = Declarations.alias? method := rfl
  have arguments : (Operation.ofMethod method).arguments = method.params.map Argument.ofParam := rfl
  have answer : (Operation.ofMethod method).answer = Answer.ofMethod method := rfl
  rw [signatureText, signature_of, declared_result_of, Operation.exportText, inner, arguments, answer]
  cases Declarations.alias? method with
  | none => exact ⟨"", by simp [Operation.ofMethod, String.append_assoc]⟩
  | some word =>
      have ends : ";\nexport \x7b " = ";" ++ "\nexport \x7b " := rfl
      refine ⟨"\nexport \x7b " ++ word ++ " as " ++ method.name ++ " \x7d;", ?_⟩
      simp only [ends, String.join_cons, String.join_nil, Operation.ofMethod, Option.elim_some, String.append_assoc,
        String.append_empty]

-- Either nothing stands in front of a declaration on its line, or a comment that
-- ends with the line above.
theorem operation_signed (registry : Registry) (method : Method) : Signed registry
    ("\n" ++ (Operation.ofMethod method).declaration (registry.nameOr "any")) method
    (Declarations.signature registry method.params) := by
  obtain ⟨back, shape⟩ := export_signed registry method
  rw [Signed, Operation.declaration, shape]
  rcases doc_section_ends (Operation.ofMethod method).doc with none | ⟨front, ends⟩
  · refine ⟨"", back, ?_⟩
    rw [none]
    simp only [String.empty_append, String.append_assoc]
  · refine ⟨"\n" ++ front, back, ?_⟩
    rw [ends]
    simp only [String.append_assoc]

theorem method_signed (contract : Contract) (method : Method) (listed : method ∈ contract.methods) :
    Signed (Registry.ofContract contract)
      ((Interface.ofContract contract).declarations ((Registry.ofContract contract).nameOr "any") contract) method
      (Declarations.signature (Registry.ofContract contract) method.params) := by
  have member : (Operation.ofMethod method).declaration ((Registry.ofContract contract).nameOr "any") ∈
      (Interface.ofContract contract).operations.map (Operation.declaration ((Registry.ofContract contract).nameOr "any")) :=
    List.mem_map_of_mem (List.mem_map_of_mem listed)
  obtain ⟨before, after, shown⟩ := block_shown _ _ member
  obtain ⟨front, back, signed⟩ := operation_signed (Registry.ofContract contract) method
  have joined (block : String) : before ++ "\n" ++ block ++ after = before ++ ("\n" ++ block) ++ after := by
    simp only [String.append_assoc]
  rw [Signed, Interface.declarations, shown, joined, signed]
  refine ⟨"// Generated from " ++ contract.typeName ++ Template.declarationPrelude ++ before ++ front,
    back ++ after ++ Template.classHeading ++ blocks "" "\n\n"
      ((Interface.ofContract contract).shapes.map (Shape.declaration ((Registry.ofContract contract).nameOr "any"))), ?_⟩
  simp [String.append_assoc]

-- What a signature says of one parameter. Where a union is read, undefined is one
-- more alternative behind those of the type.
structure Declared (registry : Registry) (params : List Param) (position : Nat) (param : Param) (text : String) :
    Prop where
  name : (readParam text).name = identifier param.name
  marked : (readParam text).marked = true ↔ ∀ later ∈ params.drop position, later.required = false
  typed : (readParam text).type = Declarations.paramType registry param ++
    if param.required = false ∧ (readParam text).marked = false then " | undefined" else ""
  understood : ∀ own, Denotes (Declarations.paramType registry param) own →
    ∃ whole, Denotes (readParam text).type whole ∧ whole.alternatives = own.alternatives ++
      if param.required = false ∧ (readParam text).marked = false then [.named "undefined"] else []

theorem written_declared (registry : Registry) (params : List Param) (position : Nat) (param : Param) :
    Declared registry params position param (written registry (params.drop position) param) where
  name := by rw [read_of_written]
  marked := by
    rw [read_of_written]
    simp [omittable]
  typed := by
    rw [read_of_written]
    simp
  understood own denotes := by
    rw [read_of_written]
    simp only [Bool.and_eq_true, Bool.not_eq_true']
    split
    · exact ScriptType.denotes_or_undefined _ own denotes
    · exact ⟨own, by rwa [String.append_empty], by rw [List.append_nil]⟩

theorem optional_parameters_most_permissive (contract : Contract) :
    ∃ text, Bundle.renderDeclarations contract = .ok text ∧ ∀ method ∈ contract.methods, ∃ params : List String,
      Signed (Registry.ofContract contract) text method params ∧ params.length = method.params.length ∧
      (∀ (position : Nat) param shown, method.params[position]? = some param → params[position]? = some shown →
        Declared (Registry.ofContract contract) method.params position param shown) ∧
      Allowed method.params (params.map fun shown => (readParam shown).marked) ∧
      ∀ marks, Allowed method.params marks → ∀ position : Nat, marks[position]? = some true →
        (params.map fun shown => (readParam shown).marked)[position]? = some true := by
  refine ⟨_, render_declarations contract, fun method listed => ⟨_, method_signed contract method listed, ?_, ?_, ?_, ?_⟩⟩
  · rw [signature_written, List.length_mapIdx]
  · intro position param shown present also
    rw [signature_written, List.getElem?_mapIdx, present, Option.map_some, Option.some.injEq] at also
    exact also ▸ written_declared _ method.params position param
  · exact marks_allowed _ method.params
  · exact marks_greatest _ method.params

-- In front of a parameter that has to be given, one may be undefined instead.
example : Declarations.signature Registry.empty [⟨"page", .number .int, false, none, none⟩,
    ⟨"q", .text, true, none, none⟩, ⟨"limit", .number .int, false, none, none⟩] =
    ["page: number | undefined", "q: string", "limit?: number"] := by
  decide +kernel

end ClientPackager.Client
