import ClientPackager.Proofs.Client.ScriptText
import ClientPackager.Proofs.Client.TypeReading
import ClientPackager.Proofs.Contract.Introspection

set_option autoImplicit false

namespace ClientPackager.Client

open Contract (Method Param)
open Template
open ScriptType (IsName Token tokens tokens_name tokens_parted)

-- What a call passes behind the name of the method.
inductive Passed where
  | bare (name : String)
  | array (names : List String)
deriving DecidableEq, Repr

def Passed.names : Passed → List String
  | .bare name => [name]
  | .array names => names

-- A reader of what stands behind the first argument of a call. It holds the names
-- of an array that is still open.
def readPassed : Option (List String) → List Token → Option (List Passed)
  | none, [] => some []
  | none, .mark ',' :: .mark '[' :: .name first :: rest => readPassed (some [first]) rest
  | none, .mark ',' :: .name only :: rest => (readPassed none rest).map (.bare only :: ·)
  | some names, .mark ',' :: .name next :: rest => readPassed (some (names ++ [next])) rest
  | some names, .mark ']' :: rest => (readPassed none rest).map (.array names :: ·)
  | _, _ => none

def Passes (arguments : String) (passed : List Passed) : Prop := readPassed none (tokens arguments.toList) = some passed

def behindComma (name : String) : List Token := [.mark ',', .name name]

theorem joined_tokens (first : String) (more : List String) (proper : ∀ name ∈ first :: more, IsName name) :
    tokens (", ".intercalate (first :: more)).toList = .name first :: more.flatMap behindComma := by
  induction more generalizing first with
  | nil => simpa using tokens_name first (proper first List.mem_cons_self)
  | cons next later ih =>
      have below := ih next fun name listed => proper name (List.mem_cons_of_mem first listed)
      rw [String.intercalate_cons_cons, String.toList_append, String.toList_append,
        tokens_parted first.toList _ ", " [.mark ','] (by decide), tokens_name first (proper first List.mem_cons_self),
        below]
      rfl

theorem open_array_read (names more : List String) (rest : List Token) :
    readPassed (some names) (more.flatMap behindComma ++ .mark ']' :: rest) =
      (readPassed none rest).map (.array (names ++ more) :: ·) := by
  induction more generalizing names with
  | nil => simp [readPassed]
  | cons next later ih =>
      rw [List.flatMap_cons, List.append_assoc, behindComma]
      simp only [List.cons_append, List.nil_append, readPassed]
      rw [ih, List.append_assoc, List.singleton_append]

theorem single_passed (name : String) (proper : IsName name) : Passes (", " ++ name) [.bare name] := by
  have parted := tokens_parted [] name.toList ", " [.mark ','] (by decide)
  rw [Passes, String.toList_append, ← List.nil_append ", ".toList, parted, tokens_name name proper]
  rfl

theorem pair_passed (first second : String) (proper : IsName first) (other : IsName second) :
    Passes (", " ++ first ++ ", " ++ second) [.bare first, .bare second] := by
  have before := tokens_parted [] first.toList ", " [.mark ','] (by decide)
  have parted := tokens_parted (", ".toList ++ first.toList) second.toList ", " [.mark ','] (by decide)
  rw [List.nil_append, tokens_name first proper] at before
  rw [tokens_name second other, before] at parted
  rw [Passes, String.toList_append, String.toList_append, String.toList_append, parted]
  rfl

theorem array_passed (first : String) (more : List String) (proper : ∀ name ∈ first :: more, IsName name) :
    Passes (", " ++ ("[" ++ ", ".intercalate (first :: more) ++ "]")) [.array (first :: more)] := by
  have opens := tokens_parted [] (", ".intercalate (first :: more)).toList ", [" [.mark ',', .mark '['] (by decide)
  have closes := tokens_parted (", [".toList ++ (", ".intercalate (first :: more)).toList) [] "]" [.mark ']']
    (by decide)
  rw [List.nil_append, joined_tokens first more proper] at opens
  rw [List.append_nil, opens] at closes
  have shape : (", " ++ ("[" ++ ", ".intercalate (first :: more) ++ "]")).toList =
      ", [".toList ++ (", ".intercalate (first :: more)).toList ++ "]".toList := by simp
  rw [Passes, shape, closes]
  have read := open_array_read [first] more []
  simpa [readPassed] using read

-- The parameters that make a method a channel.
def TakesStream (params : List Param) : Prop :=
  (∃ only element, params = [only] ∧ only.type = .stream element) ∨
    ∃ leading last element, params = [leading, last] ∧ last.type = .stream element

theorem is_stream_iff (type : Descriptor) : type.isStream = true ↔ ∃ element, type = .stream element := by
  cases type <;> simp [Descriptor.isStream]

theorem takes_stream_iff (params : List Param) :
    Classification.takesChannel (params.map Param.type) = true ↔ TakesStream params := by
  match params with
  | [] => simp [TakesStream, Classification.takesChannel]
  | [only] => simp [TakesStream, Classification.takesChannel, is_stream_iff]
  | [leading, last] => simp [TakesStream, Classification.takesChannel, is_stream_iff]
  | _ :: _ :: _ :: _ => simp [TakesStream, Classification.takesChannel]

def Classified (method : Method) : Prop :=
  ⟨method.mode, method.singleResultChannel⟩ = Classification.ofTypes (method.params.map Param.type) method.result

theorem channel_iff (method : Method) (classified : Classified method) :
    method.mode = .requestChannel ↔ TakesStream method.params := by
  have mode := congrArg Classification.mode classified
  rw [← takes_stream_iff]
  change method.mode = _ at mode
  rw [mode, Classification.ofTypes]
  split
  · next takes => simp [takes]
  · next refused =>
      have other : Classification.modeOfResult method.result ≠ .requestChannel := by
        rw [Classification.modeOfResult]
        split
        · simp
        · split <;> simp
      simp [refused, other]

theorem described_classified (order : MethodOrder) (doc : Reflection) (contract : Contract)
    (described : Contract.ofReflection order doc = .ok contract) : ∀ method ∈ contract.methods, Classified method := by
  obtain ⟨methods, each, arranged⟩ := ((Contract.reflection_described order doc contract).mp described).methods
  have classified : ∀ method ∈ methods, Classified method := by
    have sources : List.Forall₂ (flip (Contract.OfMethod (Contract.resolverOf doc))) methods _ := each.flip
    exact ((List.forall₂_and_left methods _).mp (sources.imp fun _ _ made => ⟨made.classified, made⟩)).1
  cases order with
  | declaration => exact arranged ▸ classified
  | alphabetical =>
      exact fun method listed => classified method (Contract.mem_of_alike _ _ arranged.stable method listed)

-- What is passed for the parameters of a method.
structure Forwards (method : Method) (passed : List Passed) : Prop where
  nothing : method.params = [] → passed = []
  only : ∀ param, method.params = [param] → passed = [.bare (identifier param.name)]
  several : 2 ≤ method.params.length → method.mode ≠ .requestChannel → passed = [.array (paramIdentifiers method)]
  channel : method.mode = .requestChannel → ∃ stream element, method.channelParam? = some stream ∧
    stream.type = .stream element ∧
    ((method.params = [stream] ∧ passed = [.bare (identifier stream.name)]) ∨
      ∃ leading, method.params = [leading, stream] ∧
        passed = [.bare (identifier stream.name), .bare (identifier leading.name)])
  once : (passed.flatMap Passed.names).Perm (paramIdentifiers method)
  classified : method.mode = .requestChannel ↔ TakesStream method.params

section Forwards

variable (method : Method) (classified : Classified method)

include classified

theorem nothing_forwards (none : method.params = []) : Forwards method [] where
  nothing _ := rfl
  only param alone := by simp [none] at alone
  several many := by simp [none] at many
  channel mode := by simpa [TakesStream, none] using (channel_iff method classified).mp mode
  once := by simp [paramIdentifiers, none]
  classified := channel_iff method classified

theorem single_forwards (param : Param) (alone : method.params = [param]) :
    Forwards method [.bare (identifier param.name)] where
  nothing none := by simp [alone] at none
  only other same := by
    rw [alone] at same
    cases same
    rfl
  several many := by simp [alone] at many
  channel mode := by
    have takes := (channel_iff method classified).mp mode
    simp only [TakesStream, alone, List.cons.injEq, and_true, reduceCtorEq, false_and, and_false, exists_false,
      or_false] at takes
    obtain ⟨_, element, rfl, typed⟩ := takes
    refine ⟨param, element, by simp [Method.channelParam?, mode, alone], typed, .inl ⟨alone, rfl⟩⟩
  once := by simp [paramIdentifiers, alone, Passed.names]
  classified := channel_iff method classified

theorem array_forwards (many : 2 ≤ method.params.length) (other : method.mode ≠ .requestChannel) :
    Forwards method [.array (paramIdentifiers method)] where
  nothing none := by simp [none] at many
  only param alone := by simp [alone] at many
  several _ _ := rfl
  channel mode := absurd mode other
  once := by simp [Passed.names]
  classified := channel_iff method classified

theorem pair_forwards (leading stream : Param) (pair : method.params = [leading, stream])
    (mode : method.mode = .requestChannel) :
    Forwards method [.bare (identifier stream.name), .bare (identifier leading.name)] where
  nothing none := by simp [pair] at none
  only param alone := by simp [pair] at alone
  several _ other := absurd mode other
  channel _ := by
    have takes := (channel_iff method classified).mp mode
    simp only [TakesStream, pair, List.cons.injEq, reduceCtorEq, and_false, false_and, exists_false, false_or,
      and_true] at takes
    obtain ⟨_, _, element, ⟨rfl, rfl⟩, typed⟩ := takes
    exact ⟨stream, element, by simp [Method.channelParam?, mode, pair], typed, .inr ⟨leading, pair, rfl⟩⟩
  once := by simpa [paramIdentifiers, pair, Passed.names] using List.Perm.swap _ _ _
  classified := channel_iff method classified

theorem call_forwards : ∃ passed,
    Passes (Script.callArguments method.mode (paramIdentifiers method)) passed ∧ Forwards method passed := by
  rcases shape : method.params with _ | ⟨first, _ | ⟨second, rest⟩⟩
  · rw [paramIdentifiers, shape]
    exact ⟨[], rfl, nothing_forwards method classified shape⟩
  · rw [paramIdentifiers, shape]
    exact ⟨_, single_passed _ (identifier_is_name first.name), single_forwards method classified first shape⟩
  · have identifiers : paramIdentifiers method =
        identifier first.name :: identifier second.name :: rest.map fun param => identifier param.name := by
      rw [paramIdentifiers, shape, List.map_cons, List.map_cons]
    by_cases mode : method.mode = .requestChannel
    · have pair : rest = [] := by
        have takes := (channel_iff method classified).mp mode
        simp [TakesStream, shape] at takes
        exact takes.1
      subst pair
      refine ⟨_, ?_, pair_forwards method classified first second shape mode⟩
      have call : Script.callArguments .requestChannel [identifier first.name, identifier second.name] =
          ", " ++ identifier second.name ++ ", " ++ identifier first.name := rfl
      rw [identifiers, mode, List.map_nil, call]
      exact pair_passed _ _ (identifier_is_name second.name) (identifier_is_name first.name)
    · refine ⟨_, ?_, array_forwards method classified (by simp [shape]) mode⟩
      have proper : ∀ name ∈ paramIdentifiers method, IsName name := by
        rw [paramIdentifiers, List.forall_mem_map]
        exact fun param _ => identifier_is_name param.name
      rw [identifiers] at proper ⊢
      simp only [Script.callArguments, if_neg mode]
      exact array_passed _ _ proper

end Forwards

-- A method of the class: its parameters, and what it passes to the primitive.
def memberText (method : Method) (identifiers : List String) (arguments : String) : String :=
  "    " ++ method.name ++ "(" ++ ", ".intercalate identifiers ++ ") \x7b\n        return this." ++
    method.mode.primitive ++ "(" ++ (Json.string method.name).compact ++ arguments ++ ");\n    \x7d"

def Dispatched (text : String) (method : Method) (identifiers : List String) (arguments : String) : Prop :=
  ∃ front back, text = front ++ "\n" ++ memberText method identifiers arguments ++ back

theorem operation_dispatched (name : RecordId → String) (method : Method) : Dispatched
    ((Operation.ofMethod method).script name) method (paramIdentifiers method)
    (Script.callArguments method.mode (paramIdentifiers method)) := by
  have identifiers : (Operation.ofMethod method).arguments.map Argument.identifier = paramIdentifiers method := by
    simp only [Operation.ofMethod, List.map_map]
    rfl
  have margin : "     */\n    " = "     */" ++ "\n" ++ "    " := rfl
  refine ⟨"    /**\n" ++ commentLines "     * " ((Operation.ofMethod method).scriptDoc name) ++ "     */", "", ?_⟩
  rw [Operation.script, identifiers, margin]
  simp only [String.join_cons, String.join_nil, memberText, String.append_assoc, String.append_empty]
  rfl

theorem method_dispatched (contract : Contract) (method : Method) (listed : method ∈ contract.methods) : Dispatched
    ((Interface.ofContract contract).script ((Registry.ofContract contract).nameOr "Object") contract) method
    (paramIdentifiers method) (Script.callArguments method.mode (paramIdentifiers method)) := by
  have member : (Operation.ofMethod method).script ((Registry.ofContract contract).nameOr "Object") ∈
      (Interface.ofContract contract).operations.map (Operation.script ((Registry.ofContract contract).nameOr "Object")) :=
    List.mem_map_of_mem (List.mem_map_of_mem listed)
  obtain ⟨before, after, shown⟩ := block_shown _ _ member
  obtain ⟨front, back, dispatched⟩ := operation_dispatched ((Registry.ofContract contract).nameOr "Object") method
  rw [Dispatched, Interface.script, shown, dispatched]
  refine ⟨String.join ["// Generated from ", contract.typeName, scriptPrelude, contract.className, scriptConstructor,
    (Json.string contract.route.text).compact, scriptPrimitives, Script.braced contract.className, scriptReceiver,
    before, "\n", front], back ++ after ++ String.join [scriptExport, contract.className, typedefHeading,
    blocks "" "\n" ((Interface.ofContract contract).shapes.map
      (Shape.script ((Registry.ofContract contract).nameOr "Object")))], ?_⟩
  simp only [String.join_cons, String.join_nil, String.append_assoc, String.append_empty]

def courierDocument : Reflection :=
  ⟨"org.demo.CourierImpl", some "org.demo.Courier", none, [⟨"track", some .direct, false, none, false,
    [⟨"order-id", "int", true, none, none⟩, ⟨"stops", "Flux<String>", true, none, none⟩], "Flux<String>"⟩], []⟩

def trackMethod : Method :=
  ⟨"track", [⟨"order-id", .number .int, true, none, none⟩, ⟨"stops", .stream .text, true, none, none⟩], .stream .text,
    false, none, false, .requestChannel, false, .text⟩

def courierContract : Contract :=
  ⟨⟨"org.demo.Courier"⟩, "org.demo.CourierImpl", none, .declaration, [trackMethod], ⟨[]⟩⟩

-- A document of one method without records is described by what that method is.
theorem sole_method_described (typeName route : String) (source : Reflection.Method) (method : Method)
    (solid : Text.blank route = false) (bare : Text.trim route = route) (exported : source.route.isSome = true)
    (made : Contract.OfMethod ⟨[]⟩ source method) :
    Contract.ofReflection .declaration ⟨typeName, some route, none, [source], []⟩ =
      .ok ⟨⟨route⟩, typeName, none, .declaration, [method], ⟨[]⟩⟩ := by
  refine (Contract.reflection_described _ _ _).mpr
    ⟨⟨route, rfl, solid, by rw [bare]⟩, rfl, fun _ => rfl, fun _ named => (by cases named), rfl, .nil, [method], ?_, rfl⟩
  simp only [Contract.exported, List.filter_cons, exported, if_true, List.filter_nil]
  exact .cons made .nil

theorem courier_described : Contract.ofReflection .declaration courierDocument = .ok courierContract := by
  have int : Contract.OfType ⟨[]⟩ "int" (.number .int) := ⟨⟨"int", [], 0⟩, rfl, by decide⟩
  have stops : Contract.OfType ⟨[]⟩ "Flux<String>" (.stream .text) :=
    ⟨⟨"Flux", [⟨"String", [], 0⟩], 0⟩, rfl, by decide⟩
  exact sole_method_described _ _ _ trackMethod (by decide) (by decide) rfl ⟨rfl,
    .cons ⟨rfl, int, rfl, rfl, rfl⟩ (.cons ⟨rfl, stops, rfl, rfl, rfl⟩ .nil), stops, rfl, rfl, rfl, rfl, rfl⟩

end ClientPackager.Client
