import ClientPackager.Proofs.Client.DeclarationText
import ClientPackager.Proofs.Client.ScriptText
import ClientPackager.Proofs.Template.Nesting
import ClientPackager.Proofs.Template.Source
import ClientPackager.Proofs.Template.Yields

set_option autoImplicit false

namespace ClientPackager.Template

-- The texts of more than a line. All but the first four end with a line.
theorem passages : ∀ text ∈ [scriptPrelude, scriptConstructor, scriptPrimitives, scriptExport, scriptReceiver,
    typedefHeading, declarationPrelude, classHeading], Passage text := by
  simp only [List.forall_mem_cons, List.not_mem_nil, false_implies, implies_true, and_true]
  refine ⟨passage_append _ _ (passage_lines _ _ ?_) (passage _ _ rfl),
    passage_append _ _ (passage_lines _ _ ?_) (passage _ _ rfl),
    passage_append _ _ (passage_lines _ _ ?_) (passage _ _ rfl),
    passage_append _ _ (passage_lines _ _ ?_) (passage _ _ rfl),
    passage_lines _ _ ?_, passage_lines _ _ ?_, passage_lines _ _ ?_, passage_lines _ _ ?_⟩
  all_goals
    simp only [List.forall_mem_cons, List.not_mem_nil, false_implies, implies_true, and_true]
    and_intros <;> exact plain_line _ rfl

theorem short_passages : ∀ text ∈ ["// Generated from ", "\n", "\n\n", "    /**\n", "\n     * ", "\n     */\n    ", "(",
    ") \x7b\n        return this.", ");\n    \x7d\n", "/**\n * @typedef \x7bObject\x7d ", "\n * @property ", " ",
    "\n */\n", "\n/**\n", "\n * ", "\ndeclare function ", "): ", ";\nexport \x7b ", " as ", " \x7d;\n",
    "\nexport function ", ";\n", "declare class ", " \x7b\n", "\n    ", ": ", "\n\x7d\n"], Passage text := by
  decide +kernel

theorem field_words : ∀ name ∈ ["generated_from", "class_name", "class_type", "route", "methods", "typedefs", "functions",
    "classes", "doc", "this", "name", "params", "primitive", "args", "properties", "type", "description", "alias",
    "returns"], Word name.toList ∧ helpers.contains name = false := by
  decide +kernel

theorem helper_words : ∀ helper ∈ ["if", "unless", "each"], Word helper.toList := by
  decide +kernel

theorem sources_legible : ∀ entry ∈ sources, ∀ piece ∈ entry.2, piece.Legible := by
  have long := passages
  have short := short_passages
  have fields := field_words
  have blocks := helper_words
  simp only [List.forall_mem_cons] at long short fields blocks
  have exported : Passage ("\n" ++ scriptExport) := passage_append _ _ (by simp only [short]) (by simp only [long])
  have classes : Passage ("\n" ++ classHeading) := passage_append _ _ (by simp only [short]) (by simp only [long])
  simp only [sources, scriptModuleSource, scriptMethodSource, scriptTypedefSource, declarationModuleSource,
    declarationFunctionSource, declarationClassSource, List.forall_mem_cons, List.not_mem_nil, false_implies,
    implies_true, and_true, Piece.Legible, long, short, fields, blocks, exported, classes]

theorem sources_apart : ∀ entry ∈ sources, apart entry.2 = true := by
  simp only [sources, List.forall_mem_cons, List.not_mem_nil, false_implies, implies_true, and_true]
  and_intros <;> rfl

-- The steps of the reader, one tag at a time, so that no long text is looked into.
theorem script_module_nests :
    nest (dropTagLines true false none (scriptModuleSource.map Piece.segment)) [] [] = some scriptModule := by
  have long := fun text listed => (passages text listed).present
  simp only [List.forall_mem_cons] at long
  have short : "// Generated from " ≠ "" ∧ "\n" ≠ "" := by decide
  have receiver : scriptReceiver.toList.getLast? = some '\n' := by
    rw [scriptReceiver]
    exact lines_fed _ _
  have heading : typedefHeading.toList.getLast? = some '\n' := by
    rw [typedefHeading]
    exact lines_fed _ _
  simp only [scriptModuleSource, List.map_cons, List.map_nil, Piece.segment, drop_before_value, drop_before_call,
    drop_before_opening, drop_before_closing, drop_last, feed_ends, feed_drops, feed_fed, receiver, heading, keeps_line,
    reduceIte, Bool.false_eq_true]
  simp only [nest_text, nest_step, long, short, ne_eq, not_false_eq_true]
  rfl

theorem declaration_module_nests :
    nest (dropTagLines true false none (declarationModuleSource.map Piece.segment)) [] [] = some declarationModule := by
  have long := fun text listed => (passages text listed).present
  simp only [List.forall_mem_cons] at long
  have short : "// Generated from " ≠ "" ∧ "\n" ≠ "" := by decide
  have prelude : declarationPrelude.toList.getLast? = some '\n' := by
    rw [declarationPrelude]
    exact lines_fed _ _
  have heading : classHeading.toList.getLast? = some '\n' := by
    rw [classHeading]
    exact lines_fed _ _
  have below : ("\n" ++ classHeading).toList.getLast? = some '\n' := by
    rw [String.toList_append, List.getLast?_append, heading, Option.some_or]
  simp only [declarationModuleSource, List.map_cons, List.map_nil, Piece.segment, drop_before_value,
    drop_before_opening, drop_before_closing, drop_last, feed_ends, feed_drops, feed_fed, prelude, heading, below,
    keeps_line, reduceIte, Bool.false_eq_true]
  simp only [nest_text, nest_step, long, short, ne_eq, not_false_eq_true]
  rfl

theorem sources_spell : sources.map (fun entry => (entry.1, parse (sourceOf entry.2))) =
    builtIn.map fun entry => (entry.1, some entry.2) := by
  have nested : sources.map (fun entry =>
      (entry.1, nest (dropTagLines true false none (entry.2.map Piece.segment)) [] [])) =
        builtIn.map fun entry => (entry.1, some entry.2) := by
    simp only [sources, builtIn, List.map_cons, List.map_nil, script_module_nests, declaration_module_nests]
    rfl
  rw [← nested]
  apply List.map_congr_left
  intro entry listed
  rw [parse_source entry.2 (sources_legible entry listed) (sources_apart entry listed)]

theorem register_all (entries : List (String × List Piece)) (templates : List (String × Template)) (library : Library)
    (spelled : entries.map (fun entry => (entry.1, parse (sourceOf entry.2))) =
      templates.map fun entry => (entry.1, some entry.2)) :
    entries.foldlM (fun library (entry : String × List Piece) => library.register entry.1 (sourceOf entry.2)) library =
      .ok ⟨templates.reverse ++ library.templates⟩ := by
  induction entries generalizing templates library with
  | nil =>
      obtain rfl : templates = [] := by simpa using spelled.symm
      rfl
  | cons entry rest ih =>
      cases templates with
      | nil => simp at spelled
      | cons first later =>
          simp only [List.map_cons, List.cons.injEq, Prod.mk.injEq] at spelled
          obtain ⟨⟨name, template⟩, spelled⟩ := spelled
          have registered : library.register entry.1 (sourceOf entry.2) =
              .ok ⟨(first.1, first.2) :: library.templates⟩ := by
            rw [Library.register, template, name]
          rw [List.foldlM_cons, registered]
          have remaining := ih later ⟨(first.1, first.2) :: library.templates⟩ spelled
          simpa [bind, Except.bind] using remaining

theorem sources_register : Library.ofSources sources = .ok ⟨builtIn.reverse⟩ := by
  simpa [Library.ofSources] using register_all sources builtIn ⟨[]⟩ sources_spell

-- The order of registration does not matter under distinct names.
theorem lookup_reverse (entries : List (String × Template)) (name : String)
    (distinct : (entries.map Prod.fst).Nodup) : entries.reverse.lookup name = entries.lookup name := by
  induction entries with
  | nil => rfl
  | cons entry rest ih =>
      obtain ⟨own, template⟩ := entry
      obtain ⟨fresh, distinct⟩ := List.nodup_cons.mp distinct
      rw [List.reverse_cons, List.lookup_append, ih distinct]
      by_cases same : name = own
      · subst same
        have absent : rest.lookup name = none := by
          rw [List.lookup_eq_none_iff]
          intro other member
          rw [bne_iff_ne]
          rintro rfl
          exact fresh (List.mem_map.mpr ⟨other, member, rfl⟩)
        simp [absent]
      · simp [List.lookup_cons, beq_false_of_ne same]

theorem registered_equipped : Equipped ⟨builtIn.reverse⟩ := by
  intro name template listed
  rw [lookup_reverse builtIn name (by decide)]
  exact listed

end ClientPackager.Template

namespace ClientPackager.Client

open Template

end ClientPackager.Client
