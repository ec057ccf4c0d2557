import ClientPackager.Proofs.Outcome
import ClientPackager.Template.Library

set_option autoImplicit false

namespace ClientPackager.Template

-- One rule for each kind of node that the built-in templates hold. The text of
-- a template is read off a derivation.
def Yields (context : Json) (nodes : List Node) (text : String) : Prop := renderNodes context nodes = .ok text

variable {context : Json} {rest : List Node} {later : String}

theorem yields_nil : Yields context [] "" := by
  simp only [Yields, renderNodes]

theorem yields_cons (node : Node) (text : String) (first : renderNode context node = .ok text)
    (remaining : Yields context rest later) : Yields context (node :: rest) (text ++ later) := by
  rw [Yields] at remaining ⊢
  simp only [renderNodes, first, remaining]
  rfl

theorem yields_text (text : String) (remaining : Yields context rest later) :
    Yields context (.text text :: rest) (text ++ later) :=
  yields_cons (.text text) text (by simp only [renderNode]) remaining

theorem yields_value (path : FieldPath) (value : Json) (found : find path context = .ok (some value))
    (remaining : Yields context rest later) : Yields context (.value path :: rest) (write value ++ later) := by
  apply yields_cons _ _ _ remaining
  simp only [renderNode, found]
  rfl

theorem operand_value (path : FieldPath) (value : Json) (found : find path context = .ok (some value)) :
    [Operand.field path].mapM (·.eval context) = .ok [some value] := by
  simp only [List.mapM_cons, List.mapM_nil, Operand.eval, found]
  rfl

theorem yields_json (path : FieldPath) (value : Json) (found : find path context = .ok (some value))
    (remaining : Yields context rest later) :
    Yields context (.call "json" [.field path] :: rest) (value.normal.compact ++ later) := by
  apply yields_cons _ _ _ remaining
  simp only [renderNode, operand_value path value found]
  rfl

theorem yields_if (path : FieldPath) (value : Json) (body : List Node) (inner : String)
    (found : find path context = .ok (some value)) (shown : holds value = true → Yields context body inner)
    (remaining : Yields context rest later) :
    Yields context (.block "if" [.field path] body none :: rest)
      ((if holds value then inner else "") ++ later) := by
  apply yields_cons _ _ _ remaining
  simp only [renderNode, operand_value path value found]
  by_cases truthy : holds value = true
  · simpa [Yields, isTrue, truthy, bind, Except.bind] using shown truthy
  · simp [isTrue, truthy, bind, Except.bind]

theorem yields_unless (path : FieldPath) (value : Json) (body : List Node) (inner : String)
    (found : find path context = .ok (some value)) (shown : holds value = false → Yields context body inner)
    (remaining : Yields context rest later) :
    Yields context (.block "unless" [.field path] body none :: rest)
      ((if holds value then "" else inner) ++ later) := by
  apply yields_cons _ _ _ remaining
  simp only [renderNode, operand_value path value found]
  by_cases truthy : holds value = true
  · simp [isTrue, truthy, bind, Except.bind]
  · simpa [Yields, isTrue, truthy, bind, Except.bind] using shown (by simpa using truthy)

theorem yields_each {α : Type} (path : FieldPath) (values : List α) (item : α → Json) (body : List Node)
    (text : α → String) (found : find path context = .ok (some (.array (values.map item))))
    (each : ∀ value ∈ values, Yields (item value) body (text value)) (remaining : Yields context rest later) :
    Yields context (.block "each" [.field path] body none :: rest)
      (String.join (values.map text) ++ later) := by
  apply yields_cons _ _ _ remaining
  simp only [renderNode, operand_value path _ found]
  cases values with
  | nil => rfl
  | cons value others =>
      have rendered := map_m_ok (fun value => renderNodes (item value) body) text (value :: others) each
      have items : ((value :: others).map item).mapM (fun item => renderNodes item body) =
          .ok ((value :: others).map text) := by
        rw [List.mapM_map]
        exact rendered
      simp only [List.map_cons, bind, Except.bind, Option.bind, itemsOf] at items ⊢
      simp [items]
      rfl

-- A library with the built-in templates, whatever else it has.
def Equipped (library : Library) : Prop :=
  ∀ name template, builtIn.lookup name = some template → library.templates.lookup name = some template

theorem standard_equipped : Equipped .standard :=
  fun _ _ listed => listed

theorem equipped_renders (library : Library) (equipped : Equipped library) (name : String) (template : Template)
    (text : String) (listed : builtIn.lookup name = some template) (yields : Yields context template text) :
    library.render name context = .ok text := by
  rw [Yields] at yields
  simp only [Library.render, equipped name template listed, Template.render, yields]
  rfl

end ClientPackager.Template
