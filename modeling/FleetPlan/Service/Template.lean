import FleetPlan.ReconcileError
import FleetPlan.Text.Search

/-!
# Templates for service actions

An action template says how an action on a service is written as a command. It
has a place for the service's name and a place for the action, and rendering
fills first the one and then the other. In a command that is rendered from a
usable template the action can be found (`ActionTemplate.occurs_render`).
-/

namespace FleetPlan

namespace Placeholder

/-- A placeholder behind its opening brace. -/
def body (placeholder : Placeholder) : List Char := placeholder.text.toList.tail

/-- A placeholder starts with an opening brace. -/
theorem toList_text (placeholder : Placeholder) :
    placeholder.text.toList = '{' :: placeholder.body := by
  cases placeholder <;> rfl

/-- A placeholder has no other opening brace. -/
theorem not_mem_body (placeholder : Placeholder) : '{' ∉ placeholder.body := by
  cases placeholder <;> decide

/-- Neither placeholder is the start of the other one. -/
theorem eq_of_prefix {placeholder other : Placeholder} {rest : List Char}
    (start : placeholder.text.toList <+: other.text.toList ++ rest) : placeholder = other := by
  obtain ⟨tail, same⟩ := start
  cases placeholder <;> cases other <;> simp_all [text]

end Placeholder

/-- A command text with the places `{name}` and `{action}`. -/
structure ActionTemplate where
  text : String
  deriving DecidableEq, Repr, Inhabited

namespace ActionTemplate

/-- Whether a text has a place for a placeholder. -/
def hasPlace (text : String) (placeholder : Placeholder) : Bool :=
  Text.occurs placeholder.text.toList text.toList

/-- Read a template, which has to have both places. -/
def ofText (text : String) : Except ReconcileError ActionTemplate :=
  if !hasPlace text .name then .error (.invalidTemplate text .name)
  else if !hasPlace text .action then .error (.invalidTemplate text .action)
  else .ok ⟨text⟩

/-- Fill every place of one placeholder. -/
def fill (placeholder : Placeholder) (value text : List Char) : List Char :=
  Text.replaceAll placeholder.text.toList value text

/-- The command for an action on a service. The name is filled in first, and a place for the action
that came in with the name is filled like any other. -/
def render (template : ActionTemplate) (name action : String) : String :=
  String.ofList (fill .action action.toList (fill .name name.toList template.text.toList))

/-- A template with both places, as every template is that was read from a text. -/
def IsUsable (template : ActionTemplate) : Prop := ofText template.text = .ok template

/-- A text has a place for a placeholder that occurs in it. -/
theorem hasPlace_iff {text : String} {placeholder : Placeholder} :
    hasPlace text placeholder = true ↔ ∃ front rest, text = front ++ placeholder.text ++ rest :=
  Text.occurs_toList_iff

/-- A text is read as a template exactly if it has a place for each placeholder. -/
theorem ofText_eq_ok_iff {text : String} {template : ActionTemplate} :
    ofText text = .ok template ↔
      template = ⟨text⟩ ∧ ∀ placeholder, hasPlace text placeholder = true := by
  have both : (∀ placeholder, hasPlace text placeholder = true) ↔
      hasPlace text .name = true ∧ hasPlace text .action = true :=
    ⟨fun all => ⟨all .name, all .action⟩,
      fun ⟨name, action⟩ placeholder => by cases placeholder <;> assumption⟩
  rw [both]
  cases name : hasPlace text .name <;> cases action : hasPlace text .action <;>
    simp [ofText, name, action, eq_comm]

/-- A text that is refused as a template lacks a placeholder, and `{name}` is looked for first. -/
theorem ofText_eq_error_iff {text : String} {error : ReconcileError} :
    ofText text = .error error ↔
      (hasPlace text .name = false ∧ error = .invalidTemplate text .name) ∨
        (hasPlace text .name = true ∧ hasPlace text .action = false ∧
          error = .invalidTemplate text .action) := by
  cases name : hasPlace text .name <;> cases action : hasPlace text .action <;>
    simp [ofText, name, action, eq_comm]

/-- A usable template has a place for each placeholder. -/
theorem IsUsable.hasPlace {template : ActionTemplate} (usable : template.IsUsable)
    (placeholder : Placeholder) : hasPlace template.text placeholder = true :=
  (ofText_eq_ok_iff.mp usable).2 placeholder

/-- A template that was read from a text is usable. -/
theorem isUsable_of_ofText {text : String} {template : ActionTemplate}
    (read : ofText text = .ok template) : template.IsUsable := by
  obtain ⟨rfl, -⟩ := ofText_eq_ok_iff.mp read
  exact read

/-- Filling in the name keeps a place for the action. -/
theorem occurs_fill_name {text : List Char} (name : List Char)
    (place : Text.occurs Placeholder.action.text.toList text = true) :
    Text.occurs Placeholder.action.text.toList (fill .name name text) = true := by
  obtain ⟨front, rest, rfl⟩ := Text.occurs_iff.mp place
  have apart : ∀ rest,
      ¬ '{' :: Placeholder.name.body <+: '{' :: Placeholder.action.body ++ rest := by
    intro rest start
    rw [← Placeholder.toList_text, ← Placeholder.toList_text] at start
    cases Placeholder.eq_of_prefix start
  rw [List.append_assoc, fill, Placeholder.toList_text, Placeholder.toList_text]
  exact Text.occurs_replaceFrom_of_apart (Placeholder.not_mem_body .name)
    (Placeholder.not_mem_body .action) apart name rest (Nat.zero_le front.length)

/-- The command of a usable template has the action in it. -/
theorem occurs_render {template : ActionTemplate} (usable : template.IsUsable)
    (name action : String) :
    Text.occurs action.toList (template.render name action).toList = true := by
  have place : Text.occurs Placeholder.action.text.toList template.text.toList = true :=
    usable.hasPlace .action
  rw [render, String.toList_ofList]
  exact Text.occurs_replaceAll action.toList (by decide) (occurs_fill_name name.toList place)

/-- The command of a usable template is no text that the action does not occur in. -/
theorem render_ne {template : ActionTemplate} (usable : template.IsUsable) (name : String)
    {action text : String} (absent : Text.occurs action.toList text.toList = false) :
    template.render name action ≠ text := by
  rintro rfl
  rw [occurs_render usable] at absent
  cases absent

end ActionTemplate

end FleetPlan
