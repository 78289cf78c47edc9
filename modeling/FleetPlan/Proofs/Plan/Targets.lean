import FleetPlan.Plan
import Mathlib.Data.List.Basic

/-!
# What a target asks for

A target is read as it is written: a word for a kind before its first dot, and behind
that dot a part of the identifier (`Target.AsksFor`, `Target.selects_ofText_iff`). A
plan that is narrowed to a target has exactly the operations that are asked for, every
operation can be asked for by its kind and its identifier, and the four kinds divide
every plan among them (`Plan.select_exactly`).
-/

namespace FleetPlan

namespace OperationKind

/-- Every kind. -/
def all : List OperationKind := [.packages, .service, .rpm, .repository]

/-- No word for a kind has a dot. -/
theorem dot_not_mem_name (kind : OperationKind) : '.' ∉ kind.name.toList := by
  cases kind <;> decide

/-- Different kinds have different words. -/
theorem name_inj {first second : OperationKind} : first.name = second.name ↔ first = second := by
  cases first <;> cases second <;> decide

end OperationKind

namespace Target

/-- The word that another one stands for; any other word stands for itself. -/
def plainWord : String → String
  | "pkg" => "packages"
  | "services" => "service"
  | "rpms" => "rpm"
  | "repos" => "repo"
  | "repositories" => "repo"
  | word => word

/-- A word is read as a kind exactly if it stands for its word. -/
theorem kind?_eq_some_iff {word : String} {kind : OperationKind} :
    kind? word = some kind ↔ plainWord word = kind.name := by
  unfold plainWord
  split
  · cases kind <;> decide
  · cases kind <;> decide
  · cases kind <;> decide
  · cases kind <;> decide
  · cases kind <;> decide
  · cases kind <;> grind [kind?, OperationKind.name]

/-- The word of a kind stands for itself. -/
@[simp] theorem plainWord_name (kind : OperationKind) : plainWord kind.name = kind.name := by
  cases kind <;> rfl

/-- Whether a text asks for an operation. -/
inductive AsksFor (text : String) (operation : Operation) : Prop
  /-- The text is a word for the kind of the operation. -/
  | kind (dotless : '.' ∉ text.toList) (kind : plainWord text = operation.kind.name)
  /-- A word for the kind stands before the first dot, and behind it a part of the identifier. -/
  | named {word name : String} (whole : text = word ++ "." ++ name) (first : '.' ∉ word.toList)
      (kind : plainWord word = operation.kind.name)
      (part : ∃ front rest, operation.identifier = front ++ name ++ rest)

/-- A text without a dot is read as a word for a kind. -/
theorem ofText_of_dotless {text : String} (dotless : '.' ∉ text.toList) :
    ofText text = ⟨text, none⟩ := by
  have uncut : Text.cutFirst? ['.'] text.toList = none := by
    cases cut : Text.cutFirst? ['.'] text.toList with
    | none => rfl
    | some parts =>
      have whole := Text.append_of_cutFirst? cut
      exact absurd (by simp [whole]) dotless
  simp [ofText, uncut]

/-- A text with a dot is read as what stands before and behind the first one. -/
theorem ofText_append {word : String} (first : '.' ∉ word.toList) (name : String) :
    ofText (word ++ "." ++ name) = ⟨word, some name⟩ := by
  have cut : Text.cutFirst? ['.'] (word ++ "." ++ name).toList =
      some (word.toList, name.toList) :=
    Text.cutFirst?_singleton_eq_some_iff.mpr ⟨by simp, first⟩
  simp only [ofText, cut, String.ofList_toList]

/-- A target selects the operations that its text asks for. -/
theorem selects_ofText_iff {text : String} {operation : Operation} :
    (ofText text).selects operation = true ↔ AsksFor text operation := by
  constructor
  · intro selected
    by_cases dotted : '.' ∈ text.toList
    · obtain ⟨front, rest, whole, first⟩ := List.eq_append_cons_of_mem dotted
      obtain rfl : text = String.ofList front ++ "." ++ String.ofList rest :=
        String.toList_injective (by simpa using whole)
      have first : '.' ∉ (String.ofList front).toList := by simpa using first
      simp only [ofText_append first, selects, Bool.and_eq_true, decide_eq_true_eq,
        kind?_eq_some_iff, Text.occurs_toList_iff] at selected
      exact .named rfl first selected.1 selected.2
    · simp only [ofText_of_dotless dotted, selects, Bool.and_true, decide_eq_true_eq,
        kind?_eq_some_iff] at selected
      exact .kind dotted selected
  · rintro (⟨dotless, kind⟩ | ⟨rfl, first, kind, part⟩)
    · simp [ofText_of_dotless dotless, selects, kind?_eq_some_iff, kind]
    · simp only [ofText_append first, selects, Bool.and_eq_true, decide_eq_true_eq,
        kind?_eq_some_iff, Text.occurs_toList_iff]
      exact ⟨kind, part⟩

instance (text : String) (operation : Operation) : Decidable (AsksFor text operation) :=
  decidable_of_iff _ selects_ofText_iff

/-- The word of a kind asks for the operations of that kind. -/
theorem asksFor_name_iff {kind : OperationKind} {operation : Operation} :
    AsksFor kind.name operation ↔ operation.kind = kind := by
  rw [← selects_ofText_iff, ofText_of_dotless kind.dot_not_mem_name]
  simp only [selects, Bool.and_true, decide_eq_true_eq, kind?_eq_some_iff, plainWord_name,
    OperationKind.name_inj]
  exact eq_comm

/-- Every operation is asked for by its kind and its identifier. -/
theorem asksFor_self (operation : Operation) :
    AsksFor (operation.kind.name ++ "." ++ operation.identifier) operation :=
  .named rfl operation.kind.dot_not_mem_name (plainWord_name _) ⟨"", "", by simp⟩

end Target

namespace Plan

/-- A plan that is narrowed to a text has the operations that the text asks for. -/
theorem operations_select (plan : Plan) (text : String) :
    (plan.select (some text)).operations =
      plan.operations.filter fun operation => Target.AsksFor text operation := by
  refine List.filter_congr fun operation _ => ?_
  rw [← Bool.coe_iff_coe]
  simp [Target.selects_ofText_iff]

/-- A plan that is narrowed to the word of a kind has the operations of that kind. -/
theorem operations_select_name (plan : Plan) (kind : OperationKind) :
    (plan.select (some kind.name)).operations =
      plan.operations.filter fun operation => operation.kind = kind := by
  rw [operations_select]
  exact List.filter_congr fun operation _ => decide_eq_decide.mpr Target.asksFor_name_iff

/-- Narrowing a plan to one target and then to another is narrowing it to both at once. -/
theorem select_select (plan : Plan) (first second : Option String) :
    (plan.select first).select second = (plan.select second).select first := by
  cases first <;> cases second <;> simp [select, List.filter_filter, Bool.and_comm]

/-- An operation is in a plan that is narrowed to its kind as often as in the plan, and never in one
that is narrowed to another kind. -/
theorem count_select_name (plan : Plan) (kind : OperationKind) (operation : Operation) :
    (plan.select (some kind.name)).operations.count operation =
      if operation.kind = kind then plan.operations.count operation else 0 := by
  rw [operations_select_name]
  split
  · next same => exact List.count_filter (by simp [same])
  · next other =>
    refine List.count_eq_zero.mpr fun member => other ?_
    exact of_decide_eq_true (List.mem_filter.mp member).2

/-- The operations of the four kinds are those of the plan. -/
theorem perm_flatMap_select (plan : Plan) :
    (OperationKind.all.flatMap fun kind => (plan.select (some kind.name)).operations).Perm
      plan.operations := by
  rw [List.perm_iff_count]
  intro operation
  simp only [OperationKind.all, List.flatMap_cons, List.flatMap_nil, List.append_nil,
    List.count_append, count_select_name]
  cases operation.kind <;> simp

/-- No operation is asked for by the words of two kinds. -/
theorem disjoint_select {first second : OperationKind} (other : first ≠ second) (plan : Plan) :
    List.Disjoint (plan.select (some first.name)).operations
      (plan.select (some second.name)).operations := by
  intro operation inFirst inSecond
  rw [operations_select_name, List.mem_filter, decide_eq_true_eq] at inFirst inSecond
  exact other (inFirst.2.symm.trans inSecond.2)

/-- A target keeps of a plan exactly what it asks for.

These are the operations for whose kind a word stands before its first dot and whose identifier has
what stands behind that dot, in the order of the plan. So every operation is kept by the target that
is made of its kind and its identifier, a target that is used twice keeps what it keeps once, two
targets keep the same in either order, and the words of the four kinds divide the plan. -/
theorem select_exactly (plan : Plan) :
    (∀ text, (plan.select (some text)).operations =
        plan.operations.filter fun operation => Target.AsksFor text operation) ∧
      (∀ operation ∈ plan.operations,
        operation ∈ (plan.select
          (some (operation.kind.name ++ "." ++ operation.identifier))).operations) ∧
      (∀ target, (plan.select target).select target = plan.select target) ∧
      (∀ first second, (plan.select first).select second = (plan.select second).select first) ∧
      (OperationKind.all.flatMap fun kind => (plan.select (some kind.name)).operations).Perm
        plan.operations ∧
      ∀ first second : OperationKind, first ≠ second →
        List.Disjoint (plan.select (some first.name)).operations
          (plan.select (some second.name)).operations := by
  refine ⟨plan.operations_select, ?_, ?_, plan.select_select, plan.perm_flatMap_select, ?_⟩
  · intro operation member
    rw [operations_select, List.mem_filter, decide_eq_true_eq]
    exact ⟨member, Target.asksFor_self operation⟩
  · intro target
    cases target <;> simp [select, List.filter_filter]
  · exact fun first second other => plan.disjoint_select other

end Plan

/-- Packages whose identifier has a dot and a comma. -/
def pythonPackages : Operation :=
  .packages ["python3.12", "vim"] true false PackageManager.dnf.verbs

/-- A plan in which kinds and identifiers repeat. -/
def pythonPlan : Plan where
  operations :=
    [.service "vim.service" InitSystem.systemd.template .plain, pythonPackages,
      .repository (.ofIdentifier "https://mirror/vim.repo"),
      .packages ["vim"] false false PackageManager.dnf.verbs, pythonPackages]

/-- Packages with a dot in their identifier are asked for by all of it, and the word for packages
keeps no operation that the word for services keeps. -/
theorem Plan.select_exactly_python :
    pythonPackages ∈ pythonPlan.operations ∧
      pythonPackages ∈ (pythonPlan.select (some "packages.python3.12,vim")).operations ∧
      OperationKind.packages ≠ OperationKind.service ∧
      List.Disjoint (pythonPlan.select (some OperationKind.packages.name)).operations
        (pythonPlan.select (some OperationKind.service.name)).operations := by
  have target : pythonPackages.kind.name ++ "." ++ pythonPackages.identifier =
      "packages.python3.12,vim" := by decide
  have member : pythonPackages ∈ pythonPlan.operations := by simp [pythonPlan]
  have other : OperationKind.packages ≠ OperationKind.service := by decide
  obtain ⟨-, kept, -, -, -, apart⟩ := pythonPlan.select_exactly
  rw [← target]
  exact ⟨member, kept pythonPackages member, other, apart _ _ other⟩

end FleetPlan
