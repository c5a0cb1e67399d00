import Router.Proofs.Registry.Shelves
import Router.Table

/-!
The registry of a table. Every row is one registration, so the entries of a method are the rows of that
method in the order of the file, and the options are those of the table.
-/

set_option autoImplicit false
set_option relaxedAutoImplicit false

namespace Router.Table

def Spec.step (s : Spec) : Registry.Step String := .register s.method s.path s.label s.label

section Rows

variable (engine : Engine)

def Spec.entry (s : Spec) : Entry String := Entry.compile engine s.method s.path s.label s.label

/-- Whether a registry with these options accepts the path for the row. -/
def Spec.accepts (config : Config) (s : Spec) (path : String) : Bool :=
  (Registry.withConfig config).accepts (s.entry engine) path

theorem toRegistry_eq_perform (t : Table) :
    t.toRegistry engine =
      (Registry.Start.withConfig t.config).registry.perform engine (t.routes.map Spec.step) := by
  rw [toRegistry, Registry.perform, List.foldl_map]
  rfl

theorem registered_eq (specs : List Spec) :
    Registry.registered engine (specs.map Spec.step) = specs.map (Spec.entry engine) := by
  have hstep : Registry.Step.registration? ∘ Spec.step =
      some ∘ fun s : Spec => ⟨s.method, s.path, s.label, s.label⟩ := rfl
  rw [Registry.registered, Registry.registrations, List.filterMap_map, hstep,
    List.filterMap_eq_map, List.map_map]
  rfl

theorem entries_toRegistry (t : Table) (method : Method) :
    (t.toRegistry engine).entries method =
      (t.routes.filter fun s => s.method = method).map (Spec.entry engine) := by
  rw [toRegistry_eq_perform, Registry.entries_perform_eq, registered_eq, Registry.under,
    List.filter_map]
  rfl

theorem config_toRegistry (t : Table) : (t.toRegistry engine).config = t.config := by
  rw [toRegistry_eq_perform, Registry.config_perform]
  rfl

theorem decoder_toRegistry (t : Table) : (t.toRegistry engine).decoder = Percent.decode := by
  have hnone : (t.routes.map Spec.step).filterMap Registry.Step.decoder? = [] := by
    rw [List.filterMap_map, List.filterMap_eq_nil_iff]
    exact fun s _ => rfl
  rw [toRegistry_eq_perform, Registry.decoder_perform, Registry.lastDecoder, hnone]
  rfl

/-- The candidates of a request are the rows of the method that accept the path, in the order of the file. -/
theorem candidates_toRegistry (t : Table) (method : Method) (path : String) :
    (t.toRegistry engine).candidates method path =
      (t.routes.filter fun s => s.method = method && s.accepts engine t.config path).map
        (Spec.entry engine) := by
  have haccepts : ∀ s : Spec, (t.toRegistry engine).accepts (s.entry engine) path =
      s.accepts engine t.config path := fun s =>
    Registry.accepts_of_config_eq (config_toRegistry engine t) (s.entry engine) path
  rw [Registry.candidates, entries_toRegistry, List.filter_map, List.filter_filter]
  congr 1
  refine List.filter_congr fun s _ => ?_
  rw [Function.comp_apply, haccepts, Bool.and_comm]

/-- The rows method by method, those of a method in the order of the file. -/
def byMethod (t : Table) : List Spec :=
  Method.all.flatMap fun m => t.routes.filter fun s => s.method = m

theorem toList_toRegistry (t : Table) :
    (t.toRegistry engine).toList = t.byMethod.map (Spec.entry engine) := by
  rw [toRegistry_eq_perform, Registry.toList_perform, registered_eq, byMethod, List.map_flatMap]
  congr 1
  funext m
  rw [Registry.under, List.filter_map]
  rfl

end Rows

end Router.Table
