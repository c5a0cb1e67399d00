import Router.Registry

/-!
Building a registry. A step registers an entry under a method or sets the decoder; every way to register is
the same step with a registration of its own, and only `register` tells the two handlers apart. Steps leave
the options as they are.
-/

set_option autoImplicit false
set_option relaxedAutoImplicit false

namespace Router.Registry

variable {H : Type}

/-- One step of building a registry. -/
inductive Step (H : Type)
  | register (method : Method) (template : String) (handler rawHandler : H)
  | route (method : Method) (template : String) (handler : H)
  | get (template : String) (handler : H)
  | post (template : String) (handler : H)
  | put (template : String) (handler : H)
  | patch (template : String) (handler : H)
  | delete (template : String) (handler : H)
  | before (template : String) (handler : H)
  | after (template : String) (handler : H)
  | withDecoder (decoder : Decoder)

/-- What a caller registers. -/
structure Registration (H : Type) where
  method : Method
  template : String
  handler : H
  rawHandler : H
  deriving DecidableEq, Repr

def Step.registration? : Step H → Option (Registration H)
  | register method template handler rawHandler => some ⟨method, template, handler, rawHandler⟩
  | route method template handler => some ⟨method, template, handler, handler⟩
  | get template handler => some ⟨.get, template, handler, handler⟩
  | post template handler => some ⟨.post, template, handler, handler⟩
  | put template handler => some ⟨.put, template, handler, handler⟩
  | patch template handler => some ⟨.patch, template, handler, handler⟩
  | delete template handler => some ⟨.delete, template, handler, handler⟩
  | before template handler => some ⟨.before, template, handler, handler⟩
  | after template handler => some ⟨.after, template, handler, handler⟩
  | withDecoder _ => none

section Performing

variable (engine : Engine)

def apply (r : Registry H) : Step H → Registry H
  | .register method template handler rawHandler =>
    r.register engine method template handler rawHandler
  | .route method template handler => r.route engine method template handler
  | .get template handler => r.get engine template handler
  | .post template handler => r.post engine template handler
  | .put template handler => r.put engine template handler
  | .patch template handler => r.patch engine template handler
  | .delete template handler => r.delete engine template handler
  | .before template handler => r.before engine template handler
  | .after template handler => r.after engine template handler
  | .withDecoder decoder => r.withDecoder decoder

def perform (r : Registry H) (steps : List (Step H)) : Registry H := steps.foldl (apply engine) r

def Registration.entry (g : Registration H) : Entry H :=
  Entry.compile engine g.method g.template g.handler g.rawHandler

def shelveStep (shelves : List (Method × Array (Entry H))) (s : Step H) :
    List (Method × Array (Entry H)) :=
  match s.registration? with
  | none => shelves
  | some g => shelve (g.entry engine) shelves

theorem apply_shelves (r : Registry H) (s : Step H) :
    (r.apply engine s).shelves = shelveStep engine r.shelves s := by
  cases s <;> rfl

theorem apply_config (r : Registry H) (s : Step H) : (r.apply engine s).config = r.config := by
  cases s <;> rfl

theorem perform_config (r : Registry H) (steps : List (Step H)) :
    (r.perform engine steps).config = r.config := by
  induction steps generalizing r with
  | nil => rfl
  | cons s steps ih => exact (ih (r.apply engine s)).trans (apply_config engine r s)

theorem perform_shelves (r : Registry H) (steps : List (Step H)) :
    (r.perform engine steps).shelves = steps.foldl (shelveStep engine) r.shelves := by
  induction steps generalizing r with
  | nil => rfl
  | cons s steps ih =>
    have h := ih (r.apply engine s)
    rwa [apply_shelves] at h

theorem entries_perform {r r' : Registry H} (h : r.shelves = r'.shelves) (steps : List (Step H))
    (method : Method) :
    (r.perform engine steps).entries method = (r'.perform engine steps).entries method := by
  rw [entries, entries, perform_shelves, perform_shelves, h]

end Performing

end Router.Registry
