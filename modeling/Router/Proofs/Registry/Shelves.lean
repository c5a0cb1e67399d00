import Mathlib.Algebra.BigOperators.Group.List.Basic
import Router.Proofs.Registry.Steps

/-!
What a registry holds. The shelves are arranged by method, each with the entries registered under its
method, in the order of their registration. Registering an entry keeps this arrangement, so a registry
is given by its options, by what was registered under each method, and by the decoder that was set last.
-/

set_option autoImplicit false
set_option relaxedAutoImplicit false

namespace Router

theorem Method.all_pairwise : Method.all.Pairwise (· < ·) := by decide

namespace Registry

variable {H : Type}

def under (method : Method) (es : List (Entry H)) : List (Entry H) :=
  es.filter fun e => e.method = method

/-- One shelf for each of the methods that has entries. -/
def arrange (es : List (Entry H)) : List Method → List (Method × Array (Entry H))
  | [] => []
  | m :: methods =>
    if under m es = [] then arrange es methods else (m, (under m es).toArray) :: arrange es methods

theorem under_append_self (es : List (Entry H)) (e : Entry H) :
    under e.method (es ++ [e]) = under e.method es ++ [e] := by simp [under]

theorem under_append_of_ne {method : Method} {e : Entry H} (h : e.method ≠ method)
    (es : List (Entry H)) : under method (es ++ [e]) = under method es := by simp [under, h]

theorem arrange_append_of_not_mem {e : Entry H} {methods : List Method} (h : e.method ∉ methods)
    (es : List (Entry H)) : arrange (es ++ [e]) methods = arrange es methods := by
  induction methods with
  | nil => rfl
  | cons m methods ih =>
    obtain ⟨hne, hmem⟩ := List.ne_and_not_mem_of_not_mem_cons h
    rw [arrange, arrange, under_append_of_ne hne, ih hmem]

theorem mem_of_mem_arrange {es : List (Entry H)} {methods : List Method}
    {s : Method × Array (Entry H)} (h : s ∈ arrange es methods) : s.1 ∈ methods := by
  induction methods with
  | nil => simp [arrange] at h
  | cons m methods ih =>
    rw [arrange] at h
    split at h
    · exact List.mem_cons_of_mem m (ih h)
    · rcases List.mem_cons.1 h with rfl | h
      · exact List.mem_cons_self
      · exact List.mem_cons_of_mem m (ih h)

theorem arrange_congr {es es' : List (Entry H)} (h : ∀ m, under m es = under m es')
    (methods : List Method) : arrange es methods = arrange es' methods := by
  induction methods with
  | nil => rfl
  | cons m methods ih => rw [arrange, arrange, h, ih]

theorem shelve_of_forall_lt {e : Entry H} {shelves : List (Method × Array (Entry H))}
    (h : ∀ s ∈ shelves, e.method < s.1) : shelve e shelves = (e.method, #[e]) :: shelves := by
  cases shelves with
  | nil => rfl
  | cons s shelves =>
    have hlt : e.method < s.1 := h s List.mem_cons_self
    have hne : e.method ≠ s.1 := by
      intro heq
      rw [heq] at hlt
      exact absurd hlt (Nat.lt_irrefl s.1.rank)
    rw [shelve, if_neg hne, if_pos hlt]

theorem shelve_arrange {e : Entry H} {methods : List Method} (hsorted : methods.Pairwise (· < ·))
    (hmem : e.method ∈ methods) (es : List (Entry H)) :
    shelve e (arrange es methods) = arrange (es ++ [e]) methods := by
  induction methods with
  | nil => simp at hmem
  | cons m methods ih =>
    obtain ⟨hm, hsorted⟩ := List.pairwise_cons.1 hsorted
    by_cases heq : e.method = m
    · subst heq
      have hnot : e.method ∉ methods := fun h => absurd (hm _ h) (Nat.lt_irrefl _)
      have hne : under e.method es ++ [e] ≠ [] := by simp
      rw [arrange, arrange, under_append_self, if_neg hne, arrange_append_of_not_mem hnot]
      split
      · rename_i hnil
        rw [hnil, shelve_of_forall_lt fun s hs => hm s.1 (mem_of_mem_arrange hs)]
        rfl
      · simp [shelve]
    · have hlater : e.method ∈ methods := (List.mem_cons.1 hmem).resolve_left heq
      rw [arrange, arrange, under_append_of_ne heq, ← ih hsorted hlater]
      split
      · rfl
      · have hlt : ¬ e.method < m := Nat.lt_asymm (hm _ hlater)
        rw [shelve, if_neg heq, if_neg hlt]

def registrations (steps : List (Step H)) : List (Registration H) :=
  steps.filterMap Step.registration?

def registered (engine : Engine) (steps : List (Step H)) : List (Entry H) :=
  (registrations steps).map (Registration.entry engine)

def Step.decoder? : Step H → Option Decoder
  | withDecoder decoder => some decoder
  | _ => none

/-- The decoder that steps leave: the one set last, or percent-decoding. -/
def lastDecoder (steps : List (Step H)) : Decoder :=
  (steps.filterMap Step.decoder?).getLast?.getD Percent.decode

/-- A way to begin a registry. -/
inductive Start
  | empty
  | withConfig (config : Config)
  deriving DecidableEq, Repr

def Start.registry : Start → Registry H
  | empty => Registry.empty
  | withConfig config => Registry.withConfig config

def Start.config : Start → Config
  | empty => {}
  | withConfig config => config

theorem foldl_shelveStep (engine : Engine) (steps : List (Step H)) (es : List (Entry H)) :
    steps.foldl (shelveStep engine) (arrange es Method.all) =
      arrange (es ++ registered engine steps) Method.all := by
  induction steps generalizing es with
  | nil => simp [registered, registrations]
  | cons s steps ih =>
    rw [List.foldl_cons, shelveStep, registered, registrations]
    cases hstep : s.registration? with
    | none => simp only [List.filterMap_cons_none hstep, ih, registered, registrations]
    | some g =>
      rw [List.filterMap_cons_some hstep, List.map_cons]
      dsimp only
      rw [shelve_arrange Method.all_pairwise (g.entry engine).method.mem_all, ih, List.append_assoc]
      rfl

theorem lookup_arrange (es : List (Entry H)) (methods : List Method) (method : Method) :
    (arrange es methods).lookup method =
      if method ∈ methods ∧ under method es ≠ [] then some (under method es).toArray else none := by
  induction methods with
  | nil => simp [arrange]
  | cons m methods ih =>
    rw [arrange]
    by_cases hm : method = m
    · subst hm
      split
      · rename_i hnil
        rw [ih]
        simp [hnil]
      · rename_i hne
        simp [hne]
    · split
      · rw [ih]
        simp [hm]
      · rw [List.lookup_cons, beq_false_of_ne hm, ih]
        simp [hm]

theorem toList_arrange (es : List (Entry H)) (methods : List Method) :
    (arrange es methods).flatMap (fun s => s.2.toList) =
      methods.flatMap fun m => under m es := by
  induction methods with
  | nil => rfl
  | cons m methods ih =>
    rw [arrange, List.flatMap_cons]
    split
    · rename_i hnil
      rw [hnil, ih, List.nil_append]
    · rw [List.flatMap_cons, ih]

theorem size_eq_length (r : Registry H) : r.size = r.toList.length := by
  rw [size, toList]
  generalize r.shelves = shelves
  induction shelves with
  | nil => rfl
  | cons s shelves ih => simp [ih]

theorem length_flatMap_under (es : List (Entry H)) :
    (Method.all.flatMap fun m => under m es).length = es.length := by
  induction es with
  | nil => rfl
  | cons e es ih =>
    have hunder : ∀ m, (under m (e :: es)).length =
        (if e.method = m then 1 else 0) + (under m es).length := by
      intro m
      by_cases hm : e.method = m
      · simp [under, hm, Nat.add_comm]
      · simp [under, hm]
    have hone : (Method.all.map fun m => if e.method = m then 1 else 0).sum = 1 := by
      cases e.method <;> rfl
    rw [List.length_flatMap] at ih ⊢
    simp only [hunder]
    rw [List.sum_map_add, hone, ih, List.length_cons, Nat.add_comm]

theorem registration_entry (engine : Engine) (g : Registration H) :
    let e := g.entry engine
    (⟨e.method, e.template, e.handler, e.rawHandler⟩ : Registration H) = g ∧
      e.route = Route.compile engine g.template := ⟨rfl, rfl⟩

section Views

variable (engine : Engine) (start : Start) (steps : List (Step H))

theorem shelves_perform :
    ((start.registry : Registry H).perform engine steps).shelves =
      arrange (registered engine steps) Method.all := by
  have hstart : (start.registry : Registry H).shelves = arrange [] Method.all := by
    cases start <;> rfl
  rw [perform_shelves, hstart, foldl_shelveStep, List.nil_append]

theorem entries_perform_eq (method : Method) :
    ((start.registry : Registry H).perform engine steps).entries method =
      under method (registered engine steps) := by
  rw [entries, shelves_perform, lookup_arrange]
  by_cases hnil : under method (registered engine steps) = []
  · simp [hnil]
  · simp [hnil, method.mem_all]

theorem toList_perform :
    ((start.registry : Registry H).perform engine steps).toList =
      Method.all.flatMap fun m => under m (registered engine steps) := by
  rw [toList, shelves_perform, toList_arrange]

theorem size_perform :
    ((start.registry : Registry H).perform engine steps).size = (registrations steps).length := by
  rw [size_eq_length, toList_perform, length_flatMap_under, registered, List.length_map]

theorem config_perform :
    ((start.registry : Registry H).perform engine steps).config = start.config := by
  rw [perform_config]
  cases start <;> rfl

theorem decoder_apply (r : Registry H) (s : Step H) :
    (r.apply engine s).decoder = s.decoder?.getD r.decoder := by
  cases s <;> rfl

theorem decoder_perform_from (r : Registry H) :
    (r.perform engine steps).decoder = (steps.filterMap Step.decoder?).getLast?.getD r.decoder := by
  induction steps generalizing r with
  | nil => rfl
  | cons s steps ih =>
    rw [perform, List.foldl_cons, ← perform, ih, decoder_apply]
    cases hdecoder : s.decoder? with
    | none => rw [List.filterMap_cons_none hdecoder]; rfl
    | some decoder =>
      rw [List.filterMap_cons_some hdecoder, List.getLast?_cons]
      rfl

theorem decoder_perform :
    ((start.registry : Registry H).perform engine steps).decoder = lastDecoder steps := by
  rw [decoder_perform_from, lastDecoder]
  cases start <;> rfl

/-- The registrations under a method decide which entries stand under it. -/
theorem under_registered (method : Method) :
    under method (registered engine steps) =
      ((registrations steps).filter fun g => g.method = method).map (Registration.entry engine) := by
  rw [under, registered, List.filter_map]
  rfl

end Views

theorem accepts_of_config_eq {r r' : Registry H} (h : r.config = r'.config) (e : Entry H)
    (path : String) : r.accepts e path = r'.accepts e path := by
  rw [accepts, accepts, h]

/-- A registry holds what was registered: under each method an entry for every registration, in the order
of registration, with the method, the template and the two handlers of the registration. Its options are
those of its beginning, and its decoder is the last one. Steps that agree on this build the same registry,
in whatever order they were done. -/
theorem perform_eq_registrations {H : Type} (engine : Engine) (start : Start) (steps : List (Step H)) :
    let r : Registry H := start.registry.perform engine steps
    (∀ m, (r.entries m).map (fun e => ⟨e.method, e.template, e.handler, e.rawHandler⟩) =
      (registrations steps).filter fun g => g.method = m) ∧
    (∀ m, ∀ e ∈ r.entries m, e.route = Route.compile engine e.template) ∧
    r.toList = Method.all.flatMap r.entries ∧
    r.size = (registrations steps).length ∧
    (r.isEmpty = true ↔ registrations steps = []) ∧
    r.config = start.config ∧
    (∀ m path, r.candidates m path = (r.entries m).filter fun e =>
      (start.registry : Registry H).accepts e path) ∧
    (∀ e path, r.params e path = e.route.params (lastDecoder steps) path ∧
      r.splats e path = e.route.splats (lastDecoder steps) path) ∧
    ∀ (start' : Start) (steps' : List (Step H)), start'.config = start.config →
      (∀ m, (registrations steps').filter (fun g => g.method = m) =
        (registrations steps).filter fun g => g.method = m) →
      lastDecoder steps' = lastDecoder steps → start'.registry.perform engine steps' = r := by
  intro r
  have hentries : ∀ m, r.entries m = under m (registered engine steps) :=
    entries_perform_eq engine start steps
  have hsize : r.size = (registrations steps).length := size_perform engine start steps
  have hdecoder : r.decoder = lastDecoder steps := decoder_perform engine start steps
  refine ⟨?_, ?_, ?_, hsize, ?_, config_perform engine start steps, ?_, ?_, ?_⟩
  · intro m
    rw [hentries, under_registered, List.map_map]
    exact (List.map_congr_left fun g _ => (registration_entry engine g).1).trans (List.map_id _)
  · intro m e he
    rw [hentries, under_registered] at he
    obtain ⟨g, -, rfl⟩ := List.mem_map.1 he
    exact (registration_entry engine g).2
  · rw [funext hentries]
    exact toList_perform engine start steps
  · rw [isEmpty, hsize, beq_iff_eq, List.length_eq_zero_iff]
  · intro m path
    rw [candidates]
    exact List.filter_congr fun e _ => accepts_of_config_eq (perform_config engine _ steps) e path
  · intro e path
    rw [params, splats, hdecoder]
    exact ⟨rfl, rfl⟩
  · intro start' steps' hconfig hunder hlast
    refine Registry.ext ?_ ?_ ?_
    · rw [shelves_perform, shelves_perform]
      refine arrange_congr (fun m => ?_) Method.all
      rw [under_registered, under_registered, hunder]
    · rw [config_perform, config_perform, hconfig]
    · rw [decoder_perform, decoder_perform, hlast]

/-- Two runs that register the same under `GET` and under `BEFORE`, in another order. The second route under
`GET` has a raw handler of its own. -/
theorem perform_eq_interleaved :
    let r : Registry Nat := (Start.withConfig .lenient).registry.perform .permissive
      [.get "/a/:x" 1, .withDecoder id, .register .get "/a/*" 2 0, .before "*" 3,
        .withDecoder (· ++ "!")]
    (r.entries .get).map (fun e => (⟨e.method, e.template, e.handler, e.rawHandler⟩ : Registration Nat)) =
        [⟨.get, "/a/:x", 1, 1⟩, ⟨.get, "/a/*", 2, 0⟩] ∧
      Start.empty.registry.perform .permissive
        [.withDecoder (· ++ "!"), .before "*" 3, .get "/a/:x" 1, .register .get "/a/*" 2 0] = r := by
  intro r
  obtain ⟨hentries, -, -, -, -, -, -, -, hperform⟩ :=
    perform_eq_registrations .permissive (Start.withConfig .lenient)
      [.get "/a/:x" 1, .withDecoder id, .register .get "/a/*" 2 0, .before "*" 3,
        .withDecoder (· ++ "!")]
  refine ⟨hentries .get, hperform .empty _ rfl (fun m => ?_) rfl⟩
  cases m <;> rfl

end Registry

end Router
