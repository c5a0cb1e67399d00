import Router.Proofs.Registry.FinalSlash
import Router.Proofs.Route.Named

/-!
Paths that a template does not fit. The template is held against the path less one slash at its
end; the patterns read the whole path, allow one slash more, and take a run of slashes in the
template for one. So a path can give values although the template does not fit it: when the last
wildcard stands behind a slash and takes nothing, or when the template has a run of slashes.
-/

set_option autoImplicit false
set_option relaxedAutoImplicit false

namespace Router

open Router.Template

/-- The template with single slashes fits the path as it is, or with one slash more. -/
def Template.FitsLoosely (template path : String) : Prop :=
  fits (String.ofList (Pattern.collapse template.toList)) path = true ∨
    fits (String.ofList (Pattern.collapse template.toList)) (path ++ "/") = true

theorem Pattern.isSome_capture?_iff_fitsLoosely (capture : Capture) (template path : String) :
    ((ofTokens capture (tokenize template.toList)).capture? path).isSome = true ↔
      FitsLoosely template path := by
  have hslash : dropFinalSlash (path ++ "/").toList = path.toList := by simp
  rw [isSome_capture?_iff_cut, FitsLoosely, fits_iff_cut, fits_iff_cut, hslash,
    String.toList_ofList, canonicalTokens]
  exact or_comm

/-- On a template without runs of slashes, only a slash at the end of the path matters. -/
theorem Template.fitsLoosely_iff_of_not_fits {template path : String}
    (hsingle : ¬ ['/', '/'] <:+: template.toList) (h : fits template path = false) :
    FitsLoosely template path ↔
      path.toList.getLast? = some '/' ∧ fits template (path ++ "/") = true := by
  rw [FitsLoosely, collapse_eq_self hsingle, String.ofList_toList, h]
  constructor
  · intro hloose
    have hfits := hloose.resolve_left Bool.false_ne_true
    refine ⟨?_, hfits⟩
    by_contra hlast
    rw [fits_append_slash template hlast, h] at hfits
    exact Bool.false_ne_true hfits
  · intro hslash
    exact .inr hslash.2

namespace Route

variable {template : String} {r : Route}

theorem exists_reading_iff_fitsLoosely {template path : String} :
    (∃ values, Pattern.reading (canonicalTokens template.toList) path.toList = some values) ↔
      FitsLoosely template path := by
  rw [← Pattern.isSome_capture?_iff_fitsLoosely .params, Pattern.capture?_ofTokens,
    Option.isSome_map, Option.isSome_iff_exists]

theorem capture?_eq_none {capture : Capture} {path : String} (h : ¬ FitsLoosely template path) :
    (Pattern.ofTokens capture (tokenize template.toList)).capture? path = none := by
  rwa [← Pattern.isSome_capture?_iff_fitsLoosely capture, Option.not_isSome_iff_eq_none] at h

theorem params_eq_empty_iff (hr : r.Compiled template) (decoder : Decoder) (path : String) :
    r.params decoder path = Params.empty ↔
      ¬ FitsLoosely template path ∨ r.paramPattern = none ∨ r.paramNames = [] := by
  cases hp : r.paramPattern with
  | none => simp [params, captured, hp]
  | some p =>
    obtain rfl := hr.paramPattern_eq p hp
    by_cases hloose : FitsLoosely template path
    · obtain ⟨values, hvalues⟩ := exists_reading_iff_fitsLoosely.2 hloose
      have hlength := (leastAssignment_of_reading hvalues).params_length
      rw [← hr.paramNames_eq] at hlength
      have hholds := Params.holds_ofList hlength.symm decoder
      rw [← params_of_capture? hp (Pattern.capture?_of_reading .params hvalues)] at hholds
      simp only [Params.eq_empty_iff, List.eq_nil_iff_forall_not_mem, hholds.mem_keys_iff]
      simp [hloose, ← List.eq_nil_iff_forall_not_mem]
    · simp [params, captured, hp, capture?_eq_none hloose, hloose]

theorem splats_eq_nil_iff (hr : r.Compiled template) (decoder : Decoder) (path : String) :
    r.splats decoder path = [] ↔
      ¬ FitsLoosely template path ∨ r.splatPattern = none ∨ .splat ∉ tokenize template.toList := by
  cases hq : r.splatPattern with
  | none => simp [splats, captured, hq]
  | some q =>
    obtain rfl := hr.splatPattern_eq q hq
    by_cases hloose : FitsLoosely template path
    · obtain ⟨values, hvalues⟩ := exists_reading_iff_fitsLoosely.2 hloose
      have hlength := (leastAssignment_of_reading hvalues).splats_length
      rw [splats_of_capture? hq (Pattern.capture?_of_reading .splats hvalues), List.map_eq_nil_iff,
        ← List.length_eq_zero_iff, hlength, List.count_eq_zero]
      simp [hloose]
    · simp [splats, captured, hq, capture?_eq_none hloose, hloose]

/-- On a path that the template does not fit, both extractions are empty unless the template with
single slashes fits the path, as it is or with one slash more, and there is a wildcard to take a
value. On a template without runs of slashes this is a path with a slash at its end that the
template fits when the slash is doubled. -/
theorem extraction_of_not_fits (hr : r.Compiled template) (decoder : Decoder) {path : String}
    (h : Template.fits template path = false) :
    (r.params decoder path = Params.empty ∧ r.splats decoder path = [] ↔
      ¬ FitsLoosely template path ∨ (r.paramPattern = none ∨ r.paramNames = []) ∧
        (r.splatPattern = none ∨ .splat ∉ tokenize template.toList)) ∧
    (¬ ['/', '/'] <:+: template.toList → (FitsLoosely template path ↔
      path.toList.getLast? = some '/' ∧ Template.fits template (path ++ "/") = true)) := by
  refine ⟨?_, fun hsingle => fitsLoosely_iff_of_not_fits hsingle h⟩
  rw [params_eq_empty_iff hr, splats_eq_nil_iff hr]
  exact or_and_left.symm

/-- A path without a slash at its end gives nothing. -/
theorem extraction_of_not_fits_no_final_slash :
    Template.fits "/users/:id/*" "/posts/1/x" = false ∧
      (compile .permissive "/users/:id/*").params Percent.decode "/posts/1/x" = Params.empty ∧
      (compile .permissive "/users/:id/*").splats Percent.decode "/posts/1/x" = [] := by
  have hfits : Template.fits "/users/:id/*" "/posts/1/x" = false := by decide +kernel
  obtain ⟨hempty, hloose⟩ :=
    extraction_of_not_fits (compiled_compile .permissive "/users/:id/*") Percent.decode hfits
  refine ⟨hfits, hempty.2 (.inl fun h => ?_)⟩
  have hlast := ((hloose (by decide +kernel)).1 h).1
  exact absurd hlast (by decide +kernel)

/-- A last wildcard that takes nothing, and a run of slashes in the template. -/
theorem exists_values_of_not_fits :
    (Template.fits "/users/:id" "/users/" = false ∧
      ((compile .permissive "/users/:id").params Percent.decode "/users/").entries = [("id", "")]) ∧
    (Template.fits "/files/*" "/files/" = false ∧
      (compile .permissive "/files/*").splats Percent.decode "/files/" = [""]) ∧
    (Template.fits "/a//:x" "/a/1" = false ∧
      ((compile .permissive "/a//:x").params Percent.decode "/a/1").entries = [("x", "1")]) := by
  decide +kernel

end Route

end Router
