import Router.Proofs.Pattern.Reading
import Router.Proofs.Scan.Cut
import Router.Proofs.Template.Canonical
import Router.Route

/-!
What the two patterns of a template capture. Both make one reading of the path by the tokens of the
template with single slashes and without one at the end, and each gives the values of its kind. They
capture something from the paths that this template fits, as they are or with one slash more.
-/

set_option autoImplicit false
set_option relaxedAutoImplicit false

namespace Router

open Router.Template

theorem countP_wildcards {keep : Token → Bool} (h : ∀ t, keep t = true → t.isWildcard = true)
    (tokens : List Token) : (wildcards tokens).countP keep = tokens.countP keep := by
  rw [wildcards, List.countP_filter]
  refine List.countP_congr fun t _ => ?_
  rw [Bool.and_eq_true, and_iff_left_of_imp (h t)]

namespace Capture

def keeps (capture : Capture) : Token → Bool
  | .literal _ => false
  | .param _ => capture = .params
  | .splat => capture = .splats

/-- The values of one kind among the values of all wildcards of a template. -/
def values (capture : Capture) (template : String) (values : List (List Char)) :
    List String :=
  (Pattern.select capture.keeps (wildcards (tokenize template.toList)) values).map String.ofList

theorem isWildcard_of_keeps {capture : Capture} {t : Token} (h : capture.keeps t = true) :
    t.isWildcard = true := by
  cases t with
  | literal text => simp [keeps] at h
  | param name => rfl
  | splat => rfl

theorem length_values {capture : Capture} {template : String} {values : List (List Char)}
    (h : List.Forall₂ Token.Takes (wildcards (tokenize template.toList)) values) :
    (capture.values template values).length =
      (tokenize template.toList).countP capture.keeps := by
  rw [Capture.values, List.length_map, Pattern.length_select h,
    countP_wildcards fun _ => isWildcard_of_keeps]

end Capture

namespace Pattern

theorem trim_cons {part : Part} {parts : List Part} (h : parts ≠ []) :
    trim (part :: parts) = part :: trim parts := by
  cases part <;> simp [trim, h]

theorem captures_literal_nil (parts : List Part) : captures (.literal [] :: parts) = captures parts := by
  funext path
  simp [captures]

private theorem captures_cons_congr {capture : Capture} (t : Token) {parts parts' : List Part}
    (h : captures parts = captures parts') :
    captures (Part.ofToken capture t :: parts) =
      captures (Part.of capture.keeps t.collapse :: parts') := by
  funext path
  cases t <;> simp only [Part.ofToken, Part.of, Token.collapse, Capture.keeps, captures, h]

theorem captures_trim (capture : Capture) (tokens : List Token) :
    captures (trim (tokens.map (Part.ofToken capture))) =
      captures ((trimTokens (tokens.map Token.collapse)).map (Part.of capture.keeps)) := by
  induction tokens with
  | nil => rfl
  | cons t ts ih =>
    by_cases hnil : ts = []
    · subst hnil
      cases t with
      | literal text =>
        rw [List.map_singleton, List.map_singleton, Part.ofToken, Token.collapse, trim, trimTokens]
        split_ifs with hdrop
        · rw [hdrop, captures_literal_nil]
          rfl
        · rfl
      | param name => rfl
      | splat => rfl
    · rw [List.map_cons, List.map_cons, trim_cons (by simpa using hnil),
        trimTokens_cons (by simpa using hnil), List.map_cons]
      exact captures_cons_congr t ih

theorem wildcards_trimTokens (tokens : List Token) :
    wildcards (trimTokens (tokens.map Token.collapse)) = wildcards tokens := by
  induction tokens with
  | nil => rfl
  | cons t ts ih =>
    by_cases hnil : ts = []
    · subst hnil
      cases t with
      | literal text =>
        rw [List.map_singleton, Token.collapse, trimTokens]
        split_ifs <;> rfl
      | param name => rfl
      | splat => rfl
    · rw [List.map_cons, trimTokens_cons (by simpa using hnil)]
      rcases t.literal_or_isWildcard with ⟨text, rfl⟩ | ht
      · exact ih
      · have hcollapse : t.collapse = t := by cases t <;> simp_all [Token.collapse, Token.isWildcard]
        rw [hcollapse, wildcards_cons ht, wildcards_cons ht, ih]

/-- Both patterns give values of one reading. -/
theorem capture?_ofTokens (capture : Capture) (template path : String) :
    (ofTokens capture (tokenize template.toList)).capture? path =
      (reading (canonicalTokens template.toList) path.toList).map (capture.values template) := by
  rw [capture?_eq, ofTokens, captures_trim, ← canonicalTokens_eq, captures_eq_select,
    canonicalTokens_eq, wildcards_trimTokens, Option.map_map]
  rfl

theorem exists_assigns_iff_cut {tokens : List Token} {path : List Char} :
    (∃ values, Assigns tokens path values) ↔
      Cut tokens path ∨ Cut tokens (dropFinalSlash path) := by
  simp only [cut_iff_exists_fills]
  constructor
  · intro h
    rcases h with ⟨values, hvalues | ⟨front, hvalues, rfl⟩⟩
    · exact .inl ⟨values, hvalues⟩
    · exact .inr ⟨values, by simpa using hvalues⟩
  · intro h
    rcases h with ⟨values, hvalues⟩ | ⟨values, hvalues⟩
    · exact ⟨values, .inl hvalues⟩
    · by_cases hslash : path.getLast? = some '/'
      · obtain ⟨front, rfl⟩ := List.getLast?_eq_some_iff.1 hslash
        exact ⟨values, .inr ⟨front, by simpa using hvalues, rfl⟩⟩
      · rw [dropFinalSlash_of_ne hslash] at hvalues
        exact ⟨values, .inl hvalues⟩

theorem isSome_reading_iff_cut {tokens : List Token} {path : List Char} :
    (reading tokens path).isSome = true ↔ Cut tokens path ∨ Cut tokens (dropFinalSlash path) := by
  rw [← exists_assigns_iff_cut]
  constructor
  · intro h
    obtain ⟨values, hvalues⟩ := Option.isSome_iff_exists.1 h
    exact ⟨values, assigns_of_reading hvalues⟩
  · intro h
    obtain ⟨others, hothers⟩ := h
    obtain ⟨values, hvalues, -⟩ := exists_reading_of_assigns hothers
    rw [hvalues]
    rfl

theorem isSome_capture?_iff_cut (capture : Capture) (template path : String) :
    ((ofTokens capture (tokenize template.toList)).capture? path).isSome = true ↔
      Cut (canonicalTokens template.toList) path.toList ∨
        Cut (canonicalTokens template.toList) (dropFinalSlash path.toList) := by
  rw [capture?_ofTokens, Option.isSome_map, isSome_reading_iff_cut]

end Pattern

namespace Route

/-- The route is a compiled template; either of its patterns may have been refused. -/
structure Compiled (template : String) (r : Route) : Prop where
  template_eq : r.template = template
  paramNames_eq : r.paramNames = Template.paramNames (tokenize template.toList)
  paramPattern_eq : ∀ p, r.paramPattern = some p →
    p = Pattern.ofTokens .params (tokenize template.toList)
  splatPattern_eq : ∀ p, r.splatPattern = some p →
    p = Pattern.ofTokens .splats (tokenize template.toList)

theorem eq_of_compile_eq {engine : Engine} {capture : Capture} {tokens : List Token} {p : Pattern}
    (h : (Pattern.compile engine capture tokens).toOption = some p) :
    p = Pattern.ofTokens capture tokens := by
  rw [Pattern.compile] at h
  split at h
  · exact (Option.some.inj h).symm
  · simp [Except.toOption] at h

theorem compiled_compile (engine : Engine) (template : String) :
    Compiled template (compile engine template) :=
  ⟨rfl, rfl, fun _ h => eq_of_compile_eq h, fun _ h => eq_of_compile_eq h⟩

theorem Compiled.capture? {template : String} {r : Route} {p q : Pattern} (hr : r.Compiled template)
    (hp : r.paramPattern = some p) (hq : r.splatPattern = some q) (path : String) :
    p.capture? path = (Pattern.ofTokens .params (tokenize template.toList)).capture? path ∧
      q.capture? path = (Pattern.ofTokens .splats (tokenize template.toList)).capture? path := by
  rw [hr.paramPattern_eq p hp, hr.splatPattern_eq q hq]
  exact ⟨rfl, rfl⟩

/-- The patterns of a template capture something from the paths that the template with single slashes
fits, as they are or with one slash more. -/
theorem extraction_iff_fits {template : String} {r : Route} {p q : Pattern}
    (hr : r.Compiled template) (hp : r.paramPattern = some p) (hq : r.splatPattern = some q)
    (path : String) :
    ((p.capture? path).isSome = true ↔ (q.capture? path).isSome = true) ∧
    ((q.capture? path).isSome = true ↔
      Template.fits (String.ofList (Pattern.collapse template.toList)) path = true ∨
        Template.fits (String.ofList (Pattern.collapse template.toList)) (path ++ "/") = true) ∧
    (¬ ['/', '/'] <:+: template.toList →
      (Template.fits template path = true → (p.capture? path).isSome = true) ∧
      (path.toList.getLast? ≠ some '/' →
        ((p.capture? path).isSome = true ↔ Template.fits template path = true))) := by
  obtain ⟨hparams, hsplats⟩ := hr.capture? hp hq path
  rw [hparams, hsplats, Pattern.isSome_capture?_iff_cut, Pattern.isSome_capture?_iff_cut]
  have hslash : dropFinalSlash (path ++ "/").toList = path.toList := by simp
  refine ⟨Iff.rfl, ?_, fun hsingle => ⟨fun hfits => ?_, fun hlast => ?_⟩⟩
  · rw [fits_iff_cut, fits_iff_cut, hslash, String.toList_ofList, canonicalTokens]
    exact or_comm
  · rw [canonicalTokens, collapse_eq_self hsingle]
    exact .inr (fits_iff_cut.1 hfits)
  · rw [canonicalTokens, collapse_eq_self hsingle, fits_iff_cut, dropFinalSlash_of_ne hlast, or_self]

/-- A doubled slash in the template, and a path that the template as written does not fit. -/
theorem extraction_iff_fits_doubled_slash :
    ∃ p q, (compile .permissive "//:x/*/é/").paramPattern = some p ∧
      (compile .permissive "//:x/*/é/").splatPattern = some q ∧
      (p.capture? "/1/2/é/3/é/").isSome = true ∧
      (Template.fits (String.ofList (Pattern.collapse "//:x/*/é/".toList)) "/1/2/é/3/é/" = true ∨
        Template.fits (String.ofList (Pattern.collapse "//:x/*/é/".toList))
          ("/1/2/é/3/é/" ++ "/") = true) ∧
      Template.fits "//:x/*/é/" "/1/2/é/3/é/" = false := by
  have hp : (compile .permissive "//:x/*/é/").paramPattern =
      some ⟨[.literal ['/'], .segment true, .literal ['/'], .run false, .literal ['/', 'é', '/']]⟩ := by
    decide +kernel
  have hq : (compile .permissive "//:x/*/é/").splatPattern =
      some ⟨[.literal ['/'], .segment false, .literal ['/'], .run true, .literal ['/', 'é', '/']]⟩ := by
    decide +kernel
  have h := extraction_iff_fits (compiled_compile .permissive "//:x/*/é/") hp hq "/1/2/é/3/é/"
  have hsome : (Pattern.capture? ⟨[.literal ['/'], .segment true, .literal ['/'], .run false,
      .literal ['/', 'é', '/']]⟩ "/1/2/é/3/é/").isSome = true := by decide +kernel
  exact ⟨_, _, hp, hq, hsome, h.2.1.1 (h.1.1 hsome), by decide +kernel⟩

/-- One value for each wildcard of a template, put back between its literals with single slashes and
without one at the end, gives the path, or gives the path without a slash at its end. -/
def Assignment (template path : List Char) (values : List (List Char)) : Prop :=
  List.Forall₂ Token.Takes (wildcards (tokenize template)) values ∧
    (fill (canonicalTokens template) values = path ∨
      fill (canonicalTokens template) values ++ ['/'] = path)

theorem assignment_iff_assigns {template path : List Char} {values : List (List Char)} :
    Assignment template path values ↔ Pattern.Assigns (canonicalTokens template) path values := by
  simp only [Assignment, Pattern.Assigns, Fills, canonicalTokens_eq, Pattern.wildcards_trimTokens]
  constructor
  · intro h
    rcases h with ⟨htakes, hfill | hfill⟩
    · exact .inl ⟨htakes, hfill⟩
    · exact .inr ⟨_, ⟨htakes, rfl⟩, hfill⟩
  · intro h
    rcases h with ⟨htakes, hfill⟩ | ⟨_, ⟨htakes, rfl⟩, hfill⟩
    · exact ⟨htakes, .inl hfill⟩
    · exact ⟨htakes, .inr hfill⟩

theorem length_paramNames (tokens : List Token) :
    (Template.paramNames tokens).length = tokens.countP Capture.params.keeps := by
  rw [Template.paramNames, List.length_filterMap_eq_countP]
  refine List.countP_congr fun t _ => ?_
  cases t <;> simp [Token.name?, Capture.keeps]

theorem count_splat (tokens : List Token) :
    tokens.count .splat = tokens.countP Capture.splats.keeps := by
  refine List.countP_congr fun t _ => ?_
  cases t <;> simp [Capture.keeps]

/-- Parameters and splats that are the two parts of one assignment: the one whose lengths, one wildcard
after the other, are least. -/
structure LeastAssignment (template path : String) (values : List (List Char))
    (params splats : List String) : Prop where
  assignment : Assignment template.toList path.toList values
  single_slashes : ∀ text, .literal text ∈ canonicalTokens template.toList →
    ¬ ['/', '/'] <:+: text
  params_eq : params = Capture.params.values template values
  splats_eq : splats = Capture.splats.values template values
  params_length : params.length = (Template.paramNames (tokenize template.toList)).length
  splats_length : splats.length = (tokenize template.toList).count .splat
  slash_not_mem : ∀ value ∈ params, '/' ∉ value.toList
  least : ∀ others, Assignment template.toList path.toList others →
    others = values ∨ values.map List.length < others.map List.length

theorem leastAssignment_of_reading {template path : String} {values : List (List Char)}
    (h : Pattern.reading (canonicalTokens template.toList) path.toList = some values) :
    LeastAssignment template path values (Capture.params.values template values)
      (Capture.splats.values template values) := by
  have hassign := assignment_iff_assigns.2 (Pattern.assigns_of_reading h)
  refine ⟨hassign, fun _ => not_doubled_of_mem_canonicalTokens, rfl, rfl, ?_, ?_, ?_, ?_⟩
  · rw [Capture.length_values hassign.1, length_paramNames]
  · rw [Capture.length_values hassign.1, count_splat]
  · intro value hvalue
    obtain ⟨chars, hchars, rfl⟩ := List.mem_map.1 hvalue
    obtain ⟨t, hkeep, htakes⟩ := Pattern.exists_takes_of_mem_select hassign.1 hchars
    rw [String.toList_ofList]
    cases t with
    | literal text => simp [Capture.keeps] at hkeep
    | param name => exact htakes
    | splat => simp [Capture.keeps] at hkeep
  · intro others hothers
    obtain ⟨least, hleast, hlt⟩ :=
      Pattern.exists_reading_of_assigns (assignment_iff_assigns.1 hothers)
    obtain rfl : values = least := Option.some.inj (h.symm.trans hleast)
    exact hlt

/-- Where one pattern of a template captures something, both do, and they capture the parameters and
the splats of the least assignment. -/
theorem exists_leastAssignment {template : String} {r : Route} {p q : Pattern}
    (hr : r.Compiled template) (hp : r.paramPattern = some p) (hq : r.splatPattern = some q)
    (path : String) (h : (p.capture? path).isSome = true ∨ (q.capture? path).isSome = true) :
    ∃ values params splats, p.capture? path = some params ∧ q.capture? path = some splats ∧
      params.length = r.paramNames.length ∧
      LeastAssignment template path values params splats := by
  obtain ⟨hparams, hsplats⟩ := hr.capture? hp hq path
  rw [hparams, hsplats, Pattern.capture?_ofTokens, Pattern.capture?_ofTokens] at h ⊢
  obtain ⟨values, hvalues⟩ :
      ∃ values, Pattern.reading (canonicalTokens template.toList) path.toList = some values := by
    rw [Option.isSome_map, Option.isSome_map, or_self] at h
    exact Option.isSome_iff_exists.1 h
  have hleast := leastAssignment_of_reading hvalues
  refine ⟨values, _, _, by rw [hvalues]; rfl, by rw [hvalues]; rfl, ?_, hleast⟩
  rw [hr.paramNames_eq]
  exact hleast.params_length

/-- Two splats and a slash at the end could share the path in several ways. -/
theorem exists_leastAssignment_two_splats :
    ∃ p q, (compile .permissive "*/:x/*/").paramPattern = some p ∧
      (compile .permissive "*/:x/*/").splatPattern = some q ∧
      p.capture? "/a/b/c/" = some ["a"] ∧ q.capture? "/a/b/c/" = some ["", "b/c"] ∧
      ∃ values params splats, p.capture? "/a/b/c/" = some params ∧
        q.capture? "/a/b/c/" = some splats ∧
        params.length = (compile .permissive "*/:x/*/").paramNames.length ∧
        LeastAssignment "*/:x/*/" "/a/b/c/" values params splats := by
  have hp : (compile .permissive "*/:x/*/").paramPattern =
      some ⟨[.run false, .literal ['/'], .segment true, .literal ['/'], .run false, .literal ['/']]⟩ := by
    decide +kernel
  have hq : (compile .permissive "*/:x/*/").splatPattern =
      some ⟨[.run true, .literal ['/'], .segment false, .literal ['/'], .run true, .literal ['/']]⟩ := by
    decide +kernel
  exact ⟨_, _, hp, hq, by decide +kernel, by decide +kernel,
    exists_leastAssignment (compiled_compile .permissive "*/:x/*/") hp hq "/a/b/c/"
      (.inl (by decide +kernel))⟩

end Route

end Router
