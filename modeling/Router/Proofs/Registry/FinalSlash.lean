import Router.Proofs.Pattern.Extraction
import Router.Proofs.Registry.Accepts

/-!
A slash behind a path. Under lenient options a path and the path with a slash behind it have the same
candidates, and where the patterns of a template capture something from the path, they capture the same
from the longer one. The slash gives a wildcard new places to end, but none of them comes first: a
template that reads the longer path from some place on, and the shorter one from a later place on, reads
the shorter one from the first place on as well.
-/

set_option autoImplicit false
set_option relaxedAutoImplicit false

namespace Router

open Router.Template

namespace Template

theorem exists_of_append_eq_append_slash {front back path : List Char} (hne : back ≠ [])
    (h : front ++ back = path ++ ['/']) : ∃ rest, back = rest ++ ['/'] ∧ path = front ++ rest := by
  obtain ⟨rest, c, rfl⟩ := (List.eq_nil_or_concat' back).resolve_left hne
  rw [← List.append_assoc] at h
  obtain ⟨hpath, hc⟩ := List.append_inj' h rfl
  exact ⟨rest, by rw [hc], hpath.symm⟩

theorem getLast?_ne_of_append {front rest : List Char} {c : Char}
    (h : (front ++ rest).getLast? ≠ some c) : rest.getLast? ≠ some c := by
  intro hlast
  have hne : rest ≠ [] := by
    rintro rfl
    simp at hlast
  rw [List.getLast?_append_of_ne_nil front hne] at h
  exact h hlast

theorem suffix_of_suffix_append {piece back later : List Char} (hpiece : '/' ∉ piece)
    (hlater : Stops inName later) (h : later <:+ piece ++ back) : later <:+ back := by
  rcases List.suffix_or_suffix_of_suffix h (List.suffix_append piece back) with hle | hle
  · exact hle
  · obtain ⟨front, rfl⟩ := hle
    cases front with
    | nil => exact List.suffix_rfl
    | cons c front =>
      obtain rfl : c = '/' := by simpa [inName] using stops_cons.1 hlater
      obtain ⟨start, heq⟩ := h
      have hfront : start ++ '/' :: front = piece := by
        refine (List.append_left_inj back).1 ?_
        rw [List.append_assoc]
        exact heq
      exact absurd (by simp [← hfront]) hpiece

theorem cut_of_cut_append_slash {template path later : List Char}
    (hlast : path.getLast? ≠ some '/') (hsuffix : later <:+ path)
    (hlater : Cut (tokenize template) later) (hslash : Cut (tokenize template) (path ++ ['/'])) :
    Cut (tokenize template) path := by
  induction template using template_induction generalizing path later with
  | nil =>
    rw [tokenize_nil, cut_nil] at hslash
    simp at hslash
  | splat rest ih =>
    -- The splat may take as much as it has to in front of the later place.
    rw [tokenize_splat, cut_splat] at hlater ⊢
    obtain ⟨back, hback, hcut⟩ := hlater
    exact ⟨back, hback.trans hsuffix, hcut⟩
  | param name rest hname hrest ih =>
    rw [tokenize_param hname hrest, cut_cons] at hlater hslash ⊢
    obtain ⟨_, later, -, hlater, rfl⟩ := hlater
    obtain ⟨piece, back, hpiece, hcut, heq⟩ := hslash
    have hne : back ≠ [] := by
      rintro rfl
      rw [List.append_nil] at heq
      exact hpiece (by simp [heq])
    obtain ⟨back, rfl, rfl⟩ := exists_of_append_eq_append_slash hne heq
    have hsuffix := suffix_of_suffix_append hpiece (Scan.stops_of_cut hrest hlater)
      ((List.suffix_append _ later).trans hsuffix)
    exact ⟨piece, back, hpiece, ih (getLast?_ne_of_append hlast) hsuffix hlater hcut, rfl⟩
  | literal text rest hne htext hrest ih =>
    rw [tokenize_literal hne htext hrest, cut_literal] at hlater hslash ⊢
    obtain ⟨later, hlater, rfl⟩ := hlater
    obtain ⟨back, hcut, heq⟩ := hslash
    have hlength : text.length + later.length ≤ path.length := by
      simpa using hsuffix.length_le
    have hne : back ≠ [] := by
      rintro rfl
      have := congrArg List.length heq
      simp only [List.length_append, List.length_nil, List.length_singleton] at this
      omega
    obtain ⟨back, rfl, rfl⟩ := exists_of_append_eq_append_slash hne heq
    have hshorter : later.length ≤ back.length := by simpa using hlength
    have hsuffix : later <:+ back :=
      List.suffix_of_suffix_length_le ((List.suffix_append text later).trans hsuffix)
        (List.suffix_append text back) hshorter
    exact ⟨back, ih (getLast?_ne_of_append hlast) hsuffix hlater hcut, rfl⟩

end Template

namespace Pattern

theorem shortest_eq_some_of_least {ok : Char → Bool} {f : List Char → Answer}
    {value rest : List Char} {more : List (List Char)} (hvalue : ∀ c ∈ value, ok c = true)
    (hmore : f rest = some more) (hleast : ∀ n < value.length, f ((value ++ rest).drop n) = none) :
    shortest ok true f (value ++ rest) = some (value :: more) := by
  induction value with
  | nil =>
    rw [List.nil_append]
    cases rest with
    | nil => simp [shortest, hmore, enter]
    | cons c rest => simp [shortest, hmore, enter]
  | cons c value ih =>
    obtain ⟨hc, hvalue⟩ := List.forall_mem_cons.1 hvalue
    have hfirst : f (c :: (value ++ rest)) = none := hleast 0 (by simp)
    have hrest := ih hvalue fun n hn => hleast (n + 1) (by simpa using hn)
    simp [shortest, hfirst, hc, hrest, extend]

/-- A place from which the path with a slash behind it can be read, but not the path, does not lie in
front of one from which the path can be read. -/
theorem reading_append_slash_eq_none {template path later : List Char}
    (hlast : path.getLast? ≠ some '/') (hsuffix : later <:+ path)
    (hlater : (reading (tokenize template) later).isSome = true)
    (hpath : reading (tokenize template) path = none) :
    reading (tokenize template) (path ++ ['/']) = none := by
  have hcut : ¬ Cut (tokenize template) path := by
    intro hcut
    have hsome := isSome_reading_iff_cut.2 (.inl hcut)
    rw [hpath] at hsome
    exact absurd hsome (by simp)
  have hlaterCut : Cut (tokenize template) later := by
    obtain ⟨front, rfl⟩ := hsuffix
    have hcuts := isSome_reading_iff_cut.1 hlater
    rwa [dropFinalSlash_of_ne (getLast?_ne_of_append hlast), or_self] at hcuts
  rw [← Option.not_isSome_iff_eq_none, isSome_reading_iff_cut, dropFinalSlash_append_slash]
  rintro (hslash | hslash)
  · exact hcut (cut_of_cut_append_slash hlast hsuffix hlaterCut hslash)
  · exact hcut hslash

theorem reading_cons_append_slash {t : Token} (ht : t.isWildcard = true) {rest path : List Char}
    {values : List (List Char)}
    (ih : ∀ {path : List Char} {values : List (List Char)}, path.getLast? ≠ some '/' →
      reading (tokenize rest) path = some values →
      reading (tokenize rest) (path ++ ['/']) = some values)
    (hlast : path.getLast? ≠ some '/') (h : reading (t :: tokenize rest) path = some values) :
    reading (t :: tokenize rest) (path ++ ['/']) = some values := by
  rw [reading_cons ht] at h ⊢
  obtain ⟨value, back, more, rfl, rfl, hvalue, hmore, hleast⟩ := shortest_eq_some h
  rw [List.append_assoc]
  refine shortest_eq_some_of_least hvalue (ih (getLast?_ne_of_append hlast) hmore) fun n hn => ?_
  have hdrop : (value ++ (back ++ ['/'])).drop n = (value ++ back).drop n ++ ['/'] := by
    rw [← List.append_assoc, List.drop_append_of_le_length]
    rw [List.length_append]
    omega
  have hback : back <:+ (value ++ back).drop n := by
    rw [List.drop_append_of_le_length (Nat.le_of_lt hn)]
    exact List.suffix_append _ back
  have hfront : ((value ++ back).drop n).getLast? ≠ some '/' := by
    rw [← List.take_append_drop n (value ++ back)] at hlast
    exact getLast?_ne_of_append hlast
  rw [hdrop]
  exact reading_append_slash_eq_none hfront hback (by rw [hmore]; rfl) (hleast n hn)

theorem reading_append_slash {template path : List Char} {values : List (List Char)}
    (hlast : path.getLast? ≠ some '/') (h : reading (tokenize template) path = some values) :
    reading (tokenize template) (path ++ ['/']) = some values := by
  induction template using template_induction generalizing path values with
  | nil =>
    rw [tokenize_nil, reading, List.map_nil, captures, atEnd] at h ⊢
    have hnil : path = [] := by
      by_contra hne
      have hpath : path ≠ ['/'] := by
        rintro rfl
        exact hlast rfl
      simp [hne, hpath] at h
    subst hnil
    simpa using h
  | splat rest ih =>
    rw [tokenize_splat] at h ⊢
    exact reading_cons_append_slash rfl ih hlast h
  | param name rest hname hrest ih =>
    rw [tokenize_param hname hrest] at h ⊢
    exact reading_cons_append_slash rfl ih hlast h
  | literal text rest hne htext hrest ih =>
    rw [tokenize_literal hne htext hrest, reading_literal] at h ⊢
    split at h
    · rename_i hpre
      obtain ⟨back, rfl⟩ := List.isPrefixOf_iff_prefix.1 hpre
      rw [List.drop_left] at h
      rw [List.append_assoc, if_pos (by simp), List.drop_left]
      exact ih (getLast?_ne_of_append hlast) h
    · simp at h

theorem capture?_append_slash {capture : Capture} {template path : String}
    (hlast : path.toList.getLast? ≠ some '/')
    (h : ((ofTokens capture (tokenize template.toList)).capture? path).isSome = true) :
    (ofTokens capture (tokenize template.toList)).capture? (path ++ "/") =
      (ofTokens capture (tokenize template.toList)).capture? path := by
  rw [capture?_ofTokens, Option.isSome_map] at h
  obtain ⟨values, hvalues⟩ := Option.isSome_iff_exists.1 h
  have hlong : reading (canonicalTokens template.toList) (path.toList ++ ['/']) = some values :=
    reading_append_slash hlast hvalues
  have hchars : (path ++ "/").toList = path.toList ++ ['/'] := by simp
  rw [capture?_ofTokens, capture?_ofTokens, hchars, hlong, hvalues]

end Pattern

theorem Template.fits_append_slash (template : String) {path : String}
    (hlast : path.toList.getLast? ≠ some '/') : fits template (path ++ "/") = fits template path := by
  have hlong : dropFinalSlash (path ++ "/").toList = path.toList := by simp
  rw [Bool.eq_iff_iff, fits_iff_cut, fits_iff_cut, hlong, dropFinalSlash_of_ne hlast]

theorem Route.Compiled.capture?_append_slash {template path : String} {r : Route} {p q : Pattern}
    (hr : r.Compiled template) (hp : r.paramPattern = some p) (hq : r.splatPattern = some q)
    (hlast : path.toList.getLast? ≠ some '/')
    (h : (p.capture? path).isSome = true ∨ (q.capture? path).isSome = true) :
    p.capture? (path ++ "/") = p.capture? path ∧ q.capture? (path ++ "/") = q.capture? path := by
  have hsome : ∀ capture,
      ((Pattern.ofTokens capture (tokenize template.toList)).capture? path).isSome = true := by
    intro capture
    obtain ⟨hparams, hsplats⟩ := hr.capture? hp hq path
    rw [hparams, hsplats, Pattern.isSome_capture?_iff_cut, Pattern.isSome_capture?_iff_cut,
      or_self] at h
    exact (Pattern.isSome_capture?_iff_cut capture template path).2 h
  rw [hr.paramPattern_eq p hp, hr.splatPattern_eq q hq]
  exact ⟨Pattern.capture?_append_slash hlast (hsome .params),
    Pattern.capture?_append_slash hlast (hsome .splats)⟩

namespace Registry

variable {H : Type}

theorem candidates_append_slash {r : Registry H} (hr : r.config.ignoreTrailingSlashes = true)
    (method : Method) {path : String} (hlast : path.toList.getLast? ≠ some '/') :
    r.candidates method (path ++ "/") = r.candidates method path := by
  refine List.filter_congr fun e _ => ?_
  rw [accepts_of_lenient hr, accepts_of_lenient hr, Template.fits_append_slash e.template hlast]

/-- Under lenient options a slash behind a path changes neither the candidates nor, where the patterns
of a route capture something from the path, the extracted values. -/
theorem lenient_append_slash {H : Type} (r : Registry H)
    (hr : r.config.ignoreTrailingSlashes = true) (path : String)
    (hlast : path.toList.getLast? ≠ some '/') :
    (∀ method, r.candidates method (path ++ "/") = r.candidates method path) ∧
    ∀ (e : Entry H) (p q : Pattern), e.route.Compiled e.template → e.route.paramPattern = some p →
      e.route.splatPattern = some q →
      ((p.capture? path).isSome = true ∨ (q.capture? path).isSome = true) →
      (r.params e (path ++ "/") = r.params e path ∧ r.splats e (path ++ "/") = r.splats e path) ∧
      ∀ decoder : Decoder, e.route.params decoder (path ++ "/") = e.route.params decoder path ∧
        e.route.splats decoder (path ++ "/") = e.route.splats decoder path := by
  refine ⟨fun method => candidates_append_slash hr method hlast, ?_⟩
  intro e p q he hp hq hsome
  obtain ⟨hparams, hsplats⟩ := he.capture?_append_slash hp hq hlast hsome
  have hvalues : ∀ decoder : Decoder,
      e.route.params decoder (path ++ "/") = e.route.params decoder path ∧
        e.route.splats decoder (path ++ "/") = e.route.splats decoder path := by
    intro decoder
    simp only [Route.params, Route.splats, Route.captured, hp, hq, Option.bind_some, hparams, hsplats,
      and_self]
  exact ⟨hvalues r.decoder, hvalues⟩

/-- The last parameter could be empty, and the splat take all of `a/b`. -/
theorem lenient_append_slash_last_param :
    let r : Registry Nat := empty.get .permissive "*/:x" 7
    let e : Entry Nat := Entry.compile .permissive .get "*/:x" 7 7
    r.candidates .get "a/b" = [e] ∧ (r.params e "a/b").entries = [("x", "b")] ∧
      r.splats e "a/b" = ["a"] ∧
      r.candidates .get ("a/b" ++ "/") = r.candidates .get "a/b" ∧
      r.params e ("a/b" ++ "/") = r.params e "a/b" ∧
      r.splats e ("a/b" ++ "/") = r.splats e "a/b" := by
  intro r e
  have hp : e.route.paramPattern = some ⟨[.run false, .literal ['/'], .segment true]⟩ := by
    decide +kernel
  have hq : e.route.splatPattern = some ⟨[.run true, .literal ['/'], .segment false]⟩ := by
    decide +kernel
  have h := lenient_append_slash r rfl "a/b" (by decide +kernel)
  have hvalues := h.2 e _ _ (Route.compiled_compile .permissive "*/:x") hp hq (.inl (by decide +kernel))
  exact ⟨by decide +kernel, by decide +kernel, by decide +kernel, h.1 .get, hvalues.1⟩

end Registry

end Router
