import Router.Proofs.Params
import Router.Proofs.Pattern.Extraction

/-!
Values under names. The names of a route and the values that its pattern captures are found apart
from each other, and put together by their place. Each name meets the value that its own parameter
takes. Under the lower-case form of a name stands the value of the last parameter that has this
form, and the decoder changes values only.
-/

set_option autoImplicit false
set_option relaxedAutoImplicit false

namespace Router

open Router.Template

theorem paramNames_wildcards (tokens : List Token) :
    Template.paramNames (wildcards tokens) = Template.paramNames tokens := by
  rw [wildcards, Template.paramNames, Template.paramNames, List.filterMap_filter]
  refine List.filterMap_congr fun t _ => ?_
  cases t <;> rfl

def namedValue (e : Token × List Char) : Option (String × String) :=
  e.1.name?.map fun name => (name, String.ofList e.2)

theorem zip_paramNames_select {tokens : List Token} {values : List (List Char)}
    (h : List.Forall₂ Token.Takes tokens values) :
    (Template.paramNames tokens).zip
        ((Pattern.select Capture.params.keeps tokens values).map String.ofList) =
      (tokens.zip values).filterMap namedValue := by
  induction h with
  | nil => rfl
  | @cons t value ts values _ _ ih =>
    rw [List.zip_cons_cons, List.filterMap_cons, ← ih]
    cases t <;> rfl

theorem zip_paramNames_values {template : String} {values : List (List Char)}
    (h : List.Forall₂ Token.Takes (wildcards (tokenize template.toList)) values) :
    (Template.paramNames (tokenize template.toList)).zip (Capture.params.values template values) =
      ((wildcards (tokenize template.toList)).zip values).filterMap namedValue := by
  rw [← paramNames_wildcards]
  exact zip_paramNames_select h

namespace Params

/-- The parameters are the decoded values under the lower-case forms of the names; where several
names have one form, the last of them gives the value. -/
structure Holds (names raws : List String) (decoder : Decoder) (p : Params) : Prop where
  mem_keys_iff : ∀ key, key ∈ p.keys ↔ key ∈ names.map Text.lowercase
  size_eq : p.size = (names.map Text.lowercase).toFinset.card
  get?_of_last : ∀ (i : Nat) (name raw : String), names[i]? = some name → raws[i]? = some raw →
    (∀ (j : Nat) (other : String), i < j → names[j]? = some other →
      Text.lowercase other ≠ Text.lowercase name) →
    p.get? (Text.lowercase name) = some (decoder raw)

theorem mem_keys_ofList_zip {names raws : List String} (h : names.length = raws.length)
    (decoder : Decoder) (key : String) :
    key ∈ (ofList ((names.zip raws).map fun e => (Text.lowercase e.1, decoder e.2))).keys ↔
      key ∈ names.map Text.lowercase := by
  conv => rhs; rw [← List.map_fst_zip (Nat.le_of_eq h), List.map_map]
  rw [mem_keys_ofList, List.map_map]
  exact Iff.rfl

theorem holds_ofList {names raws : List String} (h : names.length = raws.length)
    (decoder : Decoder) :
    Holds names raws decoder
      (ofList ((names.zip raws).map fun e => (Text.lowercase e.1, decoder e.2))) := by
  have hkeys := mem_keys_ofList_zip h decoder
  refine ⟨hkeys, size_eq_card hkeys, ?_⟩
  intro i name raw hname hraw hlast
  have hpair : (names.zip raws)[i]? = some (name, raw) :=
    List.getElem?_zip_eq_some.2 ⟨hname, hraw⟩
  refine get?_ofList_of_last (i := i) ?_ ?_
  · rw [List.getElem?_map, hpair]
    rfl
  · intro j e hj he
    rw [List.getElem?_map] at he
    obtain ⟨⟨other, value⟩, hpair, rfl⟩ := Option.map_eq_some_iff.1 he
    exact hlast j other hj (List.getElem?_zip_eq_some.1 hpair).1

end Params

theorem Pattern.capture?_of_reading (capture : Capture) {template path : String}
    {values : List (List Char)}
    (h : reading (canonicalTokens template.toList) path.toList = some values) :
    (ofTokens capture (tokenize template.toList)).capture? path =
      some (capture.values template values) := by
  rw [capture?_ofTokens, h]
  rfl

namespace Route

theorem params_of_capture? {r : Route} {p : Pattern} {path : String} {raws : List String}
    (hp : r.paramPattern = some p) (h : p.capture? path = some raws) (decoder : Decoder) :
    r.params decoder path =
      Params.ofList ((r.paramNames.zip raws).map fun e => (Text.lowercase e.1, decoder e.2)) := by
  rw [params, captured, hp, Option.bind_some, h]

theorem splats_of_capture? {r : Route} {q : Pattern} {path : String} {raws : List String}
    (hq : r.splatPattern = some q) (h : q.capture? path = some raws) (decoder : Decoder) :
    r.splats decoder path = raws.map decoder := by
  rw [splats, captured, hq, Option.bind_some, h]

theorem entries_params (r : Route) (decoder : Decoder) (path : String) :
    (r.params decoder path).entries = (r.params id path).entries.map (Prod.map id decoder) := by
  rw [params, params]
  split
  · rfl
  · rw [← Params.entries_ofList_map, List.map_map]
    rfl

/-- Where the pattern for parameters captures values from a path, they are the parameters of the
least assignment, each under the name that it has in the template. Every lower-case name has one
value, the decoded value of the last parameter of this name; the splats are the decoded splats in
their order; and another decoder gives other values under the same names. -/
theorem params_of_isSome_capture? {template : String} {r : Route} {p : Pattern}
    (hr : r.Compiled template) (hp : r.paramPattern = some p) (path : String)
    (h : (p.capture? path).isSome = true) :
    ∃ values raws rawSplats, p.capture? path = some raws ∧
      LeastAssignment template path values raws rawSplats ∧
      raws.length = r.paramNames.length ∧
      r.paramNames.zip raws =
        ((wildcards (tokenize template.toList)).zip values).filterMap namedValue ∧
      (∀ decoder : Decoder, Params.Holds r.paramNames raws decoder (r.params decoder path) ∧
        (r.params decoder path).entries = (r.params id path).entries.map (Prod.map id decoder)) ∧
      ∀ q, r.splatPattern = some q → q.capture? path = some rawSplats ∧
        ∀ decoder : Decoder, r.splats decoder path = rawSplats.map decoder := by
  obtain rfl := hr.paramPattern_eq p hp
  rw [Pattern.capture?_ofTokens, Option.isSome_map] at h
  obtain ⟨values, hvalues⟩ := Option.isSome_iff_exists.1 h
  have hleast := leastAssignment_of_reading hvalues
  have hraws := Pattern.capture?_of_reading .params hvalues
  have hlength := hleast.params_length
  rw [← hr.paramNames_eq] at hlength
  refine ⟨values, _, _, hraws, hleast, hlength, ?_, ?_, ?_⟩
  · rw [hr.paramNames_eq]
    exact zip_paramNames_values hleast.assignment.1
  · intro decoder
    refine ⟨?_, entries_params r decoder path⟩
    rw [params_of_capture? hp hraws]
    exact Params.holds_ofList hlength.symm decoder
  · intro q hq
    obtain rfl := hr.splatPattern_eq q hq
    have hsplats := Pattern.capture?_of_reading .splats hvalues
    exact ⟨hsplats, splats_of_capture? hq hsplats⟩

/-- Three parameters with two lower-case names, one of them empty. -/
theorem params_of_isSome_capture?_two_cases :
    ∃ p, (compile .permissive "/:ID/:/:Id/*").paramPattern = some p ∧
      p.capture? "/1/2/%41/c" = some ["1", "2", "%41"] ∧
      ((compile .permissive "/:ID/:/:Id/*").params Percent.decode "/1/2/%41/c").size = 2 ∧
      ((compile .permissive "/:ID/:/:Id/*").params Percent.decode "/1/2/%41/c").get? "id" = some "A" := by
  have hp : (compile .permissive "/:ID/:/:Id/*").paramPattern =
      some ⟨[.literal ['/'], .segment true, .literal ['/'], .segment true, .literal ['/'],
        .segment true, .literal ['/'], .run false]⟩ := by decide +kernel
  have hnames : (compile .permissive "/:ID/:/:Id/*").paramNames = ["ID", "", "Id"] := by decide +kernel
  obtain ⟨values, raws, rawSplats, hraws, -, -, -, hholds, -⟩ :=
    params_of_isSome_capture? (compiled_compile .permissive "/:ID/:/:Id/*") hp "/1/2/%41/c" (by decide +kernel)
  obtain rfl : ["1", "2", "%41"] = raws := Option.some.inj (by rw [← hraws]; decide +kernel)
  obtain ⟨⟨-, hsize, hlast⟩, -⟩ := hholds Percent.decode
  rw [hnames] at hsize hlast
  refine ⟨_, hp, hraws, ?_, ?_⟩
  · rw [hsize]
    decide +kernel
  · have hid : Text.lowercase "Id" = "id" := by decide +kernel
    have hvalue : Percent.decode "%41" = "A" := by decide +kernel
    have hget := hlast 2 "Id" "%41" rfl rfl fun j other hj hother => by
      obtain ⟨hlt, -⟩ := List.getElem?_eq_some_iff.1 hother
      simp only [List.length_cons, List.length_nil] at hlt
      omega
    rwa [hid, hvalue] at hget

end Route

end Router
