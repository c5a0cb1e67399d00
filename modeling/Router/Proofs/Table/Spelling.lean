import Router.Proofs.Json.Range
import Router.Proofs.Json.Skipping
import Router.Table

/-!
How tables are spelled. A table and its rows are objects with their members in any order, with members of
other keys between them; what a member leaves at its default need not stand there. Every spelling of a
table is read as that table.
-/

set_option autoImplicit false
set_option relaxedAutoImplicit false

namespace Router.Table

open Router.Json

/-- What a member of a row says. -/
inductive RowMember
  | method (m : Method)
  | path (p : String)
  | handler (h : Option String)
  | other (key : String) (v : Value)

namespace RowMember

def key : RowMember → String
  | method _ => "method"
  | path _ => "path"
  | handler _ => "handler"
  | other key _ => key

def method? : RowMember → Option Method
  | method m => some m
  | _ => none

def path? : RowMember → Option String
  | path p => some p
  | _ => none

/-- The handler, or its absence, that a member gives. -/
def handler? : RowMember → Option (Option String)
  | handler h => some h
  | _ => none

/-- The text is what a member says behind its colon. Method names are written in any letter case. -/
inductive Spells : RowMember → List Char → Prop
  | method {m : Method} {name : String} {text : List Char}
      (hname : Method.sameName m.name name = true) (h : SpellsString name text) :
      Spells (.method m) text
  | path {p : String} {text : List Char} (h : SpellsString p text) : Spells (.path p) text
  | noHandler : Spells (.handler none) ['n', 'u', 'l', 'l']
  | handler {label : String} {text : List Char} (h : SpellsString label text) :
      Spells (.handler (some label)) text
  | other {key : String} {depth : Nat} {v : Value} {text : List Char}
      (hkey : key ∉ ["method", "path", "handler"]) (h : Json.Spells depth v text) :
      Spells (.other key v) text

/-- The members tell the row: its method and its path once, and its handler at most once. -/
structure Tell (ms : List RowMember) (s : Spec) : Prop where
  method : ms.filterMap method? = [s.method]
  path : ms.filterMap path? = [s.path]
  handler : ms.filterMap handler? = [s.handler] ∨ ms.filterMap handler? = [] ∧ s.handler = none

end RowMember

inductive SpellsSpec (s : Spec) : List Char → Prop
  | mk (ms : List RowMember) {body : List Char} (htell : RowMember.Tell ms s)
      (h : Enclosed (SpellsMember RowMember.key RowMember.Spells) ms body) :
      SpellsSpec s ('{' :: (body ++ ['}']))

/-- What a member of a table says. -/
inductive Member
  | routes (specs : List Spec)
  | slashes (b : Bool)
  | other (key : String) (v : Value)

namespace Member

def key : Member → String
  | routes _ => "routes"
  | slashes _ => slashKey
  | other key _ => key

def routes? : Member → Option (List Spec)
  | routes specs => some specs
  | _ => none

def slashes? : Member → Option Bool
  | slashes b => some b
  | _ => none

inductive Spells : Member → List Char → Prop
  | routes {specs : List Spec} {body : List Char} (h : Enclosed SpellsSpec specs body) :
      Spells (.routes specs) ('[' :: (body ++ [']']))
  | slashes {b : Bool} {text : List Char} (h : Scalar (.boolean b) text) : Spells (.slashes b) text
  | other {key : String} {v : Value} {text : List Char} (hkey : key ∉ ["routes", slashKey])
      (h : Json.Spells memberDepth v text) : Spells (.other key v) text

/-- The members tell the table: its rows and its option at most once each. -/
structure Tell (ms : List Member) (t : Table) : Prop where
  routes : ms.filterMap routes? = [t.routes] ∨ ms.filterMap routes? = [] ∧ t.routes = []
  slashes : ms.filterMap slashes? = [t.config.ignoreTrailingSlashes] ∨
    ms.filterMap slashes? = [] ∧ t.config = {}

end Member

inductive SpellsTable (t : Table) : List Char → Prop
  | mk (ms : List Member) {before body behind : List Char} (hbefore : Blank before)
      (htell : Member.Tell ms t) (h : Enclosed (SpellsMember Member.key Member.Spells) ms body)
      (hbehind : Blank behind) : SpellsTable t (before ++ ('{' :: (body ++ ['}']) ++ behind))

theorem consumes_field {α σ : Type} {old : Option α} {read : Cursor → Reading α}
    {before behind text rest : List Char} {a : α} (hold : old = none) (hread : SkipsBlanks read)
    (h : Consumes read text a rest) (hbefore : Blank before) (hbehind : Blank behind)
    (name : String) (set : α → σ) :
    Consumes (field old name read set) (before ++ ':' :: (behind ++ text)) (set a) rest := by
  subst hold
  exact (consumes_afterColon (h.blanks hread hbehind) hbefore).map set

theorem skipsBlanks_readMethod : SkipsBlanks readMethod :=
  (skipsBlanks_typed "a string" _).andThen _

theorem consumes_readMethod {m : Method} {name : String} {text rest : List Char}
    (hname : Method.sameName m.name name = true) (h : SpellsString name text)
    (hrest : Delimited rest) : Consumes readMethod text m rest := by
  intro offset
  obtain ⟨offset', hread⟩ := consumes_typedString h hrest offset
  refine ⟨offset', ?_⟩
  rw [readMethod, hread, Reading.andThen_ok, Method.parse, Method.ofName?_of_sameName hname]

namespace RowMember

def put (d : Draft) : RowMember → Draft
  | method m => { d with method := some m }
  | path p => { d with path := some p }
  | handler h => { d with handler := some h }
  | other _ _ => d

/-- A member does not say again what is known of the row. -/
def Fresh (d : Draft) : RowMember → Prop
  | method _ => d.method = none
  | path _ => d.path = none
  | handler _ => d.handler = none
  | other _ _ => True

theorem consumes_rowMember {d : Draft} {m : RowMember} {before behind body rest : List Char}
    (hfresh : Fresh d m) (hbefore : Blank before) (hbehind : Blank behind) (h : Spells m body)
    (hrest : Delimited rest) :
    Consumes (rowMember d m.key) (before ++ ':' :: (behind ++ body)) (put d m) rest := by
  cases h with
  | method hname h =>
    exact consumes_field hfresh skipsBlanks_readMethod (consumes_readMethod hname h hrest) hbefore
      hbehind _ _
  | path h =>
    exact consumes_field hfresh (skipsBlanks_typed _ _) (consumes_typedString h hrest) hbefore
      hbehind _ _
  | noHandler =>
    exact consumes_field hfresh skipsBlanks_typedString? (consumes_typedString?_null rest) hbefore
      hbehind _ _
  | handler h =>
    exact consumes_field hfresh skipsBlanks_typedString? (consumes_typedString?_string h hrest)
      hbefore hbehind _ _
  | @other key depth v text hkey h =>
    obtain ⟨hmethod, hpath, hhandler⟩ : key ≠ "method" ∧ key ≠ "path" ∧ key ≠ "handler" := by
      simpa using hkey
    have hread := (consumes_afterColon (consumes_skip h hbehind hrest) hbefore).map fun _ => d
    intro offset
    obtain ⟨offset', hread⟩ := hread offset
    refine ⟨offset', ?_⟩
    show rowMember d key _ = _
    rw [rowMember, if_neg hmethod, if_neg hpath, if_neg hhandler]
    exact hread

/-- A draft and the members behind it give each field at most once. -/
structure AtMostOnce (d : Draft) (ms : List RowMember) : Prop where
  method : (d.method.toList ++ ms.filterMap method?).length ≤ 1
  path : (d.path.toList ++ ms.filterMap path?).length ≤ 1
  handler : (d.handler.toList ++ ms.filterMap handler?).length ≤ 1

theorem eq_none_of_length_le {α : Type} {old : Option α} {a : α} {as : List α}
    (h : (old.toList ++ a :: as).length ≤ 1) : old = none := by
  cases old with
  | none => rfl
  | some b => simp at h

theorem AtMostOnce.fresh {d : Draft} {m : RowMember} {ms : List RowMember}
    (h : AtMostOnce d (m :: ms)) : Fresh d m := by
  cases m with
  | method k => exact eq_none_of_length_le h.method
  | path p => exact eq_none_of_length_le h.path
  | handler l => exact eq_none_of_length_le h.handler
  | other key v => trivial

section Step

variable {d : Draft} {m : RowMember} (h : Fresh d m) (ms : List RowMember)
include h

theorem method_put : (put d m).method.toList ++ ms.filterMap method? =
    d.method.toList ++ (m :: ms).filterMap method? := by
  cases m <;> simp_all [Fresh, put, method?, List.filterMap_cons]

theorem path_put : (put d m).path.toList ++ ms.filterMap path? =
    d.path.toList ++ (m :: ms).filterMap path? := by
  cases m <;> simp_all [Fresh, put, path?, List.filterMap_cons]

theorem handler_put : (put d m).handler.toList ++ ms.filterMap handler? =
    d.handler.toList ++ (m :: ms).filterMap handler? := by
  cases m <;> simp_all [Fresh, put, handler?, List.filterMap_cons]

end Step

theorem AtMostOnce.put {d : Draft} {m : RowMember} {ms : List RowMember}
    (h : AtMostOnce d (m :: ms)) : AtMostOnce (RowMember.put d m) ms := by
  refine ⟨?_, ?_, ?_⟩
  · rw [method_put h.fresh]
    exact h.method
  · rw [path_put h.fresh]
    exact h.path
  · rw [handler_put h.fresh]
    exact h.handler

theorem AtMostOnce.admits {d : Draft} {ms : List RowMember} (h : AtMostOnce d ms) :
    Admits Fresh RowMember.put d ms := by
  induction ms generalizing d with
  | nil => trivial
  | cons m ms ih => exact ⟨h.fresh, ih h.put⟩

theorem AtMostOnce.foldl_put {d : Draft} {ms : List RowMember} (h : AtMostOnce d ms) :
    (ms.foldl RowMember.put d).method.toList = d.method.toList ++ ms.filterMap method? ∧
    (ms.foldl RowMember.put d).path.toList = d.path.toList ++ ms.filterMap path? ∧
    (ms.foldl RowMember.put d).handler.toList = d.handler.toList ++ ms.filterMap handler? := by
  induction ms generalizing d with
  | nil => simp
  | cons m ms ih =>
    rw [List.foldl_cons, ← method_put h.fresh, ← path_put h.fresh, ← handler_put h.fresh]
    exact ih h.put

theorem Tell.atMostOnce {ms : List RowMember} {s : Spec} (h : Tell ms s) : AtMostOnce {} ms := by
  refine ⟨by simp [h.method], by simp [h.path], ?_⟩
  rcases h.handler with h | ⟨h, -⟩ <;> simp [h]

theorem Tell.foldl_put {ms : List RowMember} {s : Spec} (h : Tell ms s) :
    let d := ms.foldl put {}
    d.method = some s.method ∧ d.path = some s.path ∧ d.handler.join = s.handler := by
  intro d
  obtain ⟨hmethod, hpath, hhandler⟩ := h.atMostOnce.foldl_put
  rw [h.method] at hmethod
  rw [h.path] at hpath
  refine ⟨Option.toList_eq_singleton_iff.1 hmethod, Option.toList_eq_singleton_iff.1 hpath, ?_⟩
  rcases h.handler with h | ⟨h, hnone⟩
  · rw [h] at hhandler
    have hsome : d.handler = some s.handler := Option.toList_eq_singleton_iff.1 hhandler
    rw [hsome, Option.join_some]
  · rw [h] at hhandler
    have habsent : d.handler = none := Option.toList_eq_nil_iff.1 hhandler
    rw [habsent, hnone]
    rfl

end RowMember

theorem consumes_finish {d : Draft} {s : Spec} (hmethod : d.method = some s.method)
    (hpath : d.path = some s.path) (hhandler : d.handler.join = s.handler) (rest : List Char) :
    Consumes d.finish [] s rest := by
  intro offset
  refine ⟨offset, ?_⟩
  rw [Draft.finish, hmethod, hpath, hhandler]
  rfl

theorem record_object {α : Type} (expected : String) (asList asObject : Cursor → Reading α)
    (more : List Char) (offset : Nat) :
    record expected asList asObject ⟨'{' :: more, offset⟩ = inObject asObject ⟨more, offset + 1⟩ := by
  rw [record, skipBlanks_of_stops (Template.stops_cons.2 (by decide))]
  rfl

theorem consumes_readSpec {s : Spec} {text : List Char} (h : SpellsSpec s text) (rest : List Char) :
    Consumes readSpec text s rest := by
  obtain @⟨ms, body, htell, h⟩ := h
  obtain ⟨hmethod, hpath, hhandler⟩ := htell.foldl_put
  have hmembers := consumes_members
    (fun _ _ _ _ _ _ hfresh hbefore hbehind h hrest =>
      RowMember.consumes_rowMember hfresh hbefore hbehind h hrest)
    h htell.atMostOnce.admits rest
  have hobject : Consumes rowObject body s ('}' :: rest) := by
    have hrow : Consumes rowObject (body ++ []) s ('}' :: rest) :=
      hmembers.andThen (consumes_finish hmethod hpath hhandler _)
    rwa [List.append_nil] at hrow
  intro offset
  obtain ⟨offset', hread⟩ := consumes_inObject hobject (offset + 1)
  exact ⟨offset', (record_object _ rowList rowObject _ offset).trans hread⟩

theorem solid_of_spellsSpec {s : Spec} {text : List Char} (h : SpellsSpec s text) : Solid text := by
  cases h with
  | mk => exact ⟨'{', _, rfl, by decide, by decide⟩

theorem skipsBlanks_readRows : SkipsBlanks readRows := by
  intro c
  rw [readRows, readRows, skipBlanks_skipBlanks]

theorem consumes_readRows {specs : List Spec} {body : List Char} (h : Enclosed SpellsSpec specs body)
    (rest : List Char) : Consumes readRows ('[' :: (body ++ [']'])) specs rest := by
  have hlist := consumes_list (fun _ _ => solid_of_spellsSpec)
    (fun _ _ rest h _ => consumes_readSpec h rest) h rest
  intro offset
  obtain ⟨offset', hread⟩ := hlist (offset + 1)
  refine ⟨offset', ?_⟩
  rw [readRows, List.cons_append, skipBlanks_of_stops (Template.stops_cons.2 (by decide))]
  exact hread

namespace Member

/-- The key and the value of a member that is no member of rows. -/
def other? : Member → Option (String × Value)
  | slashes b => some (slashKey, .boolean b)
  | other key v => some (key, v)
  | routes _ => none

def put (t : Contents) (m : Member) : Contents :=
  match m with
  | routes specs => { t with routes := some specs }
  | slashes b => { t with others := t.others ++ [(slashKey, .boolean b)] }
  | other key v => { t with others := t.others ++ [(key, v)] }

def Fresh (t : Contents) : Member → Prop
  | routes _ => t.routes = none
  | _ => True

theorem consumes_other {t : Contents} {key : String} {v : Value} {before behind text rest : List Char}
    (hkey : key ≠ "routes") (hbefore : Blank before) (hbehind : Blank behind)
    (h : Json.Spells memberDepth v text) (hrest : Delimited rest) :
    Consumes (tableMember t key) (before ++ ':' :: (behind ++ text))
      { t with others := t.others ++ [(key, v)] } rest := by
  have hvalue := (consumes_value h hrest).blanks (skipsBlanks_value memberDepth) hbehind
  have hread := (consumes_afterColon hvalue hbefore).map fun v =>
    { t with others := t.others ++ [(key, v)] }
  intro offset
  obtain ⟨offset', hread⟩ := hread offset
  refine ⟨offset', ?_⟩
  rw [tableMember, if_neg hkey]
  exact hread

theorem consumes_tableMember {t : Contents} {m : Member} {before behind body rest : List Char}
    (hfresh : Fresh t m) (hbefore : Blank before) (hbehind : Blank behind) (h : Spells m body)
    (hrest : Delimited rest) :
    Consumes (tableMember t m.key) (before ++ ':' :: (behind ++ body)) (put t m) rest := by
  cases h with
  | routes h =>
    exact consumes_field hfresh skipsBlanks_readRows (consumes_readRows h rest) hbefore hbehind _ _
  | slashes h =>
    have hkey : slashKey ≠ "routes" := by decide
    exact consumes_other hkey hbefore hbehind (spells_of_scalar h memberDepth) hrest
  | other hkey h =>
    obtain ⟨hroutes, -⟩ := by simpa using hkey
    exact consumes_other hroutes hbefore hbehind h hrest

theorem fresh_of_length_le {t : Contents} {m : Member} {ms : List Member}
    (h : (t.routes.toList ++ (m :: ms).filterMap routes?).length ≤ 1) : Fresh t m := by
  cases m with
  | routes specs => exact RowMember.eq_none_of_length_le h
  | slashes b => trivial
  | other key v => trivial

theorem routes_put {t : Contents} {m : Member} (h : Fresh t m) (ms : List Member) :
    (put t m).routes.toList ++ ms.filterMap routes? =
      t.routes.toList ++ (m :: ms).filterMap routes? := by
  cases m <;> simp_all [Fresh, put, routes?, List.filterMap_cons]

theorem admits_of_length_le {t : Contents} {ms : List Member}
    (h : (t.routes.toList ++ ms.filterMap routes?).length ≤ 1) : Admits Fresh put t ms := by
  induction ms generalizing t with
  | nil => trivial
  | cons m ms ih =>
    have hfresh := fresh_of_length_le h
    exact ⟨hfresh, ih (routes_put hfresh ms ▸ h)⟩

theorem routes_foldl_put {t : Contents} {ms : List Member} (h : Admits Fresh put t ms) :
    (ms.foldl put t).routes.toList = t.routes.toList ++ ms.filterMap routes? := by
  induction ms generalizing t with
  | nil => simp
  | cons m ms ih => rw [List.foldl_cons, ih h.2, routes_put h.1]

theorem others_foldl_put (t : Contents) (ms : List Member) :
    (ms.foldl put t).others = t.others ++ ms.filterMap other? := by
  induction ms generalizing t with
  | nil => simp
  | cons m ms ih =>
    rw [List.foldl_cons, ih]
    cases m <;> simp [put, other?, List.filterMap_cons]

theorem findSlashOption_eq {ms : List Member} {old : Option Bool}
    (hkeys : ∀ key v, .other key v ∈ ms → key ≠ slashKey)
    (h : (old.toList ++ ms.filterMap slashes?).length ≤ 1) :
    ∃ b : Option Bool, findSlashOption old (ms.filterMap other?) = .ok b ∧
      b.toList = old.toList ++ ms.filterMap slashes? := by
  induction ms generalizing old with
  | nil => exact ⟨old, rfl, by simp⟩
  | cons m ms ih =>
    have hlater : ∀ key v, .other key v ∈ ms → key ≠ slashKey := fun key v hmem =>
      hkeys key v (List.mem_cons_of_mem m hmem)
    cases m with
    | routes specs => exact ih hlater h
    | slashes b =>
      obtain rfl : old = none := RowMember.eq_none_of_length_le h
      exact @ih (some b) hlater h
    | other key v =>
      have hkey : key ≠ slashKey := hkeys key v List.mem_cons_self
      obtain ⟨b, hfind, hb⟩ := ih hlater h
      refine ⟨b, ?_, hb⟩
      rw [← hfind]
      simp [other?, findSlashOption, hkey]

theorem Tell.admits {ms : List Member} {t : Table} (h : Tell ms t) : Admits Fresh put {} ms := by
  refine admits_of_length_le ?_
  rcases h.routes with h | ⟨h, -⟩ <;> simp [h]

theorem Tell.finish {ms : List Member} {t : Table} (h : Tell ms t)
    (hkeys : ∀ key v, .other key v ∈ ms → key ≠ slashKey) (c : Cursor) :
    (ms.foldl put {}).finish c = .ok (t, c) := by
  have hlength : ((none : Option Bool).toList ++ ms.filterMap slashes?).length ≤ 1 := by
    rcases h.slashes with h | ⟨h, -⟩ <;> simp [h]
  obtain ⟨b, hfind, hb⟩ := findSlashOption_eq hkeys hlength
  have hconfig : configOf b = t.config := by
    rcases h.slashes with hsome | ⟨hnil, hdefault⟩
    · rw [hsome] at hb
      rw [Option.toList_eq_singleton_iff.1 hb]
      rfl
    · rw [hnil] at hb
      rw [Option.toList_eq_nil_iff.1 hb, hdefault]
      rfl
  have hroutes : (ms.foldl put {}).routes.getD [] = t.routes := by
    have hlist := routes_foldl_put h.admits
    rcases h.routes with hsome | ⟨hnil, hdefault⟩
    · rw [hsome] at hlist
      rw [Option.toList_eq_singleton_iff.1 hlist, Option.getD_some]
    · rw [hnil] at hlist
      rw [Option.toList_eq_nil_iff.1 hlist, hdefault, Option.getD_none]
  rw [Contents.finish, others_foldl_put, List.nil_append, hfind]
  dsimp only
  rw [hconfig, hroutes]

end Member

theorem skipsBlanks_read : SkipsBlanks read := by
  intro c
  rw [read, read, skipBlanks_skipBlanks]

theorem consumes_read {ms : List Member} {t : Table} {body : List Char} (htell : Member.Tell ms t)
    (h : Enclosed (SpellsMember Member.key Member.Spells) ms body) (rest : List Char) :
    Consumes read ('{' :: (body ++ ['}'])) t rest := by
  have hkeys : ∀ key v, .other key v ∈ ms → key ≠ slashKey := by
    intro key v hmem
    obtain ⟨text, hmember⟩ := h.exists_spells _ hmem
    cases hmember with
    | mk _ _ _ hspells =>
      cases hspells with
      | other hkey _ => exact fun heq => hkey (by simp [heq])
  have hmembers := consumes_members
    (fun _ _ _ _ _ _ hfresh hbefore hbehind h hrest =>
      Member.consumes_tableMember hfresh hbefore hbehind h hrest)
    h htell.admits rest
  have hfinish : Consumes (ms.foldl Member.put {}).finish [] t ('}' :: rest) :=
    fun offset => ⟨offset, htell.finish hkeys _⟩
  have hinside : Consumes (fun c => (members tableMember {} c).andThen Contents.finish) (body ++ [])
      t ('}' :: rest) := hmembers.andThen hfinish
  rw [List.append_nil] at hinside
  intro offset
  obtain ⟨offset', hread⟩ := consumes_inObject hinside (offset + 1)
  refine ⟨offset', ?_⟩
  rw [read, List.cons_append, skipBlanks_of_stops (Template.stops_cons.2 (by decide))]
  exact hread

theorem ofJson_of_spells {t : Table} {text : List Char} (h : SpellsTable t text) :
    Table.ofJson (String.ofList text) = .ok t := by
  obtain @⟨ms, before, body, behind, hbefore, htell, h, hbehind⟩ := h
  rw [Table.ofJson, readText_of_consumes skipsBlanks_read hbefore hbehind
    (consumes_read htell h behind)]

/-- A table is read from any of its spellings. The numbers in its further members have to be in range, as all
are that are not near the greatest floating-point number and have an exponent of at most 31 bits. -/
theorem ofJson_of_spellsTable :
    (∀ (t : Table) (text : List Char), SpellsTable t text →
      Table.ofJson (String.ofList text) = .ok t) ∧
    ∀ n : Numeral, n.magnitude < safeMagnitude →
      (∀ x ∈ n.exponent, Nat.ofDigitChars 10 x.digits.text 0 ≤ maxExponent) →
      ∃ x, Scalar (.number x) n.write :=
  ⟨fun _ _ h => ofJson_of_spells h, fun _ h hexponent => exists_scalar_write h hexponent⟩

/-- A row behind an unknown member, with escapes, a method in mixed case and a handler that is `null`; and a
number of 201 digits. -/
theorem ofJson_of_spellsTable_mixed :
    (∃ x, Scalar (.number x) ['1', 'e', '2', '0', '0']) ∧ Table.ofJson ("\x7b\"n\": [7,\"\\uD83d\\uDE00\"]," ++
      "\n\"routes\": [\x7b\"p\\u0061th\": \"\\/\\u00E9\",\"handler\": null,\"method\": \"gEt\"\x7d]\x7d") =
      .ok ⟨.lenient, [⟨.get, "/é", none⟩]⟩ := by
  have hspace : Blank [' '] := by simp [Blank, Cursor.isBlank]
  have hline : Blank ['\n'] := by simp [Blank, Cursor.isBlank]
  have hseven : Scalar (.number (.integer 7)) ['7'] :=
    .number (n := ⟨false, ⟨['7'], by decide, List.forall_mem_singleton.2 rfl⟩, by decide, none, none⟩) rfl
  have hleading : SpellsUnit (leadingHalf '😀') ['D', '8', '3', 'd'] :=
    .digits (by decide) (by decide) (by decide) (by decide) (by decide)
  have htrailing : SpellsUnit (trailingHalf '😀') ['D', 'E', '0', '0'] :=
    .digits (by decide) (by decide) (by decide) (by decide) (by decide)
  have hface : SpellsString "😀" _ :=
    ⟨_, .cons (.pair (by decide) hleading htrailing) .nil, rfl⟩
  have hlist : Json.Spells memberDepth (.list [.number (.integer 7), .string "😀"]) _ :=
    spells_of_composite (.list (.items (.cons blank_nil (spells_of_scalar hseven 125) blank_nil
      (.single blank_nil (spells_of_scalar (.string hface) 125) blank_nil))))
  have hletter : SpellsUnit 'a'.toNat ['0', '0', '6', '1'] :=
    .digits (by decide) (by decide) (by decide) (by decide) (by decide)
  have hkey : SpellsString "path" _ :=
    ⟨_, .cons (.plain (by decide) (by decide) (by decide))
      (.cons (.code hletter) (spellsChars_flatMap ['t', 'h'])), rfl⟩
  have haccent : SpellsUnit 'é'.toNat ['0', '0', 'E', '9'] :=
    .digits (by decide) (by decide) (by decide) (by decide) (by decide)
  have hpath : SpellsString "/é" _ :=
    ⟨_, .cons (.letter (x := '/') (by decide)) (.cons (.code haccent) .nil), rfl⟩
  have hrow : SpellsSpec ⟨.get, "/é", none⟩ _ :=
    .mk [.path "/é", .handler none, .method .get] ⟨rfl, rfl, .inl rfl⟩
      (.items (.cons blank_nil (.mk hkey blank_nil hspace (.path hpath)) blank_nil
        (.cons blank_nil (.mk (spellsString_writeString "handler") blank_nil hspace .noHandler)
          blank_nil
          (.single blank_nil (.mk (spellsString_writeString "method") blank_nil hspace
            (.method (by decide) (spellsString_writeString "gEt"))) blank_nil))))
  have htable : SpellsTable ⟨.lenient, [⟨.get, "/é", none⟩]⟩ _ :=
    .mk [.other "n" (.list [.number (.integer 7), .string "😀"]), .routes [⟨.get, "/é", none⟩]]
      blank_nil ⟨.inl rfl, .inr ⟨rfl, rfl⟩⟩
      (.items (.cons blank_nil
        (.mk (spellsString_writeString "n") blank_nil hspace (.other (by decide) hlist)) blank_nil
        (.single hline (.mk (spellsString_writeString "routes") blank_nil hspace
          (.routes (.items (.single blank_nil hrow blank_nil)))) blank_nil))) blank_nil
  have hdigits : ['2', '0', '0'].all Char.isDigit := by decide
  let great : Numeral := ⟨false, ⟨['1'], by decide, List.forall_mem_singleton.2 rfl⟩, by decide, none,
    some ⟨false, .none, ⟨['2', '0', '0'], by decide, List.all_eq_true.1 hdigits⟩⟩⟩
  have hgreat : great.magnitude < safeMagnitude := by
    have hvalue : great.magnitude = 10 ^ 200 := by
      simp [great, Numeral.magnitude, fractionDigits, exponentValue, Nat.ofDigitChars]
    rw [hvalue]
    exact_mod_cast (by decide +kernel : 10 ^ 200 < safeMagnitude)
  have hexponent : ∀ x ∈ great.exponent, Nat.ofDigitChars 10 x.digits.text 0 ≤ maxExponent := by
    rintro x hx
    obtain rfl := Option.some.inj hx
    show Nat.ofDigitChars 10 ['2', '0', '0'] 0 ≤ maxExponent
    decide +kernel
  obtain ⟨hread, hrange⟩ := ofJson_of_spellsTable
  refine ⟨hrange great hgreat hexponent, ?_⟩
  rw [← hread _ _ htable]
  congr 1

end Router.Table
