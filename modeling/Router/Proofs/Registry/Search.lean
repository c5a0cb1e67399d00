import Router.Proofs.Registry.Shelves

/-!
Searching a registry. A search puts a predicate, which may change a state of its own, to the entries in
the order of the registry. It ends with the second entry that satisfies the predicate, or with the last
entry, and it warns about the first one if there is a second.
-/

set_option autoImplicit false
set_option relaxedAutoImplicit false

namespace Router.Registry

variable {H σ : Type}

/-- The state that a predicate is left in when it has been asked about entries, one after the other. -/
def stateAfter (p : Entry H → σ → Bool × σ) (es : List (Entry H)) (s : σ) : σ :=
  es.foldl (fun s e => (p e s).2) s

/-- The entries that satisfy a predicate when it is asked about them, one after the other. -/
def satisfying (p : Entry H → σ → Bool × σ) : List (Entry H) → σ → List (Entry H)
  | [], _ => []
  | e :: es, s =>
    if (p e s).1 then e :: satisfying p es (p e s).2 else satisfying p es (p e s).2

/-- A predicate that also writes down which entries it is asked about. -/
def recording (p : Entry H → σ → Bool × σ) (e : Entry H) (s : σ × List (Entry H)) :
    Bool × (σ × List (Entry H)) :=
  ((p e s.1).1, (p e s.1).2, s.2 ++ [e])

/-- A search among entries: those it asks about, the entry it finds, and what it logs. -/
inductive Search (p : Entry H → σ → Bool × σ) (es : List (Entry H)) (s : σ) :
    List (Entry H) → Option (Entry H) → List Event → Prop
  | nothing (h : satisfying p es s = []) : Search p es s es none []
  | single {e : Entry H} (h : satisfying p es s = [e]) : Search p es s es (some e) []
  | several {e second : Entry H} {front back : List (Entry H)} (hes : es = front ++ second :: back)
      (hfront : satisfying p front s = [e]) (hsecond : (p second (stateAfter p front s)).1 = true) :
      Search p es s (front ++ [second]) (some e) [.ambiguous e.method e.template]

section Asking

variable (p : Entry H → σ → Bool × σ)

theorem stateAfter_append (es es' : List (Entry H)) (s : σ) :
    stateAfter p (es ++ es') s = stateAfter p es' (stateAfter p es s) := List.foldl_append

theorem satisfying_append (es es' : List (Entry H)) (s : σ) :
    satisfying p (es ++ es') s = satisfying p es s ++ satisfying p es' (stateAfter p es s) := by
  induction es generalizing s with
  | nil => rfl
  | cons e es ih =>
    rw [List.cons_append, satisfying, satisfying, ih]
    split <;> rfl

theorem stateAfter_recording (es : List (Entry H)) (s : σ) (calls : List (Entry H)) :
    stateAfter (recording p) es (s, calls) = (stateAfter p es s, calls ++ es) := by
  induction es generalizing s calls with
  | nil => simp [stateAfter]
  | cons e es ih =>
    have hlater := ih (p e s).2 (calls ++ [e])
    rwa [List.append_assoc, List.singleton_append] at hlater

theorem satisfying_recording (es : List (Entry H)) (s : σ) (calls : List (Entry H)) :
    satisfying (recording p) es (s, calls) = satisfying p es s := by
  induction es generalizing s calls with
  | nil => rfl
  | cons e es ih => rw [satisfying, satisfying, recording, ih]

end Asking

theorem Search.of_recording {p : Entry H → σ → Bool × σ} {es asked calls : List (Entry H)} {s : σ}
    {found : Option (Entry H)} {events : List Event}
    (h : Search (recording p) es (s, calls) asked found events) : Search p es s asked found events := by
  cases h with
  | nothing h => exact .nothing (satisfying_recording p es s calls ▸ h)
  | single h => exact .single (satisfying_recording p es s calls ▸ h)
  | @several e second front back hes hfront hsecond =>
    rw [stateAfter_recording] at hsecond
    exact .several hes (satisfying_recording p front s calls ▸ hfront) hsecond

theorem seek_cases (p : Entry H → σ → Bool × σ) (es : List (Entry H)) (s : σ) :
    (satisfying p es s = [] ∧ seek p es s = (none, stateAfter p es s)) ∨
    ∃ front e rest, es = front ++ e :: rest ∧ satisfying p front s = [] ∧
      (p e (stateAfter p front s)).1 = true ∧
      seek p es s = (some (e, rest), stateAfter p (front ++ [e]) s) := by
  induction es generalizing s with
  | nil => exact .inl ⟨rfl, rfl⟩
  | cons e es ih =>
    cases hp : p e s with
    | mk yes s' =>
      cases yes with
      | true =>
        refine .inr ⟨[], e, es, rfl, rfl, congrArg Prod.fst hp, ?_⟩
        simp [seek, stateAfter, hp]
      | false =>
        obtain ⟨hnone, hseek⟩ | ⟨front, first, rest, rfl, hfront, hfirst, hseek⟩ := ih s'
        · refine .inl ⟨?_, ?_⟩
          · simp [satisfying, hp, hnone]
          · simp [seek, stateAfter, hp, hseek]
        · refine .inr ⟨e :: front, first, rest, rfl, ?_, ?_, ?_⟩
          · simp [satisfying, hp, hfront]
          · simpa [stateAfter, hp] using hfirst
          · simp [seek, stateAfter, hp, hseek]

theorem seek_recording (p : Entry H → σ → Bool × σ) (es : List (Entry H))
    (s : σ × List (Entry H)) :
    seek p es s.1 = ((seek (recording p) es s).1, (seek (recording p) es s).2.1) := by
  induction es generalizing s with
  | nil => rfl
  | cons e es ih =>
    rw [seek, seek, recording]
    cases hp : p e s.1 with
    | mk yes s' =>
      cases yes with
      | true => rfl
      | false => exact ih (s', s.2 ++ [e])

theorem exists_search (r : Registry H) (p : Entry H → σ → Bool × σ) (s : σ) :
    ∃ asked found events, Search p r.toList s asked found events ∧
      r.findFirst p s = ((found, events), stateAfter p asked s) := by
  obtain ⟨hnone, hseek⟩ | ⟨front, e, rest, hes, hfront, he, hseek⟩ := seek_cases p r.toList s
  · refine ⟨r.toList, none, [], .nothing hnone, ?_⟩
    rw [findFirst, hseek]
  · have hone : satisfying p (front ++ [e]) s = [e] := by
      rw [satisfying_append, hfront]
      simp [satisfying, he]
    obtain ⟨hnone, hrest⟩ | ⟨between, second, back, rfl, hbetween, hsecond, hrest⟩ :=
      seek_cases p rest (stateAfter p (front ++ [e]) s)
    · have hall : r.toList = front ++ [e] ++ rest := by simpa using hes
      refine ⟨r.toList, some e, [], .single ?_, ?_⟩
      · rw [hall, satisfying_append, hone, hnone, List.append_nil]
      · rw [findFirst, hseek, hall, stateAfter_append p (front ++ [e]) rest]
        simp only [hrest]
    · have hall : r.toList = front ++ [e] ++ between ++ second :: back := by simpa using hes
      refine ⟨front ++ [e] ++ between ++ [second], some e, _, .several hall ?_ ?_, ?_⟩
      · rw [satisfying_append, hone, hbetween, List.append_nil]
      · rwa [stateAfter_append]
      · rw [findFirst, hseek, List.append_assoc, stateAfter_append p (front ++ [e])]
        simp only [hrest]

theorem findFirst_recording (r : Registry H) (p : Entry H → σ → Bool × σ)
    (s : σ × List (Entry H)) :
    r.findFirst p s.1 = ((r.findFirst (recording p) s).1, (r.findFirst (recording p) s).2.1) := by
  rw [findFirst, findFirst, seek_recording]
  cases hseek : seek (recording p) r.toList s with
  | mk found s' =>
    cases found with
    | none => rfl
    | some first =>
      dsimp only
      rw [seek_recording p first.2 s']
      cases hrest : seek (recording p) first.2 s' with
      | mk second s'' => cases second <;> rfl

theorem findTemplate_eq (r : Registry H) (p : Entry H → σ → Bool × σ) (s : σ) :
    r.findTemplate p s = (((r.findFirst p s).1.1.map Entry.template, (r.findFirst p s).1.2),
      (r.findFirst p s).2) := rfl

theorem satisfying_stateless (q : Entry H → Bool) (es : List (Entry H)) (s : σ) :
    satisfying (fun e s => (q e, s)) es s = es.filter q := by
  induction es with
  | nil => rfl
  | cons e es ih => rw [satisfying, List.filter_cons, ih]

theorem Search.found_eq_find? {q : Entry H → Bool} {es asked : List (Entry H)} {s : σ}
    {found : Option (Entry H)} {events : List Event}
    (h : Search (fun e s => (q e, s)) es s asked found events) : found = es.find? q := by
  rw [← List.head?_filter]
  cases h with
  | nothing h =>
    rw [satisfying_stateless] at h
    rw [h, List.head?_nil]
  | single h =>
    rw [satisfying_stateless] at h
    rw [h, List.head?_cons]
  | several hes hfront _ =>
    rw [satisfying_stateless] at hfront
    rw [hes, List.filter_append, hfront, List.singleton_append, List.head?_cons]

theorem findTemplate_stateless (r : Registry H) (q : Entry H → Bool) (s : σ) :
    (r.findTemplate (fun e s => (q e, s)) s).1.1 = (r.toList.find? q).map Entry.template := by
  obtain ⟨asked, found, events, hsearch, hfind⟩ := exists_search r (fun e s => (q e, s)) s
  rw [findTemplate_eq, hfind, hsearch.found_eq_find?]

/-- A search goes through the entries method by method and in the order of registration. What it asks
about, finds and logs, and the state in which it leaves the predicate, are those of a search that ends
with the second entry that qualifies. A search for a template is the same search. -/
theorem findFirst_search {H σ : Type} (engine : Engine) (start : Start) (steps : List (Step H))
    (p : Entry H → σ → Bool × σ) (s : σ) :
    let r : Registry H := start.registry.perform engine steps
    let es := Method.all.flatMap fun m => (registered engine steps).filter fun e => e.method = m
    r.toList = es ∧ ∃ asked found events, Search p es s asked found events ∧
      (∀ event ∈ events, event.level = .warn) ∧
      r.findFirst p s = ((found, events), stateAfter p asked s) ∧
      r.findFirst (recording p) (s, []) = ((found, events), (stateAfter p asked s, asked)) ∧
      r.findTemplate p s = ((found.map Entry.template, events), stateAfter p asked s) ∧
      r.findTemplate (recording p) (s, []) =
        ((found.map Entry.template, events), (stateAfter p asked s, asked)) := by
  intro r es
  have hes : r.toList = es := toList_perform engine start steps
  obtain ⟨asked, found, events, hsearch, hfind⟩ := exists_search r (recording p) (s, [])
  rw [stateAfter_recording, List.nil_append] at hfind
  have hplain : r.findFirst p s = ((found, events), stateAfter p asked s) := by
    rw [findFirst_recording r p (s, []), hfind]
  refine ⟨hes, asked, found, events, hes ▸ hsearch.of_recording, ?_, hplain, hfind, ?_, ?_⟩
  · cases hsearch <;> simp [Event.level]
  · rw [findTemplate_eq, hplain]
  · rw [findTemplate_eq, hfind]

/-- A predicate that is satisfied by every other call: `GET` routes come first, so it is asked about `/a`,
then about `/c`, and `/b` is too late to be a second one. -/
example : (((Registry.empty.post .permissive "/b" 0).get .permissive "/a" 1).get .permissive
    "/c" 2).findTemplate
    (fun _ calls => (calls % 2 = 1, calls + 1)) 0 = ((some "/c", []), 3) := by
  decide +kernel

end Router.Registry
