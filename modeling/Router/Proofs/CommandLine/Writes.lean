import Router.CommandLine.Run

/-!
What the parts of a run give and print. An action is seen through its view, its result beside what it has
printed; what it logs is left out. One equation for each part of a run says what its view is: reading and
loading print nothing, whether they fail or not, so a command begins to print on a clean output.
-/

set_option autoImplicit false
set_option relaxedAutoImplicit false

namespace Router.CommandLine

def Options.apply (o : Options) (t : Table) : Table :=
  if o.strict then { t with config := Config.strict } else t

theorem routes_apply (o : Options) (t : Table) : (o.apply t).routes = t.routes := by
  rw [Options.apply]
  split <;> rfl

theorem config_apply (o : Options) (t : Table) :
    (o.apply t).config = ⟨!o.strict && t.config.ignoreTrailingSlashes⟩ := by
  rw [Options.apply]
  cases o.strict <;> rfl

namespace Action

variable {α β : Type}

def view (a : Action α) : Except Problem α × String :=
  (a.result, String.join (a.writes.filterMap Write.output?))

-- What the first action prints stands in front of what the second prints.
theorem view_bind {a : Action α} {x : α} {printed : String} (h : a.view = (.ok x, printed))
    (f : α → Action β) : (a >>= f).view = ((f x).view.1, printed ++ (f x).view.2) := by
  obtain ⟨hresult, rfl⟩ := Prod.mk.inj h
  show (a.bind f).view = _
  rw [Action.bind, hresult]
  simp only [view, List.filterMap_append, String.join_append]

theorem view_bind_error {a : Action α} {problem : Problem} {printed : String}
    (h : a.view = (.error problem, printed)) (f : α → Action β) :
    (a >>= f).view = (.error problem, printed) := by
  obtain ⟨hresult, rfl⟩ := Prod.mk.inj h
  show (a.bind f).view = _
  rw [Action.bind, hresult]
  rfl

theorem view_bind_quiet {a : Action α} {x : α} (h : a.view = (.ok x, "")) (f : α → Action β) :
    (a >>= f).view = (f x).view := by
  rw [view_bind h, String.empty_append]

theorem view_print (text : String) : (print text).view = (.ok (), text) := by
  simp [view, print, Write.output?]

theorem view_forM_print {ι : Type} (line : ι → String) (items : List ι) :
    (items.forM fun i => print (line i)).view = (.ok (), String.join (items.map line)) := by
  induction items with
  | nil => rfl
  | cons i items ih =>
    show (print (line i) >>= fun _ => items.forM fun i => print (line i)).view = _
    rw [view_bind (view_print (line i)), ih, List.map_cons, String.join_cons]

end Action

open Router.CommandLine.Action

section Parts

variable (engine : Engine) (o : Options)

theorem view_logEvent (e : Event) : (logEvent o e).view = (.ok (), "") := by
  rw [logEvent]
  split <;> rfl

theorem view_forM_logEvent (events : List Event) :
    (events.forM (logEvent o)).view = (.ok (), "") := by
  induction events with
  | nil => rfl
  | cons e events ih =>
    show (logEvent o e >>= fun _ => events.forM (logEvent o)).view = _
    rw [view_bind_quiet (view_logEvent o e), ih]

/-- The registry of the table of a file under the options, if there is such a table. -/
def loaded (file : String) (files : Files) : Except Problem (Registry String) :=
  match files file with
  | .error failure => .error (.reading file failure)
  | .ok text =>
    match Table.ofJson text with
    | .error error => .error (.parsing file error)
    | .ok t => .ok ((o.apply t).toRegistry engine)

theorem view_load (file : String) (files : Files) :
    (load engine o file files).view = (loaded engine o file files, "") := by
  rw [load, loaded]
  cases files file with
  | error failure => rfl
  | ok text =>
    refine (view_bind_quiet rfl _).trans ?_
    dsimp only
    cases Table.ofJson text with
    | error error => rfl
    | ok t =>
      refine (view_bind_quiet rfl _).trans ?_
      exact (view_bind_quiet (view_forM_logEvent o _) _).trans rfl

theorem view_answer_resolve (r : Registry String) (method : Method) (path : String) :
    (answer o r (.resolve method path)).view =
      (.ok (), (Json.Value.list ((r.candidates method path).map (candidateValue r path))).text ++ "\n") :=
  (view_bind_quiet (view_logEvent o _) _).trans (view_print _)

theorem view_answer_list (r : Registry String) :
    (answer o r .list).view = (.ok (), String.join (r.toList.map listLine)) :=
  view_forM_print listLine r.toList

theorem view_session (command : Command) (file : String) (files : Files) :
    (session engine o command file files).view =
      match loaded engine o file files with
      | .ok r => (answer o r command).view
      | .error problem => (.error problem, "") := by
  have hload := view_load engine o file files
  rw [session]
  cases hloaded : loaded engine o file files with
  | error problem => exact view_bind_error (hload.trans (by rw [hloaded])) _
  | ok r =>
    refine (view_bind_quiet (hload.trans (by rw [hloaded])) _).trans ?_
    exact view_bind_quiet (view_logEvent o _) _

theorem view_session_of_table {file text : String} {files : Files} {t : Table}
    (hfiles : files file = .ok text) (htable : Table.ofJson text = .ok t) (command : Command) :
    (session engine o command file files).view =
      (answer o ((o.apply t).toRegistry engine) command).view := by
  have hloaded : loaded engine o file files = .ok ((o.apply t).toRegistry engine) := by
    simp only [loaded, hfiles, htable]
  rw [view_session, hloaded]

end Parts

section Outcomes

variable {a : Action Unit} {printed : String}

-- The report of a problem goes to the log, so it is not part of the output.
theorem output_outcome (a : Action Unit) : a.outcome.output = a.view.2 := by
  rw [outcome, view]
  cases a.result with
  | ok _ => rfl
  | error problem =>
    have hreport : String.join ([Write.log problem.report].filterMap Write.output?) = "" := rfl
    rw [Outcome.output, List.filterMap_append, String.join_append, hreport, String.append_empty]

theorem outcome_of_ok (h : a.view = (.ok (), printed)) :
    a.outcome.code = 0 ∧ a.outcome.output = printed := by
  refine ⟨?_, by rw [output_outcome, h]⟩
  rw [outcome, (Prod.mk.inj h).1]

theorem outcome_of_error {problem : Problem} (h : a.view = (.error problem, printed)) :
    a.outcome.code = 1 ∧ a.outcome.output = printed := by
  refine ⟨?_, by rw [output_outcome, h]⟩
  rw [outcome, (Prod.mk.inj h).1]

end Outcomes

end Router.CommandLine
