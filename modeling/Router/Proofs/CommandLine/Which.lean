import Router.Proofs.CommandLine.Resolve
import Router.Proofs.CommandLine.Switch
import Router.Proofs.Registry.Search

/-!
The commands that look for a label and list all routes, and runs that fail. A run that fails has printed
nothing: a command fails before it prints. The template of a label is that of the first row that has the
label, method by method; neither it nor the list depends on whether slashes matter.
-/

set_option autoImplicit false
set_option relaxedAutoImplicit false

namespace Router.CommandLine

theorem view_answer_which (o : Options) (r : Registry String) (label : String) :
    (answer o r (.which label)).view =
      match r.toList.find? fun e => e.handler == label with
      | some e => (.ok (), e.template ++ "\n")
      | none => (.error (.noHandler label), "") := by
  have htemplate := Registry.findTemplate_stateless r (fun e => e.handler == label) ()
  rw [answer]
  generalize r.findTemplate (fun e s => (e.handler == label, s)) () = found at htemplate ⊢
  obtain ⟨⟨template, events⟩, _⟩ := found
  obtain rfl : template = _ := htemplate
  refine (Action.view_bind_quiet (view_forM_logEvent o events) _).trans ?_
  cases r.toList.find? fun e => e.handler == label with
  | some e => exact Action.view_print _
  | none => rfl

-- Looking for the routes of a request and the list never fail, and the third command fails in place of
-- its one line.
theorem printed_of_answer_eq_error {o : Options} {r : Registry String} {command : Command}
    {problem : Problem} {printed : String} (h : (answer o r command).view = (.error problem, printed)) :
    printed = "" := by
  cases command with
  | resolve method path =>
    rw [view_answer_resolve] at h
    cases h
  | list =>
    rw [view_answer_list] at h
    cases h
  | which label =>
    rw [view_answer_which] at h
    cases hfind : r.toList.find? fun e => e.handler == label with
    | some e => rw [hfind] at h; cases h
    | none => rw [hfind] at h; exact (Prod.mk.inj h).2.symm

theorem printed_of_session_eq_error {engine : Engine} {o : Options} {command : Command}
    {file : String} {files : Files} {problem : Problem} {printed : String}
    (h : (session engine o command file files).view = (.error problem, printed)) : printed = "" := by
  rw [view_session] at h
  split at h
  · exact printed_of_answer_eq_error h
  · exact (Prod.mk.inj h).2.symm

theorem run_silent {engine : Engine} {args : List String} {environment : Option String}
    {files : Files} (h : (run engine args environment files).code ≠ 0) :
    (run engine args environment files).output = "" := by
  rw [run] at h ⊢
  cases hrequest : Request.ofArguments args with
  | version | help =>
    simp only [hrequest] at h
    exact absurd rfl h
  | misuse => rfl
  | run o command =>
    simp only [hrequest] at h ⊢
    cases hfile : tableFile? o environment with
    | none => rfl
    | some file =>
      simp only [hfile] at h ⊢
      generalize hview : (session engine o command file files).view = view at *
      obtain ⟨result, printed⟩ := view
      cases result with
      | ok _ => exact absurd (outcome_of_ok hview).1 h
      | error problem =>
        rw [(outcome_of_error hview).2, printed_of_session_eq_error hview]

theorem view_answer_congr {o o' : Options} {r r' : Registry String} {command : Command}
    (h : r.toList = r'.toList) (hcommand : command = .list ∨ ∃ label, command = .which label) :
    (answer o r command).view = (answer o' r' command).view := by
  rcases hcommand with rfl | ⟨label, rfl⟩
  · rw [view_answer_list, view_answer_list, h]
  · rw [view_answer_which, view_answer_which, h]

theorem toList_apply (engine : Engine) (o : Options) (t : Table) :
    ((o.apply t).toRegistry engine).toList = t.byMethod.map (Table.Spec.entry engine) := by
  rw [Table.toList_toRegistry, Table.byMethod, routes_apply]
  rfl

theorem outcome_eq_of_view_eq {a b : Action Unit} (h : a.view = b.view) :
    a.outcome.code = b.outcome.code ∧ a.outcome.output = b.outcome.output := by
  refine ⟨?_, by rw [output_outcome, output_outcome, h]⟩
  rw [Action.outcome, Action.outcome, (Prod.mk.inj h).1]
  cases b.result <;> rfl

theorem view_session_switched (engine : Engine) (o : Options) {command : Command}
    (hcommand : command = .list ∨ ∃ label, command = .which label) (file : String) (files : Files) :
    (session engine o.switched command file files).view =
      (session engine o command file files).view := by
  rw [view_session, view_session, loaded, loaded]
  cases files file with
  | error failure => rfl
  | ok text =>
    dsimp only
    cases Table.ofJson text with
    | error error => rfl
    | ok t =>
      have hentries : ((o.switched.apply t).toRegistry engine).toList =
          ((o.apply t).toRegistry engine).toList := by
        rw [toList_apply, toList_apply]
      exact view_answer_congr hentries hcommand

section Runs

variable {engine : Engine} {environment : Option String} {files : Files} {o o' : Options}
  {command : Command}

theorem run_of_ofArguments {args : List String} (h : Request.ofArguments args = .run o command) :
    run engine args environment files =
      match tableFile? o environment with
      | none => ⟨2, [.log usage]⟩
      | some file => (session engine o command file files).outcome := by
  cases hfile : tableFile? o environment with
  | none => simp only [run, h, hfile]
  | some file => simp only [run, h, hfile]

theorem run_which {args : List String} {file text label : String} {t : Table} (hargs : Leave args o)
    (hfile : tableFile? o environment = some file) (hfiles : files file = .ok text)
    (htable : Table.ofJson text = .ok t) (hlabel : label.toList.head? ≠ some '-') :
    let outcome := run engine (args ++ ["which", label]) environment files
    match t.byMethod.find? fun s => s.handler.getD s.path = label with
    | some s => outcome.code = 0 ∧ outcome.output = s.path ++ "\n"
    | none => outcome.code = 1 := by
  intro outcome
  have hrun : outcome = (session engine o (.which label) file files).outcome := by
    show run _ _ _ _ = _
    rw [run_of_ofArguments (ofArguments_which hargs hlabel), hfile]
  have hfind : ((o.apply t).toRegistry engine).toList.find? (fun e => e.handler == label) =
      (t.byMethod.find? fun s => s.handler.getD s.path = label).map (Table.Spec.entry engine) := by
    rw [toList_apply, List.find?_map]
    rfl
  have hview := view_session_of_table engine o hfiles htable (.which label)
  rw [view_answer_which, hfind] at hview
  rw [hrun]
  cases hrow : t.byMethod.find? fun s => s.handler.getD s.path = label with
  | some s =>
    rw [hrow] at hview
    exact outcome_of_ok hview
  | none =>
    rw [hrow] at hview
    exact (outcome_of_error hview).1

theorem run_switched {front back : List String} (hfront : Leave front o)
    (h : Request.ofArguments (front ++ back) = .run o' command) (hstrict : o'.strict = false)
    (hcommand : command = .list ∨ ∃ label, command = .which label) :
    (run engine (front ++ "--strict-trailing-slashes" :: back) environment files).code =
        (run engine (front ++ back) environment files).code ∧
      (run engine (front ++ "--strict-trailing-slashes" :: back) environment files).output =
        (run engine (front ++ back) environment files).output := by
  have hfile : tableFile? o'.switched environment = tableFile? o' environment := rfl
  rw [run_of_ofArguments (ofArguments_switch hfront h hstrict), run_of_ofArguments h, hfile]
  cases tableFile? o' environment with
  | none => exact ⟨rfl, rfl⟩
  | some file => exact outcome_eq_of_view_eq (view_session_switched engine o' hcommand file files)

end Runs

/-- A run that fails has written nothing to the standard output. The command that looks for a label succeeds
on every table that has the label, the handler of a row or else its template, and shows the template of the
first row that has it, method by method; without such a row it fails. Slashes that matter change nothing
about this, nor about the list. -/
theorem run_which_first (engine : Engine) (environment : Option String) (files : Files) :
    (∀ args, (run engine args environment files).code ≠ 0 →
      (run engine args environment files).output = "") ∧
    (∀ (args : List String) (o : Options) (file text label : String) (t : Table),
      Leave args o → tableFile? o environment = some file → files file = .ok text →
      Table.ofJson text = .ok t → label.toList.head? ≠ some '-' →
      let outcome := run engine (args ++ ["which", label]) environment files
      match t.byMethod.find? fun s => s.handler.getD s.path = label with
      | some s => outcome.code = 0 ∧ outcome.output = s.path ++ "\n"
      | none => outcome.code = 1) ∧
    ∀ (front back : List String) (o o' : Options) (command : Command), Leave front o →
      Request.ofArguments (front ++ back) = .run o' command → o'.strict = false →
      (command = .list ∨ ∃ label, command = .which label) →
      let without := run engine (front ++ back) environment files
      let switched := run engine (front ++ "--strict-trailing-slashes" :: back) environment files
      switched.code = without.code ∧ switched.output = without.output :=
  ⟨fun _ h => run_silent h,
    fun _ _ _ _ _ _ hargs hfile hfiles htable hlabel => run_which hargs hfile hfiles htable hlabel,
    fun _ _ _ _ _ hfront h hstrict hcommand => run_switched hfront h hstrict hcommand⟩

/-- Both rows have the label `h`, the second by its template, since it has no handler. It is found, since `GET`
comes before `POST`; `/a` is the template of a row but the label of none. -/
theorem run_which_first_get_before_post :
    let text := "\x7b\"routes\": [\x7b\"method\": \"POST\", \"path\": \"/a\", \"handler\": \"h\"\x7d," ++
      "\x7b\"method\": \"get\", \"path\": \"h\"\x7d]\x7d"
    let files : Files := fun _ => .ok text
    let found := run .permissive ["-v", "-r", "t.json", "which", "h"] none files
    let missing := run .permissive ["-v", "-r", "t.json", "which", "/a"] none files
    let list := run .permissive ["-v", "list"] none files
    let strictList := run .permissive ["-v", "--strict-trailing-slashes", "list"] none files
    (found.code = 0 ∧ found.output = "h\n") ∧ (missing.code = 1 ∧ missing.output = "") ∧
      strictList.code = list.code ∧ strictList.output = list.output := by
  intro text files found missing list strictList
  have hargs : Leave ["-v", "-r", "t.json"] ⟨some "t.json", false, true⟩ :=
    OptionArgs.leave (.verbose rfl (.inl rfl) (.file rfl (by decide) (.short (by decide)) (.none _)))
  have hverbose : Leave ["-v"] ⟨none, false, true⟩ :=
    OptionArgs.leave (.verbose rfl (.inl rfl) (.none _))
  have hfile : tableFile? ⟨some "t.json", false, true⟩ none = some "t.json" := rfl
  have hfiles : files "t.json" = .ok text := rfl
  have htable : Table.ofJson text = .ok ⟨{}, [⟨.post, "/a", some "h"⟩, ⟨.get, "h", none⟩]⟩ := by
    subst text
    rfl
  have hlist : Request.ofArguments (["-v"] ++ ["list"]) = .run ⟨none, false, true⟩ .list := by
    rw [hverbose]
    rfl
  obtain ⟨hsilent, hwhich, hswitch⟩ := run_which_first .permissive none files
  have hmissing : missing.code = 1 := hwhich _ _ _ _ "/a" _ hargs hfile hfiles htable (by decide)
  refine ⟨hwhich _ _ _ _ "h" _ hargs hfile hfiles htable (by decide), ⟨hmissing, ?_⟩, ?_⟩
  · exact hsilent _ (by rw [hmissing]; decide)
  · exact hswitch ["-v"] ["list"] _ _ _ hverbose hlist rfl (.inl rfl)

end Router.CommandLine
