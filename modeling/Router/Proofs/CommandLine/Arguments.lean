import Router.CommandLine.Arguments

/-!
Arguments that are understood. In front of a command stand the table file, in any of five forms, and the
two switches, each at most once; they lead to the options that they name. Behind the command that looks
for the routes of a request stand a method name in any letter case and a path.
-/

set_option autoImplicit false
set_option relaxedAutoImplicit false

namespace Router.CommandLine

/-- The arguments name the table file. -/
inductive FileArgs (file : String) : List String → Prop
  | long (h : looksLikeOption file = false) : FileArgs file ["--routes", file]
  | longAttached : FileArgs file ["--routes=" ++ file]
  | short (h : looksLikeOption file = false) : FileArgs file ["-r", file]
  | shortAttached (h : file.toList.head? ≠ some '=') : FileArgs file ["-r" ++ file]
  | shortEquals : FileArgs file ["-r=" ++ file]

/-- The arguments lead from the first options to the last. -/
inductive OptionArgs : Options → List String → Options → Prop
  | none (o : Options) : OptionArgs o [] o
  | strict {o o' : Options} {args : List String} (h : o.strict = false)
      (hargs : OptionArgs { o with strict := true } args o') :
      OptionArgs o ("--strict-trailing-slashes" :: args) o'
  | verbose {o o' : Options} {args : List String} {word : String} (h : o.verbose = false)
      (hword : word = "-v" ∨ word = "--verbose")
      (hargs : OptionArgs { o with verbose := true } args o') : OptionArgs o (word :: args) o'
  | file {o o' : Options} {args words : List String} {file : String} (h : o.file = .none)
      (hfile : file ≠ "") (hwords : FileArgs file words)
      (hargs : OptionArgs { o with file := some file } args o') : OptionArgs o (words ++ args) o'

theorem readCommand?_of_dash {arg : String} (h : arg.toList.head? = some '-') :
    readCommand? arg = none := by
  have hne : ∀ name : String, name.toList.head? ≠ some '-' → arg ≠ name := by
    rintro name hname rfl
    exact hname h
  rw [readCommand?, if_neg (hne _ (by decide)), if_neg (hne _ (by decide)),
    if_neg (hne _ (by decide)), if_neg (hne _ (by decide))]

theorem readFrom_of_go {o o' : Options} {arg : String} (harg : arg.toList.head? = some '-')
    (h : optionEffect o arg = .go o') (rest : List String) :
    readFrom o (arg :: rest) = readFrom o' rest := by
  rw [readFrom, readCommand?_of_dash harg]
  simp only [h]

theorem readFrom_of_fileNext {o : Options} {arg file : String} (harg : arg.toList.head? = some '-')
    (h : optionEffect o arg = .fileNext o) (hfile : looksLikeOption file = false)
    (rest : List String) :
    readFrom o (arg :: file :: rest) =
      match o.withFile file with
      | .ok o => readFrom o rest
      | .error r => r := by
  rw [readFrom, readCommand?_of_dash harg]
  simp only [h, hfile]
  rfl

theorem withFile_of_ne {o : Options} {file : String} (h : o.file = none) (hfile : file ≠ "") :
    o.withFile file = .ok { o with file := some file } := by
  have hempty : file.isEmpty = false := by simpa using hfile
  simp [Options.withFile, h, hempty]

theorem readFrom_of_fileArgs {o : Options} {file : String} {words : List String}
    (h : o.file = none) (hfile : file ≠ "") (hwords : FileArgs file words) (rest : List String) :
    readFrom o (words ++ rest) = readFrom { o with file := some file } rest := by
  have hwith := withFile_of_ne h hfile
  cases hwords with
  | long hlooks =>
    have heffect : optionEffect o "--routes" = .fileNext o := by
      simp [optionEffect, longOption, h]
    rw [List.cons_append, List.singleton_append,
      readFrom_of_fileNext (by decide) heffect hlooks, hwith]
  | longAttached =>
    refine readFrom_of_go (by simp) ?_ rest
    simp [optionEffect, longOption, hwith, Effect.ofOptions]
  | short hlooks =>
    have heffect : optionEffect o "-r" = .fileNext o := by
      simp [optionEffect, letters, h]
    rw [List.cons_append, List.singleton_append,
      readFrom_of_fileNext (by decide) heffect hlooks, hwith]
  | shortAttached hhead =>
    obtain ⟨c, cs, htext⟩ : ∃ c cs, file.toList = c :: cs :=
      List.exists_cons_of_ne_nil (by simpa using hfile)
    have hc : c ≠ '=' := by simpa [htext] using hhead
    have hname : String.ofList (c :: cs) = file := by rw [← htext, String.ofList_toList]
    refine readFrom_of_go (by simp) ?_ rest
    simp [optionEffect, letters, htext, hc, hname, hwith, Effect.ofOptions]
  | shortEquals =>
    refine readFrom_of_go (by simp) ?_ rest
    simp [optionEffect, letters, hwith, Effect.ofOptions]

theorem readFrom_of_optionArgs {o o' : Options} {args : List String} (h : OptionArgs o args o')
    (rest : List String) : readFrom o (args ++ rest) = readFrom o' rest := by
  induction h with
  | none o => rfl
  | @strict o o' args h _ ih =>
    have heffect : optionEffect o "--strict-trailing-slashes" = .go { o with strict := true } := by
      simp [optionEffect, longOption, Options.withStrict, h, Effect.ofOptions]
    rw [List.cons_append, readFrom_of_go (by decide) heffect, ih]
  | @verbose o o' args word h hword _ ih =>
    have heffect : optionEffect o word = .go { o with verbose := true } := by
      rcases hword with rfl | rfl
      · simp [optionEffect, letters, Options.withVerbose, h]
      · simp [optionEffect, longOption, Options.withVerbose, h, Effect.ofOptions]
    have hdash : word.toList.head? = some '-' := by rcases hword with rfl | rfl <;> decide
    rw [List.cons_append, readFrom_of_go hdash heffect, ih]
  | file h hfile hwords _ ih =>
    rw [List.append_assoc, readFrom_of_fileArgs h hfile hwords, ih]

/-- Reading passes over the arguments, which leave these options. -/
def Leave (args : List String) (o : Options) : Prop :=
  ∀ rest, Request.ofArguments (args ++ rest) = readFrom o rest

theorem OptionArgs.leave {args : List String} {o : Options} (h : OptionArgs {} args o) :
    Leave args o := readFrom_of_optionArgs h

theorem looksLikeOption_of_head? {arg : String} (h : arg.toList.head? ≠ some '-') :
    looksLikeOption arg = false := by
  rw [looksLikeOption]
  split
  · rename_i heq
    exact absurd (congrArg List.head? heq) h
  · rfl

theorem head?_ne_dash_of_sameName {m : Method} {name : String}
    (h : Method.sameName m.name name = true) : name.toList.head? ≠ some '-' := by
  intro hhead
  have hlower : m.name.toList.map Char.toLower = name.toList.map Char.toLower := by
    simpa [Method.sameName] using h
  have hfirst : (m.name.toList.map Char.toLower).head? = some '-' := by
    rw [hlower, List.head?_map, hhead]
    rfl
  revert hfirst
  cases m <;> decide

theorem positionals_cons {admits : Nat → String → Bool} {position : Nat} {arg : String}
    (hdash : arg.toList.head? ≠ some '-') (hadmits : admits position arg = true)
    (rest : List String) : positionals admits position false (arg :: rest) =
      (positionals admits (position + 1) false rest).map (arg :: ·) := by
  have hend : arg ≠ "--" := by
    rintro rfl
    exact hdash (by decide)
  simp [positionals, hend, looksLikeOption_of_head? hdash, hadmits]

theorem readResolve_eq {m : Method} {name path : String} (hname : Method.sameName m.name name = true)
    (hpath : path.toList.head? ≠ some '-') (o : Options) :
    readResolve o [name, path] = .run o (.resolve m path) := by
  have hmethod := Method.ofName?_of_sameName hname
  rw [readResolve, positionals_cons (head?_ne_dash_of_sameName hname) (by simp [hmethod]),
    positionals_cons hpath rfl]
  simp [positionals, Except.map, hmethod]

theorem ofArguments_resolve {o : Options} {args : List String} {m : Method} {name path : String}
    (hargs : OptionArgs {} args o) (hname : Method.sameName m.name name = true)
    (hpath : path.toList.head? ≠ some '-') :
    Request.ofArguments (args ++ ["match", name, path]) = .run o (.resolve m path) := by
  rw [Request.ofArguments, readFrom_of_optionArgs hargs]
  exact readResolve_eq hname hpath o

theorem readWhich_eq {label : String} (hlabel : label.toList.head? ≠ some '-') (o : Options) :
    readWhich o [label] = .run o (.which label) := by
  rw [readWhich, positionals_cons hlabel rfl]
  rfl

theorem ofArguments_which {o : Options} {args : List String} {label : String} (hargs : Leave args o)
    (hlabel : label.toList.head? ≠ some '-') :
    Request.ofArguments (args ++ ["which", label]) = .run o (.which label) := by
  rw [hargs]
  exact readWhich_eq hlabel o

end Router.CommandLine
