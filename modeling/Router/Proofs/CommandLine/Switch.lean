import Router.Proofs.CommandLine.Arguments

/-!
The switch for slashes that matter. Wherever an option may stand, the switch may be added to arguments that
do not have it: they ask for the same command, under the same options and the switch. `Beside` says this
of one argument, `readFrom_switched` of all that stand behind the switch.
-/

set_option autoImplicit false
set_option relaxedAutoImplicit false

namespace Router.CommandLine

def Options.switched (o : Options) : Options := { o with strict := true }

@[simp] theorem Options.switched_file (o : Options) : o.switched.file = o.file := rfl

@[simp] theorem Options.switched_verbose (o : Options) : o.switched.verbose = o.verbose := rfl

/-- A request that is answered without a table. -/
def Request.IsAnswered (request : Request) : Prop := ∀ o command, request ≠ .run o command

theorem isAnswered_misuse : Request.misuse.IsAnswered := fun _ _ => Request.noConfusion

theorem isAnswered_help : Request.help.IsAnswered := fun _ _ => Request.noConfusion

theorem isAnswered_version : Request.version.IsAnswered := fun _ _ => Request.noConfusion

theorem isAnswered_of_positionals {admits : Nat → String → Bool} {position : Nat} {ended : Bool}
    {args : List String} {request : Request}
    (h : positionals admits position ended args = .error request) : request.IsAnswered := by
  fun_induction positionals admits position ended args with
  | case1 => cases h
  | case2 position ended arg rest hend ih => exact ih h
  | case3 position ended arg rest hend hlooks =>
    obtain rfl := Except.error.inj h
    split
    · exact isAnswered_help
    · exact isAnswered_misuse
  | case4 position ended arg rest hend hlooks hadmits ih =>
    cases hrest : positionals admits (position + 1) ended rest with
    | error r =>
      rw [hrest] at h
      obtain rfl := Except.error.inj h
      exact ih hrest
    | ok texts =>
      rw [hrest] at h
      cases h
  | case5 =>
    obtain rfl := Except.error.inj h
    exact isAnswered_misuse

theorem isAnswered_readHelp (args : List String) : (readHelp args).IsAnswered := by
  fun_cases readHelp args with
  | case1 | case2 => exact isAnswered_help
  | case3 | case4 => exact isAnswered_misuse

/-- An option other than the switch, set without the switch and behind it: both times it is refused, or both
times it is set. -/
inductive SetsBoth (strict : Bool) : Except Request Options → Except Request Options → Prop
  | refused : SetsBoth strict (.error .misuse) (.error .misuse)
  | set (next : Options) (h : next.strict = strict) :
      SetsBoth strict (.ok next) (.ok next.switched)

theorem setsBoth_withFile (o : Options) (file : String) :
    SetsBoth o.strict (o.withFile file) (o.switched.withFile file) := by
  rw [Options.withFile, Options.withFile, Options.switched_file]
  split
  · exact .refused
  · exact .set _ rfl

theorem setsBoth_withVerbose (o : Options) :
    SetsBoth o.strict o.withVerbose o.switched.withVerbose := by
  rw [Options.withVerbose, Options.withVerbose, Options.switched_verbose]
  split
  · exact .refused
  · exact .set _ rfl

theorem SetsBoth.of_ok {strict : Bool} {next : Options} {behind : Except Request Options}
    (h : SetsBoth strict (.ok next) behind) : next.strict = strict ∧ behind = .ok next.switched := by
  cases h with
  | set _ h => exact ⟨h, rfl⟩

theorem SetsBoth.of_error {strict : Bool} {request : Request} {behind : Except Request Options}
    (h : SetsBoth strict (.error request) behind) : request = .misuse := by
  cases h
  rfl

/-- The effect of an argument without the switch, beside its effect behind the switch. What goes on without
the switch goes on behind it with one option more, and what ends runs no command. -/
def Effect.Beside (effect : Effect) (strict : Bool) (behind : Effect) : Prop :=
  match effect with
  | go next => next.strict = false → strict = false ∧ behind = .go next.switched
  | fileNext next => next.strict = false → strict = false ∧ behind = .fileNext next.switched
  | stop request => request.IsAnswered

theorem beside_misuse (strict : Bool) (behind : Effect) :
    (Effect.stop .misuse).Beside strict behind := isAnswered_misuse

theorem beside_ofOptions {strict : Bool} {setting behind : Except Request Options}
    (h : SetsBoth strict setting behind) :
    (Effect.ofOptions setting).Beside strict (.ofOptions behind) := by
  cases h with
  | refused => exact beside_misuse strict _
  | set next h => exact fun hnext => ⟨h ▸ hnext, rfl⟩

theorem beside_letters (o : Options) (cs : List Char) :
    (letters o cs).Beside o.strict (letters o.switched cs) := by
  fun_induction letters o cs with
  | case1 o => exact fun h => ⟨h, rfl⟩
  | case2 | case10 => exact beside_misuse _ _
  | case3 o hfile => exact fun h => ⟨h, if_neg hfile⟩
  | case4 o value => exact beside_ofOptions (setsBoth_withFile o _)
  | case5 o value hnil hequals =>
    rw [letters]
    · exact beside_ofOptions (setsBoth_withFile o _)
    · exact hnil
    · exact hequals
  | case6 o rest next hverbose ih =>
    obtain ⟨hstrict, hbehind⟩ := (hverbose ▸ setsBoth_withVerbose o).of_ok
    rw [letters, hbehind]
    exact hstrict ▸ ih
  | case7 o rest request hverbose =>
    obtain rfl := (hverbose ▸ setsBoth_withVerbose o).of_error
    exact beside_misuse _ _
  | case8 => exact isAnswered_version
  | case9 => exact isAnswered_help

theorem beside_longOption (o : Options) (name : List Char) :
    (longOption o name).Beside o.strict (longOption o.switched name) := by
  fun_cases longOption o name with
  | case1 | case8 => exact beside_misuse _ _
  | case2 hroutes hfile =>
    refine fun h => ⟨h, ?_⟩
    rw [longOption, if_pos hroutes, Options.switched_file, if_neg hfile]
  | case3 mark hroutes hmark =>
    rw [longOption, if_neg hroutes, if_pos hmark]
    exact beside_ofOptions (setsBoth_withFile o _)
  | case4 mark hroutes hmark hswitch =>
    rw [Options.withStrict]
    split
    · exact beside_misuse _ _
    · exact fun h => Bool.noConfusion h
  | case5 mark hroutes hmark hswitch hverbose =>
    rw [longOption, if_neg hroutes, if_neg hmark, if_neg hswitch, if_pos hverbose]
    exact beside_ofOptions (setsBoth_withVerbose o)
  | case6 => exact isAnswered_version
  | case7 => exact isAnswered_help

theorem beside_optionEffect (o : Options) (arg : String) :
    (optionEffect o arg).Beside o.strict (optionEffect o.switched arg) := by
  rw [optionEffect, optionEffect]
  split
  · exact beside_longOption o _
  · exact beside_letters o _
  · exact beside_misuse _ _

section Commands

variable {o o' : Options} {args : List String} {command : Command}

theorem readResolve_run (h : readResolve o args = .run o' command) (other : Options) :
    o' = o ∧ readResolve other args = .run other command := by
  rw [readResolve] at h ⊢
  split at h
  · rename_i heq
    exact absurd h (isAnswered_of_positionals heq _ _)
  · split at h
    · obtain ⟨rfl, rfl⟩ := Request.run.inj h
      exact ⟨rfl, rfl⟩
    · cases h
  · cases h

theorem readWhich_run (h : readWhich o args = .run o' command) (other : Options) :
    o' = o ∧ readWhich other args = .run other command := by
  rw [readWhich] at h ⊢
  split at h
  · rename_i heq
    exact absurd h (isAnswered_of_positionals heq _ _)
  · obtain ⟨rfl, rfl⟩ := Request.run.inj h
    exact ⟨rfl, rfl⟩
  · cases h

theorem readList_run (h : readList o args = .run o' command) (other : Options) :
    o' = o ∧ readList other args = .run other command := by
  rw [readList] at h ⊢
  split at h
  · rename_i heq
    exact absurd h (isAnswered_of_positionals heq _ _)
  · obtain ⟨rfl, rfl⟩ := Request.run.inj h
    exact ⟨rfl, rfl⟩

theorem read_run {name : String} {read : Options → List String → Request}
    (hread : readCommand? name = some read) (h : read o args = .run o' command) (other : Options) :
    o' = o ∧ read other args = .run other command := by
  revert hread
  fun_cases readCommand? name with
  | case1 =>
    rintro ⟨⟩
    exact readResolve_run h other
  | case2 =>
    rintro ⟨⟩
    exact readWhich_run h other
  | case3 =>
    rintro ⟨⟩
    exact readList_run h other
  | case4 =>
    rintro ⟨⟩
    exact absurd h (isAnswered_readHelp args _ _)
  | case5 => rintro ⟨⟩

/-- Arguments that ask for a command without the switch ask for it behind the switch, under the same options
and the switch. -/
theorem readFrom_switched (h : readFrom o args = .run o' command) (hstrict : o'.strict = false) :
    o.strict = false ∧ readFrom o.switched args = .run o'.switched command := by
  -- The options grow from argument to argument, so `hstrict` says of all of them that they lack the switch.
  fun_induction readFrom o args with
  | case2 o arg rest read hread =>
    obtain ⟨rfl, hbehind⟩ := read_run hread h o.switched
    refine ⟨hstrict, ?_⟩
    rw [readFrom, hread]
    exact hbehind
  | case3 o arg rest hread request heffect =>
    have hbeside : (Effect.stop request).Beside _ _ := heffect ▸ beside_optionEffect o arg
    exact absurd h (hbeside _ _)
  | case4 o arg rest hread next heffect ih =>
    have hbeside : (Effect.go next).Beside _ _ := heffect ▸ beside_optionEffect o arg
    obtain ⟨hnext, hrest⟩ := ih h
    obtain ⟨ho, hbehind⟩ := hbeside hnext
    refine ⟨ho, ?_⟩
    rw [readFrom, hread]
    simp only [hbehind, hrest]
  | case7 o arg hread next heffect file rest hlooks withFile hfile ih =>
    have hbeside : (Effect.fileNext next).Beside _ _ := heffect ▸ beside_optionEffect o arg
    obtain ⟨hwith, hrest⟩ := ih h
    obtain ⟨hsame, hset⟩ := (hfile ▸ setsBoth_withFile next file).of_ok
    obtain ⟨ho, hbehind⟩ := hbeside (hsame ▸ hwith)
    refine ⟨ho, ?_⟩
    rw [readFrom, hread]
    simp only [hbehind, hset, hrest, if_neg hlooks]
  | case8 o arg hread next heffect file rest hlooks request hfile =>
    obtain rfl := (hfile ▸ setsBoth_withFile next file).of_error
    cases h
  | _ => cases h

theorem ofArguments_switch {front back : List String} (hfront : Leave front o)
    (h : Request.ofArguments (front ++ back) = .run o' command) (hstrict : o'.strict = false) :
    Request.ofArguments (front ++ "--strict-trailing-slashes" :: back) =
      .run o'.switched command := by
  rw [hfront] at h ⊢
  obtain ⟨ho, hback⟩ := readFrom_switched h hstrict
  have heffect : optionEffect o "--strict-trailing-slashes" = .go o.switched := by
    simp [optionEffect, longOption, Options.withStrict, ho, Effect.ofOptions, Options.switched]
  rw [readFrom_of_go (by decide) heffect, hback]

end Commands

end Router.CommandLine
