import Router.Proofs.CommandLine.Arguments
import Router.Proofs.CommandLine.Writes
import Router.Proofs.Json.Spelling
import Router.Proofs.Table.Rows

/-!
The command that looks for the routes of a request. Its answer is a JSON text that reads back as one object
for each candidate, whatever characters stand in the names and values that were taken from the path.
-/

set_option autoImplicit false
set_option relaxedAutoImplicit false

namespace Router.CommandLine

open Router.Json (Value)

/-- The answer about a row that is a candidate for a path. The handler is the template if there is none. -/
def rowValue (engine : Engine) (path : String) (s : Table.Spec) : Value :=
  let route := Route.compile engine s.path
  .object [
    ("handler", .string (s.handler.getD s.path)),
    ("method", .string s.method.name),
    ("params", .object ((route.params Percent.decode path).entries.map fun p => (p.1, .string p.2))),
    ("path", .string s.path),
    ("splats", .list ((route.splats Percent.decode path).map .string))]

theorem candidateValue_entry {engine : Engine} {r : Registry String}
    (h : r.decoder = Percent.decode) (path : String) (s : Table.Spec) :
    candidateValue r path (s.entry engine) = rowValue engine path s := by
  rw [candidateValue, rowValue, Registry.params, Registry.splats, h]
  rfl

theorem spells_string (s : String) (depth level : Nat) :
    Json.Spells depth (.string s) ((Value.string s).write level) :=
  Json.spells_of_scalar (.string (Json.spellsString_writeString s)) depth

theorem spells_rowValue (engine : Engine) (path : String) (s : Table.Spec) (depth level : Nat) :
    Json.Spells (depth + 2) (rowValue engine path s) ((rowValue engine path s).write level) := by
  have hparams : ∀ params : List (String × String),
      Json.Spells (depth + 1) (.object (params.map fun p => (p.1, .string p.2)))
        ((Value.object (params.map fun p => (p.1, .string p.2))).write (level + 1)) := by
    intro params
    refine Json.spells_of_composite (Json.composite_write_object fun m hm => ?_)
    obtain ⟨p, -, rfl⟩ := List.mem_map.1 hm
    exact spells_string p.2 depth _
  have hsplats : ∀ splats : List String,
      Json.Spells (depth + 1) (.list (splats.map .string))
        ((Value.list (splats.map .string)).write (level + 1)) := by
    intro splats
    refine Json.spells_of_composite (Json.composite_write_list fun v hv => ?_)
    obtain ⟨splat, -, rfl⟩ := List.mem_map.1 hv
    exact spells_string splat depth _
  refine Json.spells_of_composite (Json.composite_write_object ?_)
  simp only [List.forall_mem_cons, List.not_mem_nil, false_imp_iff, implies_true, and_true]
  exact ⟨spells_string _ _ _, spells_string _ _ _, hparams _, spells_string _ _ _, hsplats _⟩

theorem readText_rowValues (engine : Engine) (path : String) (specs : List Table.Spec)
    (depth : Nat) :
    Json.readText (Json.value (depth + 3))
      ((Value.list (specs.map (rowValue engine path))).text ++ "\n") =
        .ok (.list (specs.map (rowValue engine path))) := by
  refine Json.readText_text (Json.spells_of_composite (Json.composite_write_list fun v hv => ?_))
  obtain ⟨s, -, rfl⟩ := List.mem_map.1 hv
  exact spells_rowValue engine path s depth 1

/-- Looking for the routes of a request succeeds on every table that is read. The output reads back as a
list with one object for each row of the method that accepts the path, in the order of the file. The switch
makes a slash at the end matter, whatever the table says. -/
theorem run_resolve (engine : Engine) {o : Options} {args : List String}
    {environment : Option String} {files : Files} {file text : String} {t : Table} {m : Method}
    {name path : String}
    (hargs : OptionArgs {} args o) (hfile : tableFile? o environment = some file)
    (hfiles : files file = .ok text) (htable : Table.ofJson text = .ok t)
    (hname : Method.sameName m.name name = true) (hpath : path.toList.head? ≠ some '-') :
    let outcome := run engine (args ++ ["match", name, path]) environment files
    let config : Config := ⟨!o.strict && t.config.ignoreTrailingSlashes⟩
    outcome.code = 0 ∧ ∀ depth, Json.readText (Json.value (depth + 3)) outcome.output =
      .ok (.list ((t.routes.filter fun s => s.method = m && s.accepts engine config path).map
        (rowValue engine path))) := by
  intro outcome config
  have hvalues : (((o.apply t).toRegistry engine).candidates m path).map
        (candidateValue ((o.apply t).toRegistry engine) path) =
      (t.routes.filter fun s => s.method = m && s.accepts engine config path).map
        (rowValue engine path) := by
    rw [Table.candidates_toRegistry, routes_apply, config_apply, List.map_map]
    exact List.map_congr_left fun s _ =>
      candidateValue_entry (Table.decoder_toRegistry engine (o.apply t)) path s
  have hrun : outcome = (session engine o (.resolve m path) file files).outcome := by
    show run _ _ _ _ = _
    rw [run, ofArguments_resolve hargs hname hpath]
    simp only [hfile]
  have hview := view_session_of_table engine o hfiles htable (.resolve m path)
  rw [view_answer_resolve, hvalues] at hview
  obtain ⟨hcode, houtput⟩ := outcome_of_ok hview
  rw [hrun]
  refine ⟨hcode, fun depth => ?_⟩
  rw [houtput]
  exact readText_rowValues engine path _ depth

/-- The row without a handler is the answer. The other row of the method fits the path, but ends in a slash.
A quotation mark and the end of a line come back from the path. -/
theorem run_resolve_quote :
    let text := "\x7b\"routes\": [\x7b\"method\": \"GET\", \"path\": \"/a/:x/\", \"handler\": \"h\"\x7d," ++
      "\x7b\"method\": \"get\", \"path\": \"/a/:X\"\x7d]\x7d"
    let files : Files := fun _ => .ok text
    let outcome := run .permissive
      ["--strict-trailing-slashes", "-r", "t.json", "match", "gEt", "/a/%22%0A"] none files
    outcome.code = 0 ∧ Template.fits "/a/:x/" "/a/%22%0A" = true ∧
      Json.readText (Json.value 3) outcome.output =
        .ok (.list [.object [
          ("handler", .string "/a/:X"),
          ("method", .string "GET"),
          ("params", .object [("x", .string "\"\n")]),
          ("path", .string "/a/:X"),
          ("splats", .list [])]]) := by
  intro text files outcome
  have hargs : OptionArgs {} ["--strict-trailing-slashes", "-r", "t.json"]
      ⟨some "t.json", true, false⟩ :=
    .strict rfl (.file rfl (by decide) (.short (by decide)) (.none _))
  have htable : Table.ofJson text =
      .ok ⟨{}, [⟨.get, "/a/:x/", some "h"⟩, ⟨.get, "/a/:X", none⟩]⟩ := by
    subst text
    rfl
  have hname : Method.sameName Method.get.name "gEt" = true := by decide
  have hpath : "/a/%22%0A".toList.head? ≠ some '-' := by decide
  have hfile : tableFile? ⟨some "t.json", true, false⟩ none = some "t.json" := rfl
  have hfiles : files "t.json" = .ok text := rfl
  obtain ⟨hcode, hread⟩ := run_resolve .permissive hargs hfile hfiles htable hname hpath
  have hrows : [⟨.get, "/a/:x/", some "h"⟩, ⟨.get, "/a/:X", none⟩].filter (fun s : Table.Spec =>
      s.method = .get && s.accepts .permissive ⟨!true && true⟩ "/a/%22%0A") =
        [⟨.get, "/a/:X", none⟩] := by
    decide +kernel
  have hparams : ((Route.compile .permissive "/a/:X").params Percent.decode "/a/%22%0A").entries =
      [("x", "\"\n")] := by decide +kernel
  have hsplats : (Route.compile .permissive "/a/:X").splats Percent.decode "/a/%22%0A" = [] := by
    decide +kernel
  refine ⟨hcode, by decide +kernel, (hread 0).trans ?_⟩
  dsimp only
  rw [hrows, List.map_singleton, rowValue, hparams, hsplats]
  rfl

end Router.CommandLine
