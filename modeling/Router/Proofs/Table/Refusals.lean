import Router.Proofs.Json.TreeExtent
import Router.Proofs.Table.Spelling

/-!
Which objects are no tables. A row or a table with a defect is refused as a whole, wherever the defect
stands and whatever else is there: a reader that came to the end of an object has seen each of its members,
so none of them is a defect.
-/

set_option autoImplicit false
set_option relaxedAutoImplicit false

namespace Router.Table

open Router.Json

def timesOf (key : String) (ms : List (List Nat × Tree)) : Nat :=
  ms.countP fun m => m.1 = units key

def rowKeys : List String := ["method", "path", "handler"]

def tableKeys : List String := ["routes", slashKey]

/-- The members are no row: a known key stands there twice, the method or the path does not, or a string
that stands for a method is the name of none. -/
inductive BadRow (ms : List (List Nat × Tree)) : Prop
  | twice (key : String) (hkey : key ∈ rowKeys) (h : 2 ≤ timesOf key ms)
  | lacks (key : String) (hkey : key ∈ ["method", "path"]) (h : timesOf key ms = 0)
  | noMethod (name : List Nat) (hmem : (units "method", .string name) ∈ ms)
      (h : ∀ (m : Method) (s : String), Method.sameName m.name s = true → units s ≠ name)

/-- The members are no table: a known key stands there twice, or one of the rows is an object that is no
row. -/
inductive BadTable (ms : List (List Nat × Tree)) : Prop
  | twice (key : String) (hkey : key ∈ tableKeys) (h : 2 ≤ timesOf key ms)
  | row (items : List Tree) (row : List (List Nat × Tree)) (hroutes : (units "routes", .list items) ∈ ms)
      (hrow : .object row ∈ items) (h : BadRow row)

variable {depth : Nat} {t : Tree} {ms : List (List Nat × Tree)} {text rest : List Char}

theorem timesOf_eq {σ : Type} {step : σ → List Nat × Tree → σ → Prop} {s s' : σ} {f : σ → Nat}
    {key : String} (h : Leads step s ms s')
    (hstep : ∀ s m s', step s m s' → f s' = f s + if m.1 = units key then 1 else 0)
    (hstart : f s = 0) : timesOf key ms = f s' := by
  have hrun := h.count_eq (p := fun m => m.1 = units key) fun s m s' hm => by
    simpa using hstep s m s' hm
  rw [hrun, hstart, Nat.zero_add]
  rfl

theorem sameName_of_ofName? {m : Method} {s : String} (h : Method.ofName? s = some m) :
    Method.sameName m.name s = true := by
  unfold Method.ofName? at h
  exact List.find?_some (p := fun k : Method => Method.sameName k.name s) h

theorem takesJust_readMethod (h : t.Spells depth text) (hrest : Delimited rest) :
    TakesJust readMethod text
      (fun m => ∃ s, t = .string (units s) ∧ Method.sameName m.name s = true) rest := by
  intro offset m c hread
  rw [readMethod] at hread
  obtain ⟨s, middle, hs, hparse⟩ := Reading.andThen_eq_ok hread
  obtain ⟨hmiddle, ht⟩ := takesJust_typedString h hrest offset s middle hs
  rw [Method.parse] at hparse
  cases hname : Method.ofName? s with
  | none => simp [hname] at hparse
  | some k =>
    rw [hname] at hparse
    obtain ⟨rfl, rfl⟩ := Reading.ok_inj hparse
    exact ⟨hmiddle, s, ht, sameName_of_ofName? hname⟩

theorem takesJust_field {α σ : Type} {old : Option α} {read : Cursor → Reading α} {P : α → Prop}
    {Q : σ → Prop} {before behind : List Char} (h : TakesJust read text P rest)
    (hread : SkipsBlanks read) (hbefore : Blank before) (hbehind : Blank behind) (name : String)
    (set : α → σ) (hset : old = none → ∀ a, P a → Q (set a)) :
    TakesJust (field old name read set) (before ++ ':' :: (behind ++ text)) Q rest := by
  cases old with
  | some a => exact fun _ _ _ hread => by simp [field] at hread
  | none => exact (takesJust_afterColon (h.blanks hread hbehind) hbefore).map (hset rfl)

/-- How often a known key stands among the members that have been read. -/
def Draft.count (d : Draft) (key : String) : Nat :=
  if key = "method" then d.method.toList.length
  else if key = "path" then d.path.toList.length
  else d.handler.toList.length

theorem Draft.count_le_one (d : Draft) (key : String) : d.count key ≤ 1 := by
  unfold Draft.count
  split_ifs <;> exact Option.length_toList_le

/-- What reading one member of a row does. -/
structure RowStep (d : Draft) (m : List Nat × Tree) (d' : Draft) : Prop where
  count : ∀ key ∈ rowKeys, d'.count key = d.count key + if m.1 = units key then 1 else 0
  method : m.1 = units "method" →
    ∃ (k : Method) (s : String), m.2 = .string (units s) ∧ Method.sameName k.name s = true

theorem rowMember_eq (d : Draft) (key : String) : rowMember d key =
    if key = "method" then field d.method key readMethod fun m => { d with method := some m }
    else if key = "path" then field d.path key typedString fun p => { d with path := some p }
    else if key = "handler" then
      field d.handler key typedString? fun l => { d with handler := some l }
    else ignoring d := by
  funext c
  rw [rowMember]
  split_ifs <;> rfl

theorem takesJust_rowMember {before behind : List Char} (h : t.Spells depth text)
    (hbefore : Blank before) (hbehind : Blank behind) (hrest : Delimited rest) (d : Draft)
    (key : String) :
    TakesJust (rowMember d key) (before ++ ':' :: (behind ++ text)) (RowStep d (units key, t))
      rest := by
  rw [rowMember_eq]
  split_ifs with hmethod hpath hhandler
  · subst hmethod
    refine takesJust_field (takesJust_readMethod h hrest) skipsBlanks_readMethod hbefore hbehind _ _ ?_
    rintro hnone m ⟨s, ht, hsame⟩
    refine ⟨?_, fun _ => ⟨m, s, ht, hsame⟩⟩
    simp [rowKeys, Draft.count, hnone, units_injective.eq_iff]
  · subst hpath
    refine takesJust_field (takesJust_typedString h hrest) (skipsBlanks_typed _ _) hbefore hbehind
      _ _ fun hnone p _ => ⟨?_, fun hunits => absurd (units_injective hunits) hmethod⟩
    simp [rowKeys, Draft.count, hnone, units_injective.eq_iff]
  · subst hhandler
    refine takesJust_field (takesJust_typedString? h hrest) skipsBlanks_typedString? hbefore hbehind
      _ _ fun hnone l _ => ⟨?_, fun hunits => absurd (units_injective hunits) hmethod⟩
    simp [rowKeys, Draft.count, hnone, units_injective.eq_iff]
  · have hskip := (consumes_skip_tree h hbehind hrest).takesJust
    refine (takesJust_afterColon hskip hbefore).map fun _ _ =>
      ⟨?_, fun hunits => absurd (units_injective hunits) hmethod⟩
    simp [rowKeys, units_injective.eq_iff, hmethod, hpath, hhandler]

theorem Draft.finish_eq_ok {d : Draft} {c c' : Cursor} {s : Spec} (h : d.finish c = .ok (s, c')) :
    c' = c ∧ d.count "method" = 1 ∧ d.count "path" = 1 := by
  obtain ⟨method, path, handler⟩ := d
  cases method with
  | none => simp [Draft.finish, required] at h
  | some m =>
    cases path with
    | none => simp [Draft.finish, required] at h
    | some p => exact ⟨(Reading.ok_inj h).2.symm, rfl, rfl⟩

theorem not_badRow_of_leads {d : Draft} (h : Leads RowStep {} ms d) (hmethod : d.count "method" = 1)
    (hpath : d.count "path" = 1) : ¬ BadRow ms := by
  have hcount : ∀ key ∈ rowKeys, timesOf key ms = d.count key := by
    intro key hkey
    have hstart : Draft.count {} key = 0 := by
      unfold Draft.count
      split_ifs <;> rfl
    exact timesOf_eq (f := fun d => d.count key) h (fun _ _ _ hstep => hstep.count key hkey) hstart
  rintro (⟨key, hkey, htwice⟩ | ⟨key, hkey, hnone⟩ | ⟨name, hmem, hno⟩)
  · have hle := d.count_le_one key
    rw [hcount key hkey] at htwice
    omega
  · obtain rfl | rfl : key = "method" ∨ key = "path" := by simpa using hkey
    · rw [hcount _ (by decide), hmethod] at hnone
      exact absurd hnone (by decide)
    · rw [hcount _ (by decide), hpath] at hnone
      exact absurd hnone (by decide)
  · obtain ⟨k, s, hname, hsame⟩ := h.forall_mem (fun _ _ _ hstep => hstep.method) _ hmem rfl
    exact hno k s hsame (Tree.string.inj hname).symm

theorem takesJust_rowObject {body : List Char}
    (h : Enclosed (SpellsPair (Tree.Spells depth)) ms body) (rest : List Char) :
    TakesJust rowObject body (fun _ => ¬ BadRow ms) ('}' :: rest) := by
  have hmembers : TakesJust (members rowMember {}) body (Leads RowStep {} ms) ('}' :: rest) :=
    takesJust_members
      (fun d key t before behind body rest hbefore hbehind h hrest =>
        takesJust_rowMember h hbefore hbehind hrest d key)
      h {} rest
  intro offset s c hread
  obtain ⟨d, middle, hd, hfinish⟩ := Reading.andThen_eq_ok hread
  obtain ⟨hmiddle, hleads⟩ := hmembers offset d middle hd
  obtain ⟨rfl, hmethod, hpath⟩ := Draft.finish_eq_ok hfinish
  exact ⟨hmiddle, not_badRow_of_leads hleads hmethod hpath⟩

section RowList

variable {items : List Tree} {offset : Nat} {c : Cursor}

theorem stopsInside_of_requiredItem {α : Type} {read : Cursor → Reading α} {P : Tree → α → Prop}
    {got : Nat} {expected : String} {a : α}
    (hitem : ∀ {t text rest}, t.Spells depth text → Delimited rest → TakesJust read text (P t) rest)
    (h : Left (Tree.Spells depth) (got == 0) items text)
    (hread : requiredItem got expected read ⟨text ++ ']' :: rest, offset⟩ = .ok (a, c)) :
    StopsInside (Tree.Spells depth) rest c := by
  rw [requiredItem] at hread
  rcases nextItem_of_left (fun _ _ => Tree.solid_of_spells) h rest offset with
    ⟨rfl, offset', hnext⟩ | ⟨t, items', piece, left, offset', rfl, hspells, hleft, hnext⟩
  · rw [hnext, Reading.andThen_ok] at hread
    simp at hread
  · rw [hnext, Reading.andThen_ok, if_pos rfl] at hread
    obtain ⟨hrest, -⟩ := hitem hspells (hleft.delimited (by decide) rest) offset' a c hread
    exact ⟨items', left, hleft, hrest⟩

theorem stopsInside_of_rowList {s : Spec} (h : Left (Tree.Spells depth) true items text)
    (hread : rowList ⟨text ++ ']' :: rest, offset⟩ = .ok (s, c)) :
    StopsInside (Tree.Spells depth) rest c := by
  obtain ⟨method, ⟨middle, offset₁⟩, hmethod, hread⟩ := Reading.andThen_eq_ok hread
  obtain ⟨items₁, left₁, hleft₁, rfl⟩ := stopsInside_of_requiredItem takesJust_readMethod h hmethod
  obtain ⟨path, ⟨middle, offset₂⟩, hpath, hread⟩ := Reading.andThen_eq_ok hread
  obtain ⟨items₂, left₂, hleft₂, rfl⟩ :=
    stopsInside_of_requiredItem takesJust_typedString hleft₁ hpath
  rcases nextItem_of_left (fun _ _ => Tree.solid_of_spells) hleft₂ rest offset₂ with
    ⟨rfl, offset₃, hnext⟩ | ⟨t, items₃, piece, left₃, offset₃, rfl, hspells, hleft₃, hnext⟩
  · rw [hnext, Reading.andThen_ok, if_neg (by decide)] at hread
    obtain ⟨rfl, rfl⟩ := Reading.ok_inj hread
    exact stopsInside_end rfl
  · rw [hnext, Reading.andThen_ok, if_pos rfl] at hread
    obtain ⟨handler, hhandler, -⟩ := Reading.map_eq_ok hread
    obtain ⟨hrest, -⟩ :=
      takesJust_typedString? hspells (hleft₃.delimited (by decide) rest) offset₃ handler c hhandler
    exact ⟨items₃, left₃, hleft₃, hrest⟩

end RowList

/-- The tree, if it is an object, has no defect as a row. -/
def GoodRow (t : Tree) : Prop := ∀ ms, t = .object ms → ¬ BadRow ms

theorem takesJust_readSpec (h : t.Spells depth text) (hrest : Delimited rest) :
    TakesJust readSpec text (fun _ => GoodRow t) rest := by
  intro offset s c hread
  have hsolid := Tree.solid_of_spells h
  rw [readSpec, record, skipBlanks_of_solid hsolid] at hread
  obtain ⟨x, xs, rfl, -, -⟩ := hsolid
  dsimp only [List.cons_append] at hread
  split at hread
  · rename_i heq
    obtain ⟨rfl, rfl⟩ := List.cons.inj heq
    obtain ⟨depth', items, body, rfl, rfl, hitems⟩ := Tree.list_of_spells h
    have hlist : TakesJust (inList rowList) (body ++ [']']) (fun _ => True) rest :=
      takesJust_inList fun _ _ _ hread => ⟨trivial, stopsInside_of_rowList hitems.left hread⟩
    exact ⟨(hlist _ s c hread).1, fun _ ht => by simp at ht⟩
  · rename_i heq
    obtain ⟨rfl, rfl⟩ := List.cons.inj heq
    obtain ⟨depth', ms, body, rfl, rfl, hmembers⟩ := Tree.object_of_spells h
    obtain ⟨hc, hgood⟩ := takesJust_inObject (takesJust_rowObject hmembers rest) _ s c hread
    refine ⟨hc, fun ms' ht => ?_⟩
    rwa [← Tree.object.inj ht]
  · exact (takesJust_typed_none h hrest "struct RouteSpec" _ s c hread).2.elim

def GoodRows (t : Tree) : Prop := ∀ items, t = .list items → ∀ row ∈ items, GoodRow row

theorem takesJust_readRows (h : t.Spells depth text) (hrest : Delimited rest) :
    TakesJust readRows text (fun _ => GoodRows t) rest := by
  intro offset rows c hread
  have hsolid := Tree.solid_of_spells h
  rw [readRows, skipBlanks_of_solid hsolid] at hread
  obtain ⟨x, xs, rfl, -, -⟩ := hsolid
  dsimp only [List.cons_append] at hread
  split at hread
  · rename_i heq
    obtain ⟨rfl, rfl⟩ := List.cons.inj heq
    obtain ⟨depth', items, body, rfl, rfl, hitems⟩ := Tree.list_of_spells h
    have hitem : ∀ (t : Tree) text rest, t.Spells depth' text → Delimited rest →
        TakesJust readSpec text (fun _ => GoodRow t) rest := fun _ _ _ => takesJust_readSpec
    obtain ⟨hc, hgood⟩ :=
      takesJust_list (fun _ _ => Tree.solid_of_spells) hitem hitems rest _ rows c hread
    refine ⟨hc, fun items' ht => ?_⟩
    rwa [← Tree.list.inj ht]
  · exact (takesJust_typed_none h hrest "a sequence" _ rows c hread).2.elim

def Contents.count (t : Contents) (key : String) : Nat :=
  if key = "routes" then t.routes.toList.length else t.others.countP fun m => m.1 = key

structure TableStep (t : Contents) (m : List Nat × Tree) (t' : Contents) : Prop where
  count : ∀ key ∈ tableKeys, t'.count key = t.count key + if m.1 = units key then 1 else 0
  rows : m.1 = units "routes" → GoodRows m.2

theorem tableMember_eq (contents : Contents) (key : String) : tableMember contents key =
    if key = "routes" then
      field contents.routes key readRows fun rows => { contents with routes := some rows }
    else fun c => (afterColon (value memberDepth) c).map fun v =>
      { contents with others := contents.others ++ [(key, v)] } := by
  funext c
  rw [tableMember]
  split_ifs <;> rfl

theorem takesJust_tableMember {before behind : List Char} (h : t.Spells depth text)
    (hbefore : Blank before) (hbehind : Blank behind) (hrest : Delimited rest) (contents : Contents)
    (key : String) :
    TakesJust (tableMember contents key) (before ++ ':' :: (behind ++ text))
      (TableStep contents (units key, t)) rest := by
  rw [tableMember_eq]
  split_ifs with hroutes
  · subst hroutes
    refine takesJust_field (takesJust_readRows h hrest) skipsBlanks_readRows hbefore hbehind _ _
      fun hnone rows hgood => ⟨?_, fun _ => hgood⟩
    simp [tableKeys, slashKey, Contents.count, hnone, units_injective.eq_iff]
  · have hvalue := (takesJust_value h hrest).blanks (skipsBlanks_value memberDepth) hbehind
    refine (takesJust_afterColon hvalue hbefore).map fun v _ =>
      ⟨?_, fun hunits => absurd (units_injective hunits) hroutes⟩
    simp [tableKeys, slashKey, Contents.count, hroutes, units_injective.eq_iff, List.countP_append]

theorem countP_le_of_findSlashOption {old b : Option Bool} {others : List (String × Value)}
    (h : findSlashOption old others = .ok b) :
    old.toList.length + (others.countP fun m => m.1 = slashKey) ≤ 1 := by
  induction others generalizing old with
  | nil => exact Option.length_toList_le
  | cons m others ih =>
    obtain ⟨key, v⟩ := m
    rw [findSlashOption.eq_def] at h
    dsimp only at h
    split_ifs at h with hkey
    · cases old with
      | some b' => simp at h
      | none =>
        -- from here on the option is known, so the other members may not name it
        cases v with
        | boolean b' => simpa [hkey, Nat.add_comm] using ih h
        | _ => simp at h
    · simpa [hkey] using ih h

theorem Contents.finish_eq_ok {contents : Contents} {table : Table} {c c' : Cursor}
    (h : contents.finish c = .ok (table, c')) : c' = c ∧ contents.count slashKey ≤ 1 := by
  rw [Contents.finish] at h
  split at h
  · rename_i b hfind
    have hcount : contents.count slashKey = contents.others.countP fun m => m.1 = slashKey :=
      if_neg (by decide)
    have hle := countP_le_of_findSlashOption hfind
    refine ⟨(Reading.ok_inj h).2.symm, ?_⟩
    rw [hcount]
    simpa using hle
  · simp at h

theorem not_badTable_of_leads {contents : Contents} (h : Leads TableStep {} ms contents)
    (hslash : contents.count slashKey ≤ 1) : ¬ BadTable ms := by
  have hcount : ∀ key ∈ tableKeys, timesOf key ms = contents.count key := by
    intro key hkey
    have hstart : Contents.count {} key = 0 := by
      unfold Contents.count
      split_ifs <;> rfl
    exact timesOf_eq (f := fun contents => contents.count key) h
      (fun _ _ _ hstep => hstep.count key hkey) hstart
  rintro (⟨key, hkey, htwice⟩ | ⟨items, row, hroutes, hrow, hbad⟩)
  · rw [hcount key hkey] at htwice
    obtain rfl | rfl : key = "routes" ∨ key = slashKey := by simpa [tableKeys] using hkey
    · have hle : contents.count "routes" ≤ 1 := Option.length_toList_le
      omega
    · omega
  · have hgood := h.forall_mem (fun _ _ _ hstep => hstep.rows) _ hroutes rfl
    exact hgood items rfl (.object row) hrow row rfl hbad

theorem takesJust_read (h : (Tree.object ms).Spells depth text) (rest : List Char) :
    TakesJust read text (fun _ => ¬ BadTable ms) rest := by
  obtain ⟨depth', body, rfl, hbody⟩ := Tree.spells_object h
  have hmember : ∀ contents key (t : Tree) before behind body rest, Blank before → Blank behind →
      t.Spells depth' body → Delimited rest →
      TakesJust (tableMember contents key) (before ++ ':' :: (behind ++ body))
        (TableStep contents (units key, t)) rest :=
    fun contents key _ _ _ _ _ hbefore hbehind h hrest =>
      takesJust_tableMember h hbefore hbehind hrest contents key
  have hinside : TakesJust (fun c => (members tableMember {} c).andThen Contents.finish) body
      (fun _ => ¬ BadTable ms) ('}' :: rest) := by
    intro offset table c hread
    obtain ⟨contents, middle, hcontents, hfinish⟩ := Reading.andThen_eq_ok hread
    obtain ⟨hmiddle, hleads⟩ := takesJust_members hmember hbody {} rest offset contents middle hcontents
    obtain ⟨rfl, hslash⟩ := Contents.finish_eq_ok hfinish
    exact ⟨hmiddle, not_badTable_of_leads hleads hslash⟩
  intro offset table c hread
  rw [read, List.cons_append, skipBlanks_of_stops (Template.stops_cons.2 (by decide))] at hread
  exact takesJust_inObject hinside _ table c hread

/-- An object with a defect is refused, wherever the defect stands and whatever stands around it. -/
theorem ofJson_of_badTable {s : String} (htext : (Tree.object ms).IsText s.toList) (h : BadTable ms) :
    ∃ e, Table.ofJson s = .error e := by
  cases hread : Table.ofJson s with
  | error e => exact ⟨e, rfl⟩
  | ok table =>
    refine absurd h ?_
    rw [Table.ofJson, readText, Cursor.start] at hread
    generalize s.toList = text at htext hread
    obtain @⟨depth, before, text, behind, hbefore, hspells, hbehind⟩ := htext
    cases hcursor : read ⟨before ++ (text ++ behind), 0⟩ with
    | error e => simp [hcursor] at hread
    | ok result =>
      have hextent := (takesJust_read hspells behind).blanks skipsBlanks_read hbefore
      rw [← List.append_assoc] at hcursor
      exact (hextent 0 result.1 result.2 hcursor).2

/-- A method of no name in the last row, behind half of a pair, a whole row and an unknown member. -/
theorem ofJson_of_badTable_last_row : ∃ e, Table.ofJson
    ("\x7b\"n\":[1],\"routes\":[\x7b\"method\":\"GET\",\"path\":\"/\"\x7d," ++
      "\x7b\"u\":\"\\uD800\",\"path\":\"/b\",\"method\":\"FETCH\"\x7d]\x7d") = .error e := by
  have hname : ∀ s, Quotes (units s) (writeString s) := fun s => (spellsString_writeString s).quotes
  have hstring : ∀ s, Tree.Spells 0 (.string (units s)) (writeString s) := fun s => .string (hname s)
  have hhalf : Tree.Spells 0 (.string [0xD800]) _ :=
    .string ⟨_, .cons (.unit (.digits (p := 'D') (q := '8') (r := '0') (s := '0') (by decide) (by decide)
      (by decide) (by decide) (by decide))) .nil, rfl⟩
  have hone : Tree.Spells 0 (.number ⟨false, ⟨['1'], by decide, List.forall_mem_singleton.2 rfl⟩,
    by decide, none, none⟩) ['1'] := .number _
  have hlist : Tree.Spells 2 (.list [.number _]) _ :=
    .inr (.list (.items (.single blank_nil (.inl hone) blank_nil)))
  have hgood : Tree.Spells 1 (.object [(units "method", .string (units "GET")),
      (units "path", .string (units "/"))]) _ :=
    .inr (.object (.items (.cons blank_nil (.mk (hname _) blank_nil blank_nil (hstring _)) blank_nil
      (.single blank_nil (.mk (hname _) blank_nil blank_nil (hstring _)) blank_nil))))
  have hbad : Tree.Spells 1 (.object [(units "u", .string [0xD800]),
      (units "path", .string (units "/b")), (units "method", .string (units "FETCH"))]) _ :=
    .inr (.object (.items (.cons blank_nil (.mk (hname _) blank_nil blank_nil hhalf) blank_nil
      (.cons blank_nil (.mk (hname _) blank_nil blank_nil (hstring _)) blank_nil
        (.single blank_nil (.mk (hname _) blank_nil blank_nil (hstring _)) blank_nil)))))
  have hrows : Tree.Spells 2 (.list [.object _, .object _]) _ :=
    .inr (.list (.items (.cons blank_nil hgood blank_nil (.single blank_nil hbad blank_nil))))
  have htable : Tree.Spells 3 (.object [(units "n", .list [.number _]), (units "routes", .list _)]) _ :=
    .inr (.object (.items (.cons blank_nil (.mk (hname _) blank_nil blank_nil hlist) blank_nil
      (.single blank_nil (.mk (hname _) blank_nil blank_nil hrows) blank_nil))))
  have hno : ∀ (m : Method) (s : String), Method.sameName m.name s = true → units s ≠ units "FETCH" := by
    intro m s hsame hunits
    obtain rfl := units_injective hunits
    revert hsame
    cases m <;> decide
  have hrow : BadRow [(units "u", .string [0xD800]), (units "path", .string (units "/b")),
      (units "method", .string (units "FETCH"))] := .noMethod _ (.tail _ (.tail _ (.head _))) hno
  have htext := Tree.IsText.mk blank_nil htable blank_nil
  rw [← @String.toList_ofList (_ ++ _)] at htext
  obtain ⟨e, he⟩ := ofJson_of_badTable htext (.row _ _ (.tail _ (.head _)) (.tail _ (.head _)) hrow)
  refine ⟨e, ?_⟩
  rw [← he]
  congr 1

end Router.Table
