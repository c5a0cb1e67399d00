import Router.Proofs.Pattern.Written

/-!
What the written form of a pattern means. Written patterns are regular expressions of a small kind: characters,
`.`, `[^c]`, the quantifiers `*?` and `?`, groups without a quantifier, and the marks for the start and the end.
Such an expression matches in one of several ways, which have an order of preference: `*?` takes as little as
it can, `?` takes a character if it can. The groups of the first way are the captured values.

Read like this, the written form of the pattern of a template captures from every path what the pattern
captures.
-/

set_option autoImplicit false
set_option relaxedAutoImplicit false

namespace Router.Regex

inductive Atom
  | char (c : Char)
  | any
  | except (c : Char)
  deriving DecidableEq, Repr

def Atom.admits : Atom → Char → Bool
  | char d, c => c == d
  | any, _ => true
  | except d, c => c != d

inductive Sign
  | atom (a : Atom)
  | star
  | question
  | opening
  | closing
  | finish
  deriving DecidableEq, Repr

/-- The sign that a character is on its own. Signs that these expressions do not use are refused. -/
def sign? (c : Char) : Option Sign :=
  if c = '.' then some (.atom .any)
  else if c = '*' then some .star
  else if c = '?' then some .question
  else if c = '(' then some .opening
  else if c = ')' then some .closing
  else if c = '$' then some .finish
  else if c ∈ ['\\', '+', '|', '[', '{', '^'] then none
  else some (.atom (.char c))

/-- The signs of a text. A backslash in front of a letter or a digit would stand for a class. -/
def signs : List Char → Option (List Sign)
  | [] => some []
  | '\\' :: c :: cs => if c.isAlphanum then none else (signs cs).map (.atom (.char c) :: ·)
  | '[' :: '^' :: c :: ']' :: cs => (signs cs).map (.atom (.except c) :: ·)
  | c :: cs => (sign? c).bind fun s => (signs cs).map (s :: ·)

inductive Item
  | one (a : Atom)
  | lazy (a : Atom)
  | optional (a : Atom)
  | opening
  | closing
  | finish
  deriving DecidableEq, Repr

/-- The items of signs. A quantifier belongs to the atom in front of it. -/
def items : List Sign → Option (List Item)
  | [] => some []
  | .atom a :: .star :: .question :: ss => (items ss).map (.lazy a :: ·)
  | .atom a :: .question :: ss => (items ss).map (.optional a :: ·)
  | .atom a :: ss => (items ss).map (.one a :: ·)
  | .opening :: ss => (items ss).map (.opening :: ·)
  | .closing :: ss => (items ss).map (.closing :: ·)
  | .finish :: ss => (items ss).map (.finish :: ·)
  | .star :: _ => none
  | .question :: _ => none

/-- The mark that lets `.` stand for every character, and the mark of the start. -/
def start : List Char := ['(', '?', 's', ')', '^']

def read? (text : List Char) : Option (List Item) :=
  if start.isPrefixOf text then (signs (text.drop start.length)).bind items else none

inductive Mark
  | char (c : Char)
  | opening
  | closing
  deriving DecidableEq, Repr

def lazily (admits : Char → Bool) (rest : List Char → Option (List Mark)) :
    List Char → Option (List Mark)
  | [] => rest []
  | c :: path =>
    match rest (c :: path) with
    | some marks => some marks
    | none => if admits c then (lazily admits rest path).map (.char c :: ·) else none

/-- The first way, in the order of preference, in which items match the front of a path. -/
def firstMatch : List Item → List Char → Option (List Mark)
  | [], _ => some []
  | .one _ :: _, [] => none
  | .one a :: is, c :: path => if a.admits c then (firstMatch is path).map (.char c :: ·) else none
  | .lazy a :: is, path => lazily a.admits (firstMatch is) path
  | .optional _ :: is, [] => firstMatch is []
  | .optional a :: is, c :: path =>
    if a.admits c then ((firstMatch is path).map (.char c :: ·)).or (firstMatch is (c :: path))
    else firstMatch is (c :: path)
  | .opening :: is, path => (firstMatch is path).map (.opening :: ·)
  | .closing :: is, path => (firstMatch is path).map (.closing :: ·)
  | .finish :: is, path => if path = [] then firstMatch is path else none

/-- The characters in front of the next other mark. -/
def inside : List Mark → List Char
  | .char c :: marks => c :: inside marks
  | _ => []

def groups : List Mark → List (List Char)
  | [] => []
  | .opening :: marks => inside marks :: groups marks
  | _ :: marks => groups marks

end Router.Regex

namespace Router.Pattern

open Router.Template Router.Regex

def wildcardSigns (captured : Bool) (a : Atom) : List Sign :=
  if captured then [.opening, .atom a, .star, .question, .closing] else [.atom a, .star, .question]

def wildcardItems (captured : Bool) (a : Atom) : List Item :=
  if captured then [.opening, .lazy a, .closing] else [.lazy a]

def Part.signs : Part → List Sign
  | literal text => text.map fun c => .atom (.char c)
  | segment captured => wildcardSigns captured (.except '/')
  | run captured => wildcardSigns captured .any

def Part.items : Part → List Item
  | literal text => text.map fun c => .one (.char c)
  | segment captured => wildcardItems captured (.except '/')
  | run captured => wildcardItems captured .any

theorem isAlphanum_of_special {c : Char} (h : c ∈ special) : c.isAlphanum = false := by
  have hall : special.all fun c => !c.isAlphanum := by decide
  simpa using List.all_eq_true.1 hall c h

theorem sign?_of_not_special {c : Char} (h : c ∉ special) : sign? c = some (.atom (.char c)) := by
  simp only [special, List.mem_cons, List.not_mem_nil, or_false, not_or] at h
  simp [sign?, h]

theorem escape_cons (c : Char) (text : List Char) :
    escape (c :: text) = (if c ∈ special then ['\\', c] else [c]) ++ escape text := rfl

theorem signs_escape (text rest : List Char) :
    Regex.signs (escape text ++ rest) =
      (Regex.signs rest).map ((Part.literal text).signs ++ ·) := by
  induction text with
  | nil => simp [escape, Part.signs]
  | cons c text ih =>
    rw [escape_cons, List.append_assoc]
    split
    · rename_i h
      show Regex.signs ('\\' :: c :: (escape text ++ rest)) = _
      rw [Regex.signs, isAlphanum_of_special h, if_neg Bool.false_ne_true, ih, Option.map_map]
      rfl
    · rename_i h
      show Regex.signs (c :: (escape text ++ rest)) = _
      rw [Regex.signs, sign?_of_not_special h, Option.bind_some, ih, Option.map_map]
      · rfl
      · exact fun _ _ hc _ => h (hc ▸ by decide)
      · exact fun _ _ hc _ => h (hc ▸ by decide)

theorem signs_write (part : Part) (rest : List Char) :
    Regex.signs (part.write ++ rest) = (Regex.signs rest).map (part.signs ++ ·) := by
  cases part with
  | literal text => exact signs_escape text rest
  | segment captured =>
    cases captured <;>
      simp [Part.write, grouped, Part.signs, wildcardSigns, Regex.signs, sign?, Function.comp_def]
  | run captured =>
    cases captured <;>
      simp [Part.write, grouped, Part.signs, wildcardSigns, Regex.signs, sign?, Function.comp_def]

theorem signs_flatMap_write (parts : List Part) (rest : List Char) :
    Regex.signs (parts.flatMap Part.write ++ rest) =
      (Regex.signs rest).map (parts.flatMap Part.signs ++ ·) := by
  induction parts with
  | nil => simp
  | cons part parts ih =>
    rw [List.flatMap_cons, List.append_assoc, signs_write, ih, Option.map_map, List.flatMap_cons]
    simp [Function.comp_def]

/-- The signs do not begin with a quantifier. -/
def Clear (ss : List Sign) : Prop := ∀ s ∈ ss.head?, s ≠ .star ∧ s ≠ .question

theorem items_atom {ss : List Sign} (h : Clear ss) (a : Atom) :
    Regex.items (.atom a :: ss) = (Regex.items ss).map (.one a :: ·) := by
  rw [Regex.items]
  · rintro ss rfl
    exact (h .star rfl).1 rfl
  · rintro ss rfl
    exact (h .question rfl).2 rfl

theorem clear_signs (part : Part) {ss : List Sign} (h : Clear ss) : Clear (part.signs ++ ss) := by
  have hwildcard : ∀ captured a, Clear (wildcardSigns captured a ++ ss) := by
    intro captured a
    cases captured <;> simp [wildcardSigns, Clear]
  cases part with
  | literal text =>
    cases text with
    | nil => exact h
    | cons c text => simp [Part.signs, Clear]
  | segment captured => exact hwildcard captured _
  | run captured => exact hwildcard captured _

theorem items_signs (part : Part) {ss : List Sign} (h : Clear ss) :
    Regex.items (part.signs ++ ss) = (Regex.items ss).map (part.items ++ ·) := by
  have hwildcard : ∀ captured a, Regex.items (wildcardSigns captured a ++ ss) =
      (Regex.items ss).map (wildcardItems captured a ++ ·) := by
    intro captured a
    cases captured <;> simp [wildcardSigns, wildcardItems, Regex.items, Function.comp_def]
  cases part with
  | literal text =>
    induction text with
    | nil => simp [Part.signs, Part.items]
    | cons c text ih =>
      show Regex.items (.atom (.char c) :: ((Part.literal text).signs ++ ss)) = _
      rw [items_atom (clear_signs _ h), ih, Option.map_map]
      rfl
  | segment captured => exact hwildcard captured _
  | run captured => exact hwildcard captured _

theorem items_flatMap_signs (parts : List Part) {ss : List Sign} (h : Clear ss) :
    Regex.items (parts.flatMap Part.signs ++ ss) =
        (Regex.items ss).map (parts.flatMap Part.items ++ ·) ∧
      Clear (parts.flatMap Part.signs ++ ss) := by
  induction parts with
  | nil => simpa using h
  | cons part parts ih =>
    obtain ⟨hitems, hclear⟩ := ih
    rw [List.flatMap_cons, List.append_assoc, List.flatMap_cons]
    refine ⟨?_, clear_signs part hclear⟩
    rw [items_signs part hclear, hitems, Option.map_map]
    simp [Function.comp_def]

def ending : List Item := [.optional (.char '/'), .finish]

theorem read?_write (parts : List Part) :
    read? (Regex.start ++ parts.flatMap Part.write ++ ['/', '?', '$']) =
      some (parts.flatMap Part.items ++ ending) := by
  have hend : Regex.signs ['/', '?', '$'] = some [.atom (.char '/'), .question, .finish] := by decide
  have hclear : Clear [.atom (.char '/'), .question, .finish] := by simp [Clear]
  have hitems : Regex.items [.atom (.char '/'), .question, .finish] = some ending := rfl
  rw [read?, List.append_assoc, if_pos (by simp), List.drop_left, signs_flatMap_write, hend,
    Option.map_some, Option.bind_some, (items_flatMap_signs parts hclear).1, hitems, Option.map_some]

theorem write_ne_nil {part : Part} (h : part ≠ .literal []) : part.write ≠ [] := by
  cases part with
  | literal text =>
    cases text with
    | nil => exact absurd rfl h
    | cons c text =>
      rw [Part.write, escape_cons]
      split <;> simp
  | segment captured => cases captured <;> simp [Part.write, grouped]
  | run captured => cases captured <;> simp [Part.write, grouped]

theorem dropFinalSlash_escape (text : List Char) :
    dropFinalSlash (escape text) = escape (dropFinalSlash text) := by
  refine dropFinalSlash_flatMap (by decide) (fun c => ?_) (fun c => ?_) text
  · split <;> simp
  · split <;> simp

theorem dropFinalSlash_write {part : Part} (h : ∀ text, part ≠ .literal text) :
    dropFinalSlash part.write = part.write := by
  refine dropFinalSlash_of_ne ?_
  cases part with
  | literal text => exact absurd rfl (h text)
  | segment captured => cases captured <;> decide
  | run captured => cases captured <;> decide

theorem dropFinalSlash_flatMap_write {parts : List Part} (h : ∀ part ∈ parts, part ≠ .literal []) :
    dropFinalSlash (parts.flatMap Part.write) = (trim parts).flatMap Part.write := by
  induction parts using trim.induct with
  | case1 => rfl
  | case2 text =>
    rw [trim, List.flatMap_singleton, List.flatMap_singleton]
    exact dropFinalSlash_escape text
  | case3 part parts hlast ih =>
    have hpart := List.forall_mem_cons.1 h
    have htrim : trim (part :: parts) = part :: trim parts := by
      rw [trim]
      exact hlast
    rw [htrim, List.flatMap_cons, List.flatMap_cons, ← ih hpart.2]
    cases parts with
    | nil =>
      rw [List.flatMap_nil, List.append_nil]
      exact (dropFinalSlash_write fun text heq => hlast text heq rfl).trans (List.append_nil _).symm
    | cons next parts =>
      have hnext : (next :: parts).flatMap Part.write ≠ [] := by
        rw [List.flatMap_cons]
        exact List.append_ne_nil_of_left_ne_nil (write_ne_nil (hpart.2 next List.mem_cons_self)) _
      exact dropFinalSlash_append hnext

theorem groups_map_char (text : List Char) (marks : List Mark) :
    groups (text.map Mark.char ++ marks) = groups marks := by
  induction text with
  | nil => rfl
  | cons c text ih => exact ih

theorem firstMatch_literal (text : List Char) (is : List Item) (path : List Char) :
    firstMatch ((Part.literal text).items ++ is) path =
      if text.isPrefixOf path then
        (firstMatch is (path.drop text.length)).map (text.map Mark.char ++ ·)
      else none := by
  induction text generalizing path with
  | nil => simp [Part.items]
  | cons c text ih =>
    show firstMatch (.one (.char c) :: ((Part.literal text).items ++ is)) path = _
    cases path with
    | nil => rfl
    | cons d path =>
      rw [firstMatch, ih]
      by_cases hc : d = c
      · subst hc
        by_cases htext : text.isPrefixOf path = true <;>
          simp [Atom.admits, htext, Function.comp_def]
      · simp [Atom.admits, hc, Ne.symm hc]

section Wildcard

variable {admits : Char → Bool} {rest : List Char → Option (List Mark)}

theorem groups_lazily (path : List Char) :
    (lazily admits rest path).map groups =
      shortest admits false (fun path => (rest path).map groups) path := by
  induction path with
  | nil => cases h : rest [] <;> simp [lazily, shortest, enter, h]
  | cons c path ih =>
    rw [lazily, shortest, ← ih]
    cases rest (c :: path) with
    | some marks => simp [enter]
    | none =>
      cases admits c with
      | false => rfl
      | true => simp [extend, groups, Function.comp_def]

theorem groups_lazily_group (path : List Char) :
    ((lazily admits (fun path => (rest path).map (.closing :: ·)) path).map
        (.opening :: ·)).map groups =
      shortest admits true (fun path => (rest path).map groups) path := by
  induction path with
  | nil => cases h : rest [] <;> simp [lazily, shortest, enter, groups, inside, h]
  | cons c path ih =>
    rw [lazily, shortest, ← ih]
    cases rest (c :: path) with
    | some marks => simp [enter, groups, inside]
    | none =>
      cases admits c with
      | false => rfl
      | true => simp [extend, groups, inside, Function.comp_def]

end Wildcard

theorem firstMatch_wildcard (captured : Bool) (a : Atom) (is : List Item) (path : List Char) :
    (firstMatch (wildcardItems captured a ++ is) path).map groups =
      shortest a.admits captured (fun path => (firstMatch is path).map groups) path := by
  cases captured with
  | false => exact groups_lazily path
  | true => exact groups_lazily_group path

theorem firstMatch_ending (path : List Char) : (firstMatch ending path).map groups = atEnd path := by
  cases path with
  | nil => rfl
  | cons c path =>
    by_cases hc : c = '/'
    · subst hc
      cases path <;> simp [ending, firstMatch, Atom.admits, atEnd, groups]
    · simp [ending, firstMatch, Atom.admits, atEnd, hc]

/-- The groups of the first way are the captured values. -/
theorem groups_firstMatch (parts : List Part) (path : List Char) :
    (firstMatch (parts.flatMap Part.items ++ ending) path).map groups = captures parts path := by
  induction parts generalizing path with
  | nil => exact firstMatch_ending path
  | cons part parts ih =>
    rw [List.flatMap_cons, List.append_assoc]
    cases part with
    | literal text =>
      rw [firstMatch_literal, captures]
      split
      · rw [Option.map_map, ← ih]
        congr 1
        funext marks
        exact groups_map_char text marks
      · rfl
    | segment captured =>
      rw [captures, ← funext ih]
      exact firstMatch_wildcard captured _ _ path
    | run captured =>
      rw [captures, ← funext ih]
      exact firstMatch_wildcard captured _ _ path

theorem toList_text (p : Pattern) :
    p.text.toList =
      Regex.start ++ dropFinalSlash (p.parts.flatMap Part.write) ++ ['/', '?', '$'] := by
  simp [text, Regex.start]

/-- Read as a regular expression, the written form of the pattern of a template captures what the pattern
captures, from every path. -/
theorem exists_read?_text (capture : Capture) (template : String) :
    let p := ofTokens capture (tokenize template.toList)
    ∃ is, read? p.text.toList = some is ∧ ∀ path : String,
      p.capture? path =
        (firstMatch is path.toList).map fun marks => (groups marks).map String.ofList := by
  intro p
  have hparts : ∀ part ∈ p.parts, part ≠ .literal [] := by
    refine List.forall_mem_map.2 fun t ht => ?_
    have hsound := (wellFormed_tokenize template.toList).sound t ht
    cases t with
    | literal text =>
      intro h
      exact collapse_ne_nil (sound_literal_iff.1 hsound).1 (Part.literal.inj h)
    | param name => exact nofun
    | splat => exact nofun
  refine ⟨(trim p.parts).flatMap Part.items ++ ending, ?_, fun path => ?_⟩
  · rw [toList_text, dropFinalSlash_flatMap_write hparts, read?_write]
  · rw [capture?_eq, ← groups_firstMatch, Option.map_map]
    rfl

end Router.Pattern
