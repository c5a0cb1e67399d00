import Router.Proofs.Scan.Loop
import Router.Proofs.Template.Pieces
import Router.Proofs.Template.Tokens
import Router.Proofs.Text

/-!
From bytes to tokens. A template reads the bytes of a path if its tokens cut the path. Bytes can be cut
inside a character, and the bytes a splat leaves may begin with the end of one; no literal reads that,
and a wildcard that reads it could as well begin behind it.
-/

set_option autoImplicit false
set_option relaxedAutoImplicit false

namespace Router.Template.Scan

open Router.Text

@[simp] theorem utf8EncodeChar_star : String.utf8EncodeChar '*' = [star] :=
  utf8EncodeChar_ascii (by decide)

@[simp] theorem utf8EncodeChar_colon : String.utf8EncodeChar ':' = [colon] :=
  utf8EncodeChar_ascii (by decide)

@[simp] theorem utf8EncodeChar_slash : String.utf8EncodeChar '/' = [slash] :=
  utf8EncodeChar_ascii (by decide)

theorem slash_mem_utf8EncodeChar {c : Char} : slash ∈ String.utf8EncodeChar c ↔ c = '/' :=
  mem_utf8EncodeChar_ascii (by decide)

theorem getLast?_utf8EncodeChar {c : Char} :
    (String.utf8EncodeChar c).getLast? = some slash ↔ c = '/' := by
  constructor
  · intro h
    exact slash_mem_utf8EncodeChar.1 (List.mem_of_getLast? h)
  · rintro rfl
    simp

theorem utf8_dropFinalSlash (cs : List Char) : utf8 (dropFinalSlash cs) =
    if (utf8 cs).getLast? = some slash then (utf8 cs).dropLast else utf8 cs := by
  rcases List.eq_nil_or_concat' cs with rfl | ⟨cs, c, rfl⟩
  · rfl
  · have hne : String.utf8EncodeChar c ≠ [] := String.utf8EncodeChar_ne_nil
    have hlast : (utf8 (cs ++ [c])).getLast? = some slash ↔ c = '/' := by
      rw [utf8_append, utf8_cons, utf8_nil, List.append_nil, List.getLast?_append_of_ne_nil _ hne,
        getLast?_utf8EncodeChar]
    by_cases hc : c = '/'
    · rw [if_pos (hlast.2 hc), hc]
      simp
    · rw [if_neg (mt hlast.1 hc)]
      simp [dropFinalSlash, hc]

theorem toList_stripped (s : String) : (stripped s).toList = utf8 (dropFinalSlash s.toList) := by
  rw [utf8_dropFinalSlash, ← toList_toUTF8, Array.getLast?_toList, ← Array.toList_pop, stripped,
    apply_ite Array.toList]

theorem star_not_mem_utf8 {text : List Char} (h : ∀ c ∈ text, inLiteral c = true) :
    star ∉ utf8 text := by
  intro hstar
  have hmem : '*' ∈ text := (mem_utf8_ascii (by decide)).1 hstar
  exact absurd (h '*' hmem) (by decide)

theorem colon_not_mem_utf8 {text : List Char} (h : ∀ c ∈ text, inLiteral c = true) :
    colon ∉ utf8 text := by
  intro hcolon
  have hmem : ':' ∈ text := (mem_utf8_ascii (by decide)).1 hcolon
  exact absurd (h ':' hmem) (by decide)

theorem fromSlash_append {bytes rest : List UInt8} (h : slash ∉ bytes) :
    fromSlash (bytes ++ rest) = fromSlash rest := by
  refine List.dropWhile_append_of_pos fun b hb => ?_
  simp only [bne_iff_ne, ne_eq]
  rintro rfl
  exact h hb

theorem fromSlash_utf8 (cs : List Char) : fromSlash (utf8 cs) = utf8 (cs.dropWhile inName) := by
  induction cs with
  | nil => rfl
  | cons c cs ih =>
    by_cases hc : c = '/'
    · subst hc
      simp [fromSlash]
    · have hslash : slash ∉ String.utf8EncodeChar c := fun h => hc (slash_mem_utf8EncodeChar.1 h)
      rw [utf8_cons, fromSlash_append hslash, ih, List.dropWhile_cons_of_pos (inName_eq_true.2 hc)]

theorem slash_not_mem_of_tail {tail : List UInt8} (htail : ∀ x ∈ tail, ¬ x.IsUTF8FirstByte) :
    slash ∉ tail := fun h => htail slash h (by decide)

theorem tail_eq_nil {text : List Char} {tail rest bytes : List UInt8} (hne : text ≠ [])
    (htail : ∀ x ∈ tail, ¬ x.IsUTF8FirstByte) (h : tail ++ rest = utf8 text ++ bytes) :
    tail = [] := by
  obtain ⟨c, text, rfl⟩ := List.exists_cons_of_ne_nil hne
  obtain ⟨b, bs, hc, hfirst, -⟩ := utf8EncodeChar_eq_cons c
  cases tail with
  | nil => rfl
  | cons x tail =>
    rw [utf8_cons, hc] at h
    obtain rfl : x = b := (List.cons.inj h).1
    exact absurd hfirst (htail x (by simp))

theorem utf8_eq_nil {cs : List Char} : utf8 cs = [] ↔ cs = [] := by
  cases cs with
  | nil => simp
  | cons c cs => simp [String.utf8EncodeChar_ne_nil]

theorem cut_of_reads {template path : List Char} {tail : List UInt8}
    (htail : ∀ x ∈ tail, ¬ x.IsUTF8FirstByte) (h : Reads (utf8 template) (tail ++ utf8 path)) :
    Cut (tokenize template) path := by
  -- A splat may leave bytes of a broken character in front of the path, so `tail` goes along.
  induction template using template_induction generalizing path tail with
  | nil =>
    have hnil := List.append_eq_nil_iff.1 (reads_nil.1 h)
    rw [tokenize_nil, cut_nil]
    exact utf8_eq_nil.1 hnil.2
  | splat rest ih =>
    rw [utf8_cons, utf8EncodeChar_star, List.singleton_append, reads_star] at h
    obtain ⟨bytes, hsuffix, h⟩ := h
    obtain ⟨tail', ds, rfl, htail', hds⟩ := exists_of_suffix_utf8 htail hsuffix
    rw [tokenize_splat, cut_splat]
    exact ⟨ds, hds, ih htail' h⟩
  | param name rest hname hrest ih =>
    rw [utf8_cons, utf8EncodeChar_colon, List.singleton_append, reads_colon,
      fromSlash_append (slash_not_mem_of_tail htail), fromSlash_utf8, fromSlash_utf8,
      dropWhile_append_of_stops hname hrest] at h
    have hcut := ih (List.forall_mem_nil _) h
    rw [tokenize_param hname hrest, cut_cons]
    refine ⟨path.takeWhile inName, path.dropWhile inName, ?_, hcut, List.takeWhile_append_dropWhile⟩
    intro hslash
    exact absurd (List.mem_takeWhile_imp hslash) (by simp)
  | literal text rest hne htext hrest ih =>
    rw [utf8_append, reads_append (star_not_mem_utf8 htext) (colon_not_mem_utf8 htext)] at h
    obtain ⟨bytes, heq, h⟩ := h
    obtain rfl := tail_eq_nil hne htail heq
    obtain ⟨es, rfl, rfl⟩ := exists_of_utf8_append_eq heq.symm
    rw [tokenize_literal hne htext hrest, cut_literal]
    exact ⟨es, ih (List.forall_mem_nil _) h, rfl⟩

theorem stops_of_cut {rest path : List Char} (hrest : Stops inName rest)
    (h : Cut (tokenize rest) path) : Stops inName path := by
  cases rest with
  | nil =>
    obtain rfl := cut_nil.1 (by simpa using h)
    exact stops_nil inName
  | cons c rest =>
    obtain rfl : c = '/' := by simpa [inName] using stops_cons.1 hrest
    rw [tokenize] at h
    obtain ⟨rest', -, rfl⟩ := cut_literal.1 h
    exact stops_cons.2 inName_slash

theorem reads_of_cut {template path : List Char} (h : Cut (tokenize template) path) :
    Reads (utf8 template) (utf8 path) := by
  induction template using template_induction generalizing path with
  | nil =>
    rw [tokenize_nil, cut_nil] at h
    subst h
    exact .done
  | splat rest ih =>
    rw [tokenize_splat, cut_splat] at h
    obtain ⟨_, ⟨taken, rfl⟩, hcut⟩ := h
    rw [utf8_cons, utf8EncodeChar_star, utf8_append]
    exact .splat (utf8 taken) (ih hcut)
  | param name rest hname hrest ih =>
    rw [tokenize_param hname hrest, cut_cons] at h
    obtain ⟨piece, path, hpiece, hcut, rfl⟩ := h
    have hsegment : ∀ c ∈ piece, inName c = true :=
      fun c hc => inName_eq_true.2 fun hslash => hpiece (hslash ▸ hc)
    rw [utf8_cons, utf8EncodeChar_colon, List.singleton_append, reads_colon, fromSlash_utf8,
      fromSlash_utf8, dropWhile_append_of_stops hname hrest,
      dropWhile_append_of_stops hsegment (stops_of_cut hrest hcut)]
    exact ih hcut
  | literal text rest hne htext hrest ih =>
    rw [tokenize_literal hne htext hrest, cut_literal] at h
    obtain ⟨path, hcut, rfl⟩ := h
    rw [utf8_append, utf8_append, reads_append (star_not_mem_utf8 htext) (colon_not_mem_utf8 htext)]
    exact ⟨utf8 path, rfl, ih hcut⟩

theorem reads_utf8_iff_cut {template path : List Char} :
    Reads (utf8 template) (utf8 path) ↔ Cut (tokenize template) path :=
  ⟨fun h => cut_of_reads (List.forall_mem_nil _) h, reads_of_cut⟩

end Router.Template.Scan

namespace Router.Template

theorem fits_iff_cut {template path : String} : fits template path = true ↔
    Cut (tokenize (dropFinalSlash template.toList)) (dropFinalSlash path.toList) := by
  rw [fits, Scan.accepts_iff_reads, Scan.toList_stripped, Scan.toList_stripped,
    Scan.reads_utf8_iff_cut]

/-- The loop, which remembers one splat, accepts what a search through all lengths of all pieces
accepts: the paths that can be cut into one piece for each token. -/
theorem fits_iff_exists_pieces (template path : String) :
    (fits template path = true ↔ ∃ pieces : List (List Char),
      List.Forall₂ Token.Takes (tokenize (dropFinalSlash template.toList)) pieces ∧
        pieces.flatten = dropFinalSlash path.toList) ∧
    fits template path =
      backtrack (tokenize (dropFinalSlash template.toList)) (dropFinalSlash path.toList) := by
  refine ⟨fits_iff_cut, ?_⟩
  rw [Bool.eq_iff_iff, fits_iff_cut, backtrack_eq_true]

end Router.Template
