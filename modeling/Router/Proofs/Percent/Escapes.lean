import Router.Route
import Router.Proofs.Json.Strings
import Router.Proofs.Text

/-!
Escapes in a text. An escape is `%` with two hexadecimal digits behind it. No escape begins inside
another, since `%` is no digit, so the reader, which goes through the bytes from the left, replaces
the escapes that stand anywhere in the text, all at once. A `%` without two digits stays, and what
stands behind it is read as if it stood alone.
-/

set_option autoImplicit false
set_option relaxedAutoImplicit false

namespace Router.Percent

open Router.Json (IsHexDigit)
open Router.Text

def digit? (c : Char) : Option Nat := (List.range 16).find? fun n => decide (IsHexDigit n c)

/-- The byte of the escape at the beginning of a text, if there is one. -/
def leadingEscape? : List Char → Option UInt8
  | mark :: hi :: lo :: _ =>
    if mark = '%' then
      match digit? hi, digit? lo with
      | some x, some y => some (UInt8.ofNat (16 * x + y))
      | _, _ => none
    else none
  | _ => none

def escapeAt? (cs : List Char) (i : Nat) : Option UInt8 := leadingEscape? (cs.drop i)

def escapeCount (cs : List Char) : Nat :=
  (List.range cs.length).countP fun i => (escapeAt? cs i).isSome

/-- Place `i` belongs to an escape that begins one or two places in front of it. -/
def inEscape (cs : List Char) (i : Nat) : Bool :=
  (List.range i).any fun j => decide (i < j + 3) && (escapeAt? cs j).isSome

/-- What place `i` of a text is replaced by: an escape by its byte, the digits of an escape by
nothing, any other character by its own bytes. -/
def bytesAt (cs : List Char) (i : Nat) : List UInt8 :=
  match escapeAt? cs i with
  | some b => [b]
  | none => if inEscape cs i then [] else utf8 ((cs.drop i).take 1)

/-- The bytes of a text with the escapes of all its places replaced. -/
def replaced (cs : List Char) : List UInt8 := (List.range cs.length).flatMap (bytesAt cs)

theorem digit?_eq_some {c : Char} {n : Nat} : digit? c = some n ↔ n < 16 ∧ IsHexDigit n c := by
  constructor
  · intro h
    exact ⟨List.mem_range.1 (List.mem_of_find?_eq_some h), by simpa using List.find?_some h⟩
  · intro h
    have hall : ∀ d < 16, digit? (Nat.digitChar d) = some d ∧
        digit? (Nat.digitChar d).toUpper = some d := by decide +kernel
    obtain ⟨hn, rfl | rfl⟩ := h
    · exact (hall n hn).1
    · exact (hall n hn).2

theorem digit?_mark : digit? '%' = none := by decide +kernel

theorem toNat_lt_of_digit? {c : Char} {n : Nat} (h : digit? c = some n) : c.toNat < 0x80 := by
  have hall : ∀ d < 16, (Nat.digitChar d).toNat < 0x80 ∧
      (Nat.digitChar d).toUpper.toNat < 0x80 := by decide +kernel
  obtain ⟨hn, rfl | rfl⟩ := digit?_eq_some.1 h
  · exact (hall n hn).1
  · exact (hall n hn).2

theorem leadingEscape?_of_ne {c : Char} (hc : c ≠ '%') (cs : List Char) :
    leadingEscape? (c :: cs) = none := by
  rcases cs with _ | ⟨hi, _ | ⟨lo, cs⟩⟩
  · rfl
  · rfl
  · rw [leadingEscape?, if_neg hc]

theorem leadingEscape?_eq_some {cs : List Char} {b : UInt8} : leadingEscape? cs = some b ↔
    ∃ hi lo rest x y, cs = '%' :: hi :: lo :: rest ∧ digit? hi = some x ∧ digit? lo = some y ∧
      b = UInt8.ofNat (16 * x + y) := by
  constructor
  · intro h
    rcases cs with _ | ⟨mark, _ | ⟨hi, _ | ⟨lo, rest⟩⟩⟩
    · simp [leadingEscape?] at h
    · simp [leadingEscape?] at h
    · simp [leadingEscape?] at h
    · rw [leadingEscape?] at h
      split at h
      · rename_i hmark
        split at h
        · rename_i x y hx hy
          exact ⟨hi, lo, rest, x, y, by rw [hmark], hx, hy, (Option.some.inj h).symm⟩
        · simp at h
      · simp at h
  · intro h
    obtain ⟨hi, lo, rest, x, y, rfl, hx, hy, rfl⟩ := h
    simp only [leadingEscape?, if_true, hx, hy]

theorem exists_digits {mark hi lo : Char} {cs : List Char} {b : UInt8}
    (h : leadingEscape? (mark :: hi :: lo :: cs) = some b) :
    ∃ x y, digit? hi = some x ∧ digit? lo = some y ∧ b = UInt8.ofNat (16 * x + y) := by
  obtain ⟨_, _, _, x, y, heq, hx, hy, hb⟩ := leadingEscape?_eq_some.1 h
  obtain ⟨-, rfl, rfl, rfl⟩ : mark = '%' ∧ _ ∧ _ ∧ _ := by simpa using heq
  exact ⟨x, y, hx, hy, hb⟩

theorem leadingEscape?_digit {c : Char} {n : Nat} (h : digit? c = some n) (cs : List Char) :
    leadingEscape? (c :: cs) = none := by
  refine leadingEscape?_of_ne ?_ cs
  rintro rfl
  simp [digit?_mark] at h

theorem leadingEscape?_digits {mark hi lo : Char} {cs : List Char} {b : UInt8}
    (h : leadingEscape? (mark :: hi :: lo :: cs) = some b) :
    leadingEscape? (hi :: lo :: cs) = none ∧ leadingEscape? (lo :: cs) = none := by
  obtain ⟨x, y, hx, hy, -⟩ := exists_digits h
  exact ⟨leadingEscape?_digit hx _, leadingEscape?_digit hy _⟩

theorem utf8_escape {hi lo : Char} {cs : List Char} {b : UInt8}
    (h : leadingEscape? ('%' :: hi :: lo :: cs) = some b) :
    utf8 ('%' :: hi :: lo :: cs) = '%'.toUInt8 :: hi.toUInt8 :: lo.toUInt8 :: utf8 cs := by
  obtain ⟨x, y, hx, hy, -⟩ := exists_digits h
  rw [utf8_cons, utf8_cons, utf8_cons, utf8EncodeChar_ascii (by decide),
    utf8EncodeChar_ascii (toNat_lt_of_digit? hx), utf8EncodeChar_ascii (toNat_lt_of_digit? hy)]
  rfl

theorem inEscape_zero (cs : List Char) : inEscape cs 0 = false := rfl

theorem inEscape_succ (c : Char) (cs : List Char) (i : Nat) :
    inEscape (c :: cs) (i + 1) =
      (decide (i + 1 < 3) && (leadingEscape? (c :: cs)).isSome || inEscape cs i) := by
  rw [inEscape, List.range_succ_eq_map, List.any_cons, List.any_map]
  congr 1
  simp [inEscape, escapeAt?, Function.comp_def]

theorem bytesAt_succ {c : Char} {cs : List Char} {i : Nat}
    (h : leadingEscape? (c :: cs) = none ∨ 2 ≤ i) :
    bytesAt (c :: cs) (i + 1) = bytesAt cs i := by
  have hin : inEscape (c :: cs) (i + 1) = inEscape cs i := by
    rw [inEscape_succ]
    rcases h with hnone | hi
    · simp [hnone]
    · simp [Nat.not_lt.2 (Nat.succ_le_succ hi)]
  rw [bytesAt, bytesAt, hin, escapeAt?, escapeAt?, List.drop_succ_cons]

theorem replaced_eq_append (c : Char) (cs : List Char) : replaced (c :: cs) =
    bytesAt (c :: cs) 0 ++ (List.range cs.length).flatMap fun i => bytesAt (c :: cs) (i + 1) := by
  rw [replaced, List.length_cons, List.range_succ_eq_map, List.flatMap_cons, List.flatMap_map]

theorem replaced_cons {c : Char} {cs : List Char} (h : leadingEscape? (c :: cs) = none) :
    replaced (c :: cs) = String.utf8EncodeChar c ++ replaced cs := by
  have hfirst : bytesAt (c :: cs) 0 = String.utf8EncodeChar c := by
    simp [bytesAt, escapeAt?, h, inEscape_zero]
  rw [replaced_eq_append, hfirst, replaced]
  simp only [bytesAt_succ (.inl h)]

theorem replaced_escape {hi lo : Char} {cs : List Char} {b : UInt8}
    (h : leadingEscape? ('%' :: hi :: lo :: cs) = some b) :
    replaced ('%' :: hi :: lo :: cs) = b :: replaced cs := by
  obtain ⟨hhi, hlo⟩ := leadingEscape?_digits h
  -- the places of the two digits give nothing, and from the third on every place gives what it
  -- gives in the rest alone
  have hfirst : bytesAt ('%' :: hi :: lo :: cs) 0 = [b] := by
    simp [bytesAt, escapeAt?, h]
  have hsecond : bytesAt ('%' :: hi :: lo :: cs) 1 = [] := by
    simp [bytesAt, escapeAt?, hhi, inEscape_succ, h]
  have hthird : bytesAt ('%' :: hi :: lo :: cs) 2 = [] := by
    simp [bytesAt, escapeAt?, hlo, inEscape_succ, h]
  have hrest : ∀ i, bytesAt ('%' :: hi :: lo :: cs) (i + 3) = bytesAt cs i := by
    intro i
    rw [bytesAt_succ (.inr (by omega)), bytesAt_succ (.inl hhi), bytesAt_succ (.inl hlo)]
  rw [replaced_eq_append, List.length_cons, List.length_cons, List.range_succ_eq_map,
    List.flatMap_cons, List.flatMap_map, List.range_succ_eq_map, List.flatMap_cons,
    List.flatMap_map, hfirst, hsecond, hthird, replaced]
  simp only [hrest, List.singleton_append, List.nil_append]

theorem escapeCount_cons (c : Char) (cs : List Char) : escapeCount (c :: cs) =
    escapeCount cs + if (leadingEscape? (c :: cs)).isSome then 1 else 0 := by
  rw [escapeCount, List.length_cons, List.range_succ_eq_map, List.countP_cons, List.countP_map]
  rfl

theorem escapeCount_plain {c : Char} {cs : List Char} (h : leadingEscape? (c :: cs) = none) :
    escapeCount (c :: cs) = escapeCount cs := by
  simp [escapeCount_cons, h]

theorem escapeCount_escape {hi lo : Char} {cs : List Char} {b : UInt8}
    (h : leadingEscape? ('%' :: hi :: lo :: cs) = some b) :
    escapeCount ('%' :: hi :: lo :: cs) = escapeCount cs + 1 := by
  obtain ⟨hhi, hlo⟩ := leadingEscape?_digits h
  rw [escapeCount_cons, h, escapeCount_plain hhi, escapeCount_plain hlo]
  rfl

@[elab_as_elim]
theorem escape_induction {motive : List Char → Prop} (cs : List Char) (nil : motive [])
    (plain : ∀ c cs, leadingEscape? (c :: cs) = none → motive cs → motive (c :: cs))
    (escape : ∀ hi lo cs b, leadingEscape? ('%' :: hi :: lo :: cs) = some b → motive cs →
      motive ('%' :: hi :: lo :: cs)) : motive cs := by
  induction hn : cs.length using Nat.strong_induction_on generalizing cs with
  | _ n ih =>
    cases cs with
    | nil => exact nil
    | cons c cs =>
      cases hlead : leadingEscape? (c :: cs) with
      | none => exact plain c cs hlead (ih cs.length (by simp [← hn]) cs rfl)
      | some b =>
        obtain ⟨hi, lo, rest, _, _, heq, -⟩ := leadingEscape?_eq_some.1 hlead
        rw [heq] at hlead hn ⊢
        refine escape hi lo rest b hlead (ih rest.length ?_ rest rfl)
        simp only [← hn, List.length_cons]
        omega

theorem length_replaced (cs : List Char) :
    (replaced cs).length + 2 * escapeCount cs = (utf8 cs).length := by
  induction cs using escape_induction with
  | nil => rfl
  | plain c cs h ih =>
    rw [replaced_cons h, escapeCount_plain h, utf8_cons, List.length_append, List.length_append,
      ← ih, Nat.add_assoc]
  | escape hi lo cs b h ih =>
    rw [replaced_escape h, escapeCount_escape h, utf8_escape h]
    simp only [List.length_cons, ← ih]
    omega

theorem replaced_of_escapeCount {cs : List Char} (h : escapeCount cs = 0) :
    replaced cs = utf8 cs := by
  induction cs using escape_induction with
  | nil => rfl
  | plain c cs hlead ih =>
    rw [escapeCount_plain hlead] at h
    rw [replaced_cons hlead, ih h, utf8_cons]
  | escape hi lo cs b hlead _ =>
    rw [escapeCount_escape hlead] at h
    omega

theorem hexDigit?_toUInt8 {c : Char} (hc : c.toNat < 0x80) :
    hexDigit? c.toUInt8 = (digit? c).map UInt8.ofNat := by
  have hall : ∀ n < 0x80, hexDigit? (Char.ofNat n).toUInt8 =
      (digit? (Char.ofNat n)).map UInt8.ofNat := by decide +kernel
  have h := hall c.toNat hc
  rwa [Char.ofNat_toNat] at h

theorem toNat_lt_of_hexDigit? {b x : UInt8} (h : hexDigit? b = some x) : b.toNat < 0x80 := by
  unfold hexDigit? at h
  split_ifs at h <;> simp_all [UInt8.le_iff_toNat_le] <;> omega

theorem unescape_of_escape? {mark hi lo b : UInt8} {rest : List UInt8}
    (h : escape? mark hi lo = some b) :
    unescape (mark :: hi :: lo :: rest) = b :: unescape rest := by
  rw [unescape, h]

theorem unescape_cons {mark : UInt8} {rest : List UInt8}
    (h : ∀ hi lo bytes, rest = hi :: lo :: bytes → escape? mark hi lo = none) :
    unescape (mark :: rest) = mark :: unescape rest := by
  rcases rest with _ | ⟨hi, _ | ⟨lo, rest⟩⟩
  · rfl
  · rfl
  · rw [unescape, h hi lo rest rfl]

theorem unescape_append {bytes rest : List UInt8} (h : '%'.toUInt8 ∉ bytes) :
    unescape (bytes ++ rest) = bytes ++ unescape rest := by
  induction bytes with
  | nil => rfl
  | cons b bytes ih =>
    obtain ⟨hb, hbytes⟩ := not_or.1 (mt List.mem_cons.2 h)
    have hnone : ∀ hi lo, escape? b hi lo = none := fun hi lo => if_neg (Ne.symm hb)
    rw [List.cons_append, unescape_cons fun hi lo _ _ => hnone hi lo, ih hbytes, List.cons_append]

theorem unescape_utf8_escape {hi lo : Char} {cs : List Char} {b : UInt8}
    (h : leadingEscape? ('%' :: hi :: lo :: cs) = some b) :
    unescape (utf8 ('%' :: hi :: lo :: cs)) = b :: unescape (utf8 cs) := by
  obtain ⟨x, y, hx, hy, rfl⟩ := exists_digits h
  rw [utf8_escape h]
  refine unescape_of_escape? ?_
  rw [escape?, if_pos rfl, hexDigit?_toUInt8 (toNat_lt_of_digit? hx),
    hexDigit?_toUInt8 (toNat_lt_of_digit? hy), hx, hy]
  simp

theorem exists_hexDigits {mark hi lo b : UInt8} (h : escape? mark hi lo = some b) :
    ∃ x y, hexDigit? hi = some x ∧ hexDigit? lo = some y := by
  unfold escape? at h
  split at h
  · split at h
    · exact ⟨_, _, ‹_›, ‹_›⟩
    · simp at h
  · simp at h

theorem exists_digit_of_utf8_eq_cons {cs : List Char} {b x : UInt8} {bytes : List UInt8}
    (hb : hexDigit? b = some x) (h : utf8 cs = b :: bytes) :
    ∃ c ds n, cs = c :: ds ∧ digit? c = some n ∧ utf8 ds = bytes := by
  obtain ⟨c, ds, rfl, hc, rfl, hds⟩ := exists_of_utf8_eq_cons (toNat_lt_of_hexDigit? hb) h
  rw [hexDigit?_toUInt8 hc] at hb
  obtain ⟨n, hn, -⟩ := Option.map_eq_some_iff.1 hb
  exact ⟨c, ds, n, rfl, hn, hds⟩

theorem unescape_utf8_cons {c : Char} {cs : List Char} (h : leadingEscape? (c :: cs) = none) :
    unescape (utf8 (c :: cs)) = String.utf8EncodeChar c ++ unescape (utf8 cs) := by
  rw [utf8_cons]
  by_cases hc : c = '%'
  · subst hc
    rw [utf8EncodeChar_ascii (by decide)]
    -- if the reader took this `%` for an escape, the text too would have two digits behind it
    refine unescape_cons fun hi lo bytes hbytes => ?_
    refine Option.eq_none_iff_forall_ne_some.2 fun b hb => ?_
    obtain ⟨x, y, hhi, hlo⟩ := exists_hexDigits hb
    obtain ⟨c₁, ds, m, rfl, hm, hds⟩ := exists_digit_of_utf8_eq_cons hhi hbytes
    obtain ⟨c₂, rest, n, rfl, hn, -⟩ := exists_digit_of_utf8_eq_cons hlo hds
    have hsome := leadingEscape?_eq_some.2 ⟨c₁, c₂, rest, m, n, rfl, hm, hn, rfl⟩
    rw [h] at hsome
    simp at hsome
  -- the bytes of another character have no `%` among them, so the reader goes over them one by one
  · exact unescape_append fun hmem => hc ((mem_utf8EncodeChar_ascii (by decide)).1 hmem)

/-- The reader replaces the escapes of all places. -/
theorem unescape_utf8 (cs : List Char) : unescape (utf8 cs) = replaced cs := by
  induction cs using escape_induction with
  | nil => rfl
  | plain c cs h ih => rw [unescape_utf8_cons h, replaced_cons h, ih]
  | escape hi lo cs b h ih => rw [unescape_utf8_escape h, replaced_escape h, ih]

def IsText (bytes : List UInt8) : Prop := ∃ text : String, utf8 text.toList = bytes

theorem unescapeText_of_utf8_eq {raw text : String} (h : utf8 text.toList = replaced raw.toList) :
    unescapeText raw = text := by
  rw [unescapeText, toList_toUTF8, unescape_utf8, fromUTF8?_eq_some_iff.2 h]

theorem unescapeText_of_not_isText {raw : String} (h : ¬ IsText (replaced raw.toList)) :
    unescapeText raw = raw := by
  rw [unescapeText, toList_toUTF8, unescape_utf8]
  split
  · rename_i text htext
    exact absurd ⟨text, fromUTF8?_eq_some_iff.1 htext⟩ h
  · rfl

theorem escapeCount_of_not_mem {cs : List Char} (h : '%' ∉ cs) : escapeCount cs = 0 := by
  induction cs with
  | nil => rfl
  | cons c cs ih =>
    obtain ⟨hc, hcs⟩ := not_or.1 (mt List.mem_cons.2 h)
    rw [escapeCount_plain (leadingEscape?_of_ne (Ne.symm hc) cs), ih hcs]

theorem decode_eq_unescapeText (raw : String) : decode raw = unescapeText raw := by
  rw [decode]
  split
  · rfl
  · rename_i hmark
    have hnone := escapeCount_of_not_mem (by simpa using hmark)
    exact (unescapeText_of_utf8_eq (replaced_of_escapeCount hnone).symm).symm

theorem leadingEscape?_append_mark {cs : List Char} (h : cs ≠ []) (rest : List Char) :
    leadingEscape? (cs ++ '%' :: rest) = leadingEscape? cs := by
  rcases cs with _ | ⟨c, _ | ⟨d, _ | ⟨e, cs⟩⟩⟩
  · exact absurd rfl h
  · rcases rest with _ | ⟨d, rest⟩
    · rfl
    · simp [leadingEscape?, digit?_mark]
  · simp [leadingEscape?, digit?_mark]
  · rfl

theorem replaced_append_mark (front rest : List Char) :
    replaced (front ++ '%' :: rest) = replaced front ++ replaced ('%' :: rest) := by
  induction front using escape_induction with
  | nil => rfl
  | plain c cs h ih =>
    have hlead := leadingEscape?_append_mark (List.cons_ne_nil c cs) rest
    rw [h, List.cons_append] at hlead
    rw [List.cons_append, replaced_cons hlead, replaced_cons h, ih, List.append_assoc]
  | escape hi lo cs b h ih =>
    have hlead := leadingEscape?_append_mark (List.cons_ne_nil '%' (hi :: lo :: cs)) rest
    rw [h] at hlead
    simp only [List.cons_append] at hlead ⊢
    rw [replaced_escape hlead, replaced_escape h, ih, List.cons_append]

/-- A value is decoded to the text that it is with all its escapes replaced, two bytes shorter for
each; if there is no such text, it stays with all its escapes. So it stays exactly if it has no
escape or there is no such text. A `%` that begins no escape stays, and hides none behind it. -/
theorem decode_eq_replaced (raw : String) :
    (∀ text : String, utf8 text.toList = replaced raw.toList → decode raw = text ∧
      text.utf8ByteSize + 2 * escapeCount raw.toList = raw.utf8ByteSize) ∧
    (¬ IsText (replaced raw.toList) → decode raw = raw) ∧
    (decode raw = raw ↔ escapeCount raw.toList = 0 ∨ ¬ IsText (replaced raw.toList)) ∧
    ∀ front rest, raw.toList = front ++ '%' :: rest → leadingEscape? ('%' :: rest) = none →
      replaced raw.toList = replaced front ++ utf8 ['%'] ++ replaced rest := by
  rw [decode_eq_unescapeText]
  have hlength : ∀ text : String, utf8 text.toList = replaced raw.toList →
      text.utf8ByteSize + 2 * escapeCount raw.toList = raw.utf8ByteSize := by
    intro text htext
    rw [← length_utf8, ← length_utf8, htext, length_replaced]
  refine ⟨?_, unescapeText_of_not_isText, ⟨?_, ?_⟩, ?_⟩
  · intro text htext
    exact ⟨unescapeText_of_utf8_eq htext, hlength text htext⟩
  · intro hraw
    refine or_iff_not_imp_right.2 fun htext => ?_
    obtain ⟨text, htext⟩ := not_not.1 htext
    obtain rfl : text = raw := (unescapeText_of_utf8_eq htext).symm.trans hraw
    have := hlength text htext
    omega
  · rintro (hnone | htext)
    · exact unescapeText_of_utf8_eq (replaced_of_escapeCount hnone).symm
    · exact unescapeText_of_not_isText htext
  · intro front rest hraw hlead
    rw [hraw, replaced_append_mark, replaced_cons hlead, List.append_assoc]
    simp

example : decode "%%4%41é" = "%%4Aé" ∧ decode "%41%FF" = "%41%FF" := by decide +kernel

end Router.Percent
