import Mathlib.Data.List.Basic
import Router.Template.Scan

/-!
What it means that the bytes of a template read the bytes of a path: a star takes any bytes, a colon
takes both texts to their next slash, and every other byte stands for itself. `ReadsAt` says the same
of what is left of two texts from an index on, in the form in which the loop meets them.
-/

set_option autoImplicit false
set_option relaxedAutoImplicit false

namespace Router.Template.Scan

def fromSlash (bytes : List UInt8) : List UInt8 := bytes.dropWhile (· != slash)

/-- The bytes of a template read all bytes of a path. -/
inductive Reads : List UInt8 → List UInt8 → Prop
  | done : Reads [] []
  | splat {template path : List UInt8} (taken : List UInt8) :
      Reads template path → Reads (star :: template) (taken ++ path)
  | param {template path : List UInt8} :
      Reads (fromSlash template) (fromSlash path) → Reads (colon :: template) path
  | byte {b : UInt8} {template path : List UInt8} : b ≠ star → b ≠ colon →
      Reads template path → Reads (b :: template) (b :: path)

theorem colon_ne_star : colon ≠ star := by decide

theorem colon_ne_slash : colon ≠ slash := by decide

theorem reads_nil {path : List UInt8} : Reads [] path ↔ path = [] := by
  constructor
  · intro h
    cases h
    rfl
  · rintro rfl
    exact .done

theorem reads_star {template path : List UInt8} :
    Reads (star :: template) path ↔ ∃ rest, rest <:+ path ∧ Reads template rest := by
  constructor
  · intro h
    cases h with
    | splat taken h => exact ⟨_, List.suffix_append taken _, h⟩
    | byte hstar _ _ => exact absurd rfl hstar
  · intro h
    obtain ⟨rest, ⟨taken, rfl⟩, h⟩ := h
    exact .splat taken h

theorem reads_colon {template path : List UInt8} :
    Reads (colon :: template) path ↔ Reads (fromSlash template) (fromSlash path) := by
  constructor
  · intro h
    cases h with
    | param h => exact h
    | byte _ hcolon _ => exact absurd rfl hcolon
  · exact .param

theorem reads_byte {b : UInt8} {template path : List UInt8} (hstar : b ≠ star) (hcolon : b ≠ colon) :
    Reads (b :: template) path ↔ ∃ rest, path = b :: rest ∧ Reads template rest := by
  constructor
  · intro h
    cases h with
    | splat _ _ => exact absurd rfl hstar
    | param _ => exact absurd rfl hcolon
    | byte _ _ h => exact ⟨_, rfl, h⟩
  · intro h
    obtain ⟨rest, rfl, h⟩ := h
    exact .byte hstar hcolon h

theorem reads_append {text template path : List UInt8} (hstar : star ∉ text) (hcolon : colon ∉ text) :
    Reads (text ++ template) path ↔ ∃ rest, path = text ++ rest ∧ Reads template rest := by
  induction text generalizing path with
  | nil => simp
  | cons b text ih =>
    simp only [List.mem_cons, not_or] at hstar hcolon
    rw [List.cons_append, reads_byte (Ne.symm hstar.1) (Ne.symm hcolon.1)]
    constructor
    · intro h
      obtain ⟨_, rfl, h⟩ := h
      obtain ⟨rest, rfl, htemplate⟩ := (ih hstar.2 hcolon.2).1 h
      exact ⟨rest, rfl, htemplate⟩
    · intro h
      obtain ⟨rest, rfl, h⟩ := h
      exact ⟨text ++ rest, rfl, (ih hstar.2 hcolon.2).2 ⟨rest, rfl, h⟩⟩

theorem le_nextSlash {bytes : Bytes} {i : Nat} (hi : i ≤ bytes.size) : i ≤ nextSlash bytes i := by
  induction i using nextSlash.induct bytes with
  | case1 i h hslash =>
    have heq : nextSlash bytes i = i := by rw [nextSlash, dif_pos h, if_pos hslash]
    omega
  | case2 i h hslash ih =>
    have heq : nextSlash bytes i = nextSlash bytes (i + 1) := by
      rw [nextSlash, dif_pos h, if_neg hslash]
    have hle := ih h
    omega
  | case3 i h =>
    have heq : nextSlash bytes i = bytes.size := by rw [nextSlash, dif_neg h]
    omega

theorem nextSlash_le (bytes : Bytes) (i : Nat) : nextSlash bytes i ≤ bytes.size := by
  induction i using nextSlash.induct bytes with
  | case1 i h hslash =>
    have heq : nextSlash bytes i = i := by rw [nextSlash, dif_pos h, if_pos hslash]
    omega
  | case2 i h hslash ih =>
    have heq : nextSlash bytes i = nextSlash bytes (i + 1) := by
      rw [nextSlash, dif_pos h, if_neg hslash]
    omega
  | case3 i h =>
    have heq : nextSlash bytes i = bytes.size := by rw [nextSlash, dif_neg h]
    omega

theorem lt_nextSlash {bytes : Bytes} {i : Nat} {b : UInt8} (hb : bytes[i]? = some b)
    (hslash : b ≠ slash) : i < nextSlash bytes i := by
  obtain ⟨hi, rfl⟩ := Array.getElem?_eq_some_iff.1 hb
  rw [nextSlash, dif_pos hi, if_neg hslash]
  exact le_nextSlash (Nat.succ_le_of_lt hi)

theorem drop_nextSlash (bytes : Bytes) (i : Nat) :
    bytes.toList.drop (nextSlash bytes i) = fromSlash (bytes.toList.drop i) := by
  induction i using nextSlash.induct bytes with
  | case1 i h hslash =>
    rw [nextSlash, dif_pos h, if_pos hslash, fromSlash, List.drop_eq_getElem_cons (by simpa using h)]
    simp [hslash]
  | case2 i h hslash ih =>
    rw [nextSlash, dif_pos h, if_neg hslash, ih, fromSlash, fromSlash,
      List.drop_eq_getElem_cons (i := i) (by simpa using h)]
    simp [hslash]
  | case3 i h =>
    rw [nextSlash, dif_neg h, List.drop_eq_nil_of_le (by simp),
      List.drop_eq_nil_of_le (by simpa using h)]
    rfl

theorem nextSlash_mono {bytes : Bytes} {i j : Nat} (hij : i ≤ j) (hj : j ≤ bytes.size) :
    nextSlash bytes i ≤ nextSlash bytes j := by
  induction i using nextSlash.induct bytes with
  | case1 i h hslash =>
    have heq : nextSlash bytes i = i := by rw [nextSlash, dif_pos h, if_pos hslash]
    have hle := le_nextSlash hj
    omega
  | case2 i h hslash ih =>
    rcases Nat.eq_or_lt_of_le hij with rfl | hlt
    · exact Nat.le_refl _
    · have heq : nextSlash bytes i = nextSlash bytes (i + 1) := by
        rw [nextSlash, dif_pos h, if_neg hslash]
      have hle := ih hlt
      omega
  | case3 i h =>
    obtain rfl : i = j := by omega
    exact Nat.le_refl _

/-- The template from `t` on reads the path from `p` on. -/
def ReadsAt (template path : Bytes) (t p : Nat) : Prop :=
  Reads (template.toList.drop t) (path.toList.drop p)

variable {template path : Bytes} {t p : Nat}

theorem readsAt_end (ht : template[t]? = none) (hp : p ≤ path.size) :
    ReadsAt template path t p ↔ p = path.size := by
  have hsize : template.size ≤ t := by simpa using ht
  rw [ReadsAt, List.drop_eq_nil_of_le (by simpa using hsize), reads_nil, List.drop_eq_nil_iff,
    Array.length_toList]
  omega

private theorem drop_eq_cons {b : UInt8} (ht : template[t]? = some b) :
    template.toList.drop t = b :: template.toList.drop (t + 1) := by
  obtain ⟨h, rfl⟩ := Array.getElem?_eq_some_iff.1 ht
  exact List.drop_eq_getElem_cons (by simpa using h)

theorem readsAt_star (ht : template[t]? = some star) (hp : p ≤ path.size) :
    ReadsAt template path t p ↔
      ∃ q, p ≤ q ∧ q ≤ path.size ∧ ReadsAt template path (t + 1) q := by
  rw [ReadsAt, drop_eq_cons ht, reads_star]
  constructor
  · intro h
    obtain ⟨rest, hrest, h⟩ := h
    have hlen : rest.length ≤ path.size - p := by simpa using hrest.length_le
    rw [List.suffix_iff_eq_drop, List.drop_drop, List.length_drop, Array.length_toList] at hrest
    refine ⟨p + (path.size - p - rest.length), by omega, by omega, ?_⟩
    rwa [ReadsAt, ← hrest]
  · intro h
    obtain ⟨q, hpq, -, h⟩ := h
    refine ⟨path.toList.drop q, ?_, h⟩
    rw [show q = p + (q - p) by omega, ← List.drop_drop]
    exact List.drop_suffix _ _

theorem readsAt_colon (ht : template[t]? = some colon) :
    ReadsAt template path t p ↔
      ReadsAt template path (nextSlash template t) (nextSlash path p) := by
  rw [ReadsAt, ReadsAt, drop_nextSlash, drop_nextSlash, drop_eq_cons ht, reads_colon]
  simp [fromSlash, colon_ne_slash]

theorem readsAt_byte {b : UInt8} (ht : template[t]? = some b) (hstar : b ≠ star)
    (hcolon : b ≠ colon) :
    ReadsAt template path t p ↔ path[p]? = some b ∧ ReadsAt template path (t + 1) (p + 1) := by
  rw [ReadsAt, drop_eq_cons ht, reads_byte hstar hcolon]
  constructor
  · intro h
    obtain ⟨rest, hrest, h⟩ := h
    have hp : path[p]? = some b := by
      rw [← Array.getElem?_toList]
      simpa using congrArg List.head? hrest
    rw [drop_eq_cons hp] at hrest
    obtain rfl := (List.cons.inj hrest).2
    exact ⟨hp, h⟩
  · intro h
    obtain ⟨hp, h⟩ := h
    exact ⟨path.toList.drop (p + 1), drop_eq_cons hp, h⟩

end Router.Template.Scan
