import ExprLexer.Text
import Mathlib.Tactic.Lemma

/-!
Where a number of bytes cuts a text.

The UTF-8 encoding of a text can only be cut between two characters. So a number of bytes is the
length of a prefix, which is then the only one of that length, or it is more than the text has, or
it ends inside a character of several bytes. A cut of the text is a cut of its bytes.
-/

namespace ExprLexer.Text

variable {t p p' rest rest' : Text} {c : Char} {n : Nat}

/-- The first `n` bytes of the text end inside one of its characters. -/
def EndsInside (t : Text) (n : Nat) : Prop :=
  ∃ a c b, a ++ c :: b = t ∧ a.utf8Encode.size < n ∧ n < (a ++ [c]).utf8Encode.size

/-! ### Bytes -/

lemma size_utf8Encode (t : Text) : t.utf8Encode.size = byteLength t := by
  induction t with
  | nil => rfl
  | cons c t ih =>
    have hc : [c].utf8Encode.size = c.utf8Size := by simp [List.utf8Encode_singleton]
    rw [List.utf8Encode_cons, ByteArray.size_append, ih, hc, byteLength_cons]

/-- The bytes of a prefix are the first ones, as many as it has. -/
lemma extract_utf8Encode_left (h : p ++ rest = t) :
    t.utf8Encode.extract 0 p.utf8Encode.size = p.utf8Encode := by
  rw [← h, List.utf8Encode_append]
  exact ByteArray.extract_append_eq_left rfl

/-- The bytes behind those of a prefix are the bytes of the rest. -/
lemma extract_utf8Encode_right (h : p ++ rest = t) :
    t.utf8Encode.extract p.utf8Encode.size t.utf8Encode.size = rest.utf8Encode := by
  rw [← h, List.utf8Encode_append]
  exact ByteArray.extract_append_eq_right rfl ByteArray.size_append

/-! ### Cuts -/

/-- A cut leaves a prefix of the given number of bytes, and exists for every prefix. -/
lemma splitAtByte?_eq_some_iff :
    splitAtByte? n t = some (p, rest) ↔ p ++ rest = t ∧ byteLength p = n := by
  constructor
  · intro h
    exact ⟨append_of_splitAtByte? h, byteLength_of_splitAtByte? h⟩
  · rintro ⟨rfl, rfl⟩
    exact splitAtByte?_append p rest

/-- Prefixes with the same number of bytes are the same, and so is what follows them. -/
lemma append_inj_of_byteLength (h : p ++ rest = p' ++ rest')
    (hn : byteLength p = byteLength p') : p = p' ∧ rest = rest' := by
  have hcut : splitAtByte? (byteLength p) (p ++ rest) = some (p', rest') :=
    splitAtByte?_eq_some_iff.mpr ⟨h.symm, hn.symm⟩
  rw [splitAtByte?_append] at hcut
  simpa using hcut

/-! ### Places without a cut -/

lemma endsInside_iff :
    t.EndsInside n ↔
      ∃ a c b, a ++ c :: b = t ∧ byteLength a < n ∧ n < byteLength a + c.utf8Size := by
  simp only [EndsInside, size_utf8Encode, byteLength_append, byteLength_cons, byteLength_nil,
    Nat.add_zero]

/-- Inside the first character, or behind it and inside another. -/
lemma endsInside_cons_iff :
    EndsInside (c :: t) n ↔
      (0 < n ∧ n < c.utf8Size) ∨ ∃ k, n = c.utf8Size + k ∧ t.EndsInside k := by
  simp only [endsInside_iff]
  constructor
  · rintro ⟨a, d, b, h, above, below⟩
    cases a with
    | nil =>
      obtain ⟨rfl, rfl⟩ := List.cons.inj h
      rw [byteLength_nil] at above below
      exact .inl ⟨above, by omega⟩
    | cons x a =>
      obtain ⟨rfl, rfl⟩ := List.cons.inj h
      rw [byteLength_cons] at above below
      exact .inr ⟨n - x.utf8Size, by omega, a, d, b, rfl, by omega, by omega⟩
  · rintro (⟨above, below⟩ | ⟨k, rfl, a, d, b, rfl, above, below⟩)
    · exact ⟨[], c, t, rfl, above, by rw [byteLength_nil]; omega⟩
    · refine ⟨c :: a, d, b, rfl, ?_, ?_⟩ <;> rw [byteLength_cons] <;> omega

/-- **There is no cut** exactly past the end and inside a character. -/
lemma splitAtByte?_eq_none_iff :
    splitAtByte? n t = none ↔ byteLength t < n ∨ t.EndsInside n := by
  fun_induction splitAtByte? n t with
  | case1 t =>
    have hnot : ¬t.EndsInside 0 := by
      rintro ⟨a, c, b, -, above, -⟩
      omega
    simp [hnot]
  | case2 n => simp
  | case3 n c t fits ih =>
    rw [Option.map_eq_none_iff, ih, byteLength_cons, endsInside_cons_iff]
    constructor
    · rintro (past | inside)
      · exact .inl (by omega)
      · exact .inr (.inr ⟨_, by omega, inside⟩)
    · rintro (past | ⟨-, below⟩ | ⟨k, hk, inside⟩)
      · exact .inl (by omega)
      · omega
      · have hk' : n + 1 - c.utf8Size = k := by omega
        exact .inr (hk' ▸ inside)
  | case4 n c t fits =>
    have hinside : EndsInside (c :: t) (n + 1) :=
      endsInside_cons_iff.mpr (.inl ⟨by omega, by omega⟩)
    simp [hinside]

end ExprLexer.Text
