/-!
Text as a list of characters, with its length in UTF-8 bytes.

A cut at a byte count exists only between two characters: `splitAtByte?` gives the one prefix
with that many bytes, and nothing when the count falls inside a character or past the end.
-/

namespace ExprLexer

abbrev Text := List Char

namespace Text

/-- The number of UTF-8 bytes. -/
def byteLength : Text → Nat
  | [] => 0
  | c :: t => c.utf8Size + byteLength t

@[simp] theorem byteLength_nil : byteLength [] = 0 := rfl
@[simp] theorem byteLength_cons (c : Char) (t : Text) :
    byteLength (c :: t) = c.utf8Size + byteLength t := rfl
theorem byteLength_append (s t : Text) : byteLength (s ++ t) = byteLength s + byteLength t := by
  induction s with
  | nil => simp
  | cons c s ih => simp [ih, Nat.add_assoc]

theorem byteLength_pos {t : Text} (h : t ≠ []) : 0 < byteLength t := by
  obtain ⟨c, t, rfl⟩ := List.exists_cons_of_ne_nil h
  exact Nat.add_pos_left c.utf8Size_pos _

/-- The prefix of exactly `n` bytes and what follows it. -/
def splitAtByte? : Nat → Text → Option (Text × Text)
  | 0, t => some ([], t)
  | _ + 1, [] => none
  | n + 1, c :: t =>
    if c.utf8Size ≤ n + 1 then
      (splitAtByte? (n + 1 - c.utf8Size) t).map fun (p, rest) => (c :: p, rest)
    else none

/-- What follows `p`, in a text that begins with it. -/
def dropLiteral? : Text → Text → Option Text
  | [], t => some t
  | _ :: _, [] => none
  | p :: ps, c :: t => if p = c then dropLiteral? ps t else none

/-- The decimal digits of a number. -/
def ofNat (n : Nat) : Text := Nat.toDigits 10 n

/-- The character with a code point, if there is one. -/
def scalar? (n : Nat) : Option Char :=
  if h : n.isValidChar then some (Char.ofNatAux n h) else none

/-- The texts with `sep` between neighbours. -/
def join (sep : Text) (ts : List Text) : Text := sep.intercalate ts

theorem append_of_splitAtByte? {n : Nat} {t p rest : Text}
    (h : splitAtByte? n t = some (p, rest)) : p ++ rest = t := by
  fun_induction splitAtByte? n t generalizing p with
  | case1 t => simp_all
  | case2 => simp at h
  | case3 n c t _ ih =>
    simp only [Option.map_eq_some_iff, Prod.exists, Prod.mk.injEq] at h
    obtain ⟨q, r, hq, rfl, rfl⟩ := h
    simp [ih hq]
  | case4 => simp at h

theorem byteLength_of_splitAtByte? {n : Nat} {t p rest : Text}
    (h : splitAtByte? n t = some (p, rest)) : byteLength p = n := by
  fun_induction splitAtByte? n t generalizing p with
  | case1 t => simp_all
  | case2 => simp at h
  | case3 n c t hc ih =>
    simp only [Option.map_eq_some_iff, Prod.exists, Prod.mk.injEq] at h
    obtain ⟨q, r, hq, rfl, rfl⟩ := h
    simp [ih hq]
    omega
  | case4 => simp at h

theorem splitAtByte?_append (p t : Text) : splitAtByte? (byteLength p) (p ++ t) = some (p, t) := by
  induction p with
  | nil => rw [byteLength_nil, List.nil_append, splitAtByte?]
  | cons c p ih =>
    obtain ⟨n, hn⟩ : ∃ n, c.utf8Size + byteLength p = n + 1 :=
      Nat.exists_eq_add_one.mpr (Nat.add_pos_left c.utf8Size_pos _)
    have hc : c.utf8Size ≤ n + 1 := by omega
    have hp : n + 1 - c.utf8Size = byteLength p := by omega
    rw [byteLength_cons, List.cons_append, hn, splitAtByte?, if_pos hc, hp, ih, Option.map_some]

end Text

end ExprLexer
