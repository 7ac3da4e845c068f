import ExprLexer.Proofs.Json.Reading

/-!
Skipping a value, whatever it is.

The loop keeps the brackets that are open on a stack, and what is on the stack does not matter until
a bracket is closed. So for a value, and for the items up to a closing bracket, there is one fact
each: the loop comes to their end with the stack as it was, and needs no more rounds than it reads
symbols. The facts on items follow from those on values by induction on the items, and those on
values by induction on the value.
-/

namespace ExprLexer.Json

/-- The loop comes to the end of a value in front of `s` with this stack, in no more rounds than
the symbols it reads; `m` symbols were ahead. -/
def Skips (run : Nat → Except ReadError Cursor) (m : Nat) (stack : List Opener)
    (s : List Symbol) : Prop :=
  ∃ c k, c.rest = s ∧ k + s.length ≤ m ∧ ∀ n, run (n + k) = skipLoop n .rest stack c

namespace Skips

variable {run : Nat → Except ReadError Cursor} {m m' : Nat} {stack stack' : List Opener}
  {s u : List Symbol} {c : Cursor}

lemma refl (hc : c.rest = s) : Skips (skipLoop · .rest stack c) s.length stack s :=
  ⟨c, 0, hc, by omega, fun _ => rfl⟩

/-- A round that reads a symbol goes in front. -/
lemma step (run' : Nat → Except ReadError Cursor) (hrun : ∀ n, run (n + 1) = run' n)
    (hm : m' < m) (h : Skips run' m' stack s) : Skips run m stack s := by
  obtain ⟨c, k, hc, hk, hrun'⟩ := h
  refine ⟨c, k + 1, hc, by omega, fun n => ?_⟩
  rw [← Nat.add_assoc, hrun, hrun']

lemma trans (h : Skips run m stack s)
    (h' : ∀ c, c.rest = s → Skips (skipLoop · .rest stack c) s.length stack' u) :
    Skips run m stack' u := by
  obtain ⟨c, k, hc, hk, hrun⟩ := h
  obtain ⟨c', k', hc', hk', hrun'⟩ := h' c hc
  refine ⟨c', k' + k, hc', by omega, fun n => ?_⟩
  rw [← Nat.add_assoc]
  exact (hrun (n + k')).trans (hrun' n)

end Skips

/-- The loop in front of an item of a list, or of a member of an object. -/
def skipItem (o : Opener) (stack : List Opener) (c : Cursor) (n : Nat) :
    Except ReadError Cursor := do
  if o = .object then skipLoop n .value (o :: stack) (← skipKey c)
  else skipLoop n .value (o :: stack) c

/-- The loop gets through every spelling of the value. -/
def SkipsValue (x : Json) : Prop :=
  ∀ ⦃w t : Text⦄ ⦃s : List Symbol⦄ ⦃c : Cursor⦄ (stack : List Opener), IsSpacing w → Spells x t →
    c.rest = Symbol.ofText w ++ (Symbol.ofText t ++ s) →
    Skips (skipLoop · .value stack c) c.rest.length stack s

/-- The loop gets through every spelling of the item. -/
def SkipsItem {α : Type} (o : Opener) (SpellsItem : α → Text → Prop) (x : α) : Prop :=
  ∀ ⦃w t : Text⦄ ⦃s : List Symbol⦄ ⦃c : Cursor⦄ (stack : List Opener), IsSpacing w →
    SpellsItem x t → c.rest = Symbol.ofText w ++ (Symbol.ofText t ++ s) →
    Skips (skipItem o stack c) c.rest.length (o :: stack) s

variable {w t : Text} {s : List Symbol} {c : Cursor} {stack : List Opener}

/-! ### Items -/

section Items

variable {α : Type} {o : Opener} {SpellsItem : α → Text → Prop} {xs : List α}

lemma isSpace_closer (o : Opener) : Cursor.isSpace o.closer = false := by cases o <;> decide

lemma skips_close (hw : IsSpacing w) (h : c.rest = Symbol.ofText w ++ .char o.closer :: s) :
    Skips (skipLoop · .rest (o :: stack) c) c.rest.length stack s := by
  have hskip := Cursor.rest_skipSpace hw (isSpace_closer o) h
  have hnext := Cursor.next?_of_rest hskip
  have hcomma : o.closer ≠ ',' := by cases o <;> decide
  refine Skips.step _ (fun n => ?_) ?_ (Skips.refl (Cursor.rest_advance hskip))
  · simp [skipLoop, hnext, hcomma]
  · simp [h]
    omega

lemma skips_items (hxs : ∀ x ∈ xs, SkipsItem o SpellsItem x)
    (ht : SpellsItems SpellsItem o.closer false xs t) (h : c.rest = Symbol.ofText t ++ s) :
    Skips (skipLoop · .rest (o :: stack) c) c.rest.length stack s := by
  induction xs generalizing t c with
  | nil =>
    cases ht with
    | nil hw =>
      rw [Symbol.ofText_append, List.append_assoc] at h
      exact skips_close hw h
  | cons x xs ih =>
    obtain ⟨hx, hxs⟩ := List.forall_mem_cons.mp hxs
    cases ht with
    | cons hg hspell hrest =>
      cases hg with
      | next hv hw =>
        simp only [Symbol.ofText_append, Symbol.ofText_cons, List.append_assoc,
          List.cons_append] at h
        have hskip := Cursor.rest_skipSpace hv (by decide) h
        have hnext := Cursor.next?_of_rest hskip
        have hadvance := Cursor.rest_advance hskip
        refine Skips.step (skipItem o stack c.skipSpace.advance) (fun n => ?_) ?_
          ((hx stack hw hspell hadvance).trans fun c hc => ?_)
        · simp [skipLoop, skipItem, hnext]
        · simp [h, hadvance]
          omega
        · rw [← hc]
          exact ih hxs hrest hc

end Items

/-! ### Values -/

/-- The bracket itself. -/
def Opener.char : Opener → Char
  | .list => '['
  | .object => '\x7b'

/-- What a round does at an opening bracket. -/
lemma skipLoop_opener (stack : List Opener) {o : Opener} {c' : Cursor}
    (hopen : c.skipSpace.next? = some o.char) (hc' : c.skipSpace.advance.skipSpace = c')
    (hend : c'.atEnd = false) (n : Nat) :
    skipLoop (n + 1) .value stack c =
      if c'.next? = some o.closer then skipLoop n .rest stack c'.advance
      else skipItem o stack c' n := by
  cases o <;> simp [skipLoop, skipItem, hopen, Opener.char, hc', hend]

/-- The items of a list, or the members of an object, and the brackets around them. -/
lemma skips_opened {α : Type} {o : Opener} {SpellsItem : α → Text → Prop} {xs : List α}
    (hvisible : ∀ ⦃x t⦄, SpellsItem x t → IsVisible t) (hxs : ∀ x ∈ xs, SkipsItem o SpellsItem x)
    (hw : IsSpacing w) (ht : SpellsItems SpellsItem o.closer true xs t)
    (h : c.rest = Symbol.ofText w ++ .char o.char :: (Symbol.ofText t ++ s)) :
    Skips (skipLoop · .value stack c) c.rest.length stack s := by
  have hskip := Cursor.rest_skipSpace hw (by cases o <;> decide) h
  have hround := skipLoop_opener stack (Cursor.next?_of_rest hskip) rfl
  have hadvance := Cursor.rest_advance hskip
  generalize hc' : c.skipSpace.advance.skipSpace = c' at hround
  cases ht with
  | nil hv =>
    rw [Symbol.ofText_append, List.append_assoc] at hadvance
    have hclose := Cursor.rest_skipSpace hv (isSpace_closer o) hadvance
    rw [hc'] at hclose
    have hround := hround (Cursor.atEnd_of_rest hclose)
    refine Skips.step _ (fun n => ?_) ?_ (Skips.refl (Cursor.rest_advance hclose))
    · rw [hround, if_pos (Cursor.next?_of_rest hclose)]
    · simp [h]
      omega
  | cons hg hspell hrest =>
    cases hg with
    | first hv =>
      obtain ⟨d, t', rfl, hd, hmem⟩ := hvisible hspell
      simp only [Symbol.ofText_append, Symbol.ofText_cons, List.append_assoc,
        List.cons_append] at hadvance
      have hitem := Cursor.rest_skipSpace hv hd hadvance
      rw [hc'] at hitem
      have hround := hround (Cursor.atEnd_of_rest hitem)
      have hne : d ≠ o.closer := by
        rintro rfl
        cases o <;> simp [Opener.closer] at hmem
      obtain ⟨hx, hxs⟩ := List.forall_mem_cons.mp hxs
      refine Skips.step (skipItem o stack c') (fun n => ?_) ?_
        ((hx stack isSpacing_nil hspell hitem).trans fun c hc => ?_)
      · rw [hround, if_neg]
        simp [Cursor.next?_of_rest hitem, hne]
      · simp [h, hitem]
        omega
      · rw [← hc]
        exact skips_items hxs hrest hc

lemma skips_scalar {d : Char} {u : List Symbol} (hskip : c.skipSpace.rest = .char d :: u)
    (hd : d ≠ '[' ∧ d ≠ '\x7b') (h : Reaches (skipScalar c.skipSpace) s)
    (hm : s.length < c.rest.length) : Skips (skipLoop · .value stack c) c.rest.length stack s := by
  obtain ⟨c', hscalar, hc'⟩ := h
  refine Skips.step _ (fun n => ?_) hm (Skips.refl hc')
  simp [skipLoop, Cursor.next?_of_rest hskip, hd, hscalar, bind, Except.bind]

lemma skipsItem_of_skipsValue {x : Json} (hx : SkipsValue x) : SkipsItem .list Spells x :=
  fun _ _ _ _ stack hw ht h => hx (.list :: stack) hw ht h

/-- A member is skipped with its key. -/
lemma skipsItem_member {m : Text × Json} (hm : SkipsValue m.2) :
    SkipsItem .object SpellsMember m := by
  intro w t s c stack hw ht h
  cases ht with
  | mk hk hv hw' hx =>
    simp only [Symbol.ofText_append, Symbol.ofText_cons, List.append_assoc, List.cons_append] at h
    have hskip := Cursor.rest_skipSpace hw (by decide) h
    obtain ⟨c₁, htext, hc₁⟩ := reaches_skipText hk (Cursor.rest_advance hskip)
    obtain ⟨c₂, hcolon, hc₂⟩ := reaches_takeColon hv hc₁
    obtain ⟨c', k, hc', hk', hrun⟩ := hm (.object :: stack) hw' hx hc₂
    have hlength : c₂.rest.length ≤ c.rest.length := by
      simp [hc₂, h]
      omega
    refine ⟨c', k, hc', Nat.le_trans hk' hlength, fun n => ?_⟩
    rw [← hrun]
    simp [skipItem, skipKey, Cursor.next?_of_rest hskip, htext, hcolon, bind, Except.bind]

/-- **The loop gets through every value.** -/
lemma skipsValue (x : Json) : SkipsValue x := by
  induction x with
  | null =>
    intro w t s c stack hw ht h
    cases ht
    have hskip := Cursor.rest_skipSpace hw (by decide) h
    refine skips_scalar hskip (by decide) ?_ (by simp [h]; omega)
    rw [skipScalar, Cursor.next?_of_rest hskip]
    exact reaches_takeWord (Cursor.rest_advance hskip)
  | bool b =>
    intro w t s c stack hw ht h
    cases ht
    all_goals
      have hskip := Cursor.rest_skipSpace hw (by decide) h
      refine skips_scalar hskip (by decide) ?_ (by simp [h]; omega)
      rw [skipScalar, Cursor.next?_of_rest hskip]
      exact reaches_takeWord (Cursor.rest_advance hskip)
  | text x =>
    intro w t s c stack hw ht h
    cases ht with
    | text hx =>
      have hskip := Cursor.rest_skipSpace hw (by decide) h
      refine skips_scalar hskip (by decide) ?_ (by simp [h]; omega)
      rw [skipScalar, Cursor.next?_of_rest hskip]
      exact reaches_skipText hx (Cursor.rest_advance hskip)
  | list xs ih =>
    intro w t s c stack hw ht h
    cases ht with
    | list hxs =>
      exact skips_opened (o := .list) (fun _ _ => Spells.isVisible)
        (fun x hx => skipsItem_of_skipsValue (ih x hx)) hw hxs h
  | object ms ih =>
    intro w t s c stack hw ht h
    cases ht with
    | object hms =>
      exact skips_opened (o := .object) (fun _ _ => SpellsMember.isVisible)
        (fun m hm => skipsItem_member (ih m hm)) hw hms h

/-- A value that is not wanted is followed to its end. -/
lemma reaches_skipValue {x : Json} (hw : IsSpacing w) (ht : Spells x t)
    (h : c.rest = Symbol.ofText w ++ (Symbol.ofText t ++ s)) : Reaches (skipValue c) s := by
  obtain ⟨c', k, hc', hk, hrun⟩ := skipsValue x [] hw ht h
  obtain ⟨n, hn⟩ : ∃ n, c.rest.length + 2 = n + 1 + k := ⟨c.rest.length + 1 - k, by omega⟩
  refine ⟨c', ?_, hc'⟩
  rw [skipValue, hn]
  exact hrun (n + 1)

end ExprLexer.Json
