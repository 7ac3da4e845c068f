import ExprLexer.Text
import Mathlib.Data.List.Basic
import Mathlib.Tactic.Lemma

/-!
Texts that tell where they end.

Things are written one after the other. Where every written thing tells its own end, the things can
be told apart again: the first of them is known, then what follows it. Characters up to a closing
one are read back in this way if none of them is written as something that begins with it. So are
things that are joined by a separator, as soon as each of them tells its end together with the
separator, although the last one stands without.
-/

namespace ExprLexer

/-- What `x` is written as begins no text that also begins with what another thing is written as,
and ends at one place only. -/
def SelfDelimiting {α : Type} (Writes : α → Text → Prop) (x : α) : Prop :=
  ∀ ⦃y : α⦄ ⦃s t u v : Text⦄, Writes x s → Writes y t → s ++ u = t ++ v → x = y ∧ u = v

namespace Text

/-- A text ends where a character first occurs that it does not have. -/
lemma eq_of_append_cons_eq {c : Char} {s t u v : Text} (hs : c ∉ s) (ht : c ∉ t)
    (h : s ++ c :: u = t ++ c :: v) : s = t ∧ u = v := by
  induction s generalizing t with
  | nil =>
    rcases t with _ | ⟨d, t⟩
    · exact ⟨rfl, List.tail_eq_of_cons_eq h⟩
    · obtain rfl : c = d := List.head_eq_of_cons_eq h
      exact absurd List.mem_cons_self ht
  | cons d s ih =>
    rcases t with _ | ⟨d', t⟩
    · obtain rfl : d = c := List.head_eq_of_cons_eq h
      exact absurd List.mem_cons_self hs
    · obtain ⟨rfl, htail⟩ := List.cons.inj h
      obtain ⟨rfl, hu⟩ :=
        ih (List.not_mem_of_not_mem_cons hs) (List.not_mem_of_not_mem_cons ht) htail
      exact ⟨rfl, hu⟩

/-! ### Enclosed texts -/

/-- The characters of a text, each as it is written, and the closing character. -/
inductive Encloses (Writes : Char → Text → Prop) (close : Char) : Text → Text → Prop
  | nil : Encloses Writes close [] [close]
  | cons {c : Char} {x s t : Text} (hc : Writes c s) (hx : Encloses Writes close x t) :
      Encloses Writes close (c :: x) (s ++ t)

/-- **A text ends at the closing character** if no character is written as something that begins
with it. -/
lemma selfDelimiting_encloses {Writes : Char → Text → Prop} {close : Char}
    (hcode : ∀ c, SelfDelimiting Writes c)
    (hopen : ∀ ⦃c s⦄, Writes c s → ∃ d s', s = d :: s' ∧ d ≠ close) (x : Text) :
    SelfDelimiting (Encloses Writes close) x := by
  intro y s t u v hs ht h
  induction hs generalizing y t with
  | nil =>
    cases ht with
    | nil => simpa using h
    | cons hd hy =>
      obtain ⟨d, t', rfl, hne⟩ := hopen hd
      exact absurd (List.head_eq_of_cons_eq h).symm hne
  | cons hc _ ih =>
    cases ht with
    | nil =>
      obtain ⟨c, t', rfl, hne⟩ := hopen hc
      exact absurd (List.head_eq_of_cons_eq h) hne
    | cons hd hy =>
      rw [List.append_assoc, List.append_assoc] at h
      obtain ⟨rfl, hrest⟩ := hcode _ hc hd h
      obtain ⟨rfl, hu⟩ := ih hy hrest
      exact ⟨rfl, hu⟩

/-! ### Joined texts -/

variable {α : Type} {f : α → Text} {P : α → Prop} {sep : Text} {xs ys : List α}

lemma join_nil (sep : Text) : join sep [] = [] := List.intercalate_nil

/-- With a separator behind the last text as well, every text has one. -/
lemma join_append {ts : List Text} (hts : ts ≠ []) :
    join sep ts ++ sep = ts.flatMap (· ++ sep) := by
  unfold join
  induction ts with
  | nil => exact absurd rfl hts
  | cons t ts ih =>
    cases ts with
    | nil => simp
    | cons t' ts =>
      rw [List.intercalate_cons_cons, List.append_assoc, ih (List.cons_ne_nil t' ts)]
      rfl

lemma join_ne_nil (hne : ∀ x, P x → f x ≠ []) (hP : ∀ x ∈ xs, P x) (hxs : xs ≠ []) :
    join sep (xs.map f) ≠ [] := by
  obtain ⟨x, xs, rfl⟩ := List.exists_cons_of_ne_nil hxs
  have hx := hne x (hP x List.mem_cons_self)
  rcases xs with _ | ⟨y, ys⟩
  · simpa [join] using hx
  · simp [join, List.intercalate_cons_cons, hx]

lemma eq_of_flatMap_eq (hcode : ∀ x, SelfDelimiting (fun x s => P x ∧ s = f x ++ sep) x)
    (hne : ∀ x, P x → f x ≠ []) (hxs : ∀ x ∈ xs, P x) (hys : ∀ y ∈ ys, P y)
    (h : (xs.flatMap fun x => f x ++ sep) = ys.flatMap fun x => f x ++ sep) : xs = ys := by
  induction xs generalizing ys with
  | nil =>
    rcases ys with _ | ⟨y, ys⟩
    · rfl
    · simp [hne y (hys y List.mem_cons_self)] at h
  | cons x xs ih =>
    obtain ⟨hx, hxs'⟩ := List.forall_mem_cons.mp hxs
    rcases ys with _ | ⟨y, ys⟩
    · simp [hne x hx] at h
    · obtain ⟨hy, hys'⟩ := List.forall_mem_cons.mp hys
      rw [List.flatMap_cons, List.flatMap_cons] at h
      obtain ⟨rfl, hrest⟩ := hcode x ⟨hx, rfl⟩ ⟨hy, rfl⟩ h
      rw [ih hxs' hys' hrest]

/-- **Joined texts can be told apart** if none of them is empty and each tells its end by the
separator. -/
lemma eq_of_join_eq (hcode : ∀ x, SelfDelimiting (fun x s => P x ∧ s = f x ++ sep) x)
    (hne : ∀ x, P x → f x ≠ []) (hxs : ∀ x ∈ xs, P x) (hys : ∀ y ∈ ys, P y)
    (h : join sep (xs.map f) = join sep (ys.map f)) : xs = ys := by
  by_cases hxe : xs = []
  · subst hxe
    by_contra hye
    exact join_ne_nil hne hys (Ne.symm hye) (h.symm.trans (join_nil sep))
  · have hye : ys ≠ [] := by
      rintro rfl
      exact join_ne_nil hne hxs hxe (h.trans (join_nil sep))
    have hflat := congrArg (· ++ sep) h
    rw [join_append (by simpa), join_append (by simpa), List.flatMap_map, List.flatMap_map]
      at hflat
    exact eq_of_flatMap_eq hcode hne hxs hys hflat

end Text

end ExprLexer
