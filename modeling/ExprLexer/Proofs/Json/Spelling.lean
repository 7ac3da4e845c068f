import ExprLexer.Json.TextReader
import ExprLexer.Json.Value
import ExprLexer.Proofs.Text.Code

/-!
The JSON texts of a value.

A value can be spelled in many ways: white space may stand around brackets, commas and colons, and a
character of a text may be escaped. But a text spells one value only, and where it begins a longer
text its end is known; so what is written can be read back. The compact form is one of the
spellings.
-/

namespace ExprLexer.Json

open TextStep

/-! ### The grammar -/

/-- White space between the parts of a document. -/
def IsSpacing (w : Text) : Prop := ∀ c ∈ w, Cursor.isSpace c = true

/-- Four hexadecimal digits, and their value. -/
inductive IsCodeUnit : Text → Nat → Prop
  | mk {a b c d : Char} {i j k l : Nat} (ha : Text.hexDigit? a = some i)
      (hb : Text.hexDigit? b = some j) (hc : Text.hexDigit? c = some k)
      (hd : Text.hexDigit? d = some l) :
      IsCodeUnit [a, b, c, d] (16 * (16 * (16 * (16 * 0 + i) + j) + k) + l)

/-- The ways to write a character inside a text. -/
inductive SpellsChar : Char → Text → Prop
  | plain {c : Char} (hquote : c ≠ '"') (hslash : c ≠ '\\') (hcontrol : 0x20 ≤ c.toNat) :
      SpellsChar c [c]
  | short {l c : Char} (h : (l, c) ∈ shortEscapes) : SpellsChar c ['\\', l]
  | unit {c : Char} {t : Text} (h : IsCodeUnit t c.toNat) : SpellsChar c ('\\' :: 'u' :: t)
  | pair {c : Char} {s t : Text} {high low : Nat} (hs : IsCodeUnit s high)
      (ht : IsCodeUnit t low) (hhigh : isHighSurrogate high = true)
      (hlow : isLowSurrogate low = true) (hc : c.toNat = TextStep.pair high low) :
      SpellsChar c ('\\' :: 'u' :: s ++ '\\' :: 'u' :: t)

/-- A text behind its opening quote, with the closing one. -/
inductive SpellsBody : Text → Text → Prop
  | nil : SpellsBody [] ['"']
  | cons {c : Char} {x s t : Text} (hc : SpellsChar c s) (hx : SpellsBody x t) :
      SpellsBody (c :: x) (s ++ t)

/-- What stands in front of an item: a comma, unless it is the first. -/
inductive IsGap : Bool → Text → Prop
  | first {w : Text} (hw : IsSpacing w) : IsGap true w
  | next {v w : Text} (hv : IsSpacing v) (hw : IsSpacing w) : IsGap false (v ++ ',' :: w)

/-- Items up to the closing bracket. -/
inductive SpellsItems {α : Type} (SpellsItem : α → Text → Prop) (close : Char) :
    Bool → List α → Text → Prop
  | nil {isFirst : Bool} {w : Text} (hw : IsSpacing w) :
      SpellsItems SpellsItem close isFirst [] (w ++ [close])
  | cons {isFirst : Bool} {g s t : Text} {x : α} {xs : List α} (hg : IsGap isFirst g)
      (hx : SpellsItem x s) (hxs : SpellsItems SpellsItem close false xs t) :
      SpellsItems SpellsItem close isFirst (x :: xs) (g ++ s ++ t)

mutual

/-- The texts that spell a value. -/
inductive Spells : Json → Text → Prop
  | null : Spells .null "null".toList
  | true : Spells (.bool true) "true".toList
  | false : Spells (.bool false) "false".toList
  | text {x t : Text} (h : SpellsBody x t) : Spells (.text x) ('"' :: t)
  | list {xs : List Json} {t : Text} (h : SpellsItems Spells ']' Bool.true xs t) :
      Spells (.list xs) ('[' :: t)
  | object {ms : List (Text × Json)} {t : Text}
      (h : SpellsItems SpellsMember '\x7d' Bool.true ms t) : Spells (.object ms) ('\x7b' :: t)

/-- The texts that spell a member of an object. -/
inductive SpellsMember : Text × Json → Text → Prop
  | mk {k s v w t : Text} {x : Json} (hk : SpellsBody k s) (hv : IsSpacing v)
      (hw : IsSpacing w) (hx : Spells x t) : SpellsMember (k, x) ('"' :: s ++ v ++ ':' :: w ++ t)

end

/-- A document: a value, and white space around it. -/
def IsDocument (x : Json) (t : Text) : Prop :=
  ∃ v s w, IsSpacing v ∧ Spells x s ∧ IsSpacing w ∧ t = v ++ (s ++ w)

/-! ### One value for every text -/

/-- Properties of values, from those of their items and members. -/
@[induction_eliminator]
lemma induction {P : Json → Prop} (null : P .null) (bool : ∀ b, P (.bool b))
    (text : ∀ t, P (.text t)) (list : ∀ xs, (∀ x ∈ xs, P x) → P (.list xs))
    (object : ∀ ms, (∀ m ∈ ms, P m.2) → P (.object ms)) : ∀ x, P x
  | .null => null
  | .bool b => bool b
  | .text t => text t
  | .list xs => list xs fun x _ => induction null bool text list object x
  | .object ms => object ms fun m _ => induction null bool text list object m.2
termination_by x => sizeOf x
decreasing_by
  · have := List.sizeOf_lt_of_mem ‹_›
    simp
    omega
  · have := List.sizeOf_lt_of_mem ‹_›
    cases m
    simp at *
    omega

lemma IsCodeUnit.unique {s t u v : Text} {m n : Nat} (h : IsCodeUnit s m) (h' : IsCodeUnit t n)
    (heq : s ++ u = t ++ v) : m = n ∧ s = t ∧ u = v := by
  obtain ⟨ha, hb, hc, hd⟩ := h
  obtain ⟨ha', hb', hc', hd'⟩ := h'
  simp only [List.cons_append, List.nil_append, List.cons.injEq] at heq
  obtain ⟨rfl, rfl, rfl, rfl, rfl⟩ := heq
  simp_all

/-- No character is a surrogate. -/
lemma not_isSurrogate (c : Char) :
    isHighSurrogate c.toNat = false ∧ isLowSurrogate c.toNat = false := by
  have hvalid : c.toNat < 0xD800 ∨ 0xDFFF < c.toNat ∧ c.toNat < 0x110000 := c.valid
  simp only [isHighSurrogate, isLowSurrogate, Bool.and_eq_false_iff, decide_eq_false_iff_not]
  omega

lemma lookup_shortEscapes {l c : Char} (h : (l, c) ∈ shortEscapes) :
    shortEscapes.lookup l = some c := by
  have hall : ∀ p ∈ shortEscapes, shortEscapes.lookup p.1 = some p.2 := by decide
  exact hall (l, c) h

lemma ne_u_of_mem_shortEscapes {l c : Char} (h : (l, c) ∈ shortEscapes) : l ≠ 'u' := by
  have hall : ∀ p ∈ shortEscapes, p.1 ≠ 'u' := by decide
  exact hall (l, c) h

lemma selfDelimiting_char (c : Char) : SelfDelimiting SpellsChar c := by
  intro d s t u v hs ht h
  cases hs <;> cases ht <;>
    simp only [List.cons_append, List.nil_append, List.append_assoc, List.cons.injEq, true_and]
      at h
  -- the same form twice
  case plain.plain => exact h
  case short.short hc _ hd =>
    obtain ⟨rfl, rfl⟩ := h
    exact ⟨Option.some.inj ((lookup_shortEscapes hc).symm.trans (lookup_shortEscapes hd)), rfl⟩
  case unit.unit hc _ hd =>
    obtain ⟨hn, -, rfl⟩ := hc.unique hd h
    exact ⟨Char.toNat_inj.mp hn, rfl⟩
  case pair.pair hhc hlc _ _ hc _ _ _ _ hhd hld _ _ hd =>
    obtain ⟨rfl, -, h⟩ := hhc.unique hhd h
    simp only [List.cons.injEq, true_and] at h
    obtain ⟨rfl, -, rfl⟩ := hlc.unique hld h
    exact ⟨Char.toNat_inj.mp (hc.trans hd.symm), rfl⟩
  -- two forms: what stands behind the backslash is an `u` in one of them only
  case plain.short hslash _ _ _ | plain.unit hslash _ _ _ => exact absurd h.1 hslash
  case plain.pair hslash _ _ _ _ _ _ _ _ _ _ => exact absurd h.1 hslash
  case short.plain hslash _ | unit.plain hslash _ => exact absurd h.1.symm hslash
  case pair.plain hslash _ => exact absurd h.1.symm hslash
  case short.unit hc _ _ => exact absurd h.1 (ne_u_of_mem_shortEscapes hc)
  case short.pair hc _ _ _ _ _ _ _ _ _ => exact absurd h.1 (ne_u_of_mem_shortEscapes hc)
  case unit.short hd => exact absurd h.1.symm (ne_u_of_mem_shortEscapes hd)
  case pair.short hd => exact absurd h.1.symm (ne_u_of_mem_shortEscapes hd)
  -- or a surrogate
  case unit.pair hc _ _ _ _ hhd _ hhigh _ _ =>
    obtain ⟨rfl, -, -⟩ := hc.unique hhd h
    rw [(not_isSurrogate c).1] at hhigh
    cases hhigh
  case pair.unit hhc _ hhigh _ _ _ hd =>
    obtain ⟨rfl, -, -⟩ := hhc.unique hd h
    rw [(not_isSurrogate d).1] at hhigh
    cases hhigh

lemma SpellsChar.exists_cons {c : Char} {t : Text} (h : SpellsChar c t) :
    ∃ d t', t = d :: t' ∧ d ≠ '"' := by
  cases h with
  | plain hquote => exact ⟨_, _, rfl, hquote⟩
  | short | unit | pair => exact ⟨_, _, rfl, by decide⟩

lemma SpellsBody.encloses {x t : Text} (h : SpellsBody x t) :
    Text.Encloses SpellsChar '"' x t := by
  induction h with
  | nil => exact .nil
  | cons hc _ ih => exact .cons hc ih

/-- A text ends at its closing quote. -/
lemma selfDelimiting_body (x : Text) : SelfDelimiting SpellsBody x := fun _ _ _ _ _ hs ht h =>
  Text.selfDelimiting_encloses selfDelimiting_char (fun _ _ => SpellsChar.exists_cons) x
    hs.encloses ht.encloses h

lemma isSpacing_nil : IsSpacing [] := by simp [IsSpacing]

/-- White space ends at the first character that is none. -/
lemma IsSpacing.eq_of_append {v w s t : Text} {c d : Char} (hv : IsSpacing v) (hw : IsSpacing w)
    (hc : Cursor.isSpace c = false) (hd : Cursor.isSpace d = false)
    (h : v ++ c :: s = w ++ d :: t) : v = w ∧ c = d ∧ s = t := by
  have htake {w t : Text} {d : Char} (hw : IsSpacing w) (hd : Cursor.isSpace d = false) :
      (w ++ d :: t).takeWhile Cursor.isSpace = w := by
    rw [List.takeWhile_append_of_pos hw, List.takeWhile_cons_of_neg (by simp [hd]),
      List.append_nil]
  obtain rfl : v = w := by
    rw [← htake (t := s) hv hc, h, htake hw hd]
  simpa using h

/-- A text that begins with neither white space nor punctuation that closes or goes on. -/
def IsVisible (t : Text) : Prop :=
  ∃ c t', t = c :: t' ∧ Cursor.isSpace c = false ∧ c ∉ [']', '\x7d', ',', ':']

lemma Spells.isVisible {x : Json} {t : Text} (h : Spells x t) : IsVisible t := by
  cases h <;> exact ⟨_, _, rfl, by decide, by decide⟩

lemma SpellsMember.isVisible {m : Text × Json} {t : Text} (h : SpellsMember m t) :
    IsVisible t := by
  cases h
  exact ⟨_, _, rfl, by decide, by decide⟩

lemma IsGap.eq_of_append {isFirst : Bool} {g g' s t u v : Text} (hg : IsGap isFirst g)
    (hg' : IsGap isFirst g') (hs : IsVisible s) (ht : IsVisible t)
    (h : g ++ (s ++ u) = g' ++ (t ++ v)) : s ++ u = t ++ v := by
  obtain ⟨c, s, rfl, hc, -⟩ := hs
  obtain ⟨d, t, rfl, hd, -⟩ := ht
  have hcomma : Cursor.isSpace ',' = false := by decide
  cases hg with
  | first hw =>
    cases hg' with
    | first hw' =>
      obtain ⟨-, rfl, hst⟩ := hw.eq_of_append hw' hc hd h
      exact congrArg _ hst
  | next hv hw =>
    cases hg' with
    | next hv' hw' =>
      simp only [List.append_assoc, List.cons_append] at h
      obtain ⟨-, -, h⟩ := hv.eq_of_append hv' hcomma hcomma h
      obtain ⟨-, rfl, hst⟩ := hw.eq_of_append hw' hc hd h
      exact congrArg _ hst

section Items

variable {α : Type} {SpellsItem : α → Text → Prop} {close : Char} {isFirst : Bool}

/-- No item begins where the bracket is closed. -/
lemma IsGap.not_close {g s t u w : Text} (hclose : close ∈ [']', '\x7d']) (hg : IsGap isFirst g)
    (hs : IsVisible s) (hw : IsSpacing w) : g ++ (s ++ t) ≠ w ++ close :: u := by
  obtain ⟨c, s, rfl, hc, hmem⟩ := hs
  have hspace : Cursor.isSpace close = false ∧ close ≠ ',' ∧ close ≠ c := by
    rcases List.mem_pair.mp hclose with rfl | rfl
    · exact ⟨by decide, by decide, by rintro rfl; simp at hmem⟩
    · exact ⟨by decide, by decide, by rintro rfl; simp at hmem⟩
  intro h
  cases hg with
  | first hw' =>
    obtain ⟨-, hcc, -⟩ := hw'.eq_of_append hw hc hspace.1 h
    exact hspace.2.2 hcc.symm
  | next hv hw' =>
    simp only [List.append_assoc, List.cons_append] at h
    obtain ⟨-, hcc, -⟩ := hv.eq_of_append hw (by decide) hspace.1 h
    exact hspace.2.1 hcc.symm

/-- There are no more items than characters. -/
lemma SpellsItems.length_lt (hvisible : ∀ ⦃x t⦄, SpellsItem x t → IsVisible t) {xs : List α}
    {t : Text} (h : SpellsItems SpellsItem close isFirst xs t) : xs.length < t.length := by
  induction h with
  | nil => simp
  | cons _ hx _ ih =>
    obtain ⟨c, s, rfl, -⟩ := hvisible hx
    simp only [List.length_append, List.length_cons]
    omega

lemma selfDelimiting_items (hclose : close ∈ [']', '\x7d'])
    (hvisible : ∀ ⦃x t⦄, SpellsItem x t → IsVisible t) {xs : List α}
    (hxs : ∀ x ∈ xs, SelfDelimiting SpellsItem x) (isFirst : Bool) :
    SelfDelimiting (SpellsItems SpellsItem close isFirst) xs := by
  have hspace : Cursor.isSpace close = false := by
    rcases List.mem_pair.mp hclose with rfl | rfl <;> decide
  intro ys s t u v hs ht h
  induction hs generalizing ys t with
  | nil hw =>
    cases ht with
    | nil hw' =>
      simp only [List.append_assoc, List.cons_append, List.nil_append] at h
      obtain ⟨-, -, rfl⟩ := hw.eq_of_append hw' hspace hspace h
      exact ⟨rfl, rfl⟩
    | cons hg hy _ =>
      simp only [List.append_assoc, List.cons_append, List.nil_append] at h
      exact absurd h.symm (hg.not_close hclose (hvisible hy) hw)
  | cons hg hx _ ih =>
    cases ht with
    | nil hw =>
      simp only [List.append_assoc, List.cons_append, List.nil_append] at h
      exact absurd h (hg.not_close hclose (hvisible hx) hw)
    | cons hg' hy hys =>
      simp only [List.append_assoc] at h
      have hitem := hg.eq_of_append hg' (hvisible hx) (hvisible hy) h
      obtain ⟨hself, hxs⟩ := List.forall_mem_cons.mp hxs
      obtain ⟨rfl, hrest⟩ := hself hx hy hitem
      obtain ⟨rfl, hu⟩ := ih hxs hys hrest
      exact ⟨rfl, hu⟩

end Items

lemma selfDelimiting_member {m : Text × Json} (hm : SelfDelimiting Spells m.2) :
    SelfDelimiting SpellsMember m := by
  intro n s t u v hs ht h
  obtain ⟨hk, hv, hw, hx⟩ := hs
  obtain ⟨hk', hv', hw', hy⟩ := ht
  simp only [List.cons_append, List.append_assoc, List.cons.injEq, true_and] at h
  obtain ⟨rfl, h⟩ := selfDelimiting_body _ hk hk' h
  have hcolon : Cursor.isSpace ':' = false := by decide
  obtain ⟨-, -, h⟩ := hv.eq_of_append hv' hcolon hcolon h
  obtain ⟨c, a, rfl, hc, -⟩ := hx.isVisible
  obtain ⟨d, b, rfl, hd, -⟩ := hy.isVisible
  obtain ⟨-, rfl, htail⟩ := hw.eq_of_append hw' hc hd h
  obtain ⟨hxy, hu⟩ := hm hx hy (congrArg (c :: ·) htail)
  exact ⟨Prod.ext rfl hxy, hu⟩

/-- **A text spells one value**, and its end is known. -/
lemma selfDelimiting_spells (x : Json) : SelfDelimiting Spells x := by
  induction x with
  | null =>
    intro y s t u v hs ht h
    cases hs
    cases ht with
    | null => exact ⟨rfl, List.append_cancel_left h⟩
    | true | false | text | list | object => simp at h
  | bool b =>
    intro y s t u v hs ht h
    cases hs with
    | true =>
      cases ht with
      | true => exact ⟨rfl, List.append_cancel_left h⟩
      | null | false | text | list | object => simp at h
    | false =>
      cases ht with
      | false => exact ⟨rfl, List.append_cancel_left h⟩
      | null | true | text | list | object => simp at h
  | text x =>
    intro y s t u v hs ht h
    cases hs with
    | text hx =>
      cases ht with
      | text hy =>
        obtain ⟨rfl, hu⟩ := selfDelimiting_body x hx hy (List.tail_eq_of_cons_eq h)
        exact ⟨rfl, hu⟩
      | null | true | false | list | object => simp at h
  | list xs ih =>
    intro y s t u v hs ht h
    cases hs with
    | list hxs =>
      cases ht with
      | list hys =>
        obtain ⟨rfl, hu⟩ := selfDelimiting_items (by decide) (fun _ _ => Spells.isVisible) ih
          true hxs hys (List.tail_eq_of_cons_eq h)
        exact ⟨rfl, hu⟩
      | null | true | false | text | object => simp at h
  | object ms ih =>
    intro y s t u v hs ht h
    cases hs with
    | object hms =>
      cases ht with
      | object hns =>
        obtain ⟨rfl, hu⟩ := selfDelimiting_items (by decide)
          (fun _ _ => SpellsMember.isVisible) (fun m hm => selfDelimiting_member (ih m hm))
          true hms hns (List.tail_eq_of_cons_eq h)
        exact ⟨rfl, hu⟩
      | null | true | false | text | list => simp at h

/-- **A document has one value.** -/
lemma IsDocument.unique {x y : Json} {t : Text} (hx : IsDocument x t) (hy : IsDocument y t) :
    x = y := by
  obtain ⟨v, s, w, hv, hx, -, rfl⟩ := hx
  obtain ⟨v', s', w', hv', hy, -, h⟩ := hy
  obtain ⟨c, s, rfl, hc, -⟩ := hx.isVisible
  obtain ⟨d, s', rfl, hd, -⟩ := hy.isVisible
  obtain ⟨-, rfl, htail⟩ := hv.eq_of_append hv' hc hd h
  exact (selfDelimiting_spells x hx hy (congrArg (c :: ·) htail)).1

end ExprLexer.Json
