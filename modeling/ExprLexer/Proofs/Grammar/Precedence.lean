import ExprLexer.Proofs.Grammar.Sentence
import Mathlib

/-!
Rule lists that read alike.

Rules are only tried on texts that are not empty and hold no filler, and a run asks no more of them
than the first match. So two lists that have the same first matches on these texts have the same
runs. Neighbours that never both apply to such a text may change places. A rule may be left out if
wherever it applies one of the rules in front of it does, for that one is asked first, no matter
which of the two would read more; so may a rule whose answers never take significant text off the
front of anything.
-/

namespace ExprLexer

/-- A text that rules are tried on: what is left to read of an expression. -/
structure IsUnread (s : Text) : Prop where
  ne_nil : s ≠ []
  not_filler : ∀ c ∈ s, isFiller c = false

namespace Rule

/-- The rule reads something off the front of the text. -/
def Applies (r : Rule) (s : Text) : Prop := (r.read? s).isSome

/-- No text that rules are tried on makes both rules apply. -/
def Apart (r r' : Rule) : Prop := ∀ s, IsUnread s → ¬(r.Applies s ∧ r'.Applies s)

/-- Wherever the rule applies, one of the others does. -/
def Shadowed (r : Rule) (rs : List Rule) : Prop :=
  ∀ s, IsUnread s → r.Applies s → ∃ q ∈ rs, q.Applies s

/-- Numbers of bytes that take no significant text off the front: none at all, more than there are,
up to the inside of a character, or with filler among what they take. -/
inductive Futile (s : Text) : Nat → Prop
  | zero : Futile s 0
  | past {n : Nat} (past : Text.byteLength s < n) : Futile s n
  | inside {a b : Text} {c : Char} {n : Nat} (split : a ++ c :: b = s)
      (above : Text.byteLength a < n) (below : n < Text.byteLength a + c.utf8Size) : Futile s n
  | filler {m rest : Text} {c : Char} (split : m ++ rest = s) (mem : c ∈ m)
      (filler : isFiller c = true) : Futile s (Text.byteLength m)

lemma Apart.symm {r r' : Rule} (h : r.Apart r') : r'.Apart r :=
  fun s hs happ => h s hs happ.symm

lemma applies_iff {r : Rule} {s : Text} :
    r.Applies s ↔
      ∃ m rest, m ≠ [] ∧ m ++ rest = s ∧ r.matcher.length? s = some (Text.byteLength m) := by
  simp only [Applies, Option.isSome_iff_exists, Prod.exists, read?_eq_some_iff]

lemma applies_literal_iff {k : Kind} {p s : Text} :
    Applies ⟨k, .literal p⟩ s ↔ p ≠ [] ∧ p <+: s := by
  rw [applies_iff]
  constructor
  · rintro ⟨m, rest, hm, rfl, hlen⟩
    obtain ⟨rest', hrest', hbytes⟩ := Option.map_eq_some_iff.mp hlen
    have hp := Text.dropLiteral?_eq_some_iff.mp hrest'
    have hpos : 0 < Text.byteLength p := hbytes ▸ Text.byteLength_pos hm
    refine ⟨?_, rest', hp⟩
    rintro rfl
    simp at hpos
  · rintro ⟨hp, rest, rfl⟩
    refine ⟨p, rest, hp, rfl, ?_⟩
    exact Option.map_eq_some_iff.mpr ⟨rest, Text.dropLiteral?_eq_some_iff.mpr rfl, rfl⟩

/-- The length of a non-empty prefix of a text without filler is not futile. -/
lemma not_futile_byteLength {m rest s : Text} (hs : IsUnread s) (hm : m ≠ [])
    (happ : m ++ rest = s) : ¬Futile s (Text.byteLength m) := by
  have hpos := Text.byteLength_pos hm
  have hcut : Text.splitAtByte? (Text.byteLength m) s = some (m, rest) :=
    Text.splitAtByte?_eq_some_iff.mpr ⟨happ, rfl⟩
  generalize hn : Text.byteLength m = n at hpos hcut
  intro h
  cases h with
  | zero => omega
  | past past =>
    rw [Text.splitAtByte?_eq_none_iff.mpr (.inl past)] at hcut
    cases hcut
  | inside split above below =>
    have hinside : s.EndsInside n := Text.endsInside_iff.mpr ⟨_, _, _, split, above, below⟩
    rw [Text.splitAtByte?_eq_none_iff.mpr (.inr hinside)] at hcut
    cases hcut
  | @filler m' rest' c split mem filler =>
    have hfill := hs.not_filler c (split ▸ List.mem_append_left _ mem)
    rw [filler] at hfill
    cases hfill

/-- A rule all of whose answers are futile is shadowed, even by no rules. -/
lemma shadowed_of_futile {r : Rule}
    (h : ∀ s n, r.matcher.length? s = some n → Futile s n) (rs : List Rule) : r.Shadowed rs := by
  intro s hs happ
  obtain ⟨m, rest, hm, hsplit, hlen⟩ := applies_iff.mp happ
  exact absurd (h s _ hlen) (not_futile_byteLength hs hm hsplit)

end Rule

namespace Grammar

variable {rs rs' qs qs' : List Rule} {r r' : Rule} {s u : Text} {ts : List Token}

/-! ### First matches -/

lemma first?_append (rs rs' : List Rule) (s : Text) :
    first? ⟨rs ++ rs'⟩ s = (first? ⟨rs⟩ s).or (first? ⟨rs'⟩ s) := by
  simp only [first?_eq_findSome?, List.findSome?_append]

lemma first?_eq_none_iff : first? ⟨rs⟩ s = none ↔ ∀ r ∈ rs, ¬r.Applies s := by
  simp [first?_eq_findSome?, Rule.Applies]

lemma first?_singleton_eq_none (h : ¬r.Applies s) : first? ⟨[r]⟩ s = none :=
  first?_eq_none_iff.mpr (by simpa using h)

/-- The rules have the same first match, wherever they are tried. -/
def Alike (rs rs' : List Rule) : Prop := ∀ s, IsUnread s → first? ⟨rs⟩ s = first? ⟨rs'⟩ s

namespace Alike

lemma refl (rs : List Rule) : Alike rs rs := fun _ _ => rfl

lemma trans (h : Alike rs rs') (h' : Alike rs' qs) : Alike rs qs :=
  fun s hs => (h s hs).trans (h' s hs)

lemma append (h : Alike rs rs') (h' : Alike qs qs') : Alike (rs ++ qs) (rs' ++ qs') := by
  intro s hs
  rw [first?_append, first?_append, h s hs, h' s hs]

/-- **One step** of a change of order: of two rules that are apart, one at most answers. -/
lemma swap (h : r.Apart r') : Alike [r, r'] [r', r] := by
  intro s hs
  have hpair (r r' : Rule) : first? ⟨[r, r']⟩ s = (first? ⟨[r]⟩ s).or (first? ⟨[r']⟩ s) :=
    first?_append [r] [r'] s
  rw [hpair, hpair]
  by_cases hr : r.Applies s
  · have hr' : ¬r'.Applies s := fun hr' => h s hs ⟨hr, hr'⟩
    rw [first?_singleton_eq_none hr', Option.or_none, Option.none_or]
  · rw [first?_singleton_eq_none hr, Option.or_none, Option.none_or]

/-- **Any change of order** among rules that are apart from each other. -/
lemma of_perm (h : rs.Perm rs') (hapart : rs.Pairwise Rule.Apart) : Alike rs rs' := by
  induction h with
  | nil => exact refl []
  | cons r _ ih => exact (refl [r]).append (ih hapart.of_cons)
  | swap r r' rs =>
    have hhead : r'.Apart r := (List.pairwise_cons.mp hapart).1 r List.mem_cons_self
    exact (swap hhead).append (refl rs)
  | trans h₁ _ ih₁ ih₂ =>
    exact (ih₁ hapart).trans (ih₂ ((h₁.pairwise_iff Rule.Apart.symm).mp hapart))

/-- A rule that is shadowed by those in front of it never answers. -/
lemma of_shadowed (h : r.Shadowed rs) : Alike (rs ++ [r]) rs := by
  intro s hs
  rw [first?_append]
  rcases hrs : first? ⟨rs⟩ s with _ | x
  · have hr : ¬r.Applies s := fun hr => by
      obtain ⟨q, hq, happ⟩ := h s hs hr
      exact first?_eq_none_iff.mp hrs q hq happ
    rw [first?_singleton_eq_none hr, Option.or_none]
  · rw [Option.some_or]

end Alike

/-! ### Runs -/

/-- **The whole run**: the rules are only tried on what is left of the significant text. -/
lemma Reads.of_alike (h : Alike rs rs') (hs : ∀ c ∈ s, isFiller c = false)
    (hr : Reads ⟨rs⟩ s ts u) : Reads ⟨rs'⟩ s ts u := by
  induction hr with
  | stop s => exact .stop s
  | @next s rest u tok ts first _ ih =>
    obtain ⟨hne, happ⟩ := first?_spec first
    have hunread : IsUnread s := ⟨by simp [← happ, hne], hs⟩
    have hrest (c : Char) (hc : c ∈ rest) : isFiller c = false :=
      hs c (first?_subset first hc)
    exact .next (h s hunread ▸ first) (ih hrest)

/-- Rules that have the same first matches have the same runs. -/
lemma tokens_eq_of_alike (h : Alike rs rs') (e : Text) : tokens ⟨rs⟩ e = tokens ⟨rs'⟩ e := by
  have hfill (c : Char) (hc : c ∈ significant e) : isFiller c = false :=
    not_isFiller_of_mem_significant hc
  obtain ⟨ts, u, hr, hu⟩ := exists_reads ⟨rs⟩ (significant e)
  have hu' : first? ⟨rs'⟩ u = none := by
    rcases u with _ | ⟨c, t⟩
    · exact first?_nil _
    · have hunread : IsUnread (c :: t) :=
        ⟨by simp, fun d hd => hfill d (hr.subset hd)⟩
      rw [← h _ hunread, hu]
  rw [tokens_of_reads hr hu, tokens_of_reads (hr.of_alike h hfill) hu']

/-! ### Rules that do not compete -/

/-- The first character decides between the built-in rules. -/
lemma apart_ofKind {k k' : Kind} (h : k ≠ k') : (Rule.ofKind k).Apart (Rule.ofKind k') := by
  rintro s - ⟨hk, hk'⟩
  rw [Rule.Applies, read?_ofKind, Option.isSome_iff_exists] at hk hk'
  obtain ⟨⟨v, rest⟩, hv⟩ := hk
  obtain ⟨⟨v', rest'⟩, hv'⟩ := hk'
  exact h (Kind.eq_of_lexeme? hv hv')

lemma alike_of_perm_kinds {ks : List Kind} (h : ks.Perm Kind.all) :
    Alike (ks.map Rule.ofKind) builtin.rules := by
  refine Alike.of_perm (h.map Rule.ofKind) ?_
  have hnodup : ks.Nodup := h.nodup_iff.mpr (by decide)
  exact List.pairwise_map.mpr (hnodup.imp apart_ofKind)

/-- **Order does not matter among rules that do not compete**: neighbours that never both apply to
a text without filler may change places, whatever rules stand around them, and the built-in rules
may stand in any order. -/
theorem tokens_of_reordered :
    (∀ (rs rs' : List Rule) (r r' : Rule), r.Apart r' → ∀ e : Text,
      tokens ⟨rs ++ [r, r'] ++ rs'⟩ e = tokens ⟨rs ++ [r', r] ++ rs'⟩ e) ∧
    ∀ ks : List Kind, ks.Perm Kind.all → ∀ e : Text,
      tokens ⟨ks.map Rule.ofKind⟩ e = builtin.tokens e := by
  constructor
  · intro rs rs' r r' hapart e
    have hswap : Alike (rs ++ [r, r']) (rs ++ [r', r]) := (Alike.refl rs).append (.swap hapart)
    exact tokens_eq_of_alike (hswap.append (.refl rs')) e
  · intro ks hks e
    exact tokens_eq_of_alike (alike_of_perm_kinds hks) e

/-- The number rule and the component rule change places between two others. -/
theorem tokens_of_reordered_ofKind :
    (Rule.ofKind .number).Apart (Rule.ofKind .component) ∧
    [Kind.component, Kind.operator, Kind.number].Perm Kind.all ∧
    tokens ⟨[⟨.operator, .literal "12a".toList⟩] ++ [Rule.ofKind .component, Rule.ofKind .number] ++
      [⟨.component, .fixed 2⟩]⟩ "1 2abcdef(é)".toList =
    .ok [⟨.operator, "12a".toList⟩, ⟨.component, "bcdef".toList⟩, ⟨.component, "é".toList⟩] ∧
    tokens ⟨[Kind.component, Kind.operator, Kind.number].map Rule.ofKind⟩ "(abcde->é) + @".toList =
      .error ⟨'@', 9⟩ := by
  have hapart : (Rule.ofKind .number).Apart (Rule.ofKind .component) := apart_ofKind (by decide)
  have hperm : [Kind.component, Kind.operator, Kind.number].Perm Kind.all := by decide
  have hswap := tokens_of_reordered.1 [⟨.operator, .literal "12a".toList⟩] [⟨.component, .fixed 2⟩]
    (Rule.ofKind .number) (Rule.ofKind .component) hapart "1 2abcdef(é)".toList
  have hall := tokens_of_reordered.2 _ hperm "(abcde->é) + @".toList
  refine ⟨hapart, hperm, ?_, ?_⟩
  · rw [← hswap]
    cbv
  · rw [hall]
    cbv

/-- **A rule that never gets to answer does not show**: if wherever the rule applies one of those in
front of it does, a run is the same without it, also where it fails. That holds of every rule whose
answers are futile, whatever rules stand in front of it. -/
theorem tokens_without_shadowed (rs rs' : List Rule) (r : Rule) :
    (r.Shadowed rs → ∀ e : Text, tokens ⟨rs ++ [r] ++ rs'⟩ e = tokens ⟨rs ++ rs'⟩ e) ∧
    ((∀ s n, r.matcher.length? s = some n → Rule.Futile s n) → r.Shadowed rs) := by
  constructor
  · intro h e
    exact tokens_eq_of_alike ((Alike.of_shadowed h).append (.refl rs')) e
  · intro h
    exact Rule.shadowed_of_futile h rs

/-- The shadowed rule would read more; the other one answers nothing or half a character. -/
theorem tokens_without_longer_literal :
    Rule.Shadowed ⟨.number, .literal "ab".toList⟩ [⟨.component, .literal "a".toList⟩] ∧
    tokens ⟨[⟨.component, .literal "a".toList⟩] ++ [⟨.number, .literal "ab".toList⟩] ++
      [Rule.ofKind .number]⟩ "a1 (ab)".toList = .error ⟨'b', 3⟩ ∧
    Rule.Shadowed ⟨.number, ⟨fun s => s.head?.map fun c => if c.utf8Size = 1 then 0 else 1, none⟩⟩
      [] := by
  have hshadowed :
      Rule.Shadowed ⟨.number, .literal "ab".toList⟩ [⟨.component, .literal "a".toList⟩] := by
    intro s _ happ
    obtain ⟨-, hprefix⟩ := Rule.applies_literal_iff.mp happ
    have ha : "a".toList <+: "ab".toList := by decide
    exact ⟨_, List.mem_singleton_self _,
      Rule.applies_literal_iff.mpr ⟨by simp, ha.trans hprefix⟩⟩
  refine ⟨hshadowed, ?_, ?_⟩
  · rw [(tokens_without_shadowed [⟨.component, .literal "a".toList⟩] [Rule.ofKind .number]
      ⟨.number, .literal "ab".toList⟩).1 hshadowed]
    cbv
  · refine (tokens_without_shadowed [] [] _).2 fun s n hn => ?_
    obtain ⟨c, hc, rfl⟩ := Option.map_eq_some_iff.mp hn
    obtain ⟨t, rfl⟩ := List.head?_eq_some_iff.mp hc
    have hpos := c.utf8Size_pos
    split_ifs with hsize
    · exact .zero
    · exact .inside (a := []) rfl (by simp) (by simp; omega)

end Grammar

end ExprLexer
